import Lookahead.Proofs.Follow.Exact

/-!
# Grammars contained in others

A grammar is contained in another one if that has the same start symbol and, for each of its rules,
one with the same head and the same symbols up to `epsilon`. What the one derives the other derives
too, again up to `epsilon` (`ContainedIn.derives`), and therefore nullability, FIRST and FOLLOW sets
can only grow on the way. Grammars that contain each other have equal sets, however their rules are
written down (`presentation_independence`).
-/

namespace Lookahead

open Grammar

variable {g g' : Grammar} {name t : String} {u v : List Symbol} {rule : Rule}

namespace Grammar

/-- The right-hand sides of a nonterminal, without every `epsilon`. -/
def bodies (g : Grammar) (head : String) : List (List Symbol) :=
  (g.productions head).map fun p => withoutEpsilon p.symbols

/-- The start symbol of `g`, if there is one, is that of `g'`, and `g'` has all rules of `g`, up to
`epsilon`. -/
structure ContainedIn (g g' : Grammar) : Prop where
  start : ∀ {name}, g.start = some name → g'.start = some name
  rules : ∀ rule ∈ g.rules, ∃ rule' ∈ g'.rules, rule'.head = rule.head ∧
    withoutEpsilon rule'.production.symbols = withoutEpsilon rule.production.symbols

theorem mem_bodies {head : String} {body : List Symbol} :
    body ∈ g.bodies head ↔
      ∃ rule ∈ g.rules, rule.head = head ∧ withoutEpsilon rule.production.symbols = body := by
  simp only [bodies, List.mem_map, mem_productions]
  constructor
  · rintro ⟨p, hp, rfl⟩
    exact ⟨_, hp, rfl, rfl⟩
  · rintro ⟨rule, hr, rfl, rfl⟩
    exact ⟨_, hr, rfl⟩

theorem ContainedIn.of_bodies (hstart : g.start = g'.start)
    (h : ∀ head, ∀ body ∈ g.bodies head, body ∈ g'.bodies head) : g.ContainedIn g' where
  start hname := hstart ▸ hname
  rules rule hr := mem_bodies.1 (h _ _ (mem_bodies.2 ⟨rule, hr, rfl, rfl⟩))

namespace ContainedIn

theorem derives_rule (h : g.ContainedIn g') (hr : rule ∈ g.rules) :
    g'.Derives [.nonterminal rule.head] (withoutEpsilon rule.production.symbols) := by
  obtain ⟨rule', hr', hhead, hsymbols⟩ := h.rules rule hr
  rw [← hhead, ← hsymbols]
  exact (Grammar.derives_rule hr').trans (derives_withoutEpsilon g' _)

theorem derives_of_produces (h : g.ContainedIn g') (hs : g.Produces u v) :
    g'.Derives (withoutEpsilon u) (withoutEpsilon v) := by
  cases hs with
  | expand before after hr =>
    simpa using (h.derives_rule hr).context (withoutEpsilon before) (withoutEpsilon after)
  | erase before after =>
    rw [withoutEpsilon_append, withoutEpsilon_append, withoutEpsilon_epsilon_cons]
    exact .refl _

/-- What the smaller grammar derives the larger one derives without `epsilon`. -/
theorem derives (h : g.ContainedIn g') (hd : g.Derives u v) : g'.Derives u (withoutEpsilon v) := by
  have hrun : g'.Derives (withoutEpsilon u) (withoutEpsilon v) := by
    induction hd with
    | refl => exact .refl _
    | step hs _ ih => exact (h.derives_of_produces hs).trans ih
  exact (derives_withoutEpsilon g' u).trans hrun

theorem starts (h : g.ContainedIn g') (hu : g.Starts u t) : g'.Starts u t := by
  obtain ⟨hne, rest, hd⟩ := hu
  exact ⟨hne, withoutEpsilon rest, withoutEpsilon_terminal_cons hne rest ▸ h.derives hd⟩

theorem isDefined (h : g.ContainedIn g') (hname : g.isDefined name = true) :
    g'.isDefined name = true := by
  obtain ⟨rule, hr, rfl⟩ := isDefined_iff.1 hname
  obtain ⟨rule', hr', hhead, -⟩ := h.rules rule hr
  exact isDefined_iff.2 ⟨rule', hr', hhead⟩

theorem follows (h : g.ContainedIn g') (ht : g.Follows name t) : g'.Follows name t := by
  obtain ⟨hne, ⟨head, hhead, before, after, hd⟩ | ⟨hend, start, hstart, before, hd⟩⟩ := ht
  · refine ⟨hne, .inl ⟨head, h.isDefined hhead, withoutEpsilon before, withoutEpsilon after, ?_⟩⟩
    simpa [withoutEpsilon_terminal_cons hne] using h.derives hd
  · refine ⟨hne, .inr ⟨hend, start, h.start hstart, withoutEpsilon before, ?_⟩⟩
    simpa using h.derives hd

theorem isNullable (h : g.ContainedIn g') {s : Symbol}
    (hs : (Nullability.compute g).isNullable s = true) :
    (Nullability.compute g').isNullable s = true := by
  cases s with
  | terminal text => exact hs
  | nonterminal name =>
    rw [Nullability.isNullable_nonterminal, Nullability.mem_marked_iff] at hs ⊢
    exact h.derives hs

theorem mem_first (h : g.ContainedIn g') (ht : t ∈ g.firstSets.first name) :
    t ∈ g'.firstSets.first name :=
  FirstSets.mem_first_iff.2 (h.starts (FirstSets.mem_first_iff.1 ht))

theorem mem_follow (h : g.ContainedIn g') (ht : t ∈ g.followSets.follow name) :
    t ∈ g'.followSets.follow name :=
  mem_follow_iff.2 (h.follows (mem_follow_iff.1 ht))

end ContainedIn

end Grammar

/-- The analysis depends only on the start symbol and, for each nonterminal, on the set of its
right-hand sides without every `epsilon`. -/
theorem presentation_independence (g g' : Grammar) (hstart : g.start = g'.start)
    (hbodies : ∀ head body, body ∈ g.bodies head ↔ body ∈ g'.bodies head) :
    (∀ name, (analyze g).isNullable name = (analyze g').isNullable name) ∧
    (∀ name, (analyze g).first.first name = (analyze g').first.first name) ∧
    (∀ name, (analyze g).follow.follow name = (analyze g').follow.follow name) ∧
    (analyze g).nullability.size = (analyze g').nullability.size := by
  have hle : g.ContainedIn g' := .of_bodies hstart fun head body => (hbodies head body).1
  have hge : g'.ContainedIn g := .of_bodies hstart.symm fun head body => (hbodies head body).2
  have hnullable (s : Symbol) :
      (Nullability.compute g).isNullable s = (Nullability.compute g').isNullable s :=
    Bool.eq_iff_iff.2 ⟨hle.isNullable, hge.isNullable⟩
  have hmarked : (Nullability.compute g).marked = (Nullability.compute g').marked :=
    TextSet.ext fun name => by
      simp only [← Nullability.isNullable_nonterminal, hnullable]
  refine ⟨fun name => hnullable (.nonterminal name), fun name => ?_, fun name => ?_,
    congrArg TextSet.size hmarked⟩
  · exact TextSet.ext fun t => ⟨hle.mem_first, hge.mem_first⟩
  · rw [follow_analyze, follow_analyze]
    exact TextSet.ext fun t => ⟨hle.mem_follow, hge.mem_follow⟩

/-- The grammar `S → T "s"`, `T → "t" T`, `T → epsilon` with its rules in another order, one of them
twice, and with `epsilon` in other places. -/
def optionalLeadScattered : Grammar :=
  .ofRules [
    ⟨"S", ⟨[.epsilon, .nonterminal "T", .terminal "s"], ⟨"other.bnf", 7⟩⟩⟩,
    ⟨"T", ⟨[], ⟨"other.bnf", 3⟩⟩⟩,
    ⟨"T", ⟨[.terminal "t", .epsilon, .nonterminal "T", .epsilon], ⟨"other.bnf", 1⟩⟩⟩,
    ⟨"T", ⟨[.epsilon, .epsilon], ⟨"other.bnf", 1⟩⟩⟩,
    ⟨"S", ⟨[.nonterminal "T", .terminal "s"], ⟨"other.bnf", 9⟩⟩⟩]

/-- The two presentations have the same FOLLOW set of `T`, and neither has fewer marks. -/
theorem presentation_independence_optionalLead :
    optionalLead.start = optionalLeadScattered.start ∧
    (∀ head body, body ∈ optionalLead.bodies head ↔ body ∈ optionalLeadScattered.bodies head) ∧
    optionalLead.rules.length ≠ optionalLeadScattered.rules.length ∧
    (analyze optionalLead).follow.follow "T" = (analyze optionalLeadScattered).follow.follow "T" ∧
    (analyze optionalLead).nullability.size = (analyze optionalLeadScattered).nullability.size := by
  have hstart : optionalLead.start = optionalLeadScattered.start := rfl
  have hle : ∀ rule ∈ optionalLead.rules, withoutEpsilon rule.production.symbols ∈
      optionalLeadScattered.bodies rule.head := by decide
  have hge : ∀ rule ∈ optionalLeadScattered.rules, withoutEpsilon rule.production.symbols ∈
      optionalLead.bodies rule.head := by decide
  have hbodies : ∀ head body,
      body ∈ optionalLead.bodies head ↔ body ∈ optionalLeadScattered.bodies head := by
    intro head body
    constructor
    · intro h
      obtain ⟨rule, hr, rfl, rfl⟩ := mem_bodies.1 h
      exact hle rule hr
    · intro h
      obtain ⟨rule, hr, rfl, rfl⟩ := mem_bodies.1 h
      exact hge rule hr
  obtain ⟨-, -, hfollow, hsize⟩ :=
    presentation_independence optionalLead optionalLeadScattered hstart hbodies
  exact ⟨hstart, hbodies, by decide, hfollow "T", hsize⟩

end Lookahead
