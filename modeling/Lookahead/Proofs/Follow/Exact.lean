import Lookahead.Proofs.First.Exact
import Lookahead.Proofs.Follow.Solution

/-!
# FOLLOW sets are exact

With the FIRST sets of the same grammar, a terminal is in the FOLLOW set of a nonterminal exactly if
it comes right after it in something that a defined nonterminal derives, or if it is the end of the
input and the nonterminal ends something that the start symbol derives (`mem_follow_iff`). For one
direction such neighbours obey the two rules. For the other, the computed sets cover each
nonterminal of a sentential form, and a step of a derivation keeps that (`Covered.step`).
-/

namespace Lookahead

open Grammar

variable {g : Grammar} {head name t : String} {u v w before after : List Symbol}

namespace Grammar

abbrev followSets (g : Grammar) : FollowSets := .compute g g.firstSets

theorem follow_analyze (g : Grammar) : (analyze g).follow = g.followSets := rfl

/-- In something that `head` derives, `t` comes right after `name`. -/
def Adjacent (g : Grammar) (head name t : String) : Prop :=
  ∃ before after,
    g.Derives [.nonterminal head] (before ++ .nonterminal name :: .terminal t :: after)

/-- Something that `head` derives ends with `name`. -/
def EndsWith (g : Grammar) (head name : String) : Prop :=
  ∃ before, g.Derives [.nonterminal head] (before ++ [.nonterminal name])

/-- The terminal `t` can follow `name`. -/
def Follows (g : Grammar) (name t : String) : Prop :=
  t ≠ epsilonText ∧
    ((∃ head, g.isDefined head = true ∧ g.Adjacent head name t) ∨
      t = endOfInput ∧ ∃ start, g.start = some start ∧ g.EndsWith start name)

/-! ## From the sets to derivations -/

theorem Follows.of_starts {rule : Rule} (hr : rule ∈ g.rules)
    (hsymbols : rule.production.symbols = before ++ .nonterminal name :: after)
    (ht : g.Starts after t) : g.Follows name t := by
  obtain ⟨hne, rest, hd⟩ := ht
  have hrule : g.Derives [.nonterminal rule.head] (before ++ .nonterminal name :: after) :=
    hsymbols ▸ derives_rule hr
  refine ⟨hne, .inl ⟨rule.head, isDefined_head hr, before, rest, ?_⟩⟩
  exact hrule.trans ((hd.append_left [.nonterminal name]).append_left before)

theorem Follows.of_head {rule : Rule} (hr : rule ∈ g.rules)
    (hsymbols : rule.production.symbols = before ++ .nonterminal name :: after)
    (hnil : g.Derives after []) (ht : g.Follows rule.head t) : g.Follows name t := by
  have hrule : g.Derives [.nonterminal rule.head] (before ++ [.nonterminal name]) :=
    (hsymbols ▸ derives_rule hr).trans ((hnil.append_left [.nonterminal name]).append_left before)
  obtain ⟨hne, ⟨head, hdef, b, a, hd⟩ | ⟨hend, start, hstart, b, hd⟩⟩ := ht
  · refine ⟨hne, .inl ⟨head, hdef, b ++ before, a, hd.trans ?_⟩⟩
    simpa using hrule.context b (.terminal t :: a)
  · refine ⟨hne, .inr ⟨hend, start, hstart, b ++ before, hd.trans ?_⟩⟩
    simpa using hrule.append_left b

theorem closed_follows (g : Grammar) : FollowSets.Closed g g.firstSets g.Follows where
  start {name} hstart := ⟨by decide, .inr ⟨rfl, name, hstart, [], .refl _⟩⟩
  trailer hr hsymbols _ ht := .of_starts hr hsymbols (FirstSets.mem_ofSequence_iff.1 ht)
  inherited hr hsymbols _ hnull ht :=
    .of_head hr hsymbols (FirstSets.nullable_ofSequence_iff.1 hnull) ht

/-! ## From derivations to the sets -/

theorem split_parts {α : Type} {b r a before after : List α} {s : α}
    (h : b ++ r ++ a = before ++ s :: after) :
    (∃ x, b = before ++ s :: x ∧ after = x ++ r ++ a) ∨
      (∃ x y, r = x ++ s :: y ∧ before = b ++ x ∧ after = y ++ a) ∨
      ∃ y, a = y ++ s :: after ∧ before = b ++ r ++ y := by
  have hcons : ∀ {l x m : List α}, s :: l = x ++ m →
      (∃ x', x = s :: x' ∧ l = x' ++ m) ∨ x = [] ∧ m = s :: l := by
    intro l x m h
    cases x with
    | nil => exact .inr ⟨rfl, h.symm⟩
    | cons c x =>
      obtain ⟨rfl, rfl⟩ := List.cons.inj h
      exact .inl ⟨x, rfl, rfl⟩
  rw [List.append_assoc] at h
  rcases List.append_eq_append_iff.1 h with ⟨x, rfl, hra⟩ | ⟨x, rfl, hafter⟩
  · rcases List.append_eq_append_iff.1 hra with ⟨y, rfl, rfl⟩ | ⟨y, rfl, hafter⟩
    · exact .inr (.inr ⟨y, rfl, by simp⟩)
    · rcases hcons hafter with ⟨y, rfl, rfl⟩ | ⟨rfl, rfl⟩
      · exact .inr (.inl ⟨x, y, rfl, rfl, rfl⟩)
      · exact .inr (.inr ⟨[], rfl, by simp⟩)
  · rcases hcons hafter with ⟨x, rfl, rfl⟩ | ⟨rfl, hra⟩
    · exact .inl ⟨x, rfl, by simp⟩
    · cases r with
      | nil => exact .inr (.inr ⟨[], hra, by simp⟩)
      | cons c r =>
        obtain ⟨rfl, rfl⟩ := List.cons.inj hra
        exact .inr (.inl ⟨[], r, rfl, by simp, rfl⟩)

/-- The computed sets cover the nonterminals of a sentential form of `head`: after each they hold
what can start the rest and, if the rest can vanish, what follows `head`. -/
def Covered (g : Grammar) (head : String) (u : List Symbol) : Prop :=
  ∀ before name after, u = before ++ .nonterminal name :: after →
    (∀ t, g.Starts after t → t ∈ g.followSets.follow name) ∧
      (g.Derives after [] → ∀ t ∈ g.followSets.follow head, t ∈ g.followSets.follow name)

theorem not_starts_nil : ¬ g.Starts [] t :=
  fun h => TextSet.not_mem_empty t (FirstSets.mem_ofSequence_iff.2 h)

theorem starts_append :
    g.Starts (u ++ v) t ↔ g.Starts u t ∨ g.Derives u [] ∧ g.Starts v t := by
  simp only [← FirstSets.mem_ofSequence_iff, ← FirstSets.nullable_ofSequence_iff,
    FirstSets.mem_ofSequence_append]

theorem derives_nil_append : g.Derives (u ++ v) [] ↔ g.Derives u [] ∧ g.Derives v [] := by
  simp only [← FirstSets.nullable_ofSequence_iff, FirstSets.nullable_ofSequence_append]

theorem covered_head (g : Grammar) (head : String) : g.Covered head [.nonterminal head] := by
  intro before name after h
  cases before with
  | nil =>
    obtain ⟨hname, rfl⟩ := List.cons.inj h
    obtain rfl := Symbol.nonterminal.inj hname
    exact ⟨fun _ ht => absurd ht not_starts_nil, fun _ _ ht => ht⟩
  | cons s before => simp at h

/-- What is covered stays so when the symbols after it derive others. -/
theorem Covered.of_derives (hc : g.Covered head (before ++ .nonterminal name :: u))
    (hd : g.Derives u v) :
    (∀ t, g.Starts v t → t ∈ g.followSets.follow name) ∧
      (g.Derives v [] → ∀ t ∈ g.followSets.follow head, t ∈ g.followSets.follow name) :=
  let ⟨hstarts, hnil⟩ := hc before name u rfl
  ⟨fun t ht => hstarts t (hd.starts ht), fun hv => hnil (hd.trans hv)⟩

theorem Covered.step (hs : g.Produces u v) (hc : g.Covered head u) : g.Covered head v := by
  intro before name after h
  cases hs with
  | @expand rule b a hr =>
    rcases split_parts h with ⟨x, rfl, rfl⟩ | ⟨x, y, hsymbols, -, rfl⟩ | ⟨y, rfl, -⟩
    · -- The nonterminal is to the left of the head.
      rw [List.append_assoc, List.cons_append] at hc
      exact hc.of_derives (by simpa using (derives_rule hr).context x a)
    · -- The nonterminal comes from the production.
      have hclosed := FollowSets.closed_compute g g.firstSets
      obtain ⟨hstarts, hnil⟩ := hc b rule.head a rfl
      have hinherit : g.Derives y [] → ∀ t ∈ g.followSets.follow rule.head,
          t ∈ g.followSets.follow name := fun hy t ht =>
        hclosed.inherited hr hsymbols (FollowSets.ne_epsilon_of_mem_follow ht)
          (FirstSets.nullable_ofSequence_iff.2 hy) ht
      constructor
      · intro t ht
        rcases starts_append.1 ht with ht | ⟨hy, ht⟩
        · exact hclosed.trailer hr hsymbols ht.1 (FirstSets.mem_ofSequence_iff.2 ht)
        · exact hinherit hy t (hstarts t ht)
      · intro hya t ht
        obtain ⟨hy, ha⟩ := derives_nil_append.1 hya
        exact hinherit hy t (hnil ha t ht)
    · -- The nonterminal is to the right of the head.
      exact hc (b ++ .nonterminal rule.head :: y) name after (by simp)
  | erase b a =>
    rw [← List.append_nil b] at h
    rcases split_parts h with ⟨x, rfl, rfl⟩ | ⟨x, y, hnil, -⟩ | ⟨y, rfl, -⟩
    · rw [List.append_assoc, List.cons_append] at hc
      exact hc.of_derives (by simpa using derives_epsilon.context x a)
    · simp at hnil
    · exact hc (b ++ .epsilon :: y) name after (by simp)

theorem covered_of_derives (h : g.Derives [.nonterminal head] v) : g.Covered head v := by
  have hrun : ∀ {u v}, g.Derives u v → g.Covered head u → g.Covered head v := by
    intro u v h
    induction h with
    | refl => exact id
    | step hs _ ih => exact fun hc => ih (hc.step hs)
  exact hrun h (covered_head g head)

theorem Adjacent.mem_follow (h : g.Adjacent head name t) (hne : t ≠ epsilonText) :
    t ∈ g.followSets.follow name := by
  obtain ⟨before, after, hd⟩ := h
  exact (covered_of_derives hd before name _ rfl).1 t ⟨hne, after, .refl _⟩

theorem EndsWith.mem_follow {start : String} (hstart : g.start = some start)
    (h : g.EndsWith start name) : endOfInput ∈ g.followSets.follow name := by
  obtain ⟨before, hd⟩ := h
  exact (covered_of_derives hd before name [] rfl).2 (.refl _) endOfInput
    ((FollowSets.closed_compute g g.firstSets).start hstart)

/-- The FOLLOW set of a nonterminal holds exactly the terminals that can follow it. -/
theorem mem_follow_iff : t ∈ g.followSets.follow name ↔ g.Follows name t := by
  constructor
  · exact (closed_follows g).of_mem_follow
  · rintro ⟨hne, ⟨head, -, hadj⟩ | ⟨rfl, start, hstart, hend⟩⟩
    · exact hadj.mem_follow hne
    · exact hend.mem_follow hstart

end Grammar

/-- FOLLOW sets are exact: a terminal is in the set of a nonterminal if it comes right after it in
something that a defined nonterminal derives, or is the end of the input and the nonterminal ends
something that the start symbol derives. So no terminal that comes after it in what the start symbol
derives is missing, and nothing else is there when every head occurs in what the start symbol
derives. -/
theorem follow_sets_exact (g : Grammar) :
    (∀ name t, t ∈ (analyze g).follow.follow name ↔
      t ≠ epsilonText ∧
        ((∃ head, g.isDefined head = true ∧ g.Adjacent head name t) ∨
          t = endOfInput ∧ ∃ start, g.start = some start ∧ g.EndsWith start name)) ∧
    ∀ start, g.start = some start →
      (∀ name t, t ≠ epsilonText → g.Adjacent start name t →
        t ∈ (analyze g).follow.follow name) ∧
      ((∀ head ∈ g.heads, ∃ before after,
          g.Derives [.nonterminal start] (before ++ .nonterminal head :: after)) →
        ∀ name t, t ∈ (analyze g).follow.follow name →
          g.Adjacent start name t ∨ t = endOfInput ∧ g.EndsWith start name) := by
  refine ⟨fun _ _ => mem_follow_iff, fun start hstart => ⟨?_, ?_⟩⟩
  · exact fun _ _ hne hadj => hadj.mem_follow hne
  · intro hheads name t ht
    obtain ⟨-, ⟨head, hd, before, after, hadj⟩ | ⟨hend, start', hstart', hends⟩⟩ :=
      mem_follow_iff.1 ht
    · obtain ⟨b, a, hhead⟩ := hheads head (mem_heads.2 hd)
      refine .inl ⟨b ++ before, after ++ a, hhead.trans ?_⟩
      simpa using hadj.context b a
    · obtain rfl := Option.some.inj (hstart.symm.trans hstart')
      exact .inr ⟨hend, hends⟩

/-- Both heads of the sample occur in what `S` derives, so what follows `T` does so after `S`. -/
theorem follow_sets_exact_optionalLead :
    optionalLead.start = some "S" ∧
    (∀ head ∈ optionalLead.heads, ∃ before after,
      optionalLead.Derives [.nonterminal "S"] (before ++ .nonterminal head :: after)) ∧
    optionalLead.Adjacent "S" "T" "s" := by
  have hstart : optionalLead.start = some "S" := rfl
  have hheads : ∀ head ∈ optionalLead.heads, ∃ before after,
      optionalLead.Derives [.nonterminal "S"] (before ++ .nonterminal head :: after) := by
    have hlist : optionalLead.heads = ["S", "T"] := by decide +kernel
    have hbody : (⟨[.nonterminal "T", .terminal "s"], ⟨"sample.bnf", 1⟩⟩ : Production) ∈
        optionalLead.productions "S" := by decide
    rw [hlist, List.forall_mem_cons, List.forall_mem_singleton]
    exact ⟨⟨[], [], .refl _⟩, [], [.terminal "s"], derives_production hbody⟩
  have hmem : "s" ∈ (analyze optionalLead).follow.follow "T" := by decide +kernel
  refine ⟨hstart, hheads, ?_⟩
  obtain hadj | ⟨hend, -⟩ := ((follow_sets_exact optionalLead).2 "S" hstart).2 hheads "T" "s" hmem
  · exact hadj
  · exact absurd hend (by decide)

end Lookahead
