import Lookahead.Proofs.Conflict.Places
import Lookahead.Proofs.Containment
import Mathlib.Data.List.Nodup

/-!
# More rules, more warnings

A grammar with a rule added contains the grammar before, and every production keeps its position. So
no set of the analysis loses a member, and what was in conflict still is: a conflict stays at its
place, and what its two sides share can only grow (`ExtendedBy.exists_placedConflict`). None is lost
among equal ones, since no place has two conflicts (`analysis_monotone`).
-/

namespace Lookahead

open Grammar

variable {g g' : Grammar} {rule : Rule} {p q : Production} {left right : Symbol} {head : String}
  {place : Conflict.Place} {w : Warning}

/-- The conflict is between the same two sides, which share at least as much. -/
inductive Conflict.GrowsTo : Conflict → Conflict → Prop where
  | alternation {nonterminal : String} {first second : List Symbol} {shared shared' : TextSet} :
      (∀ t ∈ shared, t ∈ shared') →
      GrowsTo (.alternation nonterminal first second shared)
        (.alternation nonterminal first second shared')
  | concatenation {nonterminal : String} {production : List Symbol} {left right : Symbol}
      {shared shared' : TextSet} : (∀ t ∈ shared, t ∈ shared') →
      GrowsTo (.concatenation nonterminal production left right shared)
        (.concatenation nonterminal production left right shared')

/-- The warning has the same location, and its conflict at most grows. -/
structure Warning.GrowsTo (w w' : Warning) : Prop where
  location : w'.location = w.location
  kind : w.kind.GrowsTo w'.kind

namespace FirstSet

/-- At least as much can start the derivation, and it can be empty if it could before. -/
structure GrowsTo (a b : FirstSet) : Prop where
  terminals : ∀ {t}, t ∈ a.terminals → t ∈ b.terminals
  nullable : a.nullable = true → b.nullable = true

theorem GrowsTo.shared {a a' b b' : FirstSet} (ha : a.GrowsTo a') (hb : b.GrowsTo b') :
    ∀ t ∈ a.shared b, t ∈ a'.shared b' := by
  intro t ht
  rw [mem_shared] at ht ⊢
  rcases ht with ⟨hta, htb⟩ | ⟨rfl, hna, hnb⟩
  · exact .inl ⟨ha.terminals hta, hb.terminals htb⟩
  · exact .inr ⟨rfl, ha.nullable hna, hb.nullable hnb⟩

end FirstSet

namespace Grammar

theorem ContainedIn.ofSymbol (h : g.ContainedIn g') (s : Symbol) :
    (g.firstSets.ofSymbol s).GrowsTo (g'.firstSets.ofSymbol s) where
  terminals ht := FirstSets.mem_ofSymbol_iff.2 (h.starts (FirstSets.mem_ofSymbol_iff.1 ht))
  nullable hnull := FirstSets.isNullable_iff.2 (h.derives (FirstSets.isNullable_iff.1 hnull))

theorem ContainedIn.ofChain (h : g.ContainedIn g') (c : List Symbol) :
    (g.firstSets.ofChain c).GrowsTo (g'.firstSets.ofChain c) := by
  by_cases hc : c = []
  · subst hc
    exact ⟨id, id⟩
  · rw [FirstSets.ofChain_of_ne_nil hc, FirstSets.ofChain_of_ne_nil hc]
    constructor
    · intro t ht
      exact FirstSets.mem_ofSequence_iff.2 (h.starts (FirstSets.mem_ofSequence_iff.1 ht))
    · intro hnull
      have hnil := FirstSets.nullable_ofSequence_iff.1 hnull
      exact FirstSets.nullable_ofSequence_iff.2 (h.derives hnil)

/-! ## Conflicts -/

theorem ContainedIn.alternation? (h : g.ContainedIn g')
    (hw : Alternatives.alternation? g.firstSets head p q = some w) :
    ∃ w', Alternatives.alternation? g'.firstSets head p q = some w' ∧ w.GrowsTo w' := by
  obtain ⟨⟨t, ht⟩, rfl⟩ := alternation?_eq_some.1 hw
  have hshared := (h.ofChain p.symbols).shared (h.ofChain q.symbols)
  exact ⟨_, alternation?_eq_some.2 ⟨⟨t, hshared t ht⟩, rfl⟩, rfl, .alternation hshared⟩

theorem ContainedIn.concatenation? (h : g.ContainedIn g')
    (hw : Alternatives.concatenation? g.firstSets head p left right = some w) :
    ∃ w', Alternatives.concatenation? g'.firstSets head p left right = some w' ∧
      w.GrowsTo w' := by
  obtain ⟨hnull, ⟨t, ht⟩, rfl⟩ := concatenation?_eq_some.1 hw
  have hshared :
      ∀ t ∈ (g.firstSets.ofSymbol left).terminals ∩ (g.firstSets.ofSymbol right).terminals,
        t ∈ (g'.firstSets.ofSymbol left).terminals ∩ (g'.firstSets.ofSymbol right).terminals := by
    intro t ht
    obtain ⟨hleft, hright⟩ := TextSet.mem_inter.1 ht
    exact TextSet.mem_inter.2
      ⟨(h.ofSymbol left).terminals hleft, (h.ofSymbol right).terminals hright⟩
  exact ⟨_, concatenation?_eq_some.2 ⟨(h.ofSymbol left).nullable hnull, ⟨t, hshared t ht⟩, rfl⟩,
    rfl, .concatenation hshared⟩

/-- `g'` contains `g`, and every production of `g` keeps its position in it. -/
structure ExtendedBy (g g' : Grammar) : Prop extends g.ContainedIn g' where
  productions : ∀ {head : String} {i : Nat} {p : Production},
    (g.productions head)[i]? = some p → (g'.productions head)[i]? = some p

theorem ExtendedBy.mem_places (h : g.ExtendedBy g') (hplace : place ∈ g.places) :
    place ∈ g'.places := by
  cases place with
  | alternation head i j =>
    obtain ⟨hij, hj⟩ := alternation_mem_places.1 hplace
    have hj' := h.productions (List.getElem?_eq_getElem hj)
    exact alternation_mem_places.2 ⟨hij, (List.getElem?_eq_some_iff.1 hj').1⟩
  | concatenation head k i =>
    obtain ⟨p, hp, hi⟩ := concatenation_mem_places.1 hplace
    exact concatenation_mem_places.2 ⟨p, h.productions hp, hi⟩

theorem ExtendedBy.warningAt? (h : g.ExtendedBy g')
    (hw : g.warningAt? g.firstSets place = some w) :
    ∃ w', g'.warningAt? g'.firstSets place = some w' ∧ w.GrowsTo w' := by
  cases place with
  | alternation head i j =>
    obtain ⟨p, q, hp, hq, hw⟩ := warningAt?_alternation.1 hw
    obtain ⟨w', hw', hgrows⟩ := h.alternation? hw
    exact ⟨w', warningAt?_alternation.2 ⟨p, q, h.productions hp, h.productions hq, hw'⟩, hgrows⟩
  | concatenation head k i =>
    obtain ⟨p, left, right, hp, hleft, hright, hw⟩ := warningAt?_concatenation.1 hw
    obtain ⟨w', hw', hgrows⟩ := h.concatenation? hw
    exact ⟨w', warningAt?_concatenation.2
      ⟨p, left, right, h.productions hp, hleft, hright, hw'⟩, hgrows⟩

theorem ExtendedBy.exists_placedConflict (h : g.ExtendedBy g')
    (hw : (place, w) ∈ g.placedConflicts g.firstSets) :
    ∃ w', (place, w') ∈ g'.placedConflicts g'.firstSets ∧ w.GrowsTo w' := by
  obtain ⟨hplace, hw⟩ := mem_placedConflicts.1 hw
  obtain ⟨w', hw', hgrows⟩ := h.warningAt? hw
  exact ⟨w', mem_placedConflicts.2 ⟨h.mem_places hplace, hw'⟩, hgrows⟩

theorem extendedBy_add (g : Grammar) (rule : Rule) : g.ExtendedBy (g.add rule) where
  start {name} hstart := by rw [start_add, hstart, Option.some_or]
  rules r hr := ⟨r, List.mem_append_left _ hr, rfl, rfl⟩
  productions {head i p} hp := by
    rw [productions_add, List.getElem?_append_left (List.getElem?_eq_some_iff.1 hp).1]
    exact hp

end Grammar

/-- Where entries have keys of their own and each has a partner with its key, the positions of the
partners are different. -/
theorem exists_injective_of_keys {κ α β : Type} {R : α → β → Prop} {l : List (κ × α)}
    {l' : List (κ × β)} (hnodup : (l.map Prod.fst).Nodup)
    (h : ∀ k a, (k, a) ∈ l → ∃ b, (k, b) ∈ l' ∧ R a b) :
    ∃ φ : Fin l.length → Fin l'.length, Function.Injective φ ∧
      ∀ n, l'[φ n].1 = l[n].1 ∧ R l[n].2 l'[φ n].2 := by
  have hpartner : ∀ n : Fin l.length, ∃ m : Fin l'.length, l'[m].1 = l[n].1 ∧ R l[n].2 l'[m].2 := by
    intro n
    obtain ⟨b, hb, hR⟩ := h l[n].1 l[n].2 (List.getElem_mem n.2)
    obtain ⟨m, hm, heq⟩ := List.getElem_of_mem hb
    exact ⟨⟨m, hm⟩, congrArg Prod.fst heq, (congrArg Prod.snd heq).symm ▸ hR⟩
  choose φ hφ using hpartner
  refine ⟨φ, fun n n' heq => ?_, hφ⟩
  have hkeys : (l.get n).1 = (l.get n').1 := (hφ n).1.symm.trans (heq ▸ (hφ n').1)
  have hentries := List.inj_on_of_nodup_map hnodup (l.get_mem n) (l.get_mem n') hkeys
  exact List.nodup_iff_injective_get.1 hnodup.of_map hentries

/-- Adding a rule takes nothing away: what was nullable still is, no FIRST or FOLLOW set loses a
terminal, and every conflict goes to one at the same place, with the same sides and location and at
least the same shared terminals, different ones to different ones. -/
theorem analysis_monotone (g : Grammar) (rule : Rule) :
    let g' := g.add rule
    let placed := g.placedConflicts (analyze g).first
    let placed' := g'.placedConflicts (analyze g').first
    (∀ s, (analyze g).nullability.isNullable s = true →
      (analyze g').nullability.isNullable s = true) ∧
    (∀ name, ∀ t ∈ (analyze g).first.first name, t ∈ (analyze g').first.first name) ∧
    (∀ name, ∀ t ∈ (analyze g).follow.follow name, t ∈ (analyze g').follow.follow name) ∧
    placed.map Prod.snd = g.conflicts (analyze g).first ∧
    placed'.map Prod.snd = g'.conflicts (analyze g').first ∧
    ∃ φ : Fin placed.length → Fin placed'.length, Function.Injective φ ∧
      ∀ n, placed'[φ n].1 = placed[n].1 ∧ placed[n].2.GrowsTo placed'[φ n].2 := by
  intro g' placed placed'
  have hext : g.ExtendedBy g' := g.extendedBy_add rule
  have hfollow : ∀ name, ∀ t ∈ (analyze g).follow.follow name,
      t ∈ (analyze g').follow.follow name := by
    rw [follow_analyze, follow_analyze]
    exact fun _ _ => hext.mem_follow
  refine ⟨fun _ => hext.isNullable, fun _ _ => hext.mem_first, hfollow,
    g.map_snd_placedConflicts _, g'.map_snd_placedConflicts _, ?_⟩
  exact exists_injective_of_keys (g.nodup_placedConflicts _) fun _ _ => hext.exists_placedConflict

/-- The grammar `S → A B`, `A → "b"`, `A → "x"`, `A → epsilon`, `B → "b" Z`. -/
def sharedLead : Grammar :=
  .ofRules [
    ⟨"S", ⟨[.nonterminal "A", .nonterminal "B"], ⟨"sample.bnf", 1⟩⟩⟩,
    ⟨"A", ⟨[.terminal "b"], ⟨"sample.bnf", 2⟩⟩⟩,
    ⟨"A", ⟨[.terminal "x"], ⟨"sample.bnf", 3⟩⟩⟩,
    ⟨"A", ⟨[], ⟨"sample.bnf", 4⟩⟩⟩,
    ⟨"B", ⟨[.terminal "b", .nonterminal "Z"], ⟨"sample.bnf", 5⟩⟩⟩]

/-- With `B → "x"` added to the sample, `A` can still vanish before `B`, is followed by `b` as
before, and the conflict of the two has not gone. -/
theorem analysis_monotone_sharedLead :
    let g' := sharedLead.add ⟨"B", ⟨[.terminal "x"], ⟨"sample.bnf", 6⟩⟩⟩
    (analyze sharedLead).nullability.isNullable (.nonterminal "A") = true ∧
    (analyze g').nullability.isNullable (.nonterminal "A") = true ∧
    "b" ∈ (analyze sharedLead).first.first "B" ∧ "b" ∈ (analyze g').first.first "B" ∧
    "b" ∈ (analyze sharedLead).follow.follow "A" ∧ "b" ∈ (analyze g').follow.follow "A" ∧
    ∃ c ∈ sharedLead.placedConflicts (analyze sharedLead).first,
      ∃ c' ∈ g'.placedConflicts (analyze g').first,
        c.1 = .concatenation "S" 0 0 ∧ c'.1 = c.1 ∧ c.2.GrowsTo c'.2 := by
  intro g'
  have hnullable : (analyze sharedLead).nullability.isNullable (.nonterminal "A") = true := by
    decide +kernel
  have hfirst : "b" ∈ (analyze sharedLead).first.first "B" := by decide +kernel
  have hfollow : "b" ∈ (analyze sharedLead).follow.follow "A" := by decide +kernel
  have hmem : .concatenation "S" 0 0 ∈
      (sharedLead.placedConflicts (analyze sharedLead).first).map Prod.fst := by decide +kernel
  obtain ⟨hnullable', hfirst', hfollow', -, -, φ, -, hφ⟩ :=
    analysis_monotone sharedLead ⟨"B", ⟨[.terminal "x"], ⟨"sample.bnf", 6⟩⟩⟩
  obtain ⟨c, hc, hplace⟩ := List.mem_map.1 hmem
  obtain ⟨n, hn, rfl⟩ := List.getElem_of_mem hc
  exact ⟨hnullable, hnullable' _ hnullable, hfirst, hfirst' _ _ hfirst, hfollow,
    hfollow' _ _ hfollow, _, hc, _, List.getElem_mem (φ ⟨n, hn⟩).2, hplace, hφ ⟨n, hn⟩⟩

end Lookahead
