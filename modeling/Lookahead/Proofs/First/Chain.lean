import Lookahead.Proofs.First.Exact

/-!
# Chains of symbols

The nullability of a nonterminal is kept twice, as a mark and as a flag beside its FIRST set. In an
analysis the two answers agree on every symbol, and so they do on every chain but that of no
symbols, which counts as unknown. A chain can be taken apart anywhere
(`FirstSets.terminals_ofChain_append`, `FirstSets.nullable_ofChain_append`). Sets and marks are not
just closed under the productions: everything in them is there for a production
(`FirstSets.first_eq_gained`, `Nullability.mem_marked_iff_derivesEmpty`).
-/

namespace Lookahead

open Grammar

variable {g : Grammar} {ν : Nullability} {f : FirstSets} {name t : String} {u v c : List Symbol}

namespace FirstSets

theorem nullable_ofChain :
    (f.ofChain c).nullable = true ↔ c ≠ [] ∧ ∀ s ∈ c, f.isNullable s = true := by
  by_cases hc : c = []
  · simp [hc, ofChain, FirstSet.unknown]
  · rw [ofChain_of_ne_nil hc, nullable_ofSequence, and_iff_right hc]

/-- The second part counts exactly if the first one is nullable. -/
theorem terminals_ofChain_append (hu : u ≠ []) (v : List Symbol) :
    (f.ofChain (u ++ v)).terminals =
      if (f.ofChain u).nullable = true then (f.ofChain u).terminals ∪ (f.ofChain v).terminals
      else (f.ofChain u).terminals := by
  apply TextSet.ext
  intro t
  simp only [terminals_ofChain, mem_ofSequence_append, ofChain_of_ne_nil hu]
  split
  · rename_i hnull
    rw [TextSet.mem_union, and_iff_right hnull]
  · rename_i hnull
    exact or_iff_left fun h => hnull h.1

theorem nullable_ofChain_append (hu : u ≠ []) (hv : v ≠ []) :
    (f.ofChain (u ++ v)).nullable = ((f.ofChain u).nullable && (f.ofChain v).nullable) := by
  rw [Bool.eq_iff_iff, Bool.and_eq_true, ofChain_of_ne_nil hu, ofChain_of_ne_nil hv,
    ofChain_of_ne_nil (List.append_ne_nil_of_left_ne_nil hu v), nullable_ofSequence_append]

theorem mem_gained_productions :
    t ∈ f.gained (g.productions name) ↔
      ∃ rule ∈ g.rules, rule.head = name ∧
        t ∈ (f.ofSequence rule.production.symbols).terminals := by
  rw [mem_gained]
  constructor
  · rintro ⟨p, hp, ht⟩
    exact ⟨⟨name, p⟩, mem_productions.1 hp, rfl, ht⟩
  · rintro ⟨rule, hr, rfl, ht⟩
    exact ⟨rule.production, mem_productions.2 hr, ht⟩

/-- What the productions start with is closed under the productions in its turn, because the
computed sets hold all of it. -/
theorem closed_gained (g : Grammar) (ν : Nullability) :
    Closed g ν fun name t => t ∈ (compute g ν).gained (g.productions name) where
  terminal {rule _ _ _} hr hsymbols hbefore hne := by
    have ht := (flagged_compute g ν).mem_ofSequence_of_split hr hsymbols hbefore
      (mem_terminals_terminal.2 ⟨rfl, hne⟩)
    exact mem_gained_productions.2 ⟨rule, hr, rfl, ht⟩
  nonterminal {rule _ name _ t} hr hsymbols hbefore ht := by
    have hfirst : t ∈ (compute g ν).first name := by
      obtain ⟨rule', hr', rfl, hstart⟩ := mem_gained_productions.1 ht
      exact mem_first_of_rule hr' hstart
    have hstart := (flagged_compute g ν).mem_ofSequence_of_split hr hsymbols hbefore hfirst
    exact mem_gained_productions.2 ⟨rule, hr, rfl, hstart⟩

theorem first_eq_gained (g : Grammar) (ν : Nullability) (name : String) :
    (compute g ν).first name = (compute g ν).gained (g.productions name) := by
  apply TextSet.ext
  intro t
  constructor
  · exact fun ht => (closed_gained g ν).of_mem_first ht
  · intro ht
    obtain ⟨rule, hr, rfl, hstart⟩ := mem_gained_productions.1 ht
    exact mem_first_of_rule hr hstart

end FirstSets

namespace Nullability

theorem mem_marked_iff_derivesEmpty :
    name ∈ (compute g).marked ↔ (compute g).derivesEmpty (g.productions name) = true := by
  rw [derivesEmpty_iff]
  constructor
  · intro hmarked
    cases mem_marked_iff.1 hmarked with
    | step hs hd =>
      obtain ⟨p, hp, rfl⟩ := exists_production_of_produces hs
      exact ⟨p, hp, allNullable_compute_iff.2 hd⟩
  · rintro ⟨p, hp, hall⟩
    exact mem_marked_of_rule (mem_productions.1 hp) hall

end Nullability

namespace FirstSets

theorem nullable_ofChain_firstSets :
    (g.firstSets.ofChain c).nullable = true ↔
      c ≠ [] ∧ (Nullability.compute g).allNullable c = true := by
  rw [nullable_ofChain, Nullability.allNullable, List.all_eq_true]
  simp only [isNullable_firstSets]

end FirstSets

/-- In an analysis marks and flags agree on every symbol, also on unknown ones, and on every chain
but that of no symbols, which is not nullable. A chain of two parts starts with what the first part
starts with and, exactly if that is nullable, with what the second one does, and it is nullable
exactly if both are. Each nonterminal starts with exactly what its productions start with, and it is
nullable exactly if one of them has no symbols or is nullable as a chain. -/
theorem marks_and_chains_agree (g : Grammar) :
    (∀ s, (analyze g).first.isNullable s = (analyze g).nullability.isNullable s) ∧
    (∀ c, ((analyze g).first.ofChain c).nullable = true ↔
      c ≠ [] ∧ (analyze g).nullability.allNullable c = true) ∧
    (∀ u v, u ≠ [] → v ≠ [] →
      ((analyze g).first.ofChain (u ++ v)).terminals =
        (if ((analyze g).first.ofChain u).nullable = true then
          ((analyze g).first.ofChain u).terminals ∪ ((analyze g).first.ofChain v).terminals
        else ((analyze g).first.ofChain u).terminals) ∧
      ((analyze g).first.ofChain (u ++ v)).nullable =
        (((analyze g).first.ofChain u).nullable && ((analyze g).first.ofChain v).nullable)) ∧
    (∀ head, (analyze g).first.first head =
      .unionAll
        ((g.productions head).map fun p => ((analyze g).first.ofChain p.symbols).terminals)) ∧
    ∀ head, (analyze g).isNullable head = true ↔
      ∃ p ∈ g.productions head,
        p.symbols = [] ∨ ((analyze g).first.ofChain p.symbols).nullable = true := by
  refine ⟨fun _ => FirstSets.isNullable_firstSets _, fun _ => FirstSets.nullable_ofChain_firstSets,
    fun u v hu hv => ?_, fun head => FirstSets.first_eq_gained g _ head, fun head => ?_⟩
  · exact ⟨FirstSets.terminals_ofChain_append hu v, FirstSets.nullable_ofChain_append hu hv⟩
  · change (Nullability.compute g).isNullable (.nonterminal head) = true ↔
      ∃ p ∈ g.productions head, p.symbols = [] ∨ (g.firstSets.ofChain p.symbols).nullable = true
    rw [Nullability.isNullable_nonterminal, Nullability.mem_marked_iff_derivesEmpty,
      Nullability.derivesEmpty_iff]
    refine exists_congr fun p => and_congr_right fun _ => ?_
    rw [FirstSets.nullable_ofChain_firstSets]
    by_cases hp : p.symbols = []
    · simp [hp, Nullability.allNullable]
    · simp [hp]

/-- `T` vanishes, so that `"s"` counts after it, and nothing counts after `"s"`. -/
theorem marks_and_chains_agree_optionalLead :
    [Symbol.nonterminal "T"] ≠ [] ∧ [Symbol.terminal "s"] ≠ [] ∧
    ((analyze optionalLead).first.ofChain [.nonterminal "T", .terminal "s"]).terminals =
      .ofList ["s", "t"] ∧
    ((analyze optionalLead).first.ofChain [.terminal "s", .nonterminal "T"]).terminals =
      .ofList ["s"] ∧
    ((analyze optionalLead).first.ofChain [.terminal "s", .nonterminal "T"]).nullable = false := by
  have ht : [Symbol.nonterminal "T"] ≠ [] := List.cons_ne_nil _ _
  have hs : [Symbol.terminal "s"] ≠ [] := List.cons_ne_nil _ _
  obtain ⟨-, -, hchains, -, -⟩ := marks_and_chains_agree optionalLead
  obtain ⟨hbefore, -⟩ := hchains _ _ ht hs
  obtain ⟨hafter, hnull⟩ := hchains _ _ hs ht
  refine ⟨ht, hs, hbefore.trans ?_, hafter.trans ?_, hnull.trans ?_⟩
  all_goals decide +kernel

end Lookahead
