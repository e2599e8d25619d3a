import Lookahead.Analysis
import Lookahead.Proofs.Grammar.Derivation
import Lookahead.Proofs.Saturation

/-!
# Nullability is exact

Every mark is sound, since a head is marked for a production of nullable symbols, and the last pass
leaves no such production unmarked. Undoing a derivation of the empty sequence step by step then
shows that all of its symbols are nullable (`allNullable_compute_iff`).
-/

namespace Lookahead

open Grammar

namespace Nullability

variable {g : Grammar} {ν : Nullability} {a : Alternatives} {name : String} {c u v : List Symbol}

theorem isNullable_epsilon : ν.isNullable .epsilon = true := by
  simp [Symbol.epsilon, isNullable]

theorem isNullable_nonterminal : ν.isNullable (.nonterminal name) = true ↔ name ∈ ν.marked := by
  simp [isNullable]

theorem allNullable_append :
    ν.allNullable (u ++ v) = true ↔ ν.allNullable u = true ∧ ν.allNullable v = true := by
  simp [allNullable]

theorem allNullable_cons {s : Symbol} :
    ν.allNullable (s :: c) = true ↔ ν.isNullable s = true ∧ ν.allNullable c = true := by
  simp [allNullable]

theorem derivesEmpty_iff {productions : List Production} :
    ν.derivesEmpty productions = true ↔ ∃ p ∈ productions, ν.allNullable p.symbols = true := by
  simp only [derivesEmpty, List.any_eq_true, Bool.or_eq_true]
  constructor
  · rintro ⟨p, hp, hempty | hall⟩
    · have hs : p.symbols = [.epsilon] := by simpa [Production.isEmpty] using hempty
      exact ⟨p, hp, by simp [hs, allNullable, isNullable_epsilon]⟩
    · exact ⟨p, hp, hall⟩
  · rintro ⟨p, hp, hall⟩
    exact ⟨p, hp, .inr hall⟩

theorem mem_marked_visit :
    name ∈ (ν.visit a).state.marked ↔
      name ∈ ν.marked ∨ name = a.head ∧ ν.derivesEmpty a.productions = true := by
  unfold visit
  split
  · rename_i hmarked
    exact ⟨.inl, fun h => h.elim id fun h => h.1 ▸ hmarked⟩
  · split
    · rename_i hempty
      simp [hempty, or_comm]
    · rename_i hempty
      simp [hempty]

theorem grows_visit (a : Alternatives) : Grows (visit · a) fun ν name => name ∈ ν.marked where
  quiet {ν} h := by
    unfold visit at h ⊢
    split
    · rfl
    · rename_i hmarked
      split
      · rename_i hempty
        simp [hmarked, hempty] at h
      · rfl
  keeps h := mem_marked_visit.2 (.inl h)
  adds {ν} h := by
    by_cases hmarked : a.head ∈ ν.marked
    · simp [visit, hmarked] at h
    · by_cases hempty : ν.derivesEmpty a.productions = true
      · exact ⟨a.head, hmarked, mem_marked_visit.2 (.inr ⟨rfl, hempty⟩)⟩
      · simp [visit, hmarked, hempty] at h

/-! ## The marks of a grammar -/

theorem within_visit {alternatives : List Alternatives} (ha : a ∈ alternatives)
    (h : Within (fun (ν : Nullability) name => name ∈ ν.marked) (alternatives.map (·.head)) ν) :
    Within (fun (ν : Nullability) name => name ∈ ν.marked) (alternatives.map (·.head))
      (ν.visit a).state := by
  intro name hname
  rcases mem_marked_visit.1 hname with hname | ⟨rfl, -⟩
  · exact h name hname
  · exact List.mem_map_of_mem ha

theorem visit_compute (ha : a ∈ g.alternatives) : ((compute g).visit a).state = compute g :=
  Grows.visit_settled grows_visit (fun _ _ => within_visit)
    (fun _ h => absurd h (TextSet.not_mem_empty _)) (by simp) a ha

theorem mem_marked_of_rule {rule : Rule} (hr : rule ∈ g.rules)
    (h : (compute g).allNullable rule.production.symbols = true) :
    rule.head ∈ (compute g).marked := by
  have ha : (⟨rule.head, g.productions rule.head⟩ : Alternatives) ∈ g.alternatives :=
    mem_alternatives.2 ⟨isDefined_head hr, rfl⟩
  rw [← visit_compute ha]
  exact mem_marked_visit.2 (.inr ⟨rfl, derivesEmpty_iff.2 ⟨_, mem_productions.2 hr, h⟩⟩)

/-! ## Marks and derivations -/

/-- Every marked nonterminal derives the empty sequence. -/
def Sound (g : Grammar) (ν : Nullability) : Prop :=
  ∀ name ∈ ν.marked, g.Derives [.nonterminal name] []

theorem Sound.derives_nil (hν : Sound g ν) (h : ν.allNullable c = true) : g.Derives c [] := by
  induction c with
  | nil => exact .refl []
  | cons s c ih =>
    obtain ⟨hs, hc⟩ := allNullable_cons.1 h
    have hsym : g.Derives [s] [] := by
      cases s with
      | terminal text =>
        obtain rfl : text = epsilonText := by simpa [isNullable] using hs
        exact derives_epsilon
      | nonterminal name => exact hν name (isNullable_nonterminal.1 hs)
    exact hsym.append (ih hc)

theorem sound_visit (ha : a ∈ g.alternatives) (hν : Sound g ν) : Sound g (ν.visit a).state := by
  intro name hname
  rcases mem_marked_visit.1 hname with hname | ⟨rfl, hempty⟩
  · exact hν name hname
  · obtain ⟨p, hp, hall⟩ := derivesEmpty_iff.1 hempty
    rw [(mem_alternatives.1 ha).2] at hp
    exact (derives_production hp).trans (hν.derives_nil hall)

theorem sound_compute (g : Grammar) : Sound g (compute g) :=
  saturate_induction (fun _ hν => sweep_induction (fun _ _ ha => sound_visit ha) hν) _
    fun _ h => absurd h (TextSet.not_mem_empty _)

theorem allNullable_of_produces (hs : g.Produces u v) (h : (compute g).allNullable v = true) :
    (compute g).allNullable u = true := by
  cases hs with
  | expand before after hr =>
    simp only [allNullable_append] at h
    exact allNullable_append.2 ⟨h.1.1, allNullable_cons.2
      ⟨isNullable_nonterminal.2 (mem_marked_of_rule hr h.1.2), h.2⟩⟩
  | erase before after =>
    obtain ⟨hbefore, hafter⟩ := allNullable_append.1 h
    exact allNullable_append.2 ⟨hbefore, allNullable_cons.2 ⟨isNullable_epsilon, hafter⟩⟩

/-- All of some symbols are nullable exactly if they derive the empty sequence. -/
theorem allNullable_compute_iff : (compute g).allNullable c = true ↔ g.Derives c [] := by
  constructor
  · exact (sound_compute g).derives_nil
  · intro h
    generalize hv : ([] : List Symbol) = v at h
    induction h with
    | refl => exact hv ▸ rfl
    | step hs _ ih => exact allNullable_of_produces hs (ih hv)

theorem mem_marked_iff : name ∈ (compute g).marked ↔ g.Derives [.nonterminal name] [] := by
  rw [← allNullable_compute_iff, allNullable_cons, isNullable_nonterminal]
  exact (and_iff_left rfl).symm

theorem isDefined_of_mem_marked (h : name ∈ (compute g).marked) : g.isDefined name = true :=
  isDefined_of_derives (mem_marked_iff.1 h) nofun

open Classical in
/-- The marked nonterminals are, in some order, those of the grammar that derive the empty
sequence. -/
theorem perm_toList_marked (g : Grammar) :
    (compute g).marked.toList.Perm
      (g.nonterminals.filter fun name => g.Derives [.nonterminal name] []) := by
  have hnodup : (compute g).marked.toList.Nodup :=
    (compute g).marked.sorted.imp String.ne_of_lt
  refine (List.perm_ext_iff_of_nodup hnodup (g.nodup_nonterminals.filter _)).2 fun name => ?_
  rw [TextSet.mem_toList, mem_marked_iff, List.mem_filter, decide_eq_true_iff]
  constructor
  · exact fun h => ⟨mem_nonterminals_of_isDefined (isDefined_of_derives h nofun), h⟩
  · exact And.right

end Nullability

open Classical in
/-- Nullability is exact: all of some symbols are nullable exactly if they derive the empty
sequence. So is a nonterminal, which has to be defined for that, and of the terminals only `epsilon`
is. The number of marks is the number of different nonterminals that derive the empty sequence. -/
theorem nullability_exact (g : Grammar) :
    (∀ c, (Nullability.compute g).allNullable c = true ↔ g.Derives c []) ∧
    (∀ name, (Nullability.compute g).isNullable (.nonterminal name) = true ↔
      g.Derives [.nonterminal name] []) ∧
    (∀ text, (Nullability.compute g).isNullable (.terminal text) = true ↔ text = epsilonText) ∧
    (∀ name, g.isDefined name = false →
      (Nullability.compute g).isNullable (.nonterminal name) = false) ∧
    g.nonterminals.Nodup ∧
    (Nullability.compute g).size =
      (g.nonterminals.filter fun name => g.Derives [.nonterminal name] []).length := by
  refine ⟨fun _ => Nullability.allNullable_compute_iff, fun name => ?_, fun text => ?_,
    fun name hname => ?_, g.nodup_nonterminals, (Nullability.perm_toList_marked g).length_eq⟩
  · rw [Nullability.isNullable_nonterminal, Nullability.mem_marked_iff]
  · exact beq_iff_eq
  · refine Bool.eq_false_iff.2 fun h => ?_
    have hd := Nullability.isDefined_of_mem_marked (Nullability.isNullable_nonterminal.1 h)
    exact absurd hd (Bool.eq_false_iff.1 hname)

/-- The grammar with a production of `A` without symbols, `B → epsilon A epsilon`, `C → C` and
`D → A Z`. -/
def scatteredEpsilons : Grammar :=
  .ofRules [
    ⟨"A", [], ⟨"sample.bnf", 1⟩⟩,
    ⟨"B", [.epsilon, .nonterminal "A", .epsilon], ⟨"sample.bnf", 2⟩⟩,
    ⟨"C", [.nonterminal "C"], ⟨"sample.bnf", 3⟩⟩,
    ⟨"D", [.nonterminal "A", .nonterminal "Z"], ⟨"sample.bnf", 4⟩⟩]

/-- Of the five nonterminals of the sample `A` and `B` derive the empty sequence; a cycle and an
undefined nonterminal do not. -/
theorem nullability_exact_scatteredEpsilons :
    scatteredEpsilons.isDefined "Z" = false ∧
    (Nullability.compute scatteredEpsilons).isNullable (.nonterminal "Z") = false ∧
    scatteredEpsilons.Derives [.nonterminal "B", .epsilon, .nonterminal "A"] [] ∧
    ¬ scatteredEpsilons.Derives [.nonterminal "C"] [] ∧
    ¬ scatteredEpsilons.Derives [.nonterminal "D"] [] ∧
    (Nullability.compute scatteredEpsilons).size = 2 := by
  have hz : scatteredEpsilons.isDefined "Z" = false := by decide
  obtain ⟨hall, hname, -, hundefined, -, -⟩ := nullability_exact scatteredEpsilons
  refine ⟨hz, hundefined "Z" hz, (hall _).1 ?_, mt (hname "C").2 ?_, mt (hname "D").2 ?_, ?_⟩
  all_goals decide +kernel

end Lookahead
