import Lookahead.Conflict
import Lookahead.Proofs.First.Exact
import Lookahead.Proofs.Grammar.Canonical
import Mathlib.Data.List.Forall2

/-!
# Alternation warnings are exact

Two productions of a nonterminal are confusable if both derive sequences that begin with the same
terminal, or both derive the empty sequence. In a canonical grammar there is exactly one alternation
warning for each confusable pair of positions, in order of the heads and then of the positions, and
it shows exactly the shared lookaheads.
-/

namespace Lookahead

open Grammar

variable {g : Grammar} {first : FirstSets} {p q : Production} {left right : Symbol}
  {head t : String} {w : Warning}

def Conflict.isAlternation : Conflict → Bool
  | .alternation .. => true
  | .concatenation .. => false

/-- Two productions of one nonterminal, by their positions. -/
structure Rivals where
  head : String
  first : Nat
  second : Nat
  deriving DecidableEq, Repr

/-- The pairs of different positions below `n`, in order of the first and then the second. -/
def positionPairs (n : Nat) : List (Nat × Nat) :=
  (List.range n).flatMap fun i => ((List.range n).filter (i < ·)).map fun j => (i, j)

namespace Grammar

/-- All pairs of productions of one nonterminal, in order of the heads and then of the positions. -/
def rivals (g : Grammar) : List Rivals :=
  g.heads.flatMap fun head =>
    (positionPairs (g.productions head).length).map fun ij => ⟨head, ij.1, ij.2⟩

/-- The order of pairs: by head as in the grammar, then by the first and the second position. -/
def Earlier (g : Grammar) (r r' : Rivals) : Prop :=
  g.heads.idxOf r.head < g.heads.idxOf r'.head ∨
    r.head = r'.head ∧ (r.first < r'.first ∨ r.first = r'.first ∧ r.second < r'.second)

/-- One terminal of lookahead does not tell the productions apart. -/
def Confusable (g : Grammar) (p q : Production) : Prop :=
  (∃ t, g.Starts p.symbols t ∧ g.Starts q.symbols t) ∨
    g.Derives p.symbols [] ∧ g.Derives q.symbols []

/-- The lookaheads that two productions share: terminals that both can start with, and `epsilon` if
both can be empty. -/
def SharedBy (g : Grammar) (p q : Production) (t : String) : Prop :=
  g.Starts p.symbols t ∧ g.Starts q.symbols t ∨
    t = epsilonText ∧ g.Derives p.symbols [] ∧ g.Derives q.symbols []

/-- `p` and `q` are the productions at the two positions. -/
def At (g : Grammar) (r : Rivals) (p q : Production) : Prop :=
  (g.productions r.head)[r.first]? = some p ∧ (g.productions r.head)[r.second]? = some q

/-- The productions at the two positions are confusable. -/
def Clashes (g : Grammar) (r : Rivals) : Prop := ∃ p q, g.At r p q ∧ g.Confusable p q

/-- The warning is about the productions at the two positions, is placed at the second and shows
exactly the lookaheads that they share. -/
def Reports (g : Grammar) (r : Rivals) (w : Warning) : Prop :=
  ∃ p q shared, g.At r p q ∧ (∀ t, t ∈ shared ↔ g.SharedBy p q t) ∧
    w = ⟨q.location, .alternation r.head p.symbols q.symbols shared⟩

end Grammar

/-! ## Pairs of positions -/

theorem forall₂_range {α : Type} (l : List α) :
    List.Forall₂ (fun j a => l[j]? = some a) (List.range l.length) l := by
  induction l with
  | nil => exact .nil
  | cons a l ih =>
    rw [List.length_cons, List.range_succ_eq_map]
    exact .cons rfl (List.forall₂_map_left_iff.2 ih)

theorem positionPairs_succ (n : Nat) :
    positionPairs (n + 1) =
      (List.range n).map (fun j => (0, j + 1)) ++
        (positionPairs n).map fun ij => (ij.1 + 1, ij.2 + 1) := by
  simp [positionPairs, List.range_succ_eq_map, List.flatMap_map, List.map_flatMap, List.filter_map,
    Function.comp_def]

theorem forall₂_pairs {α : Type} (l : List α) :
    List.Forall₂ (fun ij ab => l[ij.1]? = some ab.1 ∧ l[ij.2]? = some ab.2)
      (positionPairs l.length) (pairs l) := by
  induction l with
  | nil => exact .nil
  | cons a l ih =>
    rw [List.length_cons, positionPairs_succ, pairs]
    refine List.rel_append ?_ ?_
    · rw [List.forall₂_map_left_iff, List.forall₂_map_right_iff]
      exact (forall₂_range l).imp fun _ _ h => ⟨rfl, h⟩
    · rw [List.forall₂_map_left_iff]
      exact ih.imp fun _ _ h => h

theorem mem_positionPairs {n : Nat} {ij : Nat × Nat} :
    ij ∈ positionPairs n ↔ ij.1 < ij.2 ∧ ij.2 < n := by
  obtain ⟨i, j⟩ := ij
  simp only [positionPairs, List.mem_flatMap, List.mem_map, List.mem_filter, List.mem_range,
    decide_eq_true_eq, Prod.mk.injEq]
  constructor
  · rintro ⟨i, -, j, ⟨hj, hij⟩, rfl, rfl⟩
    exact ⟨hij, hj⟩
  · rintro ⟨hij, hj⟩
    exact ⟨i, by omega, j, ⟨hj, hij⟩, rfl, rfl⟩

theorem mem_rivals {r : Rivals} :
    r ∈ g.rivals ↔
      r.head ∈ g.heads ∧ r.first < r.second ∧ r.second < (g.productions r.head).length := by
  simp only [rivals, List.mem_flatMap, List.mem_map, mem_positionPairs]
  constructor
  · rintro ⟨head, hhead, ij, hij, rfl⟩
    exact ⟨hhead, hij⟩
  · rintro ⟨hhead, hij⟩
    exact ⟨r.head, hhead, (r.first, r.second), hij, rfl⟩

theorem pairwise_positionPairs (n : Nat) :
    (positionPairs n).Pairwise fun ij kl => ij.1 < kl.1 ∨ ij.1 = kl.1 ∧ ij.2 < kl.2 := by
  induction n with
  | zero => exact .nil
  | succ n ih =>
    rw [positionPairs_succ, List.pairwise_append, List.pairwise_map, List.pairwise_map]
    refine ⟨List.pairwise_lt_range.imp ?_, ih.imp ?_, ?_⟩
    · intro i j hij
      exact .inr ⟨rfl, Nat.succ_lt_succ hij⟩
    · intro ij kl h
      omega
    · intro ij hij kl hkl
      obtain ⟨j, -, rfl⟩ := List.mem_map.1 hij
      obtain ⟨kl, -, rfl⟩ := List.mem_map.1 hkl
      exact .inl (Nat.succ_pos _)

theorem pairwise_rivals (g : Grammar) : g.rivals.Pairwise g.Earlier := by
  refine List.pairwise_flatMap.2 ⟨fun head _ => ?_, ?_⟩
  · rw [List.pairwise_map]
    exact (pairwise_positionPairs _).imp fun h => .inr ⟨rfl, h⟩
  · refine List.pairwise_iff_getElem.2 fun i j hi hj hij => ?_
    intro r hr r' hr'
    obtain ⟨_, -, rfl⟩ := List.mem_map.1 hr
    obtain ⟨_, -, rfl⟩ := List.mem_map.1 hr'
    refine .inl ?_
    rwa [g.nodup_heads.idxOf_getElem, g.nodup_heads.idxOf_getElem]

theorem alternation?_eq_some :
    Alternatives.alternation? first head p q = some w ↔
      (∃ t, t ∈ (first.ofChain p.symbols).shared (first.ofChain q.symbols)) ∧
        w = ⟨q.location, .alternation head p.symbols q.symbols
          ((first.ofChain p.symbols).shared (first.ofChain q.symbols))⟩ := by
  simp only [Alternatives.alternation?]
  split
  · rename_i hempty
    simp [TextSet.isEmpty_iff.1 hempty]
  · rename_i hempty
    rw [Bool.not_eq_true, TextSet.isEmpty_eq_false_iff] at hempty
    rw [and_iff_right hempty, Option.some_inj, eq_comm]

theorem concatenation?_eq_some :
    Alternatives.concatenation? first head p left right = some w ↔
      first.isNullable left = true ∧
      (∃ t, t ∈ (first.ofSymbol left).terminals ∩ (first.ofSymbol right).terminals) ∧
        w = ⟨p.location, .concatenation head p.symbols left right
          ((first.ofSymbol left).terminals ∩ (first.ofSymbol right).terminals)⟩ := by
  simp only [Alternatives.concatenation?]
  split
  · rename_i h
    rw [Bool.and_eq_true_iff, Bool.not_eq_true', TextSet.isEmpty_eq_false_iff] at h
    rw [and_iff_right h.1, and_iff_right h.2, Option.some_inj, eq_comm]
  · rename_i h
    rw [Bool.and_eq_true_iff, Bool.not_eq_true', TextSet.isEmpty_eq_false_iff] at h
    refine ⟨nofun, ?_⟩
    rintro ⟨hnull, hex, -⟩
    exact absurd ⟨hnull, hex⟩ h

theorem mem_shared {a b : FirstSet} :
    t ∈ a.shared b ↔
      t ∈ a.terminals ∧ t ∈ b.terminals ∨
        t = epsilonText ∧ a.nullable = true ∧ b.nullable = true := by
  obtain ⟨ts, m⟩ := a
  obtain ⟨us, n⟩ := b
  cases m <;> cases n <;> simp [FirstSet.shared, or_comm]

theorem mem_shared_ofChain (hp : p.IsCanonical) (hq : q.IsCanonical) :
    t ∈ (g.firstSets.ofChain p.symbols).shared (g.firstSets.ofChain q.symbols) ↔
      g.SharedBy p q t := by
  rw [FirstSets.ofChain_of_ne_nil hp.symbols_ne_nil, FirstSets.ofChain_of_ne_nil hq.symbols_ne_nil,
    mem_shared, FirstSets.mem_ofSequence_iff, FirstSets.mem_ofSequence_iff,
    FirstSets.nullable_ofSequence_iff, FirstSets.nullable_ofSequence_iff]
  rfl

theorem confusable_iff : g.Confusable p q ↔ ∃ t, g.SharedBy p q t := by
  constructor
  · rintro (⟨t, ht⟩ | hnil)
    · exact ⟨t, .inl ht⟩
    · exact ⟨epsilonText, .inr ⟨rfl, hnil⟩⟩
  · rintro ⟨t, ht | ⟨-, hnil⟩⟩
    · exact .inl ⟨t, ht⟩
    · exact .inr hnil

/-- There is a warning about two canonical productions exactly if they are confusable. -/
theorem alternation?_firstSets (hp : p.IsCanonical) (hq : q.IsCanonical) (head : String) :
    ¬ g.Confusable p q ∧ Alternatives.alternation? g.firstSets head p q = none ∨
      g.Confusable p q ∧ ∃ shared, (∀ t, t ∈ shared ↔ g.SharedBy p q t) ∧
        Alternatives.alternation? g.firstSets head p q =
          some ⟨q.location, .alternation head p.symbols q.symbols shared⟩ := by
  have hmem : ∀ t, t ∈ (g.firstSets.ofChain p.symbols).shared (g.firstSets.ofChain q.symbols) ↔
      g.SharedBy p q t := fun _ => mem_shared_ofChain hp hq
  by_cases hconf : g.Confusable p q
  · obtain ⟨t, ht⟩ := confusable_iff.1 hconf
    exact .inr ⟨hconf, _, hmem, alternation?_eq_some.2 ⟨⟨t, (hmem t).2 ht⟩, rfl⟩⟩
  · refine .inl ⟨hconf, Option.eq_none_iff_forall_ne_some.2 fun w hw => hconf ?_⟩
    obtain ⟨⟨t, ht⟩, -⟩ := alternation?_eq_some.1 hw
    exact confusable_iff.2 ⟨t, (hmem t).1 ht⟩

/-! ## The warnings -/

theorem filter_conflicts (g : Grammar) (first : FirstSets) :
    (g.conflicts first).filter (·.kind.isAlternation) =
      g.heads.flatMap fun head =>
        (⟨head, g.productions head⟩ : Alternatives).alternations first := by
  have halternations : ∀ a : Alternatives, ∀ w ∈ a.alternations first,
      w.kind.isAlternation = true := by
    intro a w hw
    obtain ⟨⟨p, q⟩, -, hw⟩ := List.mem_filterMap.1 hw
    obtain ⟨-, rfl⟩ := alternation?_eq_some.1 hw
    rfl
  have hconcatenations : ∀ a : Alternatives, ∀ w ∈ a.concatenations first,
      ¬ w.kind.isAlternation = true := by
    intro a w hw
    obtain ⟨p, -, hw⟩ := List.mem_flatMap.1 hw
    obtain ⟨⟨left, right⟩, -, hw⟩ := List.mem_filterMap.1 hw
    obtain ⟨-, -, rfl⟩ := concatenation?_eq_some.1 hw
    nofun
  rw [conflicts, alternatives, List.flatMap_map, List.filter_flatMap]
  congr 1
  funext head
  rw [List.filter_append, List.filter_eq_self.2 (halternations _),
    List.filter_eq_nil_iff.2 (hconcatenations _), List.append_nil]

/-- Selecting on one side what the other side keeps relates what is left. -/
theorem forall₂_filter_filterMap {α β γ : Type} {R : α → β → Prop} {S : α → γ → Prop}
    {keep : α → Bool} {f : β → Option γ} {as : List α} {bs : List β} (h : List.Forall₂ R as bs)
    (hf : ∀ a b, R a b → keep a = false ∧ f b = none ∨ keep a = true ∧ ∃ c, S a c ∧ f b = some c) :
    List.Forall₂ S (as.filter keep) (bs.filterMap f) := by
  induction h with
  | nil => exact .nil
  | cons hab _ ih =>
    rcases hf _ _ hab with ⟨hkeep, hnone⟩ | ⟨hkeep, c, hc, hsome⟩
    · rwa [List.filter_cons_of_neg (by simp [hkeep]), List.filterMap_cons_none hnone]
    · rw [List.filter_cons_of_pos hkeep, List.filterMap_cons_some hsome]
      exact .cons hc ih

open Classical in
theorem forall₂_alternations (hg : g.IsCanonical) (head : String) :
    List.Forall₂ g.Reports
      (((positionPairs (g.productions head).length).map fun ij =>
        (⟨head, ij.1, ij.2⟩ : Rivals)).filter (g.Clashes ·))
      ((⟨head, g.productions head⟩ : Alternatives).alternations g.firstSets) := by
  refine forall₂_filter_filterMap (R := fun r pq => r.head = head ∧ g.At r pq.1 pq.2) ?_ ?_
  · rw [List.forall₂_map_left_iff]
    exact (forall₂_pairs (g.productions head)).imp fun _ _ h => ⟨rfl, h⟩
  · rintro r ⟨p, q⟩ ⟨rfl, hat⟩
    have hp : p.IsCanonical := hg _ (mem_productions.1 (List.mem_of_getElem? hat.1))
    have hq : q.IsCanonical := hg _ (mem_productions.1 (List.mem_of_getElem? hat.2))
    have hclash : g.Clashes r ↔ g.Confusable p q := by
      refine ⟨?_, fun h => ⟨p, q, hat, h⟩⟩
      rintro ⟨p', q', hat', h⟩
      obtain rfl : p' = p := Option.some.inj (hat'.1.symm.trans hat.1)
      obtain rfl : q' = q := Option.some.inj (hat'.2.symm.trans hat.2)
      exact h
    rcases alternation?_firstSets hp hq r.head with ⟨hnot, hnone⟩ | ⟨hconf, shared, hmem, hsome⟩
    · exact .inl ⟨decide_eq_false (mt hclash.1 hnot), hnone⟩
    · exact .inr ⟨decide_eq_true (hclash.2 hconf), _, ⟨p, q, shared, hat, hmem, rfl⟩, hsome⟩

open Classical in
/-- There is one alternation warning for each confusable pair, in the order of the pairs. -/
theorem forall₂_reports (hg : g.IsCanonical) :
    List.Forall₂ g.Reports (g.rivals.filter (g.Clashes ·))
      ((g.conflicts g.firstSets).filter (·.kind.isAlternation)) := by
  rw [filter_conflicts, rivals, List.filter_flatMap]
  refine List.rel_flatMap (List.forall₂_eq_eq_eq ▸ rfl) ?_
  rintro head _ rfl
  exact forall₂_alternations hg head

theorem not_clashes_of_no_alternation (hg : g.IsCanonical)
    (hnone : ∀ w ∈ g.conflicts g.firstSets, w.kind.isAlternation = false) {r : Rivals}
    (hr : r ∈ g.rivals) : ¬ g.Clashes r := by
  classical
  have hreports := forall₂_reports hg
  rw [List.filter_eq_nil_iff.2 fun w hw => Bool.eq_false_iff.1 (hnone w hw),
    List.forall₂_nil_right_iff] at hreports
  simpa using List.filter_eq_nil_iff.1 hreports r hr

open Classical in
/-- In a canonical grammar there is exactly one alternation warning for each pair of confusable
productions of a head, in ascending order of the head and the two positions. -/
theorem alternation_warnings_exact (g : Grammar) (hg : g.IsCanonical) :
    List.Forall₂ g.Reports (g.rivals.filter (g.Clashes ·))
      ((g.conflicts (analyze g).first).filter (·.kind.isAlternation)) ∧
    g.rivals.Pairwise g.Earlier ∧
    ∀ r, r ∈ g.rivals ↔
      r.head ∈ g.heads ∧ r.first < r.second ∧ r.second < (g.productions r.head).length :=
  ⟨forall₂_reports hg, pairwise_rivals g, fun _ => mem_rivals⟩

/-- The grammar `S → "a"` twice, `S → A`, `S → epsilon`, `A → epsilon`. -/
def doubledAndEmpty : Grammar :=
  .ofRules [
    ⟨"S", .canonical [.terminal "a"] ⟨"sample.bnf", 1⟩⟩,
    ⟨"S", .canonical [.terminal "a"] ⟨"sample.bnf", 2⟩⟩,
    ⟨"S", .canonical [.nonterminal "A"] ⟨"sample.bnf", 3⟩⟩,
    ⟨"S", .canonical [] ⟨"sample.bnf", 4⟩⟩,
    ⟨"A", .canonical [] ⟨"sample.bnf", 5⟩⟩]

open Classical in
/-- Of six pairs the duplicates and the two that can be empty are confusable. -/
theorem alternation_warnings_exact_doubledAndEmpty :
    doubledAndEmpty.IsCanonical ∧
    List.Forall₂ doubledAndEmpty.Reports
      (doubledAndEmpty.rivals.filter (doubledAndEmpty.Clashes ·))
      [⟨⟨"sample.bnf", 2⟩,
          .alternation "S" [.terminal "a"] [.terminal "a"] (.singleton "a")⟩,
        ⟨⟨"sample.bnf", 4⟩,
          .alternation "S" [.nonterminal "A"] [.epsilon] (.singleton epsilonText)⟩] := by
  have hcanonical : doubledAndEmpty.IsCanonical := by
    simp only [IsCanonical, doubledAndEmpty, ofRules, List.forall_mem_cons]
    exact ⟨⟨_, _, rfl⟩, ⟨_, _, rfl⟩, ⟨_, _, rfl⟩, ⟨_, _, rfl⟩, ⟨_, _, rfl⟩, List.forall_mem_nil _⟩
  have hwarnings : (doubledAndEmpty.conflicts (analyze doubledAndEmpty).first).filter
      (·.kind.isAlternation) =
      [⟨⟨"sample.bnf", 2⟩,
          .alternation "S" [.terminal "a"] [.terminal "a"] (.singleton "a")⟩,
        ⟨⟨"sample.bnf", 4⟩,
          .alternation "S" [.nonterminal "A"] [.epsilon] (.singleton epsilonText)⟩] := by
    decide +kernel
  exact ⟨hcanonical, hwarnings ▸ (alternation_warnings_exact doubledAndEmpty hcanonical).1⟩

end Lookahead
