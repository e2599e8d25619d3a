import Lookahead.Proofs.Conflict.Alternation

/-!
# The places of conflicts

A conflict is between two productions of a nonterminal or between two neighbours in a production,
and its place says which, by their positions. Two warnings can be equal but never stand at the same
place. The conflicts of a grammar are the warnings at all of its places (`map_snd_placedConflicts`),
by nonterminal, then pairs of productions before pairs of neighbours, then from left to right
(`pairwise_placedConflicts`).
-/

namespace Lookahead

/-- Where two things can be in conflict. -/
inductive Conflict.Place where
  /-- Two productions of `head`, by their positions. -/
  | alternation (head : String) (first second : Nat)
  /-- The symbol at `index` in a production of `head`, and the one after it. -/
  | concatenation (head : String) (production index : Nat)
  deriving DecidableEq, Repr

namespace Conflict.Place

def head : Place → String
  | alternation head .. => head
  | concatenation head .. => head

/-- The order of places of one nonterminal: pairs of productions come first, and each sort is in
order of the first and then the second number. -/
def Precedes : Place → Place → Prop
  | alternation _ i j, alternation _ k l => i < k ∨ i = k ∧ j < l
  | alternation .., concatenation .. => True
  | concatenation .., alternation .. => False
  | concatenation _ i j, concatenation _ k l => i < k ∨ i = k ∧ j < l

theorem not_precedes_self (place : Place) : ¬ place.Precedes place := by
  cases place with
  | alternation head i j => simp [Precedes]
  | concatenation head i j => simp [Precedes]

end Conflict.Place

namespace Grammar

variable {g : Grammar} {first : FirstSets} {place : Conflict.Place} {w : Warning} {p q : Production}
  {left right : Symbol} {head : String} {i j k : Nat}

/-- The order of places: by nonterminal as in the grammar, then as in each nonterminal. -/
def Before (g : Grammar) (place place' : Conflict.Place) : Prop :=
  g.heads.idxOf place.head < g.heads.idxOf place'.head ∨
    place.head = place'.head ∧ place.Precedes place'

theorem not_before_self (g : Grammar) (place : Conflict.Place) : ¬ g.Before place place := by
  rintro (h | ⟨-, h⟩)
  · exact Nat.lt_irrefl _ h
  · exact place.not_precedes_self h

/-- The warning at a place, if what stands there is in conflict by the given FIRST sets. -/
def warningAt? (g : Grammar) (first : FirstSets) : Conflict.Place → Option Warning
  | .alternation head i j => do
    let p ← (g.productions head)[i]?
    let q ← (g.productions head)[j]?
    Alternatives.alternation? first head p q
  | .concatenation head k i => do
    let p ← (g.productions head)[k]?
    let left ← p.symbols[i]?
    let right ← p.symbols[i + 1]?
    Alternatives.concatenation? first head p left right

def placesOf (g : Grammar) (head : String) : List Conflict.Place :=
  (positionPairs (g.productions head).length).map (fun ij => .alternation head ij.1 ij.2) ++
    (g.productions head).zipIdx.flatMap fun pk =>
      (List.range (pk.1.symbols.length - 1)).map fun i => .concatenation head pk.2 i

/-- All places of the grammar, in order. -/
def places (g : Grammar) : List Conflict.Place := g.heads.flatMap g.placesOf

/-- The conflicts by given FIRST sets, each with its place. -/
def placedConflicts (g : Grammar) (first : FirstSets) : List (Conflict.Place × Warning) :=
  g.places.filterMap fun place => (g.warningAt? first place).map fun w => (place, w)

theorem warningAt?_alternation :
    g.warningAt? first (.alternation head i j) = some w ↔
      ∃ p q, (g.productions head)[i]? = some p ∧ (g.productions head)[j]? = some q ∧
        Alternatives.alternation? first head p q = some w := by
  simp only [warningAt?, Option.bind_eq_bind, Option.bind_eq_some_iff]
  constructor
  · rintro ⟨p, hp, q, hq, hw⟩
    exact ⟨p, q, hp, hq, hw⟩
  · rintro ⟨p, q, hp, hq, hw⟩
    exact ⟨p, hp, q, hq, hw⟩

theorem warningAt?_concatenation :
    g.warningAt? first (.concatenation head k i) = some w ↔
      ∃ p left right, (g.productions head)[k]? = some p ∧ p.symbols[i]? = some left ∧
        p.symbols[i + 1]? = some right ∧
        Alternatives.concatenation? first head p left right = some w := by
  simp only [warningAt?, Option.bind_eq_bind, Option.bind_eq_some_iff]
  constructor
  · rintro ⟨p, hp, left, hleft, right, hright, hw⟩
    exact ⟨p, left, right, hp, hleft, hright, hw⟩
  · rintro ⟨p, left, right, hp, hleft, hright, hw⟩
    exact ⟨p, hp, left, hleft, right, hright, hw⟩

/-! ## The places -/

theorem alternation_mem_places :
    .alternation head i j ∈ g.places ↔ i < j ∧ j < (g.productions head).length := by
  simp only [places, placesOf, List.mem_flatMap, List.mem_append, List.mem_map, mem_positionPairs,
    Conflict.Place.alternation.injEq, reduceCtorEq, and_false, exists_false, or_false]
  constructor
  · rintro ⟨_, -, _, hij, rfl, rfl, rfl⟩
    exact hij
  · intro hij
    have hp : (g.productions head)[j] ∈ g.productions head := List.getElem_mem hij.2
    have hhead : head ∈ g.heads := mem_heads.2 (isDefined_head (mem_productions.1 hp))
    exact ⟨head, hhead, (i, j), hij, rfl, rfl, rfl⟩

theorem concatenation_mem_places :
    .concatenation head k i ∈ g.places ↔
      ∃ p, (g.productions head)[k]? = some p ∧ i + 1 < p.symbols.length := by
  simp only [places, placesOf, List.mem_flatMap, List.mem_append, List.mem_map, List.mem_range,
    List.mem_zipIdx_iff_getElem?, Conflict.Place.concatenation.injEq, reduceCtorEq, and_false,
    exists_false, false_or]
  constructor
  · rintro ⟨_, -, ⟨p, k⟩, hp, i, hi, rfl, rfl, rfl⟩
    exact ⟨p, hp, Nat.add_lt_of_lt_sub hi⟩
  · rintro ⟨p, hp, hi⟩
    have hhead : head ∈ g.heads :=
      mem_heads.2 (isDefined_head (mem_productions.1 (List.mem_of_getElem? hp)))
    exact ⟨head, hhead, (p, k), hp, i, Nat.lt_sub_of_add_lt hi, rfl, rfl, rfl⟩

theorem head_of_mem_placesOf (h : place ∈ g.placesOf head) : place.head = head := by
  rcases List.mem_append.1 h with h | h
  · obtain ⟨_, -, rfl⟩ := List.mem_map.1 h
    rfl
  · obtain ⟨_, -, h⟩ := List.mem_flatMap.1 h
    obtain ⟨_, -, rfl⟩ := List.mem_map.1 h
    rfl

theorem pairwise_placesOf (g : Grammar) (head : String) :
    (g.placesOf head).Pairwise Conflict.Place.Precedes := by
  have hnumbers : (g.productions head).zipIdx.Pairwise (·.2 < ·.2) := by
    rw [← List.pairwise_map (f := Prod.snd), List.zipIdx_map_snd]
    exact List.pairwise_lt_range'
  refine List.pairwise_append.2 ⟨?_, List.pairwise_flatMap.2 ⟨fun pk _ => ?_, ?_⟩, ?_⟩
  · rw [List.pairwise_map]
    exact pairwise_positionPairs _
  · rw [List.pairwise_map]
    exact List.pairwise_lt_range.imp fun h => .inr ⟨rfl, h⟩
  · refine hnumbers.imp fun hlt place hplace place' hplace' => ?_
    obtain ⟨_, -, rfl⟩ := List.mem_map.1 hplace
    obtain ⟨_, -, rfl⟩ := List.mem_map.1 hplace'
    exact .inl hlt
  · intro place hplace place' hplace'
    obtain ⟨_, -, rfl⟩ := List.mem_map.1 hplace
    obtain ⟨_, -, hplace'⟩ := List.mem_flatMap.1 hplace'
    obtain ⟨_, -, rfl⟩ := List.mem_map.1 hplace'
    exact trivial

theorem pairwise_places (g : Grammar) : g.places.Pairwise g.Before := by
  refine List.pairwise_flatMap.2 ⟨fun head _ => ?_, ?_⟩
  · refine (g.pairwise_placesOf head).imp_of_mem fun hplace hplace' h => .inr ⟨?_, h⟩
    rw [head_of_mem_placesOf hplace, head_of_mem_placesOf hplace']
  · refine List.pairwise_iff_getElem.2 fun i j hi hj hij place hplace place' hplace' => .inl ?_
    rw [head_of_mem_placesOf hplace, head_of_mem_placesOf hplace', g.nodup_heads.idxOf_getElem,
      g.nodup_heads.idxOf_getElem]
    exact hij

/-! ## The conflicts and their places -/

theorem mem_placedConflicts :
    (place, w) ∈ g.placedConflicts first ↔
      place ∈ g.places ∧ g.warningAt? first place = some w := by
  simp only [placedConflicts, List.mem_filterMap, Option.map_eq_some_iff, Prod.mk.injEq]
  constructor
  · rintro ⟨_, hplace, _, hw, rfl, rfl⟩
    exact ⟨hplace, hw⟩
  · rintro ⟨hplace, hw⟩
    exact ⟨place, hplace, w, hw, rfl, rfl⟩

theorem pairwise_placedConflicts (g : Grammar) (first : FirstSets) :
    (g.placedConflicts first).Pairwise fun c d => g.Before c.1 d.1 := by
  refine g.pairwise_places.filterMap _ fun place place' h c hc d hd => ?_
  obtain ⟨_, -, rfl⟩ := Option.map_eq_some_iff.1 hc
  obtain ⟨_, -, rfl⟩ := Option.map_eq_some_iff.1 hd
  exact h

theorem nodup_placedConflicts (g : Grammar) (first : FirstSets) :
    ((g.placedConflicts first).map Prod.fst).Nodup := by
  rw [List.Nodup, List.pairwise_map]
  refine (g.pairwise_placedConflicts first).imp fun {c d} hbefore heq => ?_
  rw [heq] at hbefore
  exact g.not_before_self d.1 hbefore

theorem filterMap_eq_of_forall₂ {α β γ : Type} {R : α → β → Prop} {f : α → Option γ}
    {f' : β → Option γ} {as : List α} {bs : List β} (h : List.Forall₂ R as bs)
    (hf : ∀ a b, R a b → f a = f' b) : as.filterMap f = bs.filterMap f' := by
  induction h with
  | nil => rfl
  | cons hab _ ih => rw [List.filterMap_cons, List.filterMap_cons, hf _ _ hab, ih]

theorem forall₂_neighbours {α : Type} (l : List α) :
    List.Forall₂ (fun i ab => l[i]? = some ab.1 ∧ l[i + 1]? = some ab.2)
      (List.range (l.length - 1)) (neighbours l) := by
  induction l with
  | nil => exact .nil
  | cons a l ih =>
    cases l with
    | nil => exact .nil
    | cons b l =>
      rw [List.length_cons, Nat.add_sub_cancel, List.length_cons, List.range_succ_eq_map]
      exact .cons ⟨rfl, rfl⟩ (List.forall₂_map_left_iff.2 ih)

theorem filterMap_placesOf (g : Grammar) (first : FirstSets) (head : String) :
    (g.placesOf head).filterMap (g.warningAt? first) =
      (⟨head, g.productions head⟩ : Alternatives).alternations first ++
        (⟨head, g.productions head⟩ : Alternatives).concatenations first := by
  rw [placesOf, List.filterMap_append]
  congr 1
  · rw [List.filterMap_map]
    refine filterMap_eq_of_forall₂ (forall₂_pairs _) ?_
    rintro ⟨i, j⟩ ⟨p, q⟩ ⟨hp, hq⟩
    simp only [Function.comp_apply, warningAt?, hp, hq]
    rfl
  · rw [List.filterMap_flatMap, Alternatives.concatenations]
    conv_rhs => rw [← List.zipIdx_map_fst 0 (g.productions head), List.flatMap_map]
    refine List.flatMap_congr fun pk hpk => ?_
    rw [List.filterMap_map]
    refine filterMap_eq_of_forall₂ (forall₂_neighbours _) ?_
    rintro i ⟨left, right⟩ ⟨hleft, hright⟩
    have hp := List.mem_zipIdx_iff_getElem?.1 hpk
    simp only [Function.comp_apply, warningAt?, hp, Option.bind_eq_bind, Option.bind_some]
    simp only [hleft, hright, Option.bind_some]

/-- The conflicts of a grammar are those at its places. -/
theorem map_snd_placedConflicts (g : Grammar) (first : FirstSets) :
    (g.placedConflicts first).map Prod.snd = g.conflicts first := by
  have hsnd (place : Conflict.Place) :
      ((g.warningAt? first place).map fun w => (place, w)).map Prod.snd =
        g.warningAt? first place := by
    rw [Option.map_map]
    exact Option.map_id'
  simp only [placedConflicts, List.map_filterMap, hsnd]
  simp only [places, List.filterMap_flatMap, filterMap_placesOf, conflicts, alternatives,
    List.flatMap_map]

end Grammar

end Lookahead
