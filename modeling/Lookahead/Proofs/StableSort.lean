import Lookahead.Diagnostic
import Mathlib.Data.List.Sort

/-!
# Stable sorting by a number

`sortByKey key` is insertion sort, so its result is a permutation of the list and ascending, and it
commutes with any change of keys that keeps their order. The elements of any one key are the same
list before and after (`filter_sortByKey`), and there is only one ascending list with these
(`eq_of_filter_eq`). Hence sorting a part beforehand makes no difference, sorting commutes with
leaving elements out, and an element that is added goes behind those with no greater key
(`exists_sortByKey_append_singleton`).
-/

namespace Lookahead

variable {α : Type}

section InsertionSort

variable (key : α → Nat)

theorem insertByKey_eq (x : α) (l : List α) :
    insertByKey key x l = l.orderedInsert (key · ≤ key ·) x := by
  induction l with
  | nil => rfl
  | cons y ys ih => rw [insertByKey, List.orderedInsert_cons, ih]

theorem sortByKey_eq (l : List α) : sortByKey key l = l.insertionSort (key · ≤ key ·) := by
  induction l with
  | nil => rfl
  | cons x l ih => rw [List.insertionSort_cons, ← ih, ← insertByKey_eq]; rfl

theorem sortByKey_perm (l : List α) : (sortByKey key l).Perm l :=
  sortByKey_eq key l ▸ List.perm_insertionSort _ l

theorem pairwise_sortByKey (l : List α) : (sortByKey key l).Pairwise (key · ≤ key ·) := by
  have : Std.Total fun a b : α => key a ≤ key b := ⟨fun a b => Nat.le_total (key a) (key b)⟩
  have : IsTrans α fun a b : α => key a ≤ key b := ⟨fun _ _ _ => Nat.le_trans⟩
  rw [sortByKey_eq]
  exact List.pairwise_insertionSort _ l

/-- Elements of equal key keep their order. -/
theorem filter_sortByKey (k : Nat) (l : List α) :
    (sortByKey key l).filter (key · = k) = l.filter (key · = k) := by
  have hequal : (l.filter (key · = k)).Pairwise (key · ≤ key ·) := by
    refine List.pairwise_of_forall_mem_list fun a ha b hb => ?_
    simp only [List.mem_filter, decide_eq_true_eq] at ha hb
    omega
  have hsublist : (l.filter (key · = k)).Sublist (sortByKey key l) :=
    sortByKey_eq key l ▸ List.sublist_insertionSort hequal List.filter_sublist
  have hfilter := hsublist.filter (key · = k)
  rw [List.filter_filter] at hfilter
  simp only [Bool.and_self] at hfilter
  exact (hfilter.eq_of_length ((sortByKey_perm key l).filter _).length_eq.symm).symm

end InsertionSort

/-! ## The first of the sorted list -/

/-- No element of the list has a smaller key than `x`, and `x` is the first with its key. -/
structure FirstLeast (key : α → Nat) (l : List α) (x : α) : Prop where
  least : ∀ y ∈ l, key x ≤ key y
  first : l.find? (key · = key x) = some x

theorem firstLeast_of_head?_sortByKey {key : α → Nat} {l : List α} {x : α}
    (h : (sortByKey key l).head? = some x) : FirstLeast key l x := by
  obtain ⟨rest, hsorted⟩ := List.head?_eq_some_iff.1 h
  constructor
  · intro y hy
    have hpairwise := pairwise_sortByKey key l
    rw [← (sortByKey_perm key l).mem_iff, hsorted] at hy
    rw [hsorted, List.pairwise_cons] at hpairwise
    rcases List.mem_cons.1 hy with rfl | hy
    · exact Nat.le_refl _
    · exact hpairwise.1 y hy
  · rw [← List.head?_filter, ← filter_sortByKey, hsorted, List.filter_cons,
      if_pos (decide_eq_true rfl), List.head?_cons]

theorem head?_sortByKey_eq_none {key : α → Nat} {l : List α} :
    (sortByKey key l).head? = none ↔ l = [] := by
  rw [List.head?_eq_none_iff]
  constructor
  · intro h
    exact (h ▸ sortByKey_perm key l).nil_eq.symm
  · rintro rfl
    rfl

/-- The first least element of pieces with one key each is in the first least piece. -/
theorem FirstLeast.of_flatMap {β : Type} {key : β → Nat} {key' : α → Nat} {f : α → List β}
    {l : List α} {b : β} (hkey : ∀ a, ∀ b ∈ f a, key b = key' a)
    (h : FirstLeast key (l.flatMap f) b) :
    ∃ a, b ∈ f a ∧ FirstLeast key' (l.filter fun a => f a ≠ []) a := by
  have hfirst := h.first
  rw [List.find?_flatMap] at hfirst
  obtain ⟨before, a, after, rfl, hb, hbefore⟩ := List.findSome?_eq_some_iff.1 hfirst
  have hmem : b ∈ f a := List.mem_of_find?_eq_some hb
  have hab : key b = key' a := hkey a b hmem
  refine ⟨a, hmem, ?_, ?_⟩
  · intro a' ha'
    obtain ⟨ha', hne⟩ := List.mem_filter.1 ha'
    obtain ⟨b', hb'⟩ := List.exists_mem_of_ne_nil _ (of_decide_eq_true hne)
    rw [← hab, ← hkey a' b' hb']
    exact h.least b' (List.mem_flatMap.2 ⟨a', ha', hb'⟩)
  · rw [List.find?_filter, List.find?_eq_some_iff_append]
    refine ⟨by simp [List.ne_nil_of_mem hmem], before, after, rfl, fun a' ha' => ?_⟩
    have hnone := List.find?_eq_none.1 (hbefore a' ha')
    simp only [Bool.not_eq_true', decide_eq_false_iff_not, decide_eq_true_eq, not_and]
    rintro hne hkey'
    obtain ⟨b', hb'⟩ := List.exists_mem_of_ne_nil _ hne
    exact hnone b' hb' (decide_eq_true (by rw [hkey a' b' hb', hkey', hab]))

/-! ## The only sorted list -/

theorem filter_eq_nil_of_lt {key : α → Nat} {a b : α} {l : List α} (hlt : key a < key b)
    (h : (b :: l).Pairwise (key · ≤ key ·)) : (b :: l).filter (key · = key a) = [] := by
  obtain ⟨hb, -⟩ := List.pairwise_cons.1 h
  refine List.filter_eq_nil_iff.2 fun y hy => ?_
  have hle : key b ≤ key y := by
    rcases List.mem_cons.1 hy with rfl | hy
    · exact Nat.le_refl _
    · exact hb y hy
  simp only [decide_eq_true_eq]
  omega

/-- An ascending list is determined by its elements of each key. -/
theorem eq_of_filter_eq {key : α → Nat} {l l' : List α} (h : l.Pairwise (key · ≤ key ·))
    (h' : l'.Pairwise (key · ≤ key ·))
    (heq : ∀ k, l.filter (key · = k) = l'.filter (key · = k)) : l = l' := by
  induction l generalizing l' with
  | nil =>
    cases l' with
    | nil => rfl
    | cons b bs => simpa using heq (key b)
  | cons a as ih =>
    cases l' with
    | nil => simpa using heq (key a)
    | cons b bs =>
      have hab : key a = key b := by
        rcases Nat.lt_trichotomy (key a) (key b) with hlt | hab | hlt
        · have hnil := (heq (key a)).trans (filter_eq_nil_of_lt hlt h')
          simp at hnil
        · exact hab
        · have hnil := (heq (key b)).symm.trans (filter_eq_nil_of_lt hlt h)
          simp at hnil
      have hhead := heq (key b)
      simp only [List.filter_cons, hab, decide_true, if_true] at hhead
      obtain ⟨rfl, -⟩ := List.cons.inj hhead
      have htail : ∀ k, as.filter (key · = k) = bs.filter (key · = k) := by
        intro k
        have hk := heq k
        simp only [List.filter_cons] at hk
        split at hk
        · exact (List.cons.inj hk).2
        · exact hk
      rw [ih (List.pairwise_cons.1 h).2 (List.pairwise_cons.1 h').2 htail]

/-- Sorting depends only on the elements of each key and their order. -/
theorem sortByKey_congr {key : α → Nat} {l l' : List α}
    (h : ∀ k, l.filter (key · = k) = l'.filter (key · = k)) : sortByKey key l = sortByKey key l' :=
  eq_of_filter_eq (pairwise_sortByKey key l) (pairwise_sortByKey key l') fun k => by
    rw [filter_sortByKey, filter_sortByKey, h]

theorem sortByKey_sortByKey_append (key : α → Nat) (l l' : List α) :
    sortByKey key (sortByKey key l ++ l') = sortByKey key (l ++ l') :=
  sortByKey_congr fun k => by
    rw [List.filter_append, List.filter_append, filter_sortByKey]

theorem sortByKey_append_sortByKey (key : α → Nat) (l l' : List α) :
    sortByKey key (l ++ sortByKey key l') = sortByKey key (l ++ l') :=
  sortByKey_congr fun k => by
    rw [List.filter_append, List.filter_append, filter_sortByKey]

/-- What holds from earlier to later elements still holds among those of equal key. -/
theorem pairwise_sortByKey_of_pairwise {key : α → Nat} {l : List α} {r : α → α → Prop}
    (h : l.Pairwise r) : (sortByKey key l).Pairwise fun a b => key a = key b → r a b := by
  have hkeys (k : Nat) : ((sortByKey key l).filter (key · = k)).Pairwise r := by
    rw [filter_sortByKey]
    exact h.filter _
  generalize sortByKey key l = sorted at hkeys
  induction sorted with
  | nil => exact .nil
  | cons a sorted ih =>
    refine List.pairwise_cons.2 ⟨fun b hb hab => ?_, ih fun k => ?_⟩
    · have ha := hkeys (key a)
      rw [List.filter_cons, if_pos (decide_eq_true rfl)] at ha
      exact (List.pairwise_cons.1 ha).1 b (List.mem_filter.2 ⟨hb, decide_eq_true hab.symm⟩)
    · exact (hkeys k).sublist ((List.sublist_cons_self a sorted).filter _)

theorem exists_append_of_pairwise {key : α → Nat} {l : List α} (h : l.Pairwise (key · ≤ key ·))
    (k : Nat) :
    ∃ before after, l = before ++ after ∧ (∀ y ∈ before, key y ≤ k) ∧ ∀ y ∈ after, k < key y := by
  induction l with
  | nil => exact ⟨[], [], rfl, nofun, nofun⟩
  | cons a as ih =>
    obtain ⟨ha, has⟩ := List.pairwise_cons.1 h
    by_cases hak : key a ≤ k
    · obtain ⟨before, after, rfl, hbefore, hafter⟩ := ih has
      exact ⟨a :: before, after, rfl, List.forall_mem_cons.2 ⟨hak, hbefore⟩, hafter⟩
    · refine ⟨[], a :: as, rfl, nofun, List.forall_mem_cons.2 ⟨by omega, fun y hy => ?_⟩⟩
      have hay := ha y hy
      omega

/-- An element that is added to an ascending list goes behind those with no greater key. -/
theorem exists_sortByKey_append_singleton {key : α → Nat} {l : List α}
    (h : l.Pairwise (key · ≤ key ·)) (x : α) :
    ∃ before after, l = before ++ after ∧ sortByKey key (l ++ [x]) = before ++ x :: after ∧
      (∀ y ∈ before, key y ≤ key x) ∧ ∀ y ∈ after, key x < key y := by
  obtain ⟨before, after, rfl, hbefore, hafter⟩ := exists_append_of_pairwise h (key x)
  refine ⟨before, after, rfl, ?_, hbefore, hafter⟩
  obtain ⟨hb, ha, hba⟩ := List.pairwise_append.1 h
  refine eq_of_filter_eq (pairwise_sortByKey _ _) ?_ fun k => ?_
  · refine List.pairwise_append.2 ⟨hb, List.pairwise_cons.2 ⟨?_, ha⟩, fun y hy z hz => ?_⟩
    · exact fun y hy => Nat.le_of_lt (hafter y hy)
    · rcases List.mem_cons.1 hz with rfl | hz
      · exact hbefore y hy
      · exact hba y hy z hz
  · rw [filter_sortByKey, List.append_assoc, List.filter_append, List.filter_append,
      List.filter_append, List.filter_cons]
    by_cases hk : key x = k
    · have hnil : after.filter (key · = k) = [] := by
        refine List.filter_eq_nil_iff.2 fun y hy => ?_
        have hlt := hafter y hy
        simp only [decide_eq_true_eq]
        omega
      simp [hk, hnil]
    · simp [hk]

theorem sortByKey_filter (key : α → Nat) (p : α → Bool) (l : List α) :
    sortByKey key (l.filter p) = (sortByKey key l).filter p := by
  refine eq_of_filter_eq (pairwise_sortByKey key _) ((pairwise_sortByKey key l).filter p)
    fun k => ?_
  rw [filter_sortByKey, List.filter_filter, List.filter_filter]
  simp only [Bool.and_comm _ (p _)]
  rw [← List.filter_filter, ← List.filter_filter, filter_sortByKey]

variable {β : Type} {key : α → Nat} {key' : β → Nat} {f : α → β}

theorem sortByKey_map {l : List α}
    (h : ∀ x ∈ l, ∀ y ∈ l, key' (f x) ≤ key' (f y) ↔ key x ≤ key y) :
    sortByKey key' (l.map f) = (sortByKey key l).map f := by
  rw [sortByKey_eq, sortByKey_eq]
  exact (List.map_insertionSort _ _ f l fun x hx y hy => (h x hx y hy).symm).symm

end Lookahead
