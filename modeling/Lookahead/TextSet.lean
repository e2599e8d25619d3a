import Lookahead.Text.Quoted

/-!
# Sets of texts

A finite set of texts is the list of its members in ascending order of code points. Two sets with
the same members are therefore equal (`ext`), and the order in which a set is shown is part of it.
A set is shown between braces, each member between double quotes: as it is where people read a
report, and with escapes where a log line must stay on one line.
-/

namespace Lookahead

structure TextSet where
  /-- The members in ascending order. -/
  toList : List String
  sorted : toList.Pairwise (· < ·)
  deriving DecidableEq

namespace TextSet

instance : Membership String TextSet where
  mem s t := t ∈ s.toList

theorem mem_toList {s : TextSet} {t : String} : t ∈ s.toList ↔ t ∈ s := Iff.rfl

instance (t : String) (s : TextSet) : Decidable (t ∈ s) :=
  inferInstanceAs (Decidable (t ∈ s.toList))

instance : HasSubset TextSet where
  Subset s t := ∀ x ∈ s, x ∈ t

instance : HasSSubset TextSet where
  SSubset s t := s ⊆ t ∧ ¬ t ⊆ s

def empty : TextSet := ⟨[], .nil⟩

instance : EmptyCollection TextSet := ⟨empty⟩

instance : Inhabited TextSet := ⟨empty⟩

def singleton (t : String) : TextSet := ⟨[t], List.pairwise_singleton _ _⟩

def isEmpty (s : TextSet) : Bool := s.toList.isEmpty

def size (s : TextSet) : Nat := s.toList.length

/-- Merges two ascending lists, writing a common member once. -/
def merge : List String → List String → List String
  | [], bs => bs
  | a :: as, bs => bs.takeWhile (· < a) ++ a :: merge as (bs.dropWhile (· ≤ a))

theorem mem_dropWhile_le {a x : String} {bs : List String} (h : bs.Pairwise (· < ·)) :
    x ∈ bs.dropWhile (· ≤ a) ↔ x ∈ bs ∧ a < x := by
  induction bs with
  | nil => simp
  | cons b bs ih =>
    obtain ⟨hb, hbs⟩ := List.pairwise_cons.1 h
    by_cases hle : b ≤ a
    · simp only [List.dropWhile_cons, hle, decide_true, if_true, ih hbs, List.mem_cons]
      constructor
      · rintro ⟨hx, hlt⟩
        exact ⟨.inr hx, hlt⟩
      · rintro ⟨rfl | hx, hlt⟩
        · exact absurd hlt (String.not_lt.2 hle)
        · exact ⟨hx, hlt⟩
    · simp only [List.dropWhile_cons, hle, decide_false, Bool.false_eq_true, if_false,
        List.mem_cons]
      have hab : a < b := String.not_le.1 hle
      constructor
      · rintro (rfl | hx)
        · exact ⟨.inl rfl, hab⟩
        · exact ⟨.inr hx, String.lt_trans hab (hb x hx)⟩
      · exact fun h => h.1

theorem mem_takeWhile_lt {a x : String} {bs : List String} (h : bs.Pairwise (· < ·)) :
    x ∈ bs.takeWhile (· < a) ↔ x ∈ bs ∧ x < a := by
  induction bs with
  | nil => simp
  | cons b bs ih =>
    obtain ⟨hb, hbs⟩ := List.pairwise_cons.1 h
    by_cases hlt : b < a
    · simp only [List.takeWhile_cons, hlt, decide_true, if_true, List.mem_cons, ih hbs]
      constructor
      · rintro (rfl | ⟨hx, hxa⟩)
        · exact ⟨.inl rfl, hlt⟩
        · exact ⟨.inr hx, hxa⟩
      · rintro ⟨rfl | hx, hxa⟩
        · exact .inl rfl
        · exact .inr ⟨hx, hxa⟩
    · simp only [List.takeWhile_cons, hlt, decide_false, Bool.false_eq_true, if_false,
        List.not_mem_nil, List.mem_cons, false_iff, not_and]
      rintro (rfl | hx) hxa
      · exact hlt hxa
      · exact hlt (String.lt_trans (hb x hx) hxa)

theorem mem_merge {as bs : List String} {x : String} (h : bs.Pairwise (· < ·)) :
    x ∈ merge as bs ↔ x ∈ as ∨ x ∈ bs := by
  induction as generalizing bs with
  | nil => simp [merge]
  | cons a as ih =>
    simp only [merge, List.mem_append, List.mem_cons, mem_takeWhile_lt h,
      ih (h.sublist (List.dropWhile_sublist _)), mem_dropWhile_le h]
    constructor
    · rintro (⟨hx, -⟩ | rfl | hx | ⟨hx, -⟩)
      · exact .inr hx
      · exact .inl (.inl rfl)
      · exact .inl (.inr hx)
      · exact .inr hx
    · rintro ((rfl | hx) | hx)
      · exact .inr (.inl rfl)
      · exact .inr (.inr (.inl hx))
      · by_cases hxa : x < a
        · exact .inl ⟨hx, hxa⟩
        · by_cases hax : a < x
          · exact .inr (.inr (.inr ⟨hx, hax⟩))
          · exact .inr (.inl (String.le_antisymm (String.not_lt.1 hax) (String.not_lt.1 hxa)))

theorem pairwise_merge {as bs : List String} (ha : as.Pairwise (· < ·))
    (hb : bs.Pairwise (· < ·)) : (merge as bs).Pairwise (· < ·) := by
  induction as generalizing bs with
  | nil => exact hb
  | cons a as ih =>
    obtain ⟨haa, has⟩ := List.pairwise_cons.1 ha
    have hrest := hb.sublist (List.dropWhile_sublist (· ≤ a))
    have hgt : ∀ x ∈ merge as (bs.dropWhile (· ≤ a)), a < x := by
      intro x hx
      rcases (mem_merge hrest).1 hx with hx | hx
      · exact haa x hx
      · exact ((mem_dropWhile_le hb).1 hx).2
    refine List.pairwise_append.2 ⟨hb.sublist (List.takeWhile_sublist _),
      List.pairwise_cons.2 ⟨hgt, ih has hrest⟩, ?_⟩
    intro x hx y hy
    have hxa := ((mem_takeWhile_lt hb).1 hx).2
    rcases List.mem_cons.1 hy with rfl | hy
    · exact hxa
    · exact String.lt_trans hxa (hgt y hy)

def union (s t : TextSet) : TextSet :=
  ⟨merge s.toList t.toList, pairwise_merge s.sorted t.sorted⟩

instance : Union TextSet := ⟨union⟩

def filter (p : String → Bool) (s : TextSet) : TextSet :=
  ⟨s.toList.filter p, s.sorted.sublist List.filter_sublist⟩

def inter (s t : TextSet) : TextSet := s.filter (· ∈ t)

instance : Inter TextSet := ⟨inter⟩

def insert (t : String) (s : TextSet) : TextSet := singleton t ∪ s

def erase (s : TextSet) (t : String) : TextSet := s.filter (· != t)

def ofList (ts : List String) : TextSet := ts.foldr insert ∅

def unionAll (sets : List TextSet) : TextSet := sets.foldr (· ∪ ·) ∅

@[simp] theorem not_mem_empty (x : String) : ¬ x ∈ (∅ : TextSet) := List.not_mem_nil

@[simp] theorem mem_singleton {x t : String} : x ∈ singleton t ↔ x = t := List.mem_singleton

@[simp] theorem mem_union {x : String} {s t : TextSet} : x ∈ s ∪ t ↔ x ∈ s ∨ x ∈ t :=
  mem_merge t.sorted

@[simp] theorem mem_filter {x : String} {p : String → Bool} {s : TextSet} :
    x ∈ s.filter p ↔ x ∈ s ∧ p x = true := List.mem_filter

@[simp] theorem mem_inter {x : String} {s t : TextSet} : x ∈ s ∩ t ↔ x ∈ s ∧ x ∈ t := by
  change x ∈ s.filter (· ∈ t) ↔ _
  simp

@[simp] theorem mem_insert {x t : String} {s : TextSet} : x ∈ insert t s ↔ x = t ∨ x ∈ s := by
  simp [insert]

@[simp] theorem mem_erase {x t : String} {s : TextSet} : x ∈ s.erase t ↔ x ∈ s ∧ x ≠ t := by
  simp [erase]

@[simp] theorem mem_ofList {x : String} {ts : List String} : x ∈ ofList ts ↔ x ∈ ts := by
  induction ts with
  | nil => simp [ofList]
  | cons t ts ih => simpa [ofList] using or_congr_right ih

@[simp] theorem mem_unionAll {x : String} {sets : List TextSet} :
    x ∈ unionAll sets ↔ ∃ s ∈ sets, x ∈ s := by
  induction sets with
  | nil => simp [unionAll]
  | cons s sets ih => simpa [unionAll] using or_congr_right ih

theorem isEmpty_iff {s : TextSet} : s.isEmpty = true ↔ ∀ x, ¬ x ∈ s := by
  rw [isEmpty, List.isEmpty_iff, List.eq_nil_iff_forall_not_mem]
  rfl

theorem isEmpty_eq_false_iff {s : TextSet} : s.isEmpty = false ↔ ∃ x, x ∈ s := by
  rw [← Bool.not_eq_true, isEmpty_iff, Classical.not_forall_not]

/-- Sets with the same members are equal. -/
theorem ext {s t : TextSet} (h : ∀ x, x ∈ s ↔ x ∈ t) : s = t := by
  obtain ⟨as, ha⟩ := s
  obtain ⟨bs, hb⟩ := t
  congr 1
  have hperm : as.Perm bs :=
    (List.perm_ext_iff_of_nodup (ha.imp String.ne_of_lt) (hb.imp String.ne_of_lt)).2 h
  exact hperm.eq_of_pairwise (fun a b _ _ hab hba => absurd hba (String.lt_asymm hab)) ha hb

theorem eq_empty_of_forall_not_mem {s : TextSet} (h : ∀ x, ¬ x ∈ s) : s = ∅ :=
  ext fun x => iff_of_false (h x) (not_mem_empty x)

theorem union_eq_left {s t : TextSet} : s ∪ t = s ↔ ∀ x ∈ t, x ∈ s := by
  constructor
  · intro h x hx
    rw [← h]
    exact mem_union.2 (.inr hx)
  · exact fun h => ext fun x => ⟨fun hx => (mem_union.1 hx).elim id (h x), fun hx =>
      mem_union.2 (.inl hx)⟩

/-- A larger set of the same size is the same set. -/
theorem eq_of_subset_of_size_eq {s t : TextSet} (h : s ⊆ t) (hsize : t.size = s.size) : t = s := by
  have hfilter : t.filter (· ∈ s) = s :=
    ext fun x => by simpa using h x
  have hsublist : s.toList.Sublist t.toList := by
    rw [← congrArg toList hfilter]
    exact List.filter_sublist
  have hlist : s.toList = t.toList := hsublist.eq_of_length hsize.symm
  exact ext fun x => by rw [← mem_toList, ← mem_toList, hlist]

theorem size_union_eq_iff {s t : TextSet} : (s ∪ t).size = s.size ↔ s ∪ t = s :=
  ⟨eq_of_subset_of_size_eq fun _ hx => mem_union.2 (.inl hx), congrArg size⟩

theorem ne_iff_of_subset {s t : TextSet} (h : s ⊆ t) : t ≠ s ↔ ∃ x, ¬ x ∈ s ∧ x ∈ t := by
  constructor
  · intro hne
    apply Classical.byContradiction
    intro hnone
    exact hne (ext fun x => ⟨fun hx => Classical.byContradiction fun hnot => hnone ⟨x, hnot, hx⟩,
      h x⟩)
  · rintro ⟨x, hnot, hx⟩ rfl
    exact hnot hx

theorem exists_mem_of_union_ne {s t : TextSet} (h : s ∪ t ≠ s) : ∃ x, ¬ x ∈ s ∧ x ∈ t := by
  obtain ⟨x, hnot, hx⟩ := (ne_iff_of_subset fun _ hx => mem_union.2 (.inl hx)).1 h
  exact ⟨x, hnot, (mem_union.1 hx).resolve_left hnot⟩

theorem ssubset_trans {s t u : TextSet} (h : s ⊂ t) (h' : t ⊂ u) : s ⊂ u :=
  ⟨fun x hx => h'.1 x (h.1 x hx), fun hus => h.2 fun x hx => hus x (h'.1 x hx)⟩

theorem not_ssubset_empty (s : TextSet) : ¬ s ⊂ ∅ :=
  fun h => h.2 fun x hx => absurd hx (not_mem_empty x)

theorem ssubset_union {s t : TextSet} (h : s ∪ t ≠ s) : s ⊂ s ∪ t :=
  ⟨fun _ hx => mem_union.2 (.inl hx), fun hsub =>
    h (union_eq_left.2 fun x hx => hsub x (mem_union.2 (.inr hx)))⟩

/-- Words between braces, with a comma and a space between. -/
def braced (words : List String) : String :=
  "\x7b" ++ ", ".intercalate words ++ "\x7d"

/-- The members as they are, as in `{"a", "b"}`. -/
def display (s : TextSet) : String :=
  braced (s.toList.map fun t => "\"" ++ t ++ "\"")

def displayEscaped (s : TextSet) : String :=
  braced (s.toList.map Text.quoted)

end TextSet

end Lookahead
