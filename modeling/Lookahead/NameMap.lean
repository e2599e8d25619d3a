/-!
# Maps from names

A map from names to values, kept as a list of entries. Looking a name up finds its first entry,
and `put` replaces that entry or appends a new one.
-/

namespace Lookahead

abbrev NameMap (α : Type) := List (String × α)

namespace NameMap

variable {α : Type}

def get? (m : NameMap α) (name : String) : Option α := m.lookup name

/-- Gives `name` the value `v`. -/
def put (m : NameMap α) (name : String) (v : α) : NameMap α :=
  match m with
  | [] => [(name, v)]
  | (k, w) :: rest => if name = k then (k, v) :: rest else (k, w) :: put rest name v

theorem get?_cons (k : String) (w : α) (rest : NameMap α) (name : String) :
    NameMap.get? ((k, w) :: rest) name = if name = k then some w else NameMap.get? rest name := by
  unfold get?
  by_cases h : name = k
  · simp [h]
  · simp [List.lookup_cons, beq_eq_false_iff_ne.2 h, h]

theorem eq_nil_iff (m : NameMap α) : m = [] ↔ ∀ name, m.get? name = none := by
  refine ⟨fun h _ => h ▸ rfl, fun h => ?_⟩
  cases m with
  | nil => rfl
  | cons e rest =>
    have hfirst := h e.1
    rw [get?_cons e.1 e.2 rest, if_pos rfl] at hfirst
    cases hfirst

theorem get?_put (m : NameMap α) (name : String) (v : α) (k : String) :
    (m.put name v).get? k = if k = name then some v else m.get? k := by
  induction m with
  | nil => exact get?_cons name v [] k
  | cons e rest ih =>
    obtain ⟨key, w⟩ := e
    unfold put
    split
    · rename_i h
      subst h
      simp only [get?_cons]
      split <;> rfl
    · rename_i h
      simp only [get?_cons, ih]
      split
      · rename_i hk
        subst hk
        simp [Ne.symm h]
      · rfl

/-- A map with the same kind of entry for each of the names. -/
def ofNames (names : List String) (f : String → α) : NameMap α :=
  names.map fun name => (name, f name)

theorem get?_ofNames (names : List String) (f : String → α) (k : String) :
    (ofNames names f).get? k = if k ∈ names then some (f k) else none := by
  induction names with
  | nil => rfl
  | cons n ns ih =>
    change NameMap.get? ((n, f n) :: ofNames ns f) k = _
    rw [get?_cons, ih]
    by_cases h : k = n <;> simp [h]

end NameMap

end Lookahead
