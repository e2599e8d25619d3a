import Lookahead.Saturation

/-!
# Passes that only grow

`Grows work Holds` says that some work on a state only adds to what `Holds` of it, and that it says
truthfully whether it added anything (`Grows.changed_iff`). Work that grows can be done in sequence,
in a sweep and in repeated passes. When what can hold is bounded by a list, repeated passes settle
(`Grows.settles_saturate`), and then one more visit would change nothing (`Grows.visit_settled`).
When a pass treats each item by itself, the number of passes is bounded by the number of places for
one item (`Settles.passes_le`). What holds between two states and the records in between, and can be
put together along the way, holds of a whole run if it holds of each visit (`Accrues`).
-/

namespace Lookahead

variable {σ α κ : Type}

/-- The work keeps whatever holds of a state, leaves it alone if it says that it changed nothing,
and else adds something. -/
structure Grows (work : σ → Step σ) (Holds : σ → κ → Prop) : Prop where
  quiet : ∀ {s}, (work s).changed = false → (work s).state = s
  keeps : ∀ {s k}, Holds s k → Holds (work s).state k
  adds : ∀ {s}, (work s).changed = true → ∃ k, ¬ Holds s k ∧ Holds (work s).state k

def Within (Holds : σ → κ → Prop) (bound : List κ) (s : σ) : Prop := ∀ k, Holds s k → k ∈ bound

theorem sweep_induction {P : σ → Prop} {visit : σ → α → Step σ} {as : List α}
    (hvisit : ∀ s, ∀ a ∈ as, P s → P (visit s a).state) {s : σ} (hs : P s) :
    P (sweep visit as s).state := by
  induction as generalizing s with
  | nil => exact hs
  | cons a as ih =>
    exact ih (fun s b hb => hvisit s b (List.mem_cons_of_mem a hb))
      (hvisit s a List.mem_cons_self hs)

theorem state_saturate_succ (pass : σ → Step σ) (limit : Nat) (s : σ) :
    (saturate pass (limit + 1) s).state =
      if (pass s).changed = true then (saturate pass limit (pass s).state).state
      else (pass s).state := by
  simp only [saturate]
  split <;> rfl

theorem saturate_induction {P : σ → Prop} {pass : σ → Step σ}
    (hpass : ∀ s, P s → P (pass s).state) (limit : Nat) {s : σ} (hs : P s) :
    P (saturate pass limit s).state := by
  induction limit generalizing s with
  | zero => exact hs
  | succ limit ih =>
    rw [state_saturate_succ]
    split
    · exact ih (hpass s hs)
    · exact hpass s hs

/-! ## What a run and its records show -/

/-- What holds between a state, the records of some work on it and the state afterwards also holds
of work done one after the other. -/
structure Accrues (R : σ → List Record → σ → Prop) : Prop where
  nil : ∀ s, R s [] s
  append : ∀ {s s' s'' records records'}, R s records s' → R s' records' s'' →
    R s (records ++ records') s''

theorem Accrues.sweep {R : σ → List Record → σ → Prop} (h : Accrues R) {visit : σ → α → Step σ}
    {as : List α} (hvisit : ∀ s a, R s (visit s a).records (visit s a).state) (s : σ) :
    R s (sweep visit as s).records (sweep visit as s).state := by
  induction as generalizing s with
  | nil => exact h.nil s
  | cons a as ih => exact h.append (hvisit s a) (ih _)

theorem Accrues.saturate {R : σ → List Record → σ → Prop} (h : Accrues R) {pass : σ → Step σ}
    (hpass : ∀ s, R s (pass s).records (pass s).state) (limit : Nat) (s : σ) :
    R s (saturate pass limit s).records (saturate pass limit s).state := by
  induction limit generalizing s with
  | zero => exact h.nil s
  | succ limit ih =>
    rw [Lookahead.saturate]
    split
    · exact h.append (hpass s) (ih _)
    · exact hpass s

/-- A sweep that says that it changed nothing changed nothing, and neither did any visit. -/
theorem sweep_quiet {visit : σ → α → Step σ} {as : List α}
    (hquiet : ∀ s a, (visit s a).changed = false → (visit s a).state = s) {s : σ}
    (h : (sweep visit as s).changed = false) : ∀ a ∈ as, (visit s a).state = s := by
  induction as generalizing s with
  | nil => exact nofun
  | cons a as ih =>
    obtain ⟨hhere, hrest⟩ := Bool.or_eq_false_iff.1 h
    have hsame : (visit s a).state = s := hquiet s a hhere
    rw [hsame] at hrest
    exact List.forall_mem_cons.2 ⟨hsame, ih hrest⟩

variable {Holds : σ → κ → Prop}

theorem Grows.andThen {first second : σ → Step σ} (h₁ : Grows first Holds)
    (h₂ : Grows second Holds) : Grows (fun s => (first s).andThen second) Holds where
  quiet h := by
    obtain ⟨hf, hs⟩ := Bool.or_eq_false_iff.1 h
    exact (h₂.quiet hs).trans (h₁.quiet hf)
  keeps h := h₂.keeps (h₁.keeps h)
  adds {s} h := by
    rcases Bool.or_eq_true_iff.1 h with hf | hs
    · obtain ⟨k, hnot, hk⟩ := h₁.adds hf
      exact ⟨k, hnot, h₂.keeps hk⟩
    · obtain ⟨k, hnot, hk⟩ := h₂.adds hs
      exact ⟨k, fun hk' => hnot (h₁.keeps hk'), hk⟩

theorem Grows.sweep {visit : σ → α → Step σ} {as : List α}
    (h : ∀ a ∈ as, Grows (visit · a) Holds) : Grows (sweep visit as) Holds := by
  induction as with
  | nil => exact ⟨fun _ => rfl, id, nofun⟩
  | cons a as ih =>
    exact (h a List.mem_cons_self).andThen (ih fun b hb => h b (List.mem_cons_of_mem a hb))

/-- The work says that it changed something exactly if something new holds afterwards. -/
theorem Grows.changed_iff {work : σ → Step σ} (h : Grows work Holds) {s : σ} :
    (work s).changed = true ↔ ∃ k, ¬ Holds s k ∧ Holds (work s).state k := by
  constructor
  · exact h.adds
  · rintro ⟨k, hnot, hk⟩
    apply Classical.byContradiction
    intro hquiet
    rw [h.quiet (Bool.eq_false_iff.2 hquiet)] at hk
    exact hnot hk

/-! ## Settling -/

open Classical in
/-- How much of the bound does not hold yet. -/
noncomputable def missing (Holds : σ → κ → Prop) (bound : List κ) (s : σ) : Nat :=
  bound.countP fun k => !decide (Holds s k)

theorem missing_le_length (bound : List κ) (s : σ) : missing Holds bound s ≤ bound.length :=
  List.countP_le_length

theorem missing_lt {bound : List κ} {s s' : σ} {k : κ} (hkeeps : ∀ k, Holds s k → Holds s' k)
    (hin : k ∈ bound) (hnot : ¬ Holds s k) (hk : Holds s' k) :
    missing Holds bound s' < missing Holds bound s := by
  obtain ⟨before, after, rfl⟩ := List.append_of_mem hin
  have hle : ∀ l : List κ, missing Holds l s' ≤ missing Holds l s := by
    intro l
    refine List.countP_mono_left fun k' _ hk' => ?_
    simp only [Bool.not_eq_true', decide_eq_false_iff_not] at hk' ⊢
    exact fun hs => hk' (hkeeps k' hs)
  have hb := hle before
  have ha := hle after
  unfold missing at hb ha ⊢
  simp only [List.countP_append, List.countP_cons, hnot, hk, decide_true, decide_false,
    Bool.not_true, Bool.not_false, if_true, Bool.false_eq_true, if_false]
  omega

/-- Passes within a bound settle before they are more than the bound is long. -/
theorem Grows.settles_saturate {pass : σ → Step σ} (h : Grows pass Holds) {bound : List κ}
    (hpass : ∀ s, Within Holds bound s → Within Holds bound (pass s).state) {limit : Nat} {s : σ}
    (hs : Within Holds bound s) (hlimit : bound.length < limit) :
    Settles pass s (saturate pass limit s).passes (saturate pass limit s).state := by
  have hmissing : missing Holds bound s < limit :=
    Nat.lt_of_le_of_lt (missing_le_length bound s) hlimit
  clear hlimit
  induction limit generalizing s with
  | zero => exact absurd hmissing (Nat.not_lt_zero _)
  | succ limit ih =>
    rw [saturate]
    split
    · rename_i hchanged
      obtain ⟨k, hnot, hk⟩ := h.adds hchanged
      have hlt := missing_lt (fun _ => h.keeps) (hpass s hs k hk) hnot hk
      exact .again hchanged (ih (hpass s hs) (by omega))
    · rename_i hchanged
      exact .quiet (Bool.eq_false_iff.2 hchanged)

theorem Settles.changed_eq_false {pass : σ → Step σ} (h : Grows pass Holds) {n : Nat} {s s' : σ}
    (hs : Settles pass s n s') : (pass s').changed = false := by
  induction hs with
  | quiet hchanged => rw [h.quiet hchanged, hchanged]
  | again _ _ ih => exact ih

/-- Once sweeps have settled, no visit changes anything any more. -/
theorem Grows.visit_settled {visit : σ → α → Step σ} {as : List α} {bound : List κ} {limit : Nat}
    {s : σ} (h : ∀ a, Grows (visit · a) Holds)
    (hvisit : ∀ s, ∀ a ∈ as, Within Holds bound s → Within Holds bound (visit s a).state)
    (hs : Within Holds bound s) (hlimit : bound.length < limit) :
    ∀ a ∈ as, (visit (saturate (Lookahead.sweep visit as) limit s).state a).state =
      (saturate (Lookahead.sweep visit as) limit s).state :=
  have hsweep : Grows (Lookahead.sweep visit as) Holds := .sweep fun a _ => h a
  sweep_quiet (fun _ a => (h a).quiet)
    ((hsweep.settles_saturate (fun _ => sweep_induction hvisit) hs hlimit).changed_eq_false hsweep)

/-! ## The number of passes

Where a pass treats each item by itself, an item that one pass adds nowhere is added nowhere by the
next one either. So an item that the last pass but one still adds has been added by each pass
before, every time at another place, and there are no more passes than places.
-/

/-- What the work does for one item depends only on what holds with that item, and on a frame that
the work does not change. -/
structure Itemwise {τ φ : Type} (work : σ → Step σ) (Holds : σ → κ → Prop) (item : κ → τ)
    (frame : σ → φ) : Prop where
  keeps : ∀ s, frame (work s).state = frame s
  agree : ∀ {s s' t}, frame s = frame s' → (∀ k, item k = t → (Holds s k ↔ Holds s' k)) →
    ∀ k, item k = t → (Holds (work s).state k ↔ Holds (work s').state k)

variable {τ φ : Type} {item : κ → τ} {frame : σ → φ}

theorem Itemwise.sweep {visit : σ → α → Step σ} {as : List α}
    (h : ∀ a ∈ as, Itemwise (visit · a) Holds item frame) :
    Itemwise (sweep visit as) Holds item frame := by
  induction as with
  | nil => exact ⟨fun _ => rfl, fun _ hsame => hsame⟩
  | cons a as ih =>
    obtain ⟨ha, has⟩ := List.forall_mem_cons.1 h
    refine ⟨fun s => ((ih has).keeps _).trans (ha.keeps s), fun {s s' t} hframe hsame => ?_⟩
    have hframe' : frame (visit s a).state = frame (visit s' a).state := by
      rw [ha.keeps, ha.keeps, hframe]
    exact (ih has).agree hframe' (ha.agree hframe hsame)

/-- The pass adds the item somewhere. -/
def Spreads (pass : σ → Step σ) (Holds : σ → κ → Prop) (item : κ → τ) (t : τ) (s : σ) : Prop :=
  ∃ k, item k = t ∧ ¬ Holds s k ∧ Holds (pass s).state k

/-- An item that the next pass adds somewhere is added somewhere by this one. -/
theorem Itemwise.spreads {pass : σ → Step σ} (h : Itemwise pass Holds item frame)
    (hgrows : Grows pass Holds) {s : σ} {t : τ} (hnext : Spreads pass Holds item t (pass s).state) :
    Spreads pass Holds item t s := by
  apply Classical.byContradiction
  intro hnone
  have hsame : ∀ k, item k = t → (Holds s k ↔ Holds (pass s).state k) := fun k hkt =>
    ⟨hgrows.keeps, fun hk => Classical.byContradiction fun hnot => hnone ⟨k, hkt, hnot, hk⟩⟩
  obtain ⟨k, hkt, hnot, hk⟩ := hnext
  exact hnot ((h.agree (h.keeps s).symm hsame k hkt).2 hk)

/-- There is at most one pass more than there are places for an item. -/
theorem Settles.passes_le {pass : σ → Step σ} (hgrows : Grows pass Holds)
    (hitems : Itemwise pass Holds item frame) {places : τ → List κ} {limit n : Nat} {s s' : σ}
    (hplaces : ∀ s k, Holds (pass s).state k → Holds s k ∨ k ∈ places (item k))
    (hlength : ∀ t, (places t).length ≤ limit) (h : Settles pass s n s') : n ≤ limit + 1 := by
  have hspreads : n = 1 ∨
      ∃ t, Spreads pass Holds item t s ∧ n ≤ missing Holds (places t) s + 1 := by
    induction h with
    | quiet => exact .inl rfl
    | @again s s' n hchanged _ ih =>
      have hless : ∀ {t}, Spreads pass Holds item t s →
          missing Holds (places t) (pass s).state < missing Holds (places t) s := by
        rintro _ ⟨k, rfl, hnot, hk⟩
        exact missing_lt (fun _ => hgrows.keeps) ((hplaces s k hk).resolve_left hnot) hnot hk
      rcases ih with rfl | ⟨t, hnext, hle⟩
      · obtain ⟨k, hnot, hk⟩ := hgrows.adds hchanged
        have hnow : Spreads pass Holds item (item k) s := ⟨k, rfl, hnot, hk⟩
        have hlt := hless hnow
        exact .inr ⟨item k, hnow, by omega⟩
      · have hnow := hitems.spreads hgrows hnext
        have hlt := hless hnow
        exact .inr ⟨t, hnow, by omega⟩
  rcases hspreads with rfl | ⟨t, -, hle⟩
  · omega
  · have hmissing : missing Holds (places t) s ≤ (places t).length := missing_le_length _ _
    have hbound := hlength t
    omega

/-- The bound for passes that are sweeps, from what single visits do. -/
theorem Settles.passes_le_of_visits {visit : σ → α → Step σ} {as : List α}
    (places : τ → List κ) (hgrows : ∀ a, Grows (visit · a) Holds)
    (hitems : ∀ a, Itemwise (visit · a) Holds item frame) {limit n : Nat} {s s' : σ}
    (hplaces : ∀ a ∈ as, ∀ s k, Holds (visit s a).state k → Holds s k ∨ k ∈ places (item k))
    (hlength : ∀ t, (places t).length ≤ limit) (h : Settles (Lookahead.sweep visit as) s n s') :
    n ≤ limit + 1 := by
  refine h.passes_le (.sweep fun a _ => hgrows a) (.sweep fun a _ => hitems a) ?_ hlength
  intro s
  refine sweep_induction (P := fun s' => ∀ k, Holds s' k → Holds s k ∨ k ∈ places (item k))
    (fun s' a ha hs' k hk => ?_) fun _ hk => .inl hk
  exact (hplaces a ha s' k hk).elim (hs' k) .inr

end Lookahead
