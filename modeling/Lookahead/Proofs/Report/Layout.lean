import Lookahead.Report
import Mathlib.Data.List.Forall2

/-!
# How the table of a report is laid out

A line of the table is built cell by cell from the right: a cell with its padding and two spaces
goes before an aligned line (`Report.Aligned.cons`), which does not end in a blank, so that only
the padding of the last cell is trimmed (`Report.aligned_line`). The columns are as wide as their
widest cells, so every cell fits in its column (`Report.widths_eq`), and all lines of the table are
aligned (`Report.forall₂_aligned_table`).
-/

namespace Lookahead

/-! ## Lines -/

namespace Report

variable {text rest : String} {widths : List Nat} {row : Row} {w : Nat}

def columnWidth (rows : List Row) (k : Nat) : Nat :=
  (rows.map fun row => (row.getD k "").length).foldr max 0

/-- Where column `k` starts: all columns before it are followed by two characters. -/
def columnStart (widths : List Nat) (k : Nat) : Nat :=
  ((widths.take k).map (· + 2)).foldr (· + ·) 0

@[simp] theorem columnStart_zero (widths : List Nat) : columnStart widths 0 = 0 := rfl

@[simp] theorem columnStart_succ (w : Nat) (widths : List Nat) (k : Nat) :
    columnStart (w :: widths) (k + 1) = w + 2 + columnStart widths k := rfl

/-- There is text, and no blank after it. -/
def IsTrimmed (text : String) : Prop :=
  ∃ c, text.toList.getLast? = some c ∧ Text.isBlank c = false

/-- The line shows the cells of the row where the columns of the given widths start, and nothing
else. -/
structure Aligned (widths : List Nat) (row : Row) (line : String) : Prop where
  /-- Each cell stands in full where its column starts. -/
  cell : ∀ {k text}, row[k]? = some text →
    text.toList <+: line.toList.drop (columnStart widths k)
  /-- Between the end of a cell and the next column there are only spaces. -/
  gap : ∀ {k text i c}, row[k]? = some text → columnStart widths k + text.length ≤ i →
    i < columnStart widths (k + 1) → line.toList[i]? = some c → c = ' '
  length : ∀ {text}, row.getLast? = some text →
    line.length = columnStart widths (row.length - 1) + text.length
  trimmed : IsTrimmed line

def Fits (widths : List Nat) (row : Row) : Prop :=
  List.Forall₂ (fun w (text : String) => text.length ≤ w) widths row

theorem aligned_singleton (h : IsTrimmed text) : Aligned [w] [text] text where
  cell {k _} htext := by
    cases k with
    | zero => simp_all
    | succ k => simp at htext
  gap {k _ i _} htext hi _ hc := by
    cases k with
    | zero =>
      obtain rfl : text = _ := by simpa using htext
      have hlt := (List.getElem?_eq_some_iff.1 hc).1
      simp only [columnStart_zero, Nat.zero_add, String.length_toList] at hi hlt
      omega
    | succ k => simp at htext
  length htext := by simp_all
  trimmed := h

theorem toList_pad (w : Nat) (text : String) :
    (pad w text ++ "  ").toList = text.toList ++ List.replicate (w - text.length + 2) ' ' := by
  simp [pad, List.replicate_add]

theorem Aligned.cons (h : Aligned widths row rest) (hrow : row ≠ []) (htext : text.length ≤ w) :
    Aligned (w :: widths) (text :: row) (pad w text ++ "  " ++ rest) := by
  have hstart : (pad w text ++ "  ").toList.length = w + 2 := by
    rw [toList_pad, List.length_append, List.length_replicate, String.length_toList]
    omega
  constructor
  case cell =>
    intro k cell hcell
    rw [String.toList_append]
    cases k with
    | zero =>
      obtain rfl : text = cell := by simpa using hcell
      rw [toList_pad, List.append_assoc]
      exact List.prefix_append _ _
    | succ k =>
      rw [columnStart_succ, ← hstart, List.drop_length_add_append]
      exact h.cell (by simpa using hcell)
  case gap =>
    intro k cell i c hcell hi hi' hc
    rw [columnStart_succ] at hi'
    rw [String.toList_append] at hc
    cases k with
    | zero =>
      obtain rfl : text = cell := by simpa using hcell
      rw [columnStart_zero, Nat.zero_add, ← String.length_toList] at hi
      rw [columnStart_zero, Nat.add_zero, ← hstart] at hi'
      rw [List.getElem?_append_left hi', toList_pad,
        List.getElem?_append_right hi] at hc
      exact List.eq_of_mem_replicate (List.mem_of_getElem? hc)
    | succ k =>
      rw [columnStart_succ] at hi
      rw [List.getElem?_append_right (by omega), hstart] at hc
      exact h.gap (by simpa using hcell) (by omega) (by omega) hc
  case length =>
    intro cell hcell
    rw [List.getLast?_cons_of_ne_nil hrow] at hcell
    obtain ⟨k, hk⟩ := Nat.exists_eq_succ_of_ne_zero (mt List.length_eq_zero_iff.1 hrow)
    have hlength := h.length hcell
    rw [hk, Nat.succ_sub_one] at hlength
    rw [String.length_append, ← String.length_toList, hstart, hlength, List.length_cons, hk,
      Nat.succ_sub_one, columnStart_succ, ← Nat.add_assoc]
  case trimmed =>
    obtain ⟨c, hlast, hc⟩ := h.trimmed
    exact ⟨c, by rw [String.toList_append, List.getLast?_append, hlast, Option.some_or], hc⟩

theorem toList_trimEnd (text : String) :
    (trimEnd text).toList = (text.toList.reverse.dropWhile Text.isBlank).reverse := by
  rw [trimEnd, String.toList_ofList]

theorem trimEnd_of_isTrimmed (h : IsTrimmed text) : trimEnd text = text := by
  obtain ⟨c, hlast, hc⟩ := h
  obtain ⟨cs, hcs⟩ := List.getLast?_eq_some_iff.1 hlast
  rw [← String.toList_inj, toList_trimEnd, hcs]
  simp [hc]

/-- Only what is after the last character that is not blank is trimmed. -/
theorem trimEnd_append (first : String) (h : IsTrimmed (trimEnd text)) :
    trimEnd (first ++ text) = first ++ trimEnd text := by
  obtain ⟨c, hlast, -⟩ := h
  have hne : (text.toList.reverse.dropWhile Text.isBlank).isEmpty = false := by
    rw [toList_trimEnd, List.getLast?_reverse] at hlast
    exact List.isEmpty_eq_false_iff.2 fun h => by simp [h] at hlast
  rw [← String.toList_inj, String.toList_append, toList_trimEnd, toList_trimEnd,
    String.toList_append, List.reverse_append, List.dropWhile_append, hne]
  simp

theorem trimEnd_pad (w : Nat) (h : IsTrimmed text) : trimEnd (pad w text) = text := by
  have hspace : Text.isBlank ' ' = true := by decide
  rw [← trimEnd_of_isTrimmed h, ← String.toList_inj, toList_trimEnd, toList_trimEnd]
  simp [pad, hspace, trimEnd_of_isTrimmed h]

theorem line_cons (w : Nat) (text : String) {w' : Nat} {text' : String}
    (h : IsTrimmed (line (w' :: widths) (text' :: row))) :
    line (w :: w' :: widths) (text :: text' :: row) =
      pad w text ++ "  " ++ line (w' :: widths) (text' :: row) := by
  simp only [line, List.zipWith_cons_cons, String.intercalate_cons_cons] at h ⊢
  exact trimEnd_append _ h

/-- A row whose last cell does not end in a blank is aligned. -/
theorem aligned_line (hfits : Fits widths row)
    (hlast : ∃ text, row.getLast? = some text ∧ IsTrimmed text) :
    Aligned widths row (line widths row) := by
  induction hfits with
  | nil => simp at hlast
  | @cons w text widths row htext hfits ih =>
    cases hfits with
    | nil =>
      obtain ⟨last, hlast, htrimmed⟩ := hlast
      obtain rfl : text = last := by simpa using hlast
      have hline : line [w] [text] = text := by simp [line, trimEnd_pad w htrimmed]
      rw [hline]
      exact aligned_singleton htrimmed
    | cons htext' hfits =>
      have hrest := ih (by simpa using hlast)
      rw [line_cons w text hrest.trimmed]
      exact hrest.cons (List.cons_ne_nil _ _) htext

theorem length_le_columnWidth {rows : List Row} (hrow : row ∈ rows) (k : Nat) :
    (row.getD k "").length ≤ columnWidth rows k := by
  induction rows with
  | nil => cases hrow
  | cons first rows ih =>
    rcases List.mem_cons.1 hrow with rfl | hrow
    · exact Nat.le_max_left _ _
    · exact Nat.le_trans (ih hrow) (Nat.le_max_right _ _)

theorem columnWidth_cons (row : Row) (rows : List Row) (k : Nat) :
    columnWidth (row :: rows) k = max (row.getD k "").length (columnWidth rows k) := rfl

/-- Some rows widen the columns to their widest cells. -/
theorem getElem?_foldl_max {rows : List Row} {widths : List Nat}
    (hrows : ∀ row ∈ rows, row.length = widths.length) (k : Nat) :
    (rows.foldl (fun ws row => List.zipWith (fun w (cell : String) => max w cell.length) ws row)
      widths)[k]? = widths[k]?.map fun w => max w (columnWidth rows k) := by
  induction rows generalizing widths with
  | nil => simp [columnWidth]
  | cons row rows ih =>
    obtain ⟨hrow, hrows⟩ := List.forall_mem_cons.1 hrows
    rw [List.foldl_cons, ih fun row' h => by simp [hrows row' h, hrow], List.getElem?_zipWith,
      columnWidth_cons]
    by_cases hk : k < widths.length
    · have hk' : k < row.length := hrow ▸ hk
      simp [hk, hk', Nat.max_assoc]
    · simp [hk]

theorem widths_eq {first : Row} {rows : List Row}
    (hrows : ∀ row ∈ rows, row.length = first.length) :
    Report.widths first rows = (List.range first.length).map (columnWidth (first :: rows)) := by
  apply List.ext_getElem?
  intro k
  rw [Report.widths, getElem?_foldl_max (by simpa using hrows)]
  by_cases hk : k < first.length
  · simp [hk, columnWidth_cons]
  · simp [hk]

theorem fits_columnWidth {rows : List Row} (hrow : row ∈ rows) :
    Fits ((List.range row.length).map (columnWidth rows)) row := by
  refine List.forall₂_iff_get.2 ⟨by simp, fun k _ hk => ?_⟩
  have hle := length_le_columnWidth hrow k
  simpa [hk] using hle

/-! ## The table -/

theorem isTrimmed_display (s : TextSet) : IsTrimmed s.display := by
  refine ⟨'\x7d', ?_, by decide⟩
  rw [TextSet.display, TextSet.braced, String.toList_append]
  exact List.getLast?_concat

theorem length_of_mem_rows {a : Analysis} (hrow : row ∈ header :: rows a) : row.length = 4 := by
  rcases List.mem_cons.1 hrow with rfl | hrow
  · rfl
  · obtain ⟨name, -, rfl⟩ := List.mem_map.1 hrow
    rfl

theorem exists_isTrimmed_getLast? {a : Analysis} (hrow : row ∈ header :: rows a) :
    ∃ text, row.getLast? = some text ∧ IsTrimmed text := by
  rcases List.mem_cons.1 hrow with rfl | hrow
  · exact ⟨"FOLLOW", rfl, 'W', by decide, by decide⟩
  · obtain ⟨name, -, rfl⟩ := List.mem_map.1 hrow
    exact ⟨_, rfl, isTrimmed_display _⟩

theorem forall₂_aligned_table (a : Analysis) :
    List.Forall₂ (Aligned ((List.range 4).map (columnWidth (header :: rows a))))
      (header :: rows a) (table a) := by
  have hwidths : Report.widths header (rows a) =
      (List.range 4).map (columnWidth (header :: rows a)) :=
    widths_eq fun row hrow => length_of_mem_rows (List.mem_cons_of_mem _ hrow)
  rw [table, hwidths, List.forall₂_map_right_iff, List.forall₂_same]
  intro row hrow
  have hfits := fits_columnWidth hrow
  rw [length_of_mem_rows hrow] at hfits
  exact aligned_line hfits (exists_isTrimmed_getLast? hrow)

end Report

end Lookahead
