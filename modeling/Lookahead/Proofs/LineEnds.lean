import Lookahead.Proofs.LineByLine
import Lookahead.Proofs.Token.Lexer
import Lookahead.Source

/-!
# Line ends

A line end holds at most one carriage return, and the end of the input none, so that the others are
part of their lines. There they are blanks behind everything else, which are no tokens
(`Token.lex_append_gap`), do not make a line blank or a comment and are decoded by themselves. So a
line says the same with and without a carriage return at its end
(`Reading.readLine_dropCarriageReturn`), and how the lines of a source are ended does not matter
(`line_ends_do_not_matter`).
-/

namespace Lookahead

variable {file text gap : String} {source line rest : Bytes}

theorem isRuleLine_append_gap (hgap : IsGap gap.toList) (text : String) :
    isRuleLine (text ++ gap) = isRuleLine text := by
  have hdrop : gap.toList.dropWhile Text.isBlank = [] := List.dropWhile_eq_nil_iff.2 hgap
  unfold isRuleLine
  rw [String.toList_append, List.dropWhile_append, hdrop]
  cases text.toList.dropWhile Text.isBlank with
  | nil => rfl
  | cons c rest => rfl

theorem Rule.ofLine_append_gap (hgap : IsGap gap.toList) (location : Location) (text : String) :
    Rule.ofLine location (text ++ gap) = Rule.ofLine location text := by
  rw [Rule.ofLine, String.toList_append, Token.lex_append_gap hgap, Rule.ofLine]

theorem isGap_carriageReturn : IsGap "\r".toList := by
  simpa [IsGap] using Text.isBlank_carriageReturn

namespace Reading

theorem readLine_append_carriageReturn (file : String) (number : Nat) (line : Bytes) :
    readLine file ⟨number, (line ++ [Bytes.carriageReturn]).decode?⟩ =
      readLine file ⟨number, line.decode?⟩ := by
  rw [Bytes.decode?_append_carriageReturn]
  cases line.decode? with
  | none => rfl
  | some text =>
    simp only [Option.map_some, readLine, isRuleLine_append_gap isGap_carriageReturn,
      Rule.ofLine_append_gap isGap_carriageReturn]

theorem readLine_dropCarriageReturn (file : String) (number : Nat) (line : Bytes) :
    readLine file ⟨number, line.dropCarriageReturn.decode?⟩ =
      readLine file ⟨number, line.decode?⟩ := by
  unfold Bytes.dropCarriageReturn
  split
  · rename_i hlast
    obtain ⟨start, rfl⟩ := List.getLast?_eq_some_iff.1 hlast
    rw [List.dropLast_concat, readLine_append_carriageReturn]
  · rfl

def results (file : String) (first : Nat) (lines : List Bytes) :
    List (Except LoadDiagnostic Rule) :=
  (numberLines first lines).filterMap (readLine file)

theorem ofSource_eq (file : String) (source : Bytes) :
    ofSource file source = ofResults (results file 1 source.lines) := rfl

theorem results_cons (file : String) (first : Nat) (line : Bytes) (lines : List Bytes) :
    results file first (line :: lines) =
      (readLine file ⟨first, line.decode?⟩).toList ++ results file (first + 1) lines := by
  rw [results, numberLines_cons, List.filterMap_cons]
  cases readLine file ⟨first, line.decode?⟩ with
  | none => rfl
  | some result => rfl

end Reading

namespace Bytes

theorem withCarriageReturns_of_not_mem (hline : lineFeed ∉ line) :
    withCarriageReturns line = line := by
  induction line with
  | nil => rfl
  | cons b line ih =>
    have hb : b ≠ lineFeed := (List.ne_of_not_mem_cons hline).symm
    have hcons : withCarriageReturns (b :: line) = b :: withCarriageReturns line := by
      simp [withCarriageReturns, hb]
    rw [hcons, ih (List.not_mem_of_not_mem_cons hline)]

theorem withCarriageReturns_append (hline : lineFeed ∉ line) (rest : Bytes) :
    withCarriageReturns (line ++ lineFeed :: rest) =
      (line ++ [carriageReturn]) ++ lineFeed :: withCarriageReturns rest := by
  have hsplit : withCarriageReturns (line ++ lineFeed :: rest) =
      withCarriageReturns line ++ [carriageReturn, lineFeed] ++ withCarriageReturns rest := by
    simp [withCarriageReturns]
  rw [hsplit, withCarriageReturns_of_not_mem hline]
  simp

theorem dropCarriageReturn_concat (line : Bytes) :
    dropCarriageReturn (line ++ [carriageReturn]) = line := by
  simp [dropCarriageReturn]

end Bytes

namespace Reading

open Bytes

theorem results_withCarriageReturns (file : String) (first : Nat) (source : Bytes) :
    results file first (lines source.withCarriageReturns) =
      results file first (lines source) := by
  induction source using line_induction generalizing first with
  | last line hline => rw [withCarriageReturns_of_not_mem hline]
  | cons line rest hline ih =>
    have hreturn : lineFeed ∉ line ++ [carriageReturn] := by
      simpa [hline] using (by decide : lineFeed ≠ carriageReturn)
    rw [withCarriageReturns_append hline, lines_append hreturn, lines_append hline,
      dropCarriageReturn_concat, results_cons, results_cons, readLine_dropCarriageReturn, ih]

/-- A line feed at the end ends the last line or adds an empty one. -/
theorem results_append_lineFeed (file : String) (first : Nat) (source : Bytes) :
    results file first (lines (source ++ [lineFeed])) = results file first (lines source) := by
  induction source using line_induction generalizing first with
  | last line hline =>
    have hnil : lines [] = [] := lines_of_not_mem List.not_mem_nil
    rw [lines_append hline, lines_of_not_mem hline, results_cons, readLine_dropCarriageReturn, hnil]
    split
    · rename_i hempty
      rw [hempty]
      rfl
    · rw [results_cons]
  | cons line rest hline ih =>
    rw [List.append_assoc, List.cons_append, lines_append hline, lines_append hline, results_cons,
      results_cons, ih]

theorem ofSource_withCarriageReturns (file : String) (source : Bytes) :
    ofSource file source.withCarriageReturns = ofSource file source := by
  rw [ofSource_eq, results_withCarriageReturns, ofSource_eq]

theorem ofSource_append_lineFeed (file : String) (source : Bytes) :
    ofSource file (source ++ [lineFeed]) = ofSource file source := by
  rw [ofSource_eq, results_append_lineFeed, ofSource_eq]

end Reading

/-- How the lines of a source are ended does not matter. If a carriage return is written before
every line feed, or a line feed at the end, then the source loads to the same grammar and the same
errors, with the same locations and in the same order, and the same record is made of it. -/
theorem line_ends_do_not_matter (file : String) (source : Bytes) :
    Loaded.ofSource file source.withCarriageReturns = Loaded.ofSource file source ∧
    Loaded.ofSource file (source ++ [Bytes.lineFeed]) = Loaded.ofSource file source ∧
    Loaded.sourceRecord file source.withCarriageReturns = Loaded.sourceRecord file source ∧
    Loaded.sourceRecord file (source ++ [Bytes.lineFeed]) = Loaded.sourceRecord file source := by
  have hreturns := Reading.ofSource_withCarriageReturns file source
  have hfeed := Reading.ofSource_append_lineFeed file source
  refine ⟨?_, ?_, ?_, ?_⟩
  · rw [Loaded.ofSource, hreturns, Loaded.ofSource]
  · rw [Loaded.ofSource, hfeed, Loaded.ofSource]
  · rw [Loaded.sourceRecord, hreturns, Loaded.sourceRecord]
  · rw [Loaded.sourceRecord, hfeed, Loaded.sourceRecord]

/-- Where a line had a carriage return at its end already, it is another line afterwards. -/
example : Bytes.lines (Bytes.withCarriageReturns [45, 13, 10]) ≠ Bytes.lines [45, 13, 10] := by
  decide +kernel

end Lookahead
