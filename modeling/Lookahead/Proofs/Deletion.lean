import Lookahead.Proofs.LineFates
import Lookahead.Proofs.Renumbering
import Lookahead.Source
import Mathlib.Data.List.TakeWhile

/-!
# Taking out a line

A source without one of its lines has the other lines, and those below get numbers that are lower by
one (`sourceLines_deleteLine`). So what it says is what the source says at the other lines,
renumbered (`Reading.rules_deleteLine`, `Reading.errors_deleteLine`). If no production was at the
line, the grammar stays, apart from the numbers (`Loaded.grammar_deleteLine`), and so do the errors
of the other lines (`Loaded.errors_deleteLine`). This is so for lines that are skipped or refused
(`Loaded.inert_line_leaves_no_trace`).
-/

namespace Lookahead

variable {file : String} {source : Bytes} {index : Nat}

/-! ## Lines -/

namespace Bytes

variable {bytes line : Bytes}

theorem deleteLine_of_not_mem (h : lineFeed ∉ bytes) (index : Nat) :
    deleteLine index bytes = if index = 0 then [] else bytes := by
  have hdrop : bytes.dropWhile (· != lineFeed) = [] := List.dropWhile_eq_nil_iff.2 (bne_lineFeed h)
  cases index with
  | zero => simp [deleteLine, hdrop]
  | succ index => simp [deleteLine, hdrop]

theorem deleteLine_zero_append (hline : lineFeed ∉ line) (rest : Bytes) :
    deleteLine 0 (line ++ lineFeed :: rest) = rest := by
  simp [deleteLine, dropWhile_append_lineFeed hline]

theorem deleteLine_succ_append (hline : lineFeed ∉ line) (rest : Bytes) (index : Nat) :
    deleteLine (index + 1) (line ++ lineFeed :: rest) =
      line ++ lineFeed :: deleteLine index rest := by
  simp [deleteLine, dropWhile_append_lineFeed hline, takeWhile_append_lineFeed hline]

theorem lines_deleteLine (index : Nat) (source : Bytes) :
    lines (deleteLine index source) = (lines source).eraseIdx index := by
  by_cases hfeed : lineFeed ∈ source
  · obtain ⟨line, rest, rfl, hline⟩ := List.eq_append_cons_of_mem hfeed
    rw [lines_append hline]
    cases index with
    | zero => rw [deleteLine_zero_append hline, List.eraseIdx_cons_zero]
    | succ index =>
      rw [deleteLine_succ_append hline, lines_append hline, List.eraseIdx_cons_succ,
        lines_deleteLine index rest]
  · rw [deleteLine_of_not_mem hfeed, lines_of_not_mem hfeed]
    cases index with
    | zero =>
      rw [if_pos rfl, lines, if_pos rfl]
      split <;> rfl
    | succ index =>
      rw [if_neg (Nat.succ_ne_zero index), lines_of_not_mem hfeed]
      split <;> rfl

end Bytes

/-- The numbers above `number` lowered by one. -/
def lowerAbove (number n : Nat) : Nat := if number < n then n - 1 else n

theorem strictMonoOn_lowerAbove (number : Nat) :
    StrictMonoOn (lowerAbove number) {n | n ≠ number} := by
  intro a (ha : a ≠ number) b (hb : b ≠ number) hab
  unfold lowerAbove
  split <;> split <;> omega

theorem map_renumber_numberLines {f : Nat → Nat} {first : Nat}
    (h : ∀ n, first ≤ n → f (n + 1) = n) (lines : List Bytes) :
    (numberLines (first + 1) lines).map (·.renumber f) = numberLines first lines := by
  induction lines generalizing first with
  | nil => rfl
  | cons bytes lines ih =>
    rw [numberLines_cons, numberLines_cons, List.map_cons,
      ih fun n hn => h n (Nat.le_trans (Nat.le_succ first) hn)]
    simp only [SourceLine.renumber, h first (Nat.le_refl first)]

theorem numberLines_eraseIdx (first index : Nat) (lines : List Bytes) :
    numberLines first (lines.eraseIdx index) =
      ((numberLines first lines).filter (·.number ≠ first + index)).map
        (·.renumber (lowerAbove (first + index))) := by
  induction lines generalizing first index with
  | nil => rfl
  | cons bytes lines ih =>
    rw [numberLines_cons]
    cases index with
    | zero =>
      have hrest : (numberLines (first + 1) lines).filter (·.number ≠ first) =
          numberLines (first + 1) lines := by
        refine List.filter_eq_self.2 fun line hline => ?_
        have hbounds := number_of_mem_numberLines hline
        simp only [decide_eq_true_eq]
        omega
      have hlower (n : Nat) (hn : first ≤ n) : lowerAbove first (n + 1) = n :=
        if_pos (Nat.lt_succ_of_le hn)
      rw [List.eraseIdx_cons_zero, Nat.add_zero, List.filter_cons_of_neg (by simp), hrest,
        map_renumber_numberLines hlower]
    | succ index =>
      have hnumber : first + (index + 1) = first + 1 + index := by omega
      have hhead : lowerAbove (first + 1 + index) first = first := if_neg (by omega)
      rw [List.eraseIdx_cons_succ, numberLines_cons, ih, hnumber,
        List.filter_cons_of_pos (by simp; omega), List.map_cons, SourceLine.renumber, hhead]

/-- The other lines, with lower numbers below the one that is taken out. -/
theorem sourceLines_deleteLine (index : Nat) (source : Bytes) :
    sourceLines (source.deleteLine index) =
      ((sourceLines source).filter (·.number ≠ index + 1)).map
        (·.renumber (lowerAbove (index + 1))) := by
  rw [sourceLines_eq, sourceLines_eq, Bytes.lines_deleteLine, numberLines_eraseIdx,
    Nat.add_comm index]

/-! ## What the lines say -/

/-- The errors of other lines than `number`, with lower numbers below it. -/
def withoutLine (number : Nat) (errors : List LoadDiagnostic) : List LoadDiagnostic :=
  (errors.filter (·.location.line ≠ number)).map (·.renumber (lowerAbove number))

theorem withoutLine_append (number : Nat) (errors errors' : List LoadDiagnostic) :
    withoutLine number (errors ++ errors') =
      withoutLine number errors ++ withoutLine number errors' := by
  rw [withoutLine, List.filter_append, List.map_append, withoutLine, withoutLine]

theorem sortByLine_withoutLine (number : Nat) (errors : List LoadDiagnostic) :
    sortByLine (withoutLine number errors) = withoutLine number (sortByLine errors) := by
  have hline (e) (he : e ∈ errors.filter (·.location.line ≠ number)) :
      e.location.line ≠ number := of_decide_eq_true (List.mem_filter.1 he).2
  rw [withoutLine, sortByLine_renumber (strictMonoOn_lowerAbove number) hline, sortByLine,
    sortByKey_filter, withoutLine, sortByLine]

theorem filterMap_map_renumber {α : Type} {f : Nat → Nat} {read : SourceLine → Option α}
    {move : α → α} (h : ∀ line, read (line.renumber f) = (read line).map move)
    (lines : List SourceLine) :
    (lines.map (·.renumber f)).filterMap read = (lines.filterMap read).map move := by
  rw [List.filterMap_map, List.map_filterMap]
  exact congrArg (List.filterMap · lines) (funext h)

theorem filterMap_deleteLine {α : Type} {read : SourceLine → Option α} {key : α → Nat}
    {move : (Nat → Nat) → α → α} (hkey : ∀ line a, read line = some a → key a = line.number)
    (hmove : ∀ f line, read (line.renumber f) = (read line).map (move f)) (index : Nat)
    (source : Bytes) :
    (sourceLines (source.deleteLine index)).filterMap read =
      (((sourceLines source).filterMap read).filter (key · ≠ index + 1)).map
        (move (lowerAbove (index + 1))) := by
  rw [sourceLines_deleteLine, filterMap_map_renumber (hmove _),
    Reading.filter_filterMap_number hkey fun n => decide (n ≠ index + 1)]

namespace Reading

theorem rules_deleteLine (file : String) (index : Nat) (source : Bytes) :
    (ofSource file (source.deleteLine index)).rules =
      ((ofSource file source).rules.filter (·.production.location.line ≠ index + 1)).map
        (·.renumber (lowerAbove (index + 1))) := by
  rw [rules_ofSource, rules_ofSource]
  exact filterMap_deleteLine number_of_ruleOf? (fun _ => ruleOf?_renumber file) index source

theorem errors_deleteLine (file : String) (index : Nat) (source : Bytes) :
    (ofSource file (source.deleteLine index)).errors =
      withoutLine (index + 1) (ofSource file source).errors := by
  rw [errors_ofSource, errors_ofSource]
  exact filterMap_deleteLine number_of_errorOf? (fun _ => errorOf?_renumber file) index source

end Reading

namespace Loaded

theorem filter_rules_deleteLine {p : Rule → Bool} (hp : ∀ f rule, p (rule.renumber f) = p rule)
    (file : String) (index : Nat) (source : Bytes) :
    (Reading.ofSource file (source.deleteLine index)).rules.filter p =
      (((Reading.ofSource file source).rules.filter p).filter
        (·.production.location.line ≠ index + 1)).map (·.renumber (lowerAbove (index + 1))) := by
  rw [Reading.rules_deleteLine, List.filter_map, List.filter_comm]
  simp only [Function.comp_def, hp]

/-- A line without a production is not needed for the grammar. -/
theorem grammar_deleteLine (h : (ofSource file source).rulesAt (index + 1) = []) :
    (ofSource file (source.deleteLine index)).grammar =
      (ofSource file source).grammar.renumber (lowerAbove (index + 1)) := by
  have hkept : ((Reading.ofSource file source).rules.filter (!·.isLeftRecursive)).filter
      (·.production.location.line ≠ index + 1) =
        (Reading.ofSource file source).rules.filter (!·.isLeftRecursive) :=
    List.filter_eq_self.2 fun rule hr => decide_eq_true (rulesAt_eq_nil.1 h rule hr)
  simp only [ofSource, ofReading, ofRules, Grammar.renumber_ofRules]
  rw [filter_rules_deleteLine fun f rule => by rw [rule.isLeftRecursive_renumber], hkept]

theorem dropped_deleteLine (file : String) (index : Nat) (source : Bytes) :
    ((Reading.ofSource file (source.deleteLine index)).rules.filter (·.isLeftRecursive)).map
        leftRecursionError =
      withoutLine (index + 1)
        (((Reading.ofSource file source).rules.filter (·.isLeftRecursive)).map
          leftRecursionError) := by
  rw [filter_rules_deleteLine fun f rule => rule.isLeftRecursive_renumber, withoutLine,
    List.filter_map, List.map_map, List.map_map]
  rfl

theorem undefinedErrors_deleteLine (h : (ofSource file source).rulesAt (index + 1) = []) :
    (ofSource file (source.deleteLine index)).grammar.undefinedErrors =
      withoutLine (index + 1) (ofSource file source).grammar.undefinedErrors := by
  have hother : (ofSource file source).grammar.undefinedErrors.filter
      (·.location.line ≠ index + 1) = (ofSource file source).grammar.undefinedErrors :=
    List.filter_eq_self.2 fun _ he => decide_eq_true (line_ne_of_mem_undefinedErrors h he)
  rw [grammar_deleteLine h, withoutLine, hother,
    Grammar.undefinedErrors_renumber (strictMonoOn_lowerAbove (index + 1)) (rulesAt_eq_nil.1 h)]

theorem found_deleteLine (h : (ofSource file source).rulesAt (index + 1) = []) :
    (Reading.ofSource file (source.deleteLine index)).found =
      withoutLine (index + 1) (Reading.ofSource file source).found := by
  have hundefined := undefinedErrors_deleteLine h
  rw [ofSource, ofSource] at hundefined
  rw [Reading.found, Reading.errors_deleteLine, dropped_deleteLine, hundefined,
    ← withoutLine_append, ← withoutLine_append, Reading.found]

theorem errors_deleteLine (h : (ofSource file source).rulesAt (index + 1) = []) :
    (ofSource file (source.deleteLine index)).errors =
      withoutLine (index + 1) (ofSource file source).errors := by
  rw [ofSource, ofSource, errors_ofReading, errors_ofReading, found_deleteLine h,
    sortByLine_withoutLine]

/-! ## Inert lines -/

/-- A line that is skipped or refused gives no production and at most one error. -/
theorem located_of_inert {line : SourceLine} (hline : line ∈ sourceLines source)
    (hinert : line.IsSkipped ∨
      ∃ e ∈ (ofSource file source).errors, e.location.line = line.number ∧
        e.kind.isRefusal = true) :
    (ofSource file source).rulesAt line.number = [] ∧
      ((ofSource file source).errorsAt line.number).length ≤ 1 := by
  obtain ⟨fate, hfate⟩ := treats_line hline file
  cases hfate with
  | skipped _ hrules herrors =>
    rw [herrors]
    exact ⟨hrules, Nat.zero_le 1⟩
  | refused _ hrules herrors =>
    rw [herrors]
    exact ⟨hrules, Nat.le_refl 1⟩
  | kept hother _ _ hundefined =>
    rcases hinert with hskipped | ⟨e, he, hnumber, hrefusal⟩
    · exact absurd hskipped hother
    · -- The only errors at such a line are mentions of undefined nonterminals.
      have hkind := hundefined e (List.mem_filter.2 ⟨he, decide_eq_true hnumber⟩)
      cases (LoadError.isUndefined_of_isRefusal hrefusal).symm.trans hkind

/-- If a line is blank, a comment or the place of an error that refuses it, then the source without
this line loads to the same grammar and to the same errors but the one at the line, except that line
numbers below it are lower by one. -/
theorem inert_line_leaves_no_trace (file : String) (source : Bytes) (index : Nat) (bytes : Bytes)
    (hline : source.lines[index]? = some bytes)
    (hinert : SourceLine.IsSkipped ⟨index + 1, bytes.decode?⟩ ∨
      ∃ e ∈ (ofSource file source).errors, e.location.line = index + 1 ∧ e.kind.isRefusal = true) :
    let loaded := ofSource file source
    let shortened := ofSource file (source.deleteLine index)
    let lower := lowerAbove (index + 1)
    shortened.grammar = loaded.grammar.renumber lower ∧
    shortened.grammar.start = loaded.grammar.start ∧
    shortened.grammar.nonterminals = loaded.grammar.nonterminals ∧
    (∀ name, shortened.grammar.productions name =
      (loaded.grammar.productions name).map (·.renumber lower)) ∧
    (loaded.errorsAt (index + 1)).length ≤ 1 ∧
    shortened.errors =
      (loaded.errors.filter (·.location.line ≠ index + 1)).map (·.renumber lower) := by
  intro loaded shortened lower
  obtain ⟨hrules, herrors⟩ :=
    located_of_inert (List.mem_of_getElem? (getElem?_sourceLines hline)) hinert
  have hgrammar : shortened.grammar = loaded.grammar.renumber lower := grammar_deleteLine hrules
  refine ⟨hgrammar, ?_, ?_, fun name => ?_, herrors, errors_deleteLine hrules⟩
  · rw [hgrammar, Grammar.start_renumber]
  · rw [hgrammar, Grammar.nonterminals_renumber]
  · rw [hgrammar, Grammar.productions_renumber]

/-- Without the left-recursive rule of the sample its error is gone, and what is wrong with the two
lines below is reported one line higher. -/
theorem inert_line_leaves_no_trace_faultySource :
    faultySource.lines[2]? = some (Bytes.ofText "T -> T .") ∧
    (∃ e ∈ (ofSource "g" faultySource).errors, e.location.line = 3 ∧ e.kind.isRefusal = true) ∧
    faultySource.deleteLine 2 = Bytes.ofText "S -> T Z .\n; no rule\nS\n" ++ [255] ∧
    (ofSource "g" faultySource).errors.map (·.location.line) = [1, 1, 3, 4, 5] ∧
    (ofSource "g" (faultySource.deleteLine 2)).errors.map (·.location.line) = [1, 1, 3, 4] ∧
    (ofSource "g" (faultySource.deleteLine 2)).grammar.start = some "S" := by
  have hline : faultySource.lines[2]? = some (Bytes.ofText "T -> T .") := by decide +kernel
  have hrefused : ∃ e ∈ (ofSource "g" faultySource).errors,
      e.location.line = 3 ∧ e.kind.isRefusal = true := by decide +kernel
  obtain ⟨-, hstart, -, -, -, herrors⟩ :=
    inert_line_leaves_no_trace "g" faultySource 2 _ hline (.inr hrefused)
  refine ⟨hline, hrefused, by decide +kernel, by decide +kernel, ?_, ?_⟩
  · rw [herrors]
    decide +kernel
  · rw [hstart]
    decide +kernel

end Loaded

end Lookahead
