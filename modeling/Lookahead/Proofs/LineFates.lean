import Lookahead.Proofs.Grammar.Contents
import Lookahead.Proofs.LineByLine
import Mathlib.Data.List.Basic

/-!
# Every line is accounted for

A line of a source is skipped, or it gives one production of the grammar, or it is refused with one
error. The errors at a number are those that the line gave when it was read, those of its rules that
were dropped and those of its rules that are in the grammar (`Loaded.errorsAt_eq`), which decides
the fate of the line (`Loaded.treats_line`). Hence the numbers of lines, productions and errors
balance (`Loaded.every_line_accounted`).
-/

namespace Lookahead

variable {file : String} {source : Bytes} {line : SourceLine} {rule : Rule} {e : LoadDiagnostic}
  {g : Grammar} {reading : Reading} {loaded : Loaded} {number : Nat}

namespace LoadError

def isUndefined : LoadError → Bool
  | undefinedNonterminal _ => true
  | _ => false

def isLeftRecursive : LoadError → Bool
  | leftRecursive _ => true
  | _ => false

def isUnreadable : LoadError → Bool
  | unreadable _ => true
  | _ => false

/-- The error says why a line gives no production. -/
def isRefusal : LoadError → Bool
  | unreadable _ | malformed _ | leftRecursive _ => true
  | undefinedNonterminal _ | undefinedStart _ => false

theorem isUndefined_of_isRefusal {kind : LoadError} (h : kind.isRefusal = true) :
    kind.isUndefined = false := by
  cases kind with
  | undefinedNonterminal => cases h
  | _ => rfl

end LoadError

inductive Fate where
  | skipped
  | kept
  | refused
  deriving DecidableEq, Repr

namespace Loaded

/-- The productions that are located at a line. -/
def rulesAt (loaded : Loaded) (number : Nat) : List Rule :=
  loaded.grammar.groupedRules.filter (·.production.location.line = number)

/-- The errors that are located at a line. -/
def errorsAt (loaded : Loaded) (number : Nat) : List LoadDiagnostic :=
  loaded.errors.filter (·.location.line = number)

/-- What became of a line, by what it says and what is located at it. A blank line or comment leaves
nothing. Any other line leaves one production and perhaps mentions of undefined nonterminals, or a
single error, which is about unreadable bytes exactly if the line cannot be decoded. -/
inductive Treats (loaded : Loaded) (line : SourceLine) : Fate → Prop where
  | skipped : line.IsSkipped → loaded.rulesAt line.number = [] →
      loaded.errorsAt line.number = [] → Treats loaded line .skipped
  | kept {rule : Rule} : ¬ line.IsSkipped → line.text? ≠ none →
      loaded.rulesAt line.number = [rule] →
      (∀ e ∈ loaded.errorsAt line.number, e.kind.isUndefined = true) → Treats loaded line .kept
  | refused {e : LoadDiagnostic} : ¬ line.IsSkipped → loaded.rulesAt line.number = [] →
      loaded.errorsAt line.number = [e] → e.kind.isRefusal = true →
      (e.kind.isUnreadable = true ↔ line.text? = none) → Treats loaded line .refused

theorem Treats.unique {fate fate' : Fate} (h : loaded.Treats line fate)
    (h' : loaded.Treats line fate') : fate = fate' := by
  cases h with
  | skipped hskipped =>
    cases h' with
    | skipped => rfl
    | kept hother | refused hother => exact absurd hskipped hother
  | kept hother _ hrules =>
    cases h' with
    | skipped hskipped => exact absurd hskipped hother
    | kept => rfl
    | refused _ hrules' => cases hrules.symm.trans hrules'
  | refused hother hrules =>
    cases h' with
    | skipped hskipped => exact absurd hskipped hother
    | kept _ _ hrules' => cases hrules.symm.trans hrules'
    | refused => rfl

theorem rulesAt_eq_nil :
    loaded.rulesAt number = [] ↔
      ∀ rule ∈ loaded.grammar.rules, rule.production.location.line ≠ number := by
  simp only [rulesAt, List.filter_eq_nil_iff, decide_eq_true_eq, Grammar.mem_groupedRules, ne_eq]

theorem line_ne_of_mem_undefinedErrors (h : loaded.rulesAt number = [])
    (he : e ∈ loaded.grammar.undefinedErrors) : e.location.line ≠ number := by
  obtain ⟨-, rule, hr, hlocation⟩ := Grammar.exists_rule_of_mem_undefinedErrors he
  rw [hlocation]
  exact rulesAt_eq_nil.1 h rule hr

theorem filter_undefinedErrors_eq_nil (h : loaded.rulesAt number = []) :
    loaded.grammar.undefinedErrors.filter (·.location.line = number) = [] :=
  List.filter_eq_nil_iff.2 fun _ he => mt of_decide_eq_true (line_ne_of_mem_undefinedErrors h he)

theorem filter_rules_ofReading (reading : Reading) (number : Nat) :
    (ofReading reading).grammar.rules.filter (·.production.location.line = number) =
      (reading.rules.filter (·.production.location.line = number)).filter
        (!·.isLeftRecursive) :=
  List.filter_comm _ _ _

/-- The errors at a line, in the order in which they are found. -/
theorem errorsAt_ofReading (reading : Reading) (number : Nat) :
    (ofReading reading).errorsAt number =
      reading.errors.filter (·.location.line = number) ++
      (((reading.rules.filter (·.production.location.line = number)).filter
          (·.isLeftRecursive)).map leftRecursionError ++
        (ofReading reading).grammar.undefinedErrors.filter (·.location.line = number)) := by
  have hdropped : ((reading.rules.filter (·.isLeftRecursive)).map leftRecursionError).filter
        (·.location.line = number) =
      ((reading.rules.filter (·.production.location.line = number)).filter
        (·.isLeftRecursive)).map leftRecursionError := by
    rw [List.filter_map, List.filter_comm]
    rfl
  rw [errorsAt, errors_ofReading, sortByLine, filter_sortByKey, Reading.found, List.filter_append,
    List.filter_append, hdropped, List.append_assoc]

theorem errorsAt_eq (h : line ∈ sourceLines source) (file : String) :
    (ofSource file source).errorsAt line.number =
      (Reading.errorOf? file line).toList ++
      (((Reading.ruleOf? file line).toList.filter (·.isLeftRecursive)).map leftRecursionError ++
        (ofSource file source).grammar.undefinedErrors.filter
          (·.location.line = line.number)) := by
  rw [ofSource, errorsAt_ofReading, Reading.errors_at h, Reading.rules_at h]

theorem eq_of_perm_toList {α : Type} {l : List α} {o : Option α} (h : l.Perm o.toList) :
    l = o.toList := by
  cases o with
  | none => exact h.eq_nil
  | some a => exact List.perm_singleton.1 h

theorem rulesAt_eq (h : line ∈ sourceLines source) (file : String) :
    (ofSource file source).rulesAt line.number =
      (Reading.ruleOf? file line).toList.filter (!·.isLeftRecursive) := by
  have hrules := filter_rules_ofReading (Reading.ofSource file source) line.number
  have hperm : ((ofSource file source).rulesAt line.number).Perm _ :=
    (ofSource file source).grammar.groupedRules_perm.filter _
  rw [ofSource, hrules, Reading.rules_at h, ← Option.toList_filter] at hperm
  rw [← Option.toList_filter]
  exact eq_of_perm_toList hperm

/-- A line without a rule leaves at most its own error. -/
theorem located_of_ruleOf?_eq_none (h : line ∈ sourceLines source)
    (hrule : Reading.ruleOf? file line = none) :
    (ofSource file source).rulesAt line.number = [] ∧
      (ofSource file source).errorsAt line.number = (Reading.errorOf? file line).toList := by
  have hrules : (ofSource file source).rulesAt line.number = [] := by
    rw [rulesAt_eq h, hrule]
    rfl
  refine ⟨hrules, ?_⟩
  rw [errorsAt_eq h, hrule, filter_undefinedErrors_eq_nil hrules]
  exact List.append_nil _

/-- A line with a left-recursive rule leaves the error of dropping it. -/
theorem located_of_leftRecursive (h : line ∈ sourceLines source)
    (hrule : Reading.ruleOf? file line = some rule) (herror : Reading.errorOf? file line = none)
    (hleft : rule.isLeftRecursive = true) :
    (ofSource file source).rulesAt line.number = [] ∧
      (ofSource file source).errorsAt line.number = [leftRecursionError rule] := by
  have hrules : (ofSource file source).rulesAt line.number = [] := by
    rw [rulesAt_eq h, hrule]
    simp [hleft]
  refine ⟨hrules, ?_⟩
  rw [errorsAt_eq h, hrule, herror, filter_undefinedErrors_eq_nil hrules]
  simp [hleft]

/-- A line with any other rule leaves its production, and mentions of undefined nonterminals. -/
theorem located_of_kept (h : line ∈ sourceLines source)
    (hrule : Reading.ruleOf? file line = some rule) (herror : Reading.errorOf? file line = none)
    (hleft : rule.isLeftRecursive = false) :
    (ofSource file source).rulesAt line.number = [rule] ∧
      ∀ e ∈ (ofSource file source).errorsAt line.number, e.kind.isUndefined = true := by
  have herrors : (ofSource file source).errorsAt line.number =
      (ofSource file source).grammar.undefinedErrors.filter (·.location.line = line.number) := by
    rw [errorsAt_eq h, hrule, herror]
    simp [hleft]
  constructor
  · rw [rulesAt_eq h, hrule]
    simp [hleft]
  · intro e he
    rw [herrors] at he
    obtain ⟨⟨name, hkind⟩, -⟩ :=
      Grammar.exists_rule_of_mem_undefinedErrors (List.mem_filter.1 he).1
    rw [hkind]
    rfl

/-! ## The fate of a line -/

theorem treats_line (h : line ∈ sourceLines source) (file : String) :
    ∃ fate, (ofSource file source).Treats line fate := by
  rcases Reading.line_cases file line with
    ⟨hskipped, hrule, herror⟩ | ⟨e, hother, hrule, herror, he⟩ |
      ⟨rule, hother, hrule, herror, htext⟩
  · obtain ⟨hrules, herrors⟩ := located_of_ruleOf?_eq_none h hrule
    rw [herror] at herrors
    exact ⟨.skipped, .skipped hskipped hrules herrors⟩
  · obtain ⟨hrules, herrors⟩ := located_of_ruleOf?_eq_none h hrule
    rw [herror] at herrors
    refine ⟨.refused, .refused hother hrules herrors ?_ ?_⟩
    · rcases he with ⟨-, hkind⟩ | ⟨-, fault, hkind⟩ <;> rw [hkind] <;> rfl
    · rcases he with ⟨htext, hkind⟩ | ⟨htext, fault, hkind⟩
      · simp [htext, hkind, LoadError.isUnreadable]
      · simp [htext, hkind, LoadError.isUnreadable]
  · cases hleft : rule.isLeftRecursive with
    | true =>
      obtain ⟨hrules, herrors⟩ := located_of_leftRecursive h hrule herror hleft
      refine ⟨.refused, .refused hother hrules herrors rfl ?_⟩
      simp [htext, leftRecursionError, LoadError.isUnreadable]
    | false =>
      obtain ⟨hrules, herrors⟩ := located_of_kept h hrule herror hleft
      exact ⟨.kept, .kept hother htext hrules herrors⟩

/-! ## The numbers balance -/

theorem countP_lines (file : String) (lines : List SourceLine) :
    lines.countP (¬ ·.IsSkipped) =
      (lines.filterMap (Reading.ruleOf? file)).length +
        (lines.filterMap (Reading.errorOf? file)).length := by
  induction lines with
  | nil => rfl
  | cons line lines ih =>
    rcases Reading.line_cases file line with
      ⟨hskipped, hrule, herror⟩ | ⟨e, hother, hrule, herror, -⟩ | ⟨rule, hother, hrule, herror, -⟩
    · rw [List.countP_cons_of_neg (by simpa using hskipped), List.filterMap_cons_none hrule,
        List.filterMap_cons_none herror, ih]
    · rw [List.countP_cons_of_pos (by simpa using hother), List.filterMap_cons_none hrule,
        List.filterMap_cons_some herror, List.length_cons, ih, Nat.add_assoc]
    · rw [List.countP_cons_of_pos (by simpa using hother), List.filterMap_cons_some hrule,
        List.filterMap_cons_none herror, List.length_cons, ih, Nat.add_right_comm]

/-- Errors of any sort but undefined nonterminals are about lines or about dropped rules. -/
theorem countP_errors_ofReading {p : LoadError → Bool}
    (hp : ∀ name, p (.undefinedNonterminal name) = false) (reading : Reading) :
    (ofReading reading).errors.countP (p ·.kind) =
      reading.errors.countP (p ·.kind) +
        (reading.rules.filter (·.isLeftRecursive)).countP
          fun rule => p (.leftRecursive rule.head) := by
  have hundefined (g : Grammar) : g.undefinedErrors.countP (p ·.kind) = 0 := by
    refine List.countP_eq_zero.2 fun e he => ?_
    obtain ⟨⟨name, hkind⟩, -⟩ := Grammar.exists_rule_of_mem_undefinedErrors he
    rw [hkind, hp]
    exact Bool.false_ne_true
  rw [errors_ofReading, sortByLine, (sortByKey_perm _ _).countP_eq, Reading.found,
    List.countP_append, List.countP_append, hundefined, List.countP_map, Nat.add_zero]
  rfl

theorem countP_not_isUndefined (file : String) (source : Bytes) :
    (ofSource file source).errors.countP (!·.kind.isUndefined) =
      (Reading.ofSource file source).errors.length +
        ((Reading.ofSource file source).rules.filter (·.isLeftRecursive)).length := by
  have hreading : (Reading.ofSource file source).errors.countP (!·.kind.isUndefined) =
      (Reading.ofSource file source).errors.length := by
    refine List.countP_eq_length.2 fun e he => ?_
    rcases Reading.kind_of_mem_errors he with hkind | ⟨fault, hkind⟩ <;> rw [hkind] <;> rfl
  rw [ofSource, countP_errors_ofReading (p := (!·.isUndefined)) fun _ => rfl, hreading]
  exact congrArg _ (congrFun List.countP_true _)

theorem countP_isLeftRecursive (file : String) (source : Bytes) :
    (ofSource file source).errors.countP (·.kind.isLeftRecursive) =
      ((Reading.ofSource file source).rules.filter (·.isLeftRecursive)).length := by
  have hreading : (Reading.ofSource file source).errors.countP (·.kind.isLeftRecursive) = 0 := by
    refine List.countP_eq_zero.2 fun e he => ?_
    rcases Reading.kind_of_mem_errors he with hkind | ⟨fault, hkind⟩ <;> rw [hkind] <;> nofun
  rw [ofSource, countP_errors_ofReading (p := (·.isLeftRecursive)) fun _ => rfl, hreading,
    Nat.zero_add]
  exact congrFun List.countP_true _

theorem length_rules_ofSource (file : String) (source : Bytes) :
    (Reading.ofSource file source).rules.length =
      (ofSource file source).grammar.groupedRules.length +
        ((Reading.ofSource file source).rules.filter (·.isLeftRecursive)).length := by
  have hkept : (ofSource file source).grammar.groupedRules.length =
      (Reading.ofSource file source).rules.countP (!·.isLeftRecursive) :=
    (Grammar.groupedRules_perm _).length_eq.trans List.countP_eq_length_filter.symm
  rw [hkept, ← List.countP_eq_length_filter, Nat.add_comm,
    List.length_eq_countP_add_countP (·.isLeftRecursive)]
  simp

/-- Every line of a source, by its number from 1, is skipped, kept or refused, and never two of
these. So there are as many lines that are not skipped as productions and errors other than
undefined nonterminals, and the record of loading gives the numbers of productions with and without
those dropped for left recursion, and that of the nonterminals with productions. -/
theorem every_line_accounted (file : String) (source : Bytes) :
    let loaded := ofSource file source
    (∀ index bytes, source.lines[index]? = some bytes →
      ∃! fate, loaded.Treats ⟨index + 1, bytes.decode?⟩ fate) ∧
    (sourceLines source).countP (¬ ·.IsSkipped) =
      loaded.grammar.groupedRules.length + loaded.errors.countP (!·.kind.isUndefined) ∧
    ∃ kept parsed heads, sourceRecord file source = .loaded kept parsed heads file ∧
      kept = loaded.grammar.groupedRules.length ∧
      parsed = kept + loaded.errors.countP (·.kind.isLeftRecursive) ∧
      heads = (loaded.grammar.groupedRules.map Rule.head).eraseDups.length := by
  intro loaded
  refine ⟨fun index bytes hline => ?_, ?_, ?_⟩
  · have hmem : ⟨index + 1, bytes.decode?⟩ ∈ sourceLines source :=
      List.mem_of_getElem? (getElem?_sourceLines hline)
    obtain ⟨fate, hfate⟩ := treats_line hmem file
    exact ⟨fate, hfate, fun fate' hfate' => hfate'.unique hfate⟩
  · rw [countP_lines file, ← Reading.rules_ofSource, ← Reading.errors_ofSource,
      length_rules_ofSource, countP_not_isUndefined, Nat.add_right_comm, Nat.add_assoc]
  · refine ⟨_, _, _, rfl, rfl, ?_, loaded.grammar.heads_perm.length_eq⟩
    rw [countP_isLeftRecursive]
    exact length_rules_ofSource file source

/-- A source with a line of every fate: a rule that mentions an undefined nonterminal, a comment, a
left-recursive rule, a line without an arrow and a byte that is not UTF-8. -/
def faultySource : Bytes := Bytes.ofText "S -> T Z .\n; no rule\nT -> T .\nS\n" ++ [255]

/-- The line of the left-recursive rule has one fate. Four lines of the sample are not skipped: one
gives a production, and three give errors that are not about an undefined nonterminal. -/
theorem every_line_accounted_faultySource :
    faultySource.lines[2]? = some (Bytes.ofText "T -> T .") ∧
    (∃! fate, (ofSource "g" faultySource).Treats ⟨3, some "T -> T ."⟩ fate) ∧
    (sourceLines faultySource).countP (¬ ·.IsSkipped) = 4 ∧
    (ofSource "g" faultySource).grammar.groupedRules.length = 1 ∧
    (ofSource "g" faultySource).errors.countP (!·.kind.isUndefined) = 3 ∧
    sourceRecord "g" faultySource = .loaded 1 2 1 "g" := by
  obtain ⟨hfates, hcount, -⟩ := every_line_accounted "g" faultySource
  have hline : faultySource.lines[2]? = some (Bytes.ofText "T -> T .") := by decide +kernel
  have hkept : (ofSource "g" faultySource).grammar.groupedRules.length = 1 := by decide +kernel
  have herrors : (ofSource "g" faultySource).errors.countP (!·.kind.isUndefined) = 3 := by
    decide +kernel
  have hfate := hfates 2 _ hline
  rw [Bytes.decode?_ofText] at hfate
  rw [hkept, herrors] at hcount
  exact ⟨hline, hfate, hcount, hkept, herrors, by decide +kernel⟩

end Loaded

end Lookahead
