import Lookahead.Proofs.Grammar.Canonical
import Lookahead.Proofs.Grammar.Contents

/-!
# A printed grammar is loaded again

The rules of a loaded grammar can be printed on one line each, are canonical and not left-recursive.
Hence loading the printed grammar finds the same rules, grouped by head (`Loaded.ofSource_print`),
and nothing to report but the nonterminals that were undefined before (`Loaded.reload_print`).
-/

namespace Lookahead

variable {file : String} {source : Bytes} {rule : Rule} {rules : List Rule} {g : Grammar}

/-- The rule comes back, and is kept, when its line is loaded. -/
structure Rule.IsLoadable (r : Rule) : Prop extends r.IsPrintable where
  canonical : r.production.IsCanonical
  not_leftRecursive : r.isLeftRecursive = false

theorem Loaded.isLoadable_of_mem_rules (h : rule ∈ (ofSource file source).grammar.rules) :
    rule.IsLoadable := by
  obtain ⟨hrule, hleft⟩ := List.mem_filter.1 h
  obtain ⟨number, text, hline, hread⟩ := Reading.exists_line_of_mem_rules hrule
  exact
    { toIsPrintable := Rule.isPrintable_ofLine hread hline
      canonical := isCanonical_of_mem_reading hrule
      not_leftRecursive := by simpa using hleft }

theorem Rule.IsLoadable.content_readAt (h : rule.IsLoadable) (location : Location) :
    (rule.readAt location).content = rule.content := by
  rw [content, readAt, Production.canonical, h.canonical.canonicalSymbols_eq, content]

theorem Rule.isLeftRecursive_eq_content (r : Rule) :
    r.isLeftRecursive = (r.content.2.head? == some (.nonterminal r.content.1)) := rfl

theorem Rule.IsLoadable.isLeftRecursive_readAt (h : rule.IsLoadable) (location : Location) :
    (rule.readAt location).isLeftRecursive = false := by
  rw [isLeftRecursive_eq_content, h.content_readAt, ← isLeftRecursive_eq_content,
    h.not_leftRecursive]

theorem Reading.readLine_print (h : rule.IsSpellable) (file : String) (number : Nat) :
    readLine file ⟨number, some rule.print⟩ = some (.ok (rule.readAt ⟨file, number⟩)) := by
  simp only [readLine, Rule.isRuleLine_print h, Rule.ofLine_print h, if_true]
  rfl

theorem Rule.getLast?_ofText_print (r : Rule) :
    (Bytes.ofText r.print).getLast? ≠ some Bytes.carriageReturn := by
  have hperiod : Bytes.ofText " ." = [32, 46] := rfl
  simp [Rule.print, Bytes.ofText_append, hperiod, Bytes.carriageReturn]

/-! ## All rules -/

/-- The rules as they are read if they are printed on lines with numbers from `first` on. -/
def numberedRules (file : String) (first : Nat) (rules : List Rule) : List Rule :=
  (rules.zipIdx first).map fun (rule, number) => rule.readAt ⟨file, number⟩

theorem map_content_numberedRules (h : ∀ rule ∈ rules, rule.IsLoadable) (file : String)
    (first : Nat) : (numberedRules file first rules).map Rule.content = rules.map Rule.content := by
  conv => rhs; rw [← List.zipIdx_map_fst first rules]
  rw [numberedRules, List.map_map, List.map_map]
  refine List.map_congr_left fun ⟨rule, number⟩ hrule => ?_
  exact (h rule (List.fst_mem_of_mem_zipIdx hrule)).content_readAt _

theorem isLeftRecursive_of_mem_numberedRules {first : Nat} (h : ∀ rule ∈ rules, rule.IsLoadable)
    (hrule : rule ∈ numberedRules file first rules) : rule.isLeftRecursive = false := by
  obtain ⟨⟨rule, number⟩, hmem, rfl⟩ := List.mem_map.1 hrule
  exact (h rule (List.fst_mem_of_mem_zipIdx hmem)).isLeftRecursive_readAt _

theorem sourceLines_print (h : ∀ rule ∈ rules, rule.IsPrintable) :
    sourceLines (.ofText (String.join (rules.map fun rule => rule.print ++ "\n"))) =
      (rules.zipIdx 1).map fun (rule, number) => ⟨number, some rule.print⟩ := by
  have hline : ∀ text ∈ rules.map Rule.print,
      '\n' ∉ text.toList ∧ (Bytes.ofText text).getLast? ≠ some Bytes.carriageReturn := by
    intro text htext
    obtain ⟨rule, hrule, rfl⟩ := List.mem_map.1 htext
    exact ⟨(h rule hrule).newline, rule.getLast?_ofText_print⟩
  have hlines : Bytes.lines (.ofText (String.join (rules.map fun rule => rule.print ++ "\n"))) =
      rules.map (Bytes.ofText ·.print) := by
    simpa [Function.comp_def] using Bytes.lines_ofText_join hline
  rw [sourceLines, hlines, List.zipIdx_map, List.map_map]
  refine List.map_congr_left fun ⟨rule, number⟩ _ => ?_
  simp [Bytes.decode?_ofText]

theorem filterMap_readLine_print (h : ∀ rule ∈ rules, rule.IsSpellable) (file : String)
    (first : Nat) :
    ((rules.zipIdx first).map fun (rule, number) => ⟨number, some rule.print⟩).filterMap
        (Reading.readLine file) = (numberedRules file first rules).map .ok := by
  induction rules generalizing first with
  | nil => rfl
  | cons rule rules ih =>
    obtain ⟨hrule, hrules⟩ := List.forall_mem_cons.1 h
    rw [List.zipIdx_cons, List.map_cons,
      List.filterMap_cons_some (Reading.readLine_print hrule file first), ih hrules, numberedRules,
      numberedRules, List.zipIdx_cons, List.map_cons, List.map_cons]

theorem Reading.ofResults_map_ok (rules : List Rule) : ofResults (rules.map .ok) = ⟨rules, []⟩ := by
  simp [ofResults, List.filterMap_map]

theorem Reading.ofSource_print (h : ∀ rule ∈ rules, rule.IsPrintable) (file : String) :
    ofSource file (.ofText (String.join (rules.map fun rule => rule.print ++ "\n"))) =
      ⟨numberedRules file 1 rules, []⟩ := by
  rw [ofSource, sourceLines_print h, filterMap_readLine_print fun rule hr => (h rule hr).spellable,
    ofResults_map_ok]

namespace Loaded

/-- A printed grammar is loaded with its rules grouped by head. -/
theorem ofSource_print (h : ∀ rule ∈ g.rules, rule.IsLoadable) (file : String) :
    ofSource file (.ofText g.print) = ofReading ⟨numberedRules file 1 g.groupedRules, []⟩ := by
  have hprintable : ∀ rule ∈ g.groupedRules, rule.IsPrintable :=
    Grammar.forall_mem_groupedRules.2 fun rule hr => (h rule hr).toIsPrintable
  rw [ofSource, Grammar.print, Reading.ofSource_print hprintable]

theorem grammar_ofReading_numberedRules (h : ∀ rule ∈ rules, rule.IsLoadable) (file : String) :
    (ofReading ⟨numberedRules file 1 rules, []⟩).grammar =
      .ofRules (numberedRules file 1 rules) := by
  have hkept : ∀ rule ∈ numberedRules file 1 rules, (!rule.isLeftRecursive) = true := by
    intro rule hr
    rw [isLeftRecursive_of_mem_numberedRules h hr, Bool.not_false]
  simp only [ofReading, ofRules, List.filter_eq_self.2 hkept]

theorem agrees_ofSource_print (h : ∀ rule ∈ g.rules, rule.IsLoadable) (hchosen : g.chosen = none)
    (file : String) : (ofSource file (.ofText g.print)).grammar.Agrees g := by
  have hgrouped := Grammar.forall_mem_groupedRules.2 h
  rw [ofSource_print h, grammar_ofReading_numberedRules hgrouped]
  exact .of_grouped rfl hchosen (map_content_numberedRules hgrouped file 1)

/-- Only undefined nonterminals are reported about a printed grammar. -/
theorem kind_of_mem_errors_print {e : LoadDiagnostic} (h : ∀ rule ∈ g.rules, rule.IsLoadable)
    (he : e ∈ (ofSource file (.ofText g.print)).errors) :
    ∃ name, e.kind = .undefinedNonterminal name := by
  have hgrouped := Grammar.forall_mem_groupedRules.2 h
  rw [ofSource_print h, mem_errors_ofReading] at he
  rcases he with he | ⟨rule, hr, hleft, -⟩ | he
  · cases he
  · rw [isLeftRecursive_of_mem_numberedRules hgrouped hr] at hleft
    cases hleft
  · obtain ⟨name, -, hname⟩ := Grammar.mem_kinds_undefinedErrors.1 (List.mem_map_of_mem he)
    exact ⟨name, hname.symm⟩

/-- Loading the printed grammar of a source gives the same grammar, apart from locations and the
order of nonterminals, and reports the same undefined nonterminals and nothing else. -/
theorem reload_print (file file' : String) (source : Bytes) :
    let loaded := ofSource file source
    let reloaded := ofSource file' (.ofText loaded.grammar.print)
    reloaded.grammar.Agrees loaded.grammar ∧
      (∀ e ∈ reloaded.errors, ∃ name, e.kind = .undefinedNonterminal name) ∧
      ∀ name, (∃ e ∈ reloaded.errors, e.kind = .undefinedNonterminal name) ↔
        ∃ e ∈ loaded.errors, e.kind = .undefinedNonterminal name := by
  intro loaded reloaded
  have hloadable : ∀ rule ∈ loaded.grammar.rules, rule.IsLoadable := fun rule =>
    isLoadable_of_mem_rules
  have hagrees : reloaded.grammar.Agrees loaded.grammar := agrees_ofSource_print hloadable rfl file'
  refine ⟨hagrees, fun e => kind_of_mem_errors_print hloadable, fun name => ?_⟩
  rw [reports_undefined_iff, reports_undefined_iff]
  exact hagrees.mem_undefined

/-- The marks inside a terminal stay in it, and the rule without symbols is printed with one. -/
example :
    (ofSource "sample.bnf" (.ofText "S->\"a.;\"T.\r\n; no rule\nS -> .")).grammar.print =
      "S -> \"a.;\" T .\nS -> \"epsilon\" .\n" := by
  decide +kernel

end Loaded

end Lookahead
