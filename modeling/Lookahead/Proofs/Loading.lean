import Lookahead.Loaded
import Lookahead.Proofs.Grammar.Rules
import Lookahead.Proofs.Source
import Lookahead.Proofs.StableSort

/-!
# What loading reads and reports

A rule of a source is read from one of its lines (`Reading.exists_line_of_mem_rules`). An error of a
source is about a line that cannot be read, a left-recursive rule or an undefined nonterminal. The
errors of all three kinds are sorted by line, which comes to one sort of them together
(`Loaded.errors_ofReading`), and of undefined nonterminals each is reported once
(`Grammar.kinds_undefinedErrors`, `Loaded.reports_undefined_iff`).
-/

namespace Lookahead

variable {file name : String} {source : Bytes} {line : SourceLine} {rule : Rule}
  {e : LoadDiagnostic} {reading : Reading} {g : Grammar}

/-! ## Reading -/

theorem eq_ok_of_mapError_eq_ok {ε ε' α : Type} {result : Except ε α} {f : ε → ε'} {a : α}
    (h : result.mapError f = .ok a) : result = .ok a := by
  cases result with
  | error fault => cases h
  | ok b => exact congrArg Except.ok (Except.ok.inj h)

theorem exists_of_mapError_eq_error {ε ε' α : Type} {result : Except ε α} {f : ε → ε'} {e : ε'}
    (h : result.mapError f = .error e) : ∃ fault, result = .error fault ∧ f fault = e := by
  cases result with
  | error fault => exact ⟨fault, rfl, Except.error.inj h⟩
  | ok a => cases h

namespace Reading

theorem mem_rules_ofResults {results : List (Except LoadDiagnostic Rule)} :
    rule ∈ (ofResults results).rules ↔ .ok rule ∈ results := by
  simp only [ofResults, List.mem_filterMap]
  constructor
  · rintro ⟨result, hresult, hrule⟩
    cases result with
    | error e => cases hrule
    | ok rule' => exact Option.some.inj hrule ▸ hresult
  · exact fun h => ⟨.ok rule, h, rfl⟩

theorem mem_errors_ofResults {results : List (Except LoadDiagnostic Rule)} :
    e ∈ (ofResults results).errors ↔ .error e ∈ results := by
  simp only [ofResults, List.mem_filterMap]
  constructor
  · rintro ⟨result, hresult, he⟩
    cases result with
    | error e' => exact Option.some.inj he ▸ hresult
    | ok rule => cases he
  · exact fun h => ⟨.error e, h, rfl⟩

theorem readLine_eq_ok (h : readLine file line = some (.ok rule)) :
    ∃ text, line.text? = some text ∧ Rule.ofLine ⟨file, line.number⟩ text = .ok rule := by
  unfold readLine at h
  split at h
  · cases h
  · rename_i text htext
    split at h
    · exact ⟨text, htext, eq_ok_of_mapError_eq_ok (Option.some.inj h)⟩
    · cases h

/-- The error of a line is about its bytes, or is the fault for which the rule in it is refused. -/
theorem readLine_eq_error (h : readLine file line = some (.error e)) :
    e.kind = .unreadable .notUTF8 ∨
      ∃ text fault, isRuleLine text = true ∧ Rule.ofLine ⟨file, line.number⟩ text = .error fault ∧
        e.kind = .malformed fault := by
  unfold readLine at h
  split at h
  · cases h
    exact .inl rfl
  · rename_i text _
    split at h
    · rename_i hrule
      obtain ⟨fault, hfault, rfl⟩ := exists_of_mapError_eq_error (Option.some.inj h)
      exact .inr ⟨text, fault, hrule, hfault, rfl⟩
    · cases h

theorem kind_of_readLine_eq_error (h : readLine file line = some (.error e)) :
    e.kind = .unreadable .notUTF8 ∨ ∃ fault, e.kind = .malformed fault :=
  (readLine_eq_error h).imp_right fun ⟨_, fault, _, _, hkind⟩ => ⟨fault, hkind⟩

theorem newline_not_mem_of_mem_sourceLines {text : String} (h : line ∈ sourceLines source)
    (htext : line.text? = some text) : '\n' ∉ text.toList := by
  obtain ⟨⟨bytes, number⟩, hbytes, rfl⟩ := List.mem_map.1 h
  have hline := Bytes.lineFeed_not_mem_of_mem_lines (List.fst_mem_of_mem_zipIdx hbytes)
  rwa [Bytes.decode?_eq_some_iff.1 htext, Bytes.lineFeed_mem_ofText] at hline

/-- Each rule is read from one line. -/
theorem exists_line_of_mem_rules (h : rule ∈ (ofSource file source).rules) :
    ∃ number text, '\n' ∉ text.toList ∧ Rule.ofLine ⟨file, number⟩ text = .ok rule := by
  obtain ⟨line, hline, hread⟩ := List.mem_filterMap.1 (mem_rules_ofResults.1 h)
  obtain ⟨text, htext, hrule⟩ := readLine_eq_ok hread
  exact ⟨line.number, text, newline_not_mem_of_mem_sourceLines hline htext, hrule⟩

theorem kind_of_mem_errors (h : e ∈ (ofSource file source).errors) :
    e.kind = .unreadable .notUTF8 ∨ ∃ fault, e.kind = .malformed fault := by
  obtain ⟨line, -, hread⟩ := List.mem_filterMap.1 (mem_errors_ofResults.1 h)
  exact kind_of_readLine_eq_error hread

end Reading

/-! ## Undefined nonterminals -/

theorem mem_of_mem_eraseDupsBy {α : Type} {r : α → α → Bool} {a : α} :
    ∀ {l : List α}, a ∈ l.eraseDupsBy r → a ∈ l
  | [], h => h
  | b :: l, h => by
    rw [List.eraseDupsBy_cons] at h
    rcases List.mem_cons.1 h with rfl | h
    · exact List.mem_cons_self
    · exact List.mem_cons_of_mem b (List.mem_filter.1 (mem_of_mem_eraseDupsBy h)).1
termination_by l => l.length
decreasing_by exact Nat.lt_succ_of_le (List.length_filter_le _ _)

theorem eraseDupsBy_map {α β : Type} {f : α → β} {r : α → α → Bool} {r' : β → β → Bool}
    (h : ∀ a b, r' (f a) (f b) = r a b) :
    ∀ l : List α, (l.map f).eraseDupsBy r' = (l.eraseDupsBy r).map f
  | [] => rfl
  | a :: l => by
    rw [List.map_cons, List.eraseDupsBy_cons, List.eraseDupsBy_cons, List.map_cons,
      ← eraseDupsBy_map h, List.filter_map]
    simp only [Function.comp_def, h]
termination_by l => l.length
decreasing_by exact Nat.lt_succ_of_le (List.length_filter_le _ _)

namespace Grammar

theorem mem_undefinedMentions :
    name ∈ g.undefinedMentions.map Prod.fst ↔ name ∈ g.undefined := by
  simp only [undefinedMentions, undefined, List.mem_map, List.mem_filter, List.mem_flatMap,
    mem_groupedRules, mem_nonterminals]
  constructor
  · rintro ⟨_, ⟨⟨rule, hr, hmention⟩, hundefined⟩, rfl⟩
    obtain ⟨name, hname, rfl⟩ := hmention
    exact ⟨⟨rule, hr, List.mem_cons_of_mem _ hname⟩, hundefined⟩
  · rintro ⟨⟨rule, hr, hname⟩, hundefined⟩
    rcases List.mem_cons.1 hname with rfl | hname
    · rw [isDefined_head hr] at hundefined
      cases hundefined
    · exact ⟨_, ⟨⟨rule, hr, name, hname, rfl⟩, hundefined⟩, rfl⟩

/-- An undefined nonterminal is mentioned where a rule of the grammar stands. -/
theorem exists_rule_of_mem_undefinedMentions {mention : String × Location}
    (h : mention ∈ g.undefinedMentions) :
    ∃ rule ∈ g.rules, mention.2 = rule.production.location := by
  obtain ⟨rule, hr, hmention⟩ := List.mem_flatMap.1 (List.mem_filter.1 h).1
  obtain ⟨name, -, rfl⟩ := List.mem_map.1 hmention
  exact ⟨rule, mem_groupedRules.1 hr, rfl⟩

theorem exists_rule_of_mem_undefinedErrors (h : e ∈ g.undefinedErrors) :
    (∃ name, e.kind = .undefinedNonterminal name) ∧
      ∃ rule ∈ g.rules, e.location = rule.production.location := by
  obtain ⟨mention, hmention, rfl⟩ := List.mem_map.1 h
  have hmem := (sortByKey_perm _ _).mem_iff.1 (mem_of_mem_eraseDupsBy hmention)
  exact ⟨⟨mention.1, rfl⟩, exists_rule_of_mem_undefinedMentions hmem⟩

theorem kinds_undefinedErrors (g : Grammar) :
    g.undefinedErrors.map (·.kind) =
      ((sortByKey (·.2.line) g.undefinedMentions).map Prod.fst).eraseDups.map
        .undefinedNonterminal := by
  rw [undefinedErrors, List.map_map, List.eraseDups,
    eraseDupsBy_map (r := (·.1 == ·.1)) fun _ _ => rfl, List.map_map]
  rfl

theorem mem_kinds_undefinedErrors {kind : LoadError} :
    kind ∈ g.undefinedErrors.map (·.kind) ↔
      ∃ name ∈ g.undefined, .undefinedNonterminal name = kind := by
  simp only [kinds_undefinedErrors, List.mem_map (f := LoadError.undefinedNonterminal),
    List.mem_eraseDups, ((sortByKey_perm _ _).map Prod.fst).mem_iff, mem_undefinedMentions]

end Grammar

/-- The errors of loading in the order in which they are found. -/
def Reading.found (reading : Reading) : List LoadDiagnostic :=
  reading.errors ++ (reading.rules.filter (·.isLeftRecursive)).map Loaded.leftRecursionError ++
    (Loaded.ofReading reading).grammar.undefinedErrors

namespace Loaded

/-- The errors are sorted twice, which is as if they had been sorted once. -/
theorem errors_ofReading (reading : Reading) :
    (ofReading reading).errors = sortByLine reading.found := by
  rw [ofReading, ofRules, sortByLine, sortByLine, sortByKey_append_sortByKey, ← List.append_assoc]
  rfl

theorem mem_errors_ofReading :
    e ∈ (ofReading reading).errors ↔
      e ∈ reading.errors ∨
      (∃ rule ∈ reading.rules, rule.isLeftRecursive = true ∧ leftRecursionError rule = e) ∨
      e ∈ (ofReading reading).grammar.undefinedErrors := by
  rw [errors_ofReading, sortByLine, (sortByKey_perm _ _).mem_iff, Reading.found]
  simp only [List.mem_append, List.mem_map, List.mem_filter, and_assoc, or_assoc]

theorem reports_undefined_iff :
    (∃ e ∈ (ofSource file source).errors, e.kind = .undefinedNonterminal name) ↔
      name ∈ (ofSource file source).grammar.undefined := by
  have hkind : .undefinedNonterminal name ∈
      (ofSource file source).grammar.undefinedErrors.map (·.kind) ↔
      name ∈ (ofSource file source).grammar.undefined := by
    simp [Grammar.mem_kinds_undefinedErrors]
  rw [← hkind, List.mem_map]
  constructor
  · rintro ⟨e, he, hname⟩
    rcases mem_errors_ofReading.1 he with he | ⟨rule, -, -, rfl⟩ | he
    · rcases Reading.kind_of_mem_errors he with hread | ⟨fault, hread⟩
      · cases hread.symm.trans hname
      · cases hread.symm.trans hname
    · cases hname
    · exact ⟨e, he, hname⟩
  · rintro ⟨e, he, hname⟩
    exact ⟨e, mem_errors_ofReading.2 (.inr (.inr he)), hname⟩

end Loaded

end Lookahead
