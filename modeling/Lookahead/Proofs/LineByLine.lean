import Lookahead.Proofs.Loading
import Lookahead.Token

/-!
# A source line by line

A line is blank or a comment and says nothing, or it gives an error, or it gives a rule, and what it
gives is located at the line (`Reading.readLine_cases`). Since lines are numbered from 1 without
gaps or repetitions, what a source gives at one number is what the line with that number gives
(`Reading.rules_at`, `Reading.errors_at`).
-/

namespace Lookahead

variable {α : Type} {file text : String} {source : Bytes} {line : SourceLine} {rule : Rule}
  {e : LoadDiagnostic} {lines : List Bytes} {first : Nat}

/-- After any blanks the text ends, or goes on with a semicolon. -/
def IsBlankOrComment (text : String) : Prop :=
  ∃ gap rest, text.toList = gap ++ rest ∧ IsGap gap ∧ (rest = [] ∨ rest.head? = some ';')

theorem isRuleLine_eq_false_iff : isRuleLine text = false ↔ IsBlankOrComment text := by
  unfold isRuleLine
  constructor
  · intro h
    refine ⟨text.toList.takeWhile Text.isBlank, text.toList.dropWhile Text.isBlank,
      List.takeWhile_append_dropWhile.symm, List.all_eq_true.1 List.all_takeWhile, ?_⟩
    cases hrest : text.toList.dropWhile Text.isBlank with
    | nil => exact .inl rfl
    | cons c rest =>
      rw [hrest] at h
      exact .inr (by simpa using h)
  · rintro ⟨gap, rest, htext, hgap, hrest⟩
    rw [htext, List.dropWhile_append_of_pos hgap]
    rcases hrest with rfl | hrest
    · rfl
    · obtain ⟨rest, rfl⟩ := List.head?_eq_some_iff.1 hrest
      have hblank : Text.isBlank ';' = false := by decide
      simp [hblank]

instance (text : String) : Decidable (IsBlankOrComment text) :=
  decidable_of_iff _ isRuleLine_eq_false_iff

def SourceLine.IsSkipped (line : SourceLine) : Prop :=
  ∃ text, line.text? = some text ∧ IsBlankOrComment text

instance : (line : SourceLine) → Decidable line.IsSkipped
  | ⟨_, none⟩ => isFalse nofun
  | ⟨_, some text⟩ => decidable_of_iff (IsBlankOrComment text)
      ⟨fun h => ⟨text, rfl, h⟩, fun ⟨_, htext, h⟩ => Option.some.inj htext ▸ h⟩

/-! ## Numbers of lines -/

/-- The lines with numbers from `first` on. -/
def numberLines (first : Nat) (lines : List Bytes) : List SourceLine :=
  (lines.zipIdx first).map fun (line, number) => ⟨number, line.decode?⟩

theorem sourceLines_eq (source : Bytes) : sourceLines source = numberLines 1 source.lines := rfl

theorem numberLines_cons (first : Nat) (bytes : Bytes) (lines : List Bytes) :
    numberLines first (bytes :: lines) =
      ⟨first, bytes.decode?⟩ :: numberLines (first + 1) lines := rfl

theorem number_of_mem_numberLines (h : line ∈ numberLines first lines) :
    first ≤ line.number ∧ line.number < first + lines.length := by
  obtain ⟨⟨bytes, number⟩, hmem, rfl⟩ := List.mem_map.1 h
  obtain ⟨hle, hlt, -⟩ := List.mem_zipIdx hmem
  exact ⟨hle, hlt⟩

theorem getElem?_sourceLines {index : Nat} {bytes : Bytes} (h : source.lines[index]? = some bytes) :
    (sourceLines source)[index]? = some ⟨index + 1, bytes.decode?⟩ := by
  rw [sourceLines, List.getElem?_map, List.getElem?_zipIdx, h, Option.map_some, Option.map_some,
    Nat.add_comm]

theorem filter_number_numberLines (h : line ∈ numberLines first lines) :
    (numberLines first lines).filter (·.number = line.number) = [line] := by
  induction lines generalizing first with
  | nil => cases h
  | cons bytes lines ih =>
    rw [numberLines_cons] at h ⊢
    rcases List.mem_cons.1 h with rfl | h
    · have hrest : (numberLines (first + 1) lines).filter (·.number = first) = [] := by
        refine List.filter_eq_nil_iff.2 fun line hline => ?_
        have hbounds := number_of_mem_numberLines hline
        simp only [decide_eq_true_eq]
        omega
      rw [List.filter_cons_of_pos (by simp), hrest]
    · have hbounds := number_of_mem_numberLines h
      have hfirst : ¬ first = line.number := by omega
      rw [List.filter_cons_of_neg (by simpa using hfirst), ih h]

theorem filter_number_sourceLines (h : line ∈ sourceLines source) :
    (sourceLines source).filter (·.number = line.number) = [line] :=
  filter_number_numberLines h

namespace Reading

theorem location_of_ofLine {location : Location} (h : Rule.ofLine location text = .ok rule) :
    rule.production.location = location := by
  unfold Rule.ofLine at h
  split at h
  · cases h
  · unfold Rule.ofTokens at h
    split at h
    · cases h
    · split at h
      · cases hsymbols : symbolsOfTokens _ with
        | error fault => rw [hsymbols] at h; cases h
        | ok symbols => rw [hsymbols] at h; cases h; rfl
      · cases h
    · cases h
    · cases h

theorem readLine_cases (file : String) (line : SourceLine) :
    (line.IsSkipped ∧ readLine file line = none) ∨
    (∃ e, ¬ line.IsSkipped ∧ readLine file line = some (.error e) ∧
      e.location = ⟨file, line.number⟩ ∧
      (line.text? = none ∧ e.kind = .unreadable .notUTF8 ∨
        line.text? ≠ none ∧ ∃ fault, e.kind = .malformed fault)) ∨
    ∃ rule, ¬ line.IsSkipped ∧ readLine file line = some (.ok rule) ∧
      rule.production.location = ⟨file, line.number⟩ ∧ line.text? ≠ none := by
  obtain ⟨number, text?⟩ := line
  cases text? with
  | none =>
    have hskipped : ¬ SourceLine.IsSkipped ⟨number, none⟩ := by
      rintro ⟨text, htext, -⟩
      cases htext
    exact .inr (.inl ⟨_, hskipped, rfl, rfl, .inl ⟨rfl, rfl⟩⟩)
  | some text =>
    cases hrule : isRuleLine text with
    | false =>
      refine .inl ⟨⟨text, rfl, isRuleLine_eq_false_iff.1 hrule⟩, ?_⟩
      simp [readLine, hrule]
    | true =>
      have hskipped : ¬ SourceLine.IsSkipped ⟨number, some text⟩ := by
        rintro ⟨text', htext, hblank⟩
        obtain rfl := Option.some.inj htext
        rw [isRuleLine_eq_false_iff.2 hblank] at hrule
        cases hrule
      cases hread : Rule.ofLine ⟨file, number⟩ text with
      | error fault =>
        refine .inr (.inl ⟨⟨⟨file, number⟩, .malformed fault⟩, hskipped, ?_, rfl,
          .inr ⟨Option.some_ne_none text, fault, rfl⟩⟩)
        simp only [readLine, hrule, hread, if_true]
        rfl
      | ok rule =>
        refine .inr (.inr ⟨rule, hskipped, ?_, location_of_ofLine hread, Option.some_ne_none text⟩)
        simp only [readLine, hrule, hread, if_true]
        rfl

/-- The rule that a line gives. -/
def ruleOf? (file : String) (line : SourceLine) : Option Rule :=
  (readLine file line).bind fun
    | .ok rule => some rule
    | .error _ => none

/-- The error that a line gives. -/
def errorOf? (file : String) (line : SourceLine) : Option LoadDiagnostic :=
  (readLine file line).bind fun
    | .ok _ => none
    | .error e => some e

/-- A line gives `a` exactly if its result is the one that `a` is picked out of. -/
theorem bind_readLine_eq_some {pick : Except LoadDiagnostic Rule → Option α}
    {give : α → Except LoadDiagnostic Rule}
    (hpick : ∀ result a, pick result = some a ↔ result = give a) {a : α} :
    (readLine file line).bind pick = some a ↔ readLine file line = some (give a) := by
  simp only [Option.bind_eq_some_iff, hpick, exists_eq_right]

theorem ruleOf?_eq_some : ruleOf? file line = some rule ↔ readLine file line = some (.ok rule) :=
  bind_readLine_eq_some fun result _ => by cases result <;> simp

theorem errorOf?_eq_some : errorOf? file line = some e ↔ readLine file line = some (.error e) :=
  bind_readLine_eq_some fun result _ => by cases result <;> simp

theorem line_cases (file : String) (line : SourceLine) :
    (line.IsSkipped ∧ ruleOf? file line = none ∧ errorOf? file line = none) ∨
    (∃ e, ¬ line.IsSkipped ∧ ruleOf? file line = none ∧ errorOf? file line = some e ∧
      (line.text? = none ∧ e.kind = .unreadable .notUTF8 ∨
        line.text? ≠ none ∧ ∃ fault, e.kind = .malformed fault)) ∨
    ∃ rule, ¬ line.IsSkipped ∧ ruleOf? file line = some rule ∧ errorOf? file line = none ∧
      line.text? ≠ none := by
  unfold ruleOf? errorOf?
  rcases readLine_cases file line with
    ⟨hskipped, hread⟩ | ⟨e, hother, hread, -, he⟩ | ⟨rule, hother, hread, -, htext⟩
  · rw [hread]
    exact .inl ⟨hskipped, rfl, rfl⟩
  · rw [hread]
    exact .inr (.inl ⟨e, hother, rfl, rfl, he⟩)
  · rw [hread]
    exact .inr (.inr ⟨rule, hother, rfl, rfl, htext⟩)

def locationOf : Except LoadDiagnostic Rule → Location
  | .ok rule => rule.production.location
  | .error e => e.location

theorem locationOf_readLine {result : Except LoadDiagnostic Rule}
    (h : readLine file line = some result) : locationOf result = ⟨file, line.number⟩ := by
  rcases readLine_cases file line with
    ⟨-, hread⟩ | ⟨e, -, hread, hlocation, -⟩ | ⟨rule, -, hread, hlocation, -⟩
  · cases hread.symm.trans h
  · cases hread.symm.trans h
    exact hlocation
  · cases hread.symm.trans h
    exact hlocation

theorem location_of_ruleOf? (h : ruleOf? file line = some rule) :
    rule.production.location = ⟨file, line.number⟩ :=
  locationOf_readLine (ruleOf?_eq_some.1 h)

theorem location_of_errorOf? (h : errorOf? file line = some e) :
    e.location = ⟨file, line.number⟩ :=
  locationOf_readLine (errorOf?_eq_some.1 h)

/-! ## What a source gives -/

theorem rules_ofSource (file : String) (source : Bytes) :
    (ofSource file source).rules = (sourceLines source).filterMap (ruleOf? file) :=
  List.filterMap_filterMap

theorem errors_ofSource (file : String) (source : Bytes) :
    (ofSource file source).errors = (sourceLines source).filterMap (errorOf? file) :=
  List.filterMap_filterMap

section Numbered

variable {f : SourceLine → Option α} {key : α → Nat}
  (hkey : ∀ line a, f line = some a → key a = line.number)

include hkey

/-- Values that carry the number of their line can be picked out by picking out the lines. -/
theorem filter_filterMap_number (p : Nat → Bool) (lines : List SourceLine) :
    (lines.filterMap f).filter (fun a => p (key a)) =
      (lines.filter fun line => p line.number).filterMap f := by
  rw [List.filter_filterMap, List.filterMap_filter]
  congr 1
  funext line
  cases hf : f line with
  | none => simp
  | some a => simp [Option.filter, hkey line a hf]

theorem filterMap_at (h : line ∈ sourceLines source) :
    ((sourceLines source).filterMap f).filter (key · = line.number) = (f line).toList := by
  have hfilter := filter_filterMap_number hkey (· = line.number) (sourceLines source)
  rw [filter_number_sourceLines h] at hfilter
  rw [hfilter]
  cases hf : f line <;> simp [hf]

end Numbered

theorem number_of_ruleOf? (line : SourceLine) (rule : Rule) (h : ruleOf? file line = some rule) :
    rule.production.location.line = line.number := by
  rw [location_of_ruleOf? h]

theorem number_of_errorOf? (line : SourceLine) (e : LoadDiagnostic)
    (h : errorOf? file line = some e) : e.location.line = line.number := by
  rw [location_of_errorOf? h]

theorem rules_at (h : line ∈ sourceLines source) (file : String) :
    (ofSource file source).rules.filter (·.production.location.line = line.number) =
      (ruleOf? file line).toList := by
  rw [rules_ofSource]
  exact filterMap_at number_of_ruleOf? h

theorem errors_at (h : line ∈ sourceLines source) (file : String) :
    (ofSource file source).errors.filter (·.location.line = line.number) =
      (errorOf? file line).toList := by
  rw [errors_ofSource]
  exact filterMap_at number_of_errorOf? h

end Reading

end Lookahead
