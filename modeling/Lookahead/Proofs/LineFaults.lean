import Lookahead.Proofs.LineByLine
import Lookahead.Proofs.RuleLine

/-!
# The faults of a line

Each fault of a line can be seen from its tokens alone, whatever else is wrong with them, and of the
faults that a line has the first one in a fixed order is reported (`Rule.ofTokens_eq_error_iff`). A
line that is neither blank nor a comment has tokens if it can be split into any
(`lex_ne_nil_of_isRuleLine`), so the fault of a line without tokens is never reported. Together this
says what comes of every rule line (`accepted_or_first_fault`).
-/

namespace Lookahead

variable {location : Location} {tokens : List Token} {rule : Rule} {e : SyntaxError} {line : String}

/-! ## Faults -/

/-- The tokens that write no symbol. -/
def Token.isMark : Token → Bool
  | .arrow | .period => true
  | .nonterminal _ | .terminal _ => false

def bodyTokens (tokens : List Token) : List Token := (tokens.drop 2).dropLast

namespace SyntaxError

/-- Whether some tokens have a fault. A body is faulty for its leftmost arrow or period. -/
def applies (tokens : List Token) : SyntaxError → Bool
  | missingNonterminal => !tokens.head?.any Token.isName
  | missingArrow => tokens[1]? != some .arrow
  | missingPeriod => (tokens.drop 2).getLast? != some .period
  | unexpectedArrow => (bodyTokens tokens).find? Token.isMark == some .arrow
  | unexpectedPeriod => (bodyTokens tokens).find? Token.isMark == some .period
  | lexical _ | blankLine => false

/-- The faults that tokens can have, the ones that are reported first at the front. -/
def inOrder : List SyntaxError :=
  [missingNonterminal, missingArrow, missingPeriod, unexpectedArrow, unexpectedPeriod]

/-- The fault that is reported. -/
def firstOf? (tokens : List Token) : Option SyntaxError := inOrder.find? (applies tokens)

end SyntaxError

theorem symbolsOfTokens_eq_error_iff :
    symbolsOfTokens tokens = .error e ↔
      tokens.find? Token.isMark = some .arrow ∧ .unexpectedArrow = e ∨
      tokens.find? Token.isMark = some .period ∧ .unexpectedPeriod = e := by
  fun_induction symbolsOfTokens tokens with
  | case1 => simp
  | case2 => simp [Token.isMark]
  | case3 => simp [Token.isMark]
  | case4 _ _ ih => simpa [Token.isMark, map_eq_error_iff] using ih
  | case5 _ _ ih => simpa [Token.isMark, map_eq_error_iff] using ih

/-- The fault for which tokens are refused, if there are any tokens. -/
theorem Rule.ofTokens_eq_error_iff (hne : tokens ≠ []) :
    Rule.ofTokens location tokens = .error e ↔ SyntaxError.firstOf? tokens = some e := by
  unfold SyntaxError.firstOf? SyntaxError.inOrder
  fun_cases Rule.ofTokens location tokens with
  | case1 => exact absurd rfl hne
  | case2 head tail hlast =>
    rw [map_eq_error_iff, symbolsOfTokens_eq_error_iff]
    cases hmark : tail.dropLast.find? Token.isMark with
    | none => simp [SyntaxError.applies, bodyTokens, Token.isName, hlast, hmark]
    | some mark =>
      have hismark := List.find?_some hmark
      cases mark with
      | arrow => simp [SyntaxError.applies, bodyTokens, Token.isName, hlast, hmark]
      | period => simp [SyntaxError.applies, bodyTokens, Token.isName, hlast, hmark]
      | nonterminal name => cases hismark
      | terminal text => cases hismark
  | case3 head tail hlast =>
    have hperiod : (tail.getLast? != some .period) = true := bne_iff_ne.2 hlast
    simp [SyntaxError.applies, Token.isName, hperiod]
  | case4 head tail harrow =>
    cases tail with
    | nil => simp [SyntaxError.applies, Token.isName]
    | cons token tail =>
      have hne : token ≠ .arrow := fun h => harrow tail (h ▸ rfl)
      simp [SyntaxError.applies, Token.isName, hne]
  | case5 token tail harrow hhead =>
    cases token with
    | nonterminal name => exact absurd rfl (hhead name)
    | arrow => simp [SyntaxError.applies, Token.isName]
    | period => simp [SyntaxError.applies, Token.isName]
    | terminal text => simp [SyntaxError.applies, Token.isName]

theorem SyntaxError.firstOf?_ne_blankLine : SyntaxError.firstOf? tokens ≠ some .blankLine :=
  fun h => Bool.false_ne_true (List.find?_some h)

/-! ## Reading by positions -/

/-- What is left of a list from a position on, if it is that long. -/
def sliceFrom? {α : Type} (start : Nat) (l : List α) : Option (List α) :=
  if start ≤ l.length then some (l.drop start) else none

namespace Rule

/-- Reads a rule from tokens by looking at their positions. There is no result if a slice is taken
that starts behind their end. -/
def ofPositions? (location : Location) (tokens : List Token) : Option (Except SyntaxError Rule) :=
  match tokens.head? with
  | none => some (.error .blankLine)
  | some (.nonterminal head) =>
    if tokens[1]? = some .arrow then
      (sliceFrom? 2 tokens).map fun tail =>
        if tail.getLast? = some .period then
          (symbolsOfTokens tail.dropLast).map fun symbols => ⟨head, .canonical symbols location⟩
        else
          .error .missingPeriod
    else
      some (.error .missingArrow)
  | some _ => some (.error .missingNonterminal)

/-- There always is a result, which is that of reading the tokens from left to right. -/
theorem ofPositions?_eq (location : Location) (tokens : List Token) :
    ofPositions? location tokens = some (ofTokens location tokens) := by
  unfold ofPositions?
  fun_cases ofTokens location tokens with
  | case1 => rfl
  | case2 head tail hlast => simp [sliceFrom?, hlast]
  | case3 head tail hlast => simp [sliceFrom?, hlast]
  | case4 head tail harrow =>
    have hsecond : tail[0]? ≠ some .arrow := by
      cases tail with
      | nil => simp
      | cons token tail =>
        intro h
        obtain rfl : token = .arrow := by simpa using h
        exact harrow tail rfl
    simp [hsecond]
  | case5 token tail harrow hhead =>
    cases token with
    | nonterminal name => exact absurd rfl (hhead name)
    | _ => rfl

end Rule

theorem lex_ne_nil_of_isRuleLine (h : isRuleLine line = true) : Token.lex line.toList ≠ .ok [] := by
  intro hlex
  have hgap : IsGap line.toList := renders_nil.1 (Token.lex_eq_ok_iff.1 hlex)
  have hblank : IsBlankOrComment line := ⟨line.toList, [], (List.append_nil _).symm, hgap, .inl rfl⟩
  rw [isRuleLine_eq_false_iff.2 hblank] at h
  cases h

theorem Rule.ofLine_of_lex_eq_ok (hlex : Token.lex line.toList = .ok tokens) :
    Rule.ofLine location line = Rule.ofTokens location tokens := by
  rw [Rule.ofLine, hlex]

theorem Rule.ofLine_of_lex_eq_error {fault : LexError}
    (hlex : Token.lex line.toList = .error fault) :
    Rule.ofLine location line = .error (.lexical fault) := by
  rw [Rule.ofLine, hlex]

/-- The fault of a line without tokens is never the fault of a rule line. -/
theorem Rule.ofLine_ne_blankLine (h : isRuleLine line = true) :
    Rule.ofLine location line ≠ .error .blankLine := by
  cases hlex : Token.lex line.toList with
  | error fault => simp [Rule.ofLine_of_lex_eq_error hlex]
  | ok tokens =>
    have hne : tokens ≠ [] := fun hnil => lex_ne_nil_of_isRuleLine h (hnil ▸ hlex)
    rw [Rule.ofLine_of_lex_eq_ok hlex, ne_eq, Rule.ofTokens_eq_error_iff hne]
    exact SyntaxError.firstOf?_ne_blankLine

theorem canonicalSymbols_eq_ite (symbols : List Symbol) :
    canonicalSymbols symbols =
      if symbols.filter (!·.isEpsilon) = [] then [.epsilon] else symbols.filter (!·.isEpsilon) := by
  unfold canonicalSymbols
  split
  · rename_i hnil
    exact (if_pos hnil).symm
  · rename_i hne
    exact (if_neg hne).symm

theorem Loaded.kind_ne_blankLine {file : String} {source : Bytes} {e : LoadDiagnostic}
    (he : e ∈ (Loaded.ofSource file source).errors) : e.kind ≠ .malformed .blankLine := by
  intro hkind
  rcases mem_errors_ofReading.1 he with he | ⟨rule, -, -, rfl⟩ | he
  · obtain ⟨line, -, hread⟩ := List.mem_filterMap.1 (Reading.mem_errors_ofResults.1 he)
    rcases Reading.readLine_eq_error hread with hbytes | ⟨text, fault, hrule, hfault, hmalformed⟩
    · cases hbytes.symm.trans hkind
    · obtain rfl := LoadError.malformed.inj (hmalformed.symm.trans hkind)
      exact Rule.ofLine_ne_blankLine hrule hfault
  · cases hkind
  · obtain ⟨⟨name, hname⟩, -⟩ := Grammar.exists_rule_of_mem_undefinedErrors he
    cases hname.symm.trans hkind

/-- The rule lines that are accepted, and the fault for which one is refused. A line without a bad
character or an unmatched quote is accepted exactly if its tokens are a name, an arrow, the tokens
of some symbols and a period; otherwise the first of its faults is reported. Nothing is ever looked
up behind the end of the tokens, and no error of a source is about a line without any. -/
theorem accepted_or_first_fault (location : Location) :
    (∀ line, isRuleLine line = true →
      (∀ rule, Rule.ofLine location line = .ok rule ↔
        ∃ (head : String) (symbols : List Symbol),
          Token.lex line.toList =
            .ok (.nonterminal head :: .arrow :: (symbols.map Symbol.token ++ [.period])) ∧
          rule = ⟨head,
            ⟨if symbols.filter (!·.isEpsilon) = [] then [.epsilon]
              else symbols.filter (!·.isEpsilon), location⟩⟩) ∧
      (∀ fault, Token.lex line.toList = .error fault →
        Rule.ofLine location line = .error (.lexical fault)) ∧
      ∀ tokens, Token.lex line.toList = .ok tokens → ∀ e,
        Rule.ofLine location line = .error e ↔ SyntaxError.firstOf? tokens = some e) ∧
    (∀ tokens, Rule.ofPositions? location tokens = some (Rule.ofTokens location tokens)) ∧
    ∀ file source, ∀ e ∈ (Loaded.ofSource file source).errors, e.kind ≠ .malformed .blankLine := by
  refine ⟨fun line hline => ⟨fun rule => ?_, fun _ => Rule.ofLine_of_lex_eq_error, ?_⟩,
    Rule.ofPositions?_eq location, fun _ _ _ => Loaded.kind_ne_blankLine⟩
  · simp only [Rule.ofLine_eq_ok_iff, ← Token.lex_eq_ok_iff, ← canonicalSymbols_eq_ite]
    rfl
  · intro tokens hlex e
    have hne : tokens ≠ [] := fun hnil => lex_ne_nil_of_isRuleLine hline (hnil ▸ hlex)
    rw [Rule.ofLine_of_lex_eq_ok hlex, Rule.ofTokens_eq_error_iff hne]

/-- Of a period and an arrow before the last period, the period comes first. -/
theorem accepted_or_first_fault_earlyPeriod :
    isRuleLine "S -> . \"a\" -> ." = true ∧
    Rule.ofLine ⟨"g.bnf", 1⟩ "S -> . \"a\" -> ." = .error .unexpectedPeriod := by
  have hline : isRuleLine "S -> . \"a\" -> ." = true := by decide +kernel
  have hlex : Token.lex "S -> . \"a\" -> .".toList =
      .ok [.nonterminal "S", .arrow, .period, .terminal "a", .arrow, .period] := by decide +kernel
  obtain ⟨-, -, hfault⟩ := (accepted_or_first_fault ⟨"g.bnf", 1⟩).1 _ hline
  exact ⟨hline, (hfault _ hlex _).2 (by decide)⟩

end Lookahead
