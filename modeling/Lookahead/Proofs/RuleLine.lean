import Lookahead.Grammar
import Lookahead.Proofs.Token.Lexer
import Lookahead.RuleLine

/-!
# Rule lines and their tokens

A rule is read from some tokens exactly if they are a name, an arrow, the tokens of some symbols and
a period (`Rule.ofTokens_eq_ok_iff`), and then the symbols are put in canonical form. A printed rule
renders such tokens (`Rule.renders_print`), so it is read back up to its location
(`Rule.ofLine_print`). Whatever is read from one line can be printed on one line
(`Rule.isPrintable_ofLine`).
-/

namespace Lookahead

variable {location : Location} {head : String} {tokens : List Token} {symbols : List Symbol}
  {rule : Rule} {line : List Char} {c : Char}

def Symbol.token : Symbol → Token
  | .terminal text => .terminal text
  | .nonterminal name => .nonterminal name

@[simp] theorem Symbol.spelling_token (s : Symbol) : s.token.spelling = s.spelling := by
  cases s <;> rfl

/-- The tokens of the rule that gives some symbols to a head. -/
def ruleTokens (head : String) (symbols : List Symbol) : List Token :=
  .nonterminal head :: .arrow :: (symbols.map Symbol.token ++ [.period])

/-! ## Reading -/

theorem symbolsOfTokens_map_token (symbols : List Symbol) :
    symbolsOfTokens (symbols.map Symbol.token) = .ok symbols := by
  induction symbols with
  | nil => rfl
  | cons s symbols ih => cases s <;> simp [Symbol.token, symbolsOfTokens, ih, Except.map]

theorem eq_map_token_of_symbolsOfTokens (h : symbolsOfTokens tokens = .ok symbols) :
    tokens = symbols.map Symbol.token := by
  fun_induction symbolsOfTokens tokens generalizing symbols with
  | case1 =>
    obtain rfl : [] = symbols := by simpa using h
    rfl
  | case4 name tokens ih =>
    obtain ⟨symbols, hsymbols, rfl⟩ := exists_of_map_eq_ok h
    rw [ih hsymbols, List.map_cons, Symbol.token]
  | case5 text tokens ih =>
    obtain ⟨symbols, hsymbols, rfl⟩ := exists_of_map_eq_ok h
    rw [ih hsymbols, List.map_cons, Symbol.token]
  | _ => cases h

theorem Rule.ofTokens_ruleTokens (location : Location) (head : String) (symbols : List Symbol) :
    Rule.ofTokens location (ruleTokens head symbols) =
      .ok ⟨head, .canonical symbols location⟩ := by
  simp [Rule.ofTokens, ruleTokens, symbolsOfTokens_map_token, Except.map]

theorem Rule.ofTokens_eq_ok_iff :
    Rule.ofTokens location tokens = .ok rule ↔
      ∃ head symbols, tokens = ruleTokens head symbols ∧
        rule = ⟨head, .canonical symbols location⟩ := by
  constructor
  · intro h
    unfold Rule.ofTokens at h
    split at h
    · cases h
    · rename_i head tail
      split at h
      · rename_i hlast
        obtain ⟨body, rfl⟩ := List.getLast?_eq_some_iff.1 hlast
        rw [List.dropLast_concat] at h
        obtain ⟨symbols, hsymbols, rfl⟩ := exists_of_map_eq_ok h
        refine ⟨head, symbols, ?_, rfl⟩
        rw [eq_map_token_of_symbolsOfTokens hsymbols, ruleTokens]
      · cases h
    · cases h
    · cases h
  · rintro ⟨head, symbols, rfl, rfl⟩
    exact Rule.ofTokens_ruleTokens location head symbols

theorem Rule.ofLine_eq_ok_iff {line : String} :
    Rule.ofLine location line = .ok rule ↔
      ∃ head symbols, Renders (ruleTokens head symbols) line.toList ∧
        rule = ⟨head, .canonical symbols location⟩ := by
  unfold Rule.ofLine
  simp only [← Token.lex_eq_ok_iff]
  cases hlex : Token.lex line.toList with
  | error e => simp
  | ok tokens => simp [Rule.ofTokens_eq_ok_iff]

/-! ## Printing -/

/-- The head and the symbols of the rule can be written as tokens. -/
def Rule.IsSpellable (r : Rule) : Prop :=
  (Token.nonterminal r.head).IsSpellable ∧ ∀ s ∈ r.production.symbols, s.token.IsSpellable

theorem isGap_blank : IsGap [' '] := by
  simp only [IsGap, List.forall_mem_singleton]
  decide

theorem noNameFirst_blank (line : List Char) : Token.NoNameFirst ([' '] ++ line) :=
  Token.noNameFirst_gap_append isGap_blank (.inl (List.cons_ne_nil _ _))

theorem renders_spellSymbols (hsymbols : ∀ s ∈ symbols, s.token.IsSpellable)
    (h : Renders tokens line) :
    Renders (symbols.map Symbol.token ++ tokens)
      ((spellSymbols symbols).toList ++ ' ' :: line) := by
  have hblank : Renders tokens (' ' :: line) := h.append_gap isGap_blank
  induction symbols with
  | nil => simpa [spellSymbols] using hblank
  | cons s symbols ih =>
    obtain ⟨hs, hsymbols⟩ := List.forall_mem_cons.1 hsymbols
    cases symbols with
    | nil =>
      have hrenders := Token.renders_cons hs (fun _ => noNameFirst_blank line) hblank
      simpa [spellSymbols] using hrenders
    | cons s' symbols =>
      -- A name ends at the space before the next symbol.
      have hrest := (ih hsymbols).append_gap isGap_blank
      have hrenders := Token.renders_cons hs (fun _ => noNameFirst_blank _) hrest
      simpa [spellSymbols, String.intercalate_cons_cons] using hrenders

theorem Rule.renders_print (h : rule.IsSpellable) :
    Renders (ruleTokens rule.head rule.production.symbols) rule.print.toList := by
  obtain ⟨hhead, hsymbols⟩ := h
  have hperiod : Renders [.period] (Token.period.spelling.toList ++ []) :=
    Token.renders_cons trivial nofun (renders_nil.2 nofun)
  have hbody := (renders_spellSymbols hsymbols hperiod).append_gap isGap_blank
  have harrow : Renders _ (Token.arrow.spelling.toList ++ _) :=
    Token.renders_cons trivial nofun hbody
  have hrule :=
    Token.renders_cons hhead (fun _ => noNameFirst_blank _) (harrow.append_gap isGap_blank)
  simpa [Rule.print, Production.spelling, ruleTokens, Token.spelling] using hrule

def Rule.readAt (location : Location) (r : Rule) : Rule :=
  ⟨r.head, .canonical r.production.symbols location⟩

theorem Rule.ofLine_print (h : rule.IsSpellable) (location : Location) :
    Rule.ofLine location rule.print = .ok (rule.readAt location) :=
  Rule.ofLine_eq_ok_iff.2 ⟨_, _, Rule.renders_print h, rfl⟩

theorem Rule.isRuleLine_print (h : rule.IsSpellable) : isRuleLine rule.print = true := by
  obtain ⟨⟨hne, hname⟩, -⟩ := h
  cases hcs : rule.head.toList with
  | nil => exact absurd (String.toList_eq_nil_iff.1 hcs) hne
  | cons c cs =>
    have hc : Text.isNameChar c = true := hname c (hcs ▸ List.mem_cons_self)
    have hblank : Text.isBlank c = false := by
      refine Bool.eq_false_iff.2 fun hblank => ?_
      rw [Text.isNameChar_of_isBlank hblank] at hc
      cases hc
    have hsemicolon : c ≠ ';' := by
      rintro rfl
      rw [Text.isNameChar_semicolon] at hc
      cases hc
    simp [isRuleLine, Rule.print, hcs, hblank, hsemicolon]

theorem mem_spellSymbols (h : c ∈ (spellSymbols symbols).toList) :
    c = ' ' ∨ ∃ s ∈ symbols, c ∈ s.spelling.toList := by
  induction symbols with
  | nil => simp [spellSymbols] at h
  | cons s symbols ih =>
    cases symbols with
    | nil => exact .inr ⟨s, List.mem_singleton_self s, by simpa [spellSymbols] using h⟩
    | cons s' symbols =>
      have hcases : c ∈ s.spelling.toList ∨ c = ' ' ∨
          c ∈ (spellSymbols (s' :: symbols)).toList := by
        simpa [spellSymbols, String.intercalate_cons_cons] using h
      rcases hcases with hc | rfl | hc
      · exact .inr ⟨s, List.mem_cons_self, hc⟩
      · exact .inl rfl
      · rcases ih hc with rfl | ⟨t, ht, hc⟩
        · exact .inl rfl
        · exact .inr ⟨t, List.mem_cons_of_mem _ ht, hc⟩

theorem Rule.newline_not_mem_print (hhead : '\n' ∉ rule.head.toList)
    (hsymbols : ∀ s ∈ rule.production.symbols, '\n' ∉ s.spelling.toList) :
    '\n' ∉ rule.print.toList := by
  have hbody : '\n' ∉ (spellSymbols rule.production.symbols).toList := by
    intro h
    rcases mem_spellSymbols h with h | ⟨s, hs, h⟩
    · cases h
    · exact hsymbols s hs h
  simp [Rule.print, Production.spelling, hhead, hbody]

structure Rule.IsPrintable (r : Rule) : Prop where
  spellable : r.IsSpellable
  newline : '\n' ∉ r.print.toList

theorem Symbol.isSpellable_epsilon : Symbol.epsilon.token.IsSpellable := by
  simp [Symbol.epsilon, Symbol.token, Token.IsSpellable, epsilonText]

/-- What is read from one line can be written on one line. -/
theorem Rule.isPrintable_ofLine {line : String} (h : Rule.ofLine location line = .ok rule)
    (hline : '\n' ∉ line.toList) : rule.IsPrintable := by
  obtain ⟨head, symbols, hrenders, rfl⟩ := Rule.ofLine_eq_ok_iff.1 h
  have hhead : (Token.nonterminal head).IsSpellable ∧ head.toList ⊆ line.toList :=
    hrenders.spelling_of_mem List.mem_cons_self
  have hsymbols : ∀ s ∈ canonicalSymbols symbols,
      s.token.IsSpellable ∧ '\n' ∉ s.spelling.toList := by
    intro s hs
    rcases mem_canonicalSymbols hs with hs | rfl
    · have htoken : s.token ∈ ruleTokens head symbols := by
        simp [ruleTokens, List.mem_map_of_mem hs]
      obtain ⟨hspell, hsub⟩ := hrenders.spelling_of_mem htoken
      rw [Symbol.spelling_token] at hsub
      exact ⟨hspell, fun h => hline (hsub h)⟩
    · exact ⟨Symbol.isSpellable_epsilon, by decide⟩
  refine ⟨⟨hhead.1, fun s hs => (hsymbols s hs).1⟩, ?_⟩
  exact Rule.newline_not_mem_print (fun h => hline (hhead.2 h)) fun s hs => (hsymbols s hs).2

end Lookahead
