import Lookahead.Text.NameChar

/-!
# Tokens

A line of the grammar notation is made of the arrow `->`, the period that ends a rule, names of
nonterminals, and quoted terminals. The first character of what is left of a line decides which
token is read (`Token.lex`), and each reader returns the token with the characters it left. A name
ends before the first character that cannot be part of it, so a period directly after a name is a
token of its own. Blanks separate tokens and are otherwise skipped. The other way round, `Renders`
says how a list of tokens can be written as a line: only two names in a row need a blank between
them, and a token can be spelled at all if its name is a run of name characters, or its text holds
no quote.
-/

namespace Lookahead

inductive Token where
  | arrow
  | period
  | nonterminal (name : String)
  | terminal (text : String)
  deriving DecidableEq, Repr

def Token.spelling : Token → String
  | .arrow => "->"
  | .period => "."
  | .nonterminal name => name
  | .terminal text => "\"" ++ text ++ "\""

open Text

inductive LexError where
  | unmatchedQuote
  | unexpectedCharacter (c : Char)
  deriving DecidableEq, Repr

namespace Token

/-- Reads a terminal whose opening quote is the first character: the text up to the next quote. -/
def readTerminal (line : List Char) : Except LexError Token × List Char :=
  let inner := line.drop 1
  match inner.dropWhile (· != '"') with
  | [] => (.error .unmatchedQuote, [])
  | _ :: rest => (.ok (.terminal (String.ofList (inner.takeWhile (· != '"')))), rest)

/-- Reads the longest run of name characters. -/
def readNonterminal (line : List Char) : Token × List Char :=
  (.nonterminal (String.ofList (line.takeWhile isNameChar)), line.dropWhile isNameChar)

/-- Reads an arrow whose dash is the first character. -/
def readArrow (line : List Char) : Except LexError Token × List Char :=
  match line.drop 1 with
  | '>' :: rest => (.ok .arrow, rest)
  | rest => (.error (.unexpectedCharacter '-'), rest.drop 1)

theorem length_readTerminal_lt (c : Char) (line : List Char) :
    (readTerminal (c :: line)).2.length < (c :: line).length := by
  have h := (List.dropWhile_sublist (l := line) (· != '"')).length_le
  unfold readTerminal
  simp only [List.drop_succ_cons, List.drop_zero]
  split
  · simp
  · rename_i heq
    rw [heq] at h
    simp only [List.length_cons] at h ⊢
    omega

theorem length_readNonterminal_lt {c : Char} (line : List Char) (h : isNameChar c = true) :
    (readNonterminal (c :: line)).2.length < (c :: line).length := by
  have h' := (List.dropWhile_sublist (l := line) isNameChar).length_le
  simp only [readNonterminal, List.dropWhile_cons, h, if_true, List.length_cons]
  omega

theorem length_readArrow_lt (c : Char) (line : List Char) :
    (readArrow (c :: line)).2.length < (c :: line).length := by
  unfold readArrow
  simp only [List.drop_succ_cons, List.drop_zero]
  split
  · simp only [List.length_cons]
    omega
  · simp only [List.length_drop, List.length_cons]
    omega

def lex : List Char → Except LexError (List Token)
  | [] => .ok []
  | c :: line =>
    if c = '.' then
      (lex line).map (.period :: ·)
    else if c = '-' then
      match h : readArrow (c :: line) with
      | (.ok token, rest) =>
        have : rest.length < line.length + 1 := by
          simpa [h] using length_readArrow_lt c line
        (lex rest).map (token :: ·)
      | (.error e, _) => .error e
    else if c = '"' then
      match h : readTerminal (c :: line) with
      | (.ok token, rest) =>
        have : rest.length < line.length + 1 := by
          simpa [h] using length_readTerminal_lt c line
        (lex rest).map (token :: ·)
      | (.error e, _) => .error e
    else if hc : isNameChar c = true then
      have : (readNonterminal (c :: line)).2.length < line.length + 1 :=
        length_readNonterminal_lt line hc
      (lex (readNonterminal (c :: line)).2).map ((readNonterminal (c :: line)).1 :: ·)
    else if isBlank c then
      lex line
    else
      .error (.unexpectedCharacter c)
  termination_by line => line.length

def IsSpellable : Token → Prop
  | arrow | period => True
  | nonterminal name => name ≠ "" ∧ ∀ c ∈ name.toList, Text.isNameChar c = true
  | terminal text => ∀ c ∈ text.toList, c ≠ '"'

def isName : Token → Bool
  | nonterminal _ => true
  | _ => false

end Token

def IsGap (gap : List Char) : Prop := ∀ c ∈ gap, Text.isBlank c = true

/-- The lines that write the tokens, starting with the first token. -/
inductive RendersTight : List Token → List Char → Prop where
  | nil : RendersTight [] []
  | cons {token : Token} {tokens : List Token} {gap line : List Char} :
      token.IsSpellable → IsGap gap →
      (token.isName = true → (tokens.head?.any Token.isName) = true → gap ≠ []) →
      RendersTight tokens line →
      RendersTight (token :: tokens) (token.spelling.toList ++ gap ++ line)

/-- The lines that write the tokens. -/
def Renders (tokens : List Token) (line : List Char) : Prop :=
  ∃ gap rest, line = gap ++ rest ∧ IsGap gap ∧ RendersTight tokens rest

theorem renders_nil {line : List Char} : Renders [] line ↔ IsGap line := by
  constructor
  · rintro ⟨gap, rest, rfl, hg, hr⟩
    cases hr
    simpa using hg
  · exact fun h => ⟨line, [], by simp, h, .nil⟩

theorem Renders.append_gap {tokens : List Token} {gap line : List Char} (hg : IsGap gap)
    (h : Renders tokens line) : Renders tokens (gap ++ line) := by
  obtain ⟨gap', rest, rfl, hg', hr⟩ := h
  refine ⟨gap ++ gap', rest, by simp, fun c hc => ?_, hr⟩
  rcases List.mem_append.1 hc with hc | hc
  · exact hg c hc
  · exact hg' c hc

theorem RendersTight.spelling_of_mem {token : Token} {tokens : List Token} {line : List Char}
    (h : RendersTight tokens line) (htoken : token ∈ tokens) :
    token.IsSpellable ∧ token.spelling.toList ⊆ line := by
  induction h with
  | nil => cases htoken
  | @cons token' tokens gap line hspell _ _ _ ih =>
    rcases List.mem_cons.1 htoken with rfl | htoken
    · exact ⟨hspell, fun c hc => List.mem_append_left _ (List.mem_append_left _ hc)⟩
    · obtain ⟨hspell, hsub⟩ := ih htoken
      exact ⟨hspell, fun c hc => List.mem_append_right _ (hsub hc)⟩

theorem Renders.spelling_of_mem {token : Token} {tokens : List Token} {line : List Char}
    (h : Renders tokens line) (htoken : token ∈ tokens) :
    token.IsSpellable ∧ token.spelling.toList ⊆ line := by
  obtain ⟨gap, rest, rfl, -, htight⟩ := h
  obtain ⟨hspell, hsub⟩ := htight.spelling_of_mem htoken
  exact ⟨hspell, fun c hc => List.mem_append_right _ (hsub hc)⟩

end Lookahead
