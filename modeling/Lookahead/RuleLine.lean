import Lookahead.Grammar
import Lookahead.LoadError

/-!
# Rule lines

A rule is written on one line as a nonterminal, an arrow, symbols and a period. Lines that are
blank or start with a semicolon hold no rule. Of several faults in one line the first of these is
reported: a bad character, something other than a nonterminal at the start, no arrow after it, no
period at the end, and last the leftmost arrow or period among the symbols.
-/

namespace Lookahead

/-- Whether a line is neither blank nor a comment. -/
def isRuleLine (line : String) : Bool :=
  match line.toList.dropWhile Text.isBlank with
  | [] => false
  | c :: _ => c != ';'

/-- Reads the tokens between the arrow and the period. -/
def symbolsOfTokens : List Token → Except SyntaxError (List Symbol)
  | [] => .ok []
  | .arrow :: _ => .error .unexpectedArrow
  | .period :: _ => .error .unexpectedPeriod
  | .nonterminal name :: tokens => (symbolsOfTokens tokens).map (.nonterminal name :: ·)
  | .terminal text :: tokens => (symbolsOfTokens tokens).map (.terminal text :: ·)

namespace Rule

def ofTokens (location : Location) : List Token → Except SyntaxError Rule
  | [] => .error .blankLine
  | .nonterminal head :: .arrow :: tail =>
    if tail.getLast? = some .period then
      (symbolsOfTokens tail.dropLast).map fun symbols => ⟨head, .canonical symbols location⟩
    else
      .error .missingPeriod
  | .nonterminal _ :: _ => .error .missingArrow
  | _ :: _ => .error .missingNonterminal

/-- Reads a rule from a line. -/
def ofLine (location : Location) (line : String) : Except SyntaxError Rule :=
  match Token.lex line.toList with
  | .error e => .error (.lexical e)
  | .ok tokens => ofTokens location tokens

end Rule

end Lookahead
