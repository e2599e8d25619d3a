import Lookahead.Analysis
import Lookahead.Diagnostic
import Lookahead.TextSet

/-!
# Conflicts

With one token of lookahead two productions of a nonterminal cannot be told apart if they can
start with the same terminal, or both derive the empty sequence. And after a nullable symbol the
parser does not know whether to go on to the next symbol if both can start with the same terminal.
Each such place is a warning.
-/

namespace Lookahead

/-- Two things that one token of lookahead does not tell apart. -/
inductive Conflict where
  | alternation (nonterminal : String) (first second : List Symbol) (shared : TextSet)
  | concatenation (nonterminal : String) (production : List Symbol) (left right : Symbol)
      (shared : TextSet)
  deriving DecidableEq

namespace Conflict

def message : Conflict → String
  | alternation nonterminal first second shared =>
    "Uniqueness conflict for `" ++ nonterminal ++ "` between `" ++ spellSymbols first ++
      "` and `" ++ spellSymbols second ++ "` on " ++ shared.display
  | concatenation nonterminal production left right shared =>
    "Uniqueness conflict for `" ++ nonterminal ++ "` in `" ++ spellSymbols production ++
      "`: nullable `" ++ left.spelling ++ "` and `" ++ right.spelling ++ "` both start with " ++
      shared.display

instance : Finding Conflict where
  severity _ := .warning
  message := message

end Conflict

/-- A conflict and the production it was found at. -/
abbrev Warning := Diagnostic Conflict

/-- The pairs of elements at different positions, in order of the first and then the second. -/
def pairs {α : Type} : List α → List (α × α)
  | [] => []
  | a :: as => as.map (fun b => (a, b)) ++ pairs as

def neighbours {α : Type} (l : List α) : List (α × α) := l.zip l.tail

namespace Alternatives

/-- The warning about two productions, placed at the second. -/
def alternation? (first : FirstSets) (head : String) (p q : Production) : Option Warning :=
  let shared := (first.ofChain p.symbols).shared (first.ofChain q.symbols)
  if shared.isEmpty then
    none
  else
    some ⟨q.location, .alternation head p.symbols q.symbols shared⟩

/-- The warning about two neighbours in a production. -/
def concatenation? (first : FirstSets) (head : String) (p : Production) (left right : Symbol) :
    Option Warning :=
  let shared := (first.ofSymbol left).terminals ∩ (first.ofSymbol right).terminals
  if first.isNullable left && !shared.isEmpty then
    some ⟨p.location, .concatenation head p.symbols left right shared⟩
  else
    none

/-- Every pair of productions must start differently. Pairs are by position, so a production that
is there twice is in conflict with itself. -/
def alternations (a : Alternatives) (first : FirstSets) : List Warning :=
  (pairs a.productions).filterMap fun (p, q) => alternation? first a.head p q

/-- After a nullable symbol the next one must start differently. -/
def concatenations (a : Alternatives) (first : FirstSets) : List Warning :=
  a.productions.flatMap fun p =>
    (neighbours p.symbols).filterMap fun (left, right) => concatenation? first a.head p left right

end Alternatives

/-- The conflicts of a grammar by given FIRST sets. -/
def Grammar.conflicts (g : Grammar) (first : FirstSets) : List Warning :=
  g.alternatives.flatMap fun a => a.alternations first ++ a.concatenations first

end Lookahead
