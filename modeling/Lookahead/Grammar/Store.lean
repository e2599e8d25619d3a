import Lookahead.Grammar
import Lookahead.NameMap

/-!
# Grammars as they are stored

A grammar is stored in three parts: the start symbol, a map from the defined nonterminals to their
productions, and a list of the nonterminals in order of first appearance. They are updated
separately. A new production is appended to those of its head; the head is noted, and after it the
nonterminals of the right-hand side, each unless it has been noted before; and the head becomes the
start symbol if there is none. Another start symbol is chosen only from the keys of the map. A
`Grammar` is stored by making the changes that lead to it.
-/

namespace Lookahead

/-- The parts of a stored grammar. -/
structure GrammarStore where
  startSymbol : Option String := none
  rules : NameMap (List Production) := []
  /-- The nonterminals seen so far, heads or not. -/
  symbols : List String := []
  deriving DecidableEq, Repr

inductive Change where
  | add (rule : Rule)
  /-- Choose a start symbol; refused if it has no productions. -/
  | setStart (name : String)
  deriving DecidableEq, Repr

namespace GrammarStore

def empty : GrammarStore := {}

def isDefined (s : GrammarStore) (name : String) : Bool := (s.rules.get? name).isSome

def isEmpty (s : GrammarStore) : Bool := s.rules.isEmpty

def productions (s : GrammarStore) (name : String) : List Production :=
  (s.rules.get? name).getD []

def nonterminals (s : GrammarStore) : List String := s.symbols

def heads (s : GrammarStore) : List String := s.nonterminals.filter s.isDefined

/-- The productions of all heads, each with its head. -/
def allProductions (s : GrammarStore) : List Rule :=
  s.heads.flatMap fun head => (s.productions head).map (Rule.mk head)

/-- Appends a name that has not been seen. -/
def noteSymbol (s : GrammarStore) (name : String) : GrammarStore :=
  if s.symbols.any (· == name) then s else { s with symbols := s.symbols ++ [name] }

def addProduction (s : GrammarStore) (head : String) (production : Production) : GrammarStore :=
  let noted := production.nonterminals.foldl noteSymbol (s.noteSymbol head)
  { noted with
    startSymbol := if noted.startSymbol.isNone then some head else noted.startSymbol
    rules := noted.rules.put head (noted.productions head ++ [production]) }

/-- Makes `name` the start symbol if it has productions, and says whether it did. -/
def setStartSymbol (s : GrammarStore) (name : String) : GrammarStore × Bool :=
  if s.isDefined name then ({ s with startSymbol := some name }, true) else (s, false)

/-- Makes a change, and says whether it was made. -/
def change (s : GrammarStore) : Change → GrammarStore × Bool
  | .add rule => (s.addProduction rule.head rule.production, true)
  | .setStart name => s.setStartSymbol name

def run (s : GrammarStore) (changes : List Change) : GrammarStore :=
  changes.foldl (fun s change => (s.change change).1) s

/-- The changes, each with whether it was made. -/
def transcript (s : GrammarStore) : List Change → List (Change × Bool)
  | [] => []
  | change :: changes => (change, (s.change change).2) :: (s.change change).1.transcript changes

end GrammarStore

/-- The changes that make the grammar: its rules are added and then its start symbol is chosen. -/
def Grammar.changes (g : Grammar) : List Change :=
  g.rules.map .add ++ (g.chosen.map .setStart).toList

def Grammar.store (g : Grammar) : GrammarStore := GrammarStore.empty.run g.changes

end Lookahead
