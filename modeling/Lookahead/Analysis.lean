import Lookahead.Grammar
import Lookahead.NameMap
import Lookahead.Saturation

/-!
# Analysis of a grammar

The three phases, one after the other, each in passes over the grammar until nothing changes.
A pass over the defined nonterminals marks those as nullable that have a production all of whose
symbols are nullable by the marks so far. The FIRST set of a symbol holds the terminals that can
start what it derives; that a derivation can also be empty is a flag beside the set, taken over from
the marks, so `epsilon` is never a member. The start symbol is followed by the end of the input, and
a symbol in a production by what the rest of the production can start with and, if that rest can be
empty, by what follows the head.
-/

namespace Lookahead

/-- The nonterminals marked as deriving the empty sequence. -/
structure Nullability where
  marked : TextSet
  deriving DecidableEq

namespace Nullability

def none : Nullability := ⟨∅⟩

/-- Of the terminals only `epsilon` is nullable, of the nonterminals those that are marked. -/
def isNullable (ν : Nullability) : Symbol → Bool
  | .terminal text => text == epsilonText
  | .nonterminal name => decide (name ∈ ν.marked)

/-- Whether every one of the symbols is nullable; of none, all are. -/
def allNullable (ν : Nullability) (symbols : List Symbol) : Bool :=
  symbols.all ν.isNullable

def size (ν : Nullability) : Nat := ν.marked.size

/-- Whether one of the productions derives the empty sequence by the marks so far. -/
def derivesEmpty (ν : Nullability) (productions : List Production) : Bool :=
  productions.any fun p => p.isEmpty || ν.allNullable p.symbols

/-- Marks one nonterminal, unless it is marked already or no production allows it. -/
def visit (ν : Nullability) (a : Alternatives) : Step Nullability :=
  if a.head ∈ ν.marked then
    ⟨ν, false, []⟩
  else if ν.derivesEmpty a.productions then
    ⟨⟨ν.marked.insert a.head⟩, true, [.nullable a.head]⟩
  else
    ⟨ν, false, []⟩

def pass (alternatives : List Alternatives) (ν : Nullability) : Step Nullability :=
  sweep visit alternatives ν

/-- Passes until nothing changes. Each pass but the last marks one of the heads. -/
def solve (g : Grammar) : Settled Nullability :=
  let alternatives := g.alternatives
  saturate (pass alternatives) (alternatives.length + 1) none

def compute (g : Grammar) : Nullability := (solve g).state

end Nullability

/-- The terminals that can start a derivation, and whether the derivation can be empty. -/
structure FirstSet where
  terminals : TextSet
  nullable : Bool
  deriving DecidableEq

namespace FirstSet

/-- Nothing starts the derivation, and it is not empty either. -/
def unknown : FirstSet := ⟨∅, false⟩

/-- The terminals that do not tell two derivations apart. Two that can both be empty share
`epsilon`. -/
def shared (a b : FirstSet) : TextSet :=
  let common := a.terminals ∩ b.terminals
  if a.nullable && b.nullable then common.insert epsilonText else common

end FirstSet

structure FirstSets where
  entries : NameMap FirstSet

namespace FirstSets

def none : FirstSets := ⟨[]⟩

/-- The FIRST set of a nonterminal; nothing is known of names without an entry. -/
def entry (f : FirstSets) (name : String) : FirstSet :=
  (f.entries.get? name).getD .unknown

/-- The terminals that can start what a nonterminal derives. -/
def first (f : FirstSets) (name : String) : TextSet := (f.entry name).terminals

def ofSymbol (f : FirstSets) : Symbol → FirstSet
  | .terminal text => if text = epsilonText then ⟨∅, true⟩ else ⟨.singleton text, false⟩
  | .nonterminal name => f.entry name

def isNullable (f : FirstSets) (s : Symbol) : Bool := (f.ofSymbol s).nullable

/-- What can start the symbols one after the other, up to the first that is not nullable. After
the last one the derivation can be empty. -/
def ofSequence (f : FirstSets) : List Symbol → FirstSet
  | [] => ⟨∅, true⟩
  | s :: rest =>
    let here := f.ofSymbol s
    if here.nullable then
      let after := f.ofSequence rest
      ⟨here.terminals ∪ after.terminals, after.nullable⟩
    else
      here

/-- The FIRST set of a chain of symbols. A chain of no symbols counts as unknown, not as empty. -/
def ofChain (f : FirstSets) (chain : List Symbol) : FirstSet :=
  if chain.isEmpty then .unknown else f.ofSequence chain

/-- What the productions of a nonterminal can start with. -/
def gained (f : FirstSets) (productions : List Production) : TextSet :=
  .unionAll (productions.map fun p => (f.ofChain p.symbols).terminals)

/-- Adds what the productions of one nonterminal can start with to its set. The set has changed if
it has more members than before. -/
def visit (f : FirstSets) (a : Alternatives) : Step FirstSets :=
  match f.entries.get? a.head with
  | .none => ⟨f, false, []⟩
  | .some old =>
    let terminals := old.terminals ∪ f.gained a.productions
    if terminals.size = old.terminals.size then
      ⟨f, false, []⟩
    else
      ⟨⟨f.entries.put a.head { old with terminals }⟩, true, [.firstGrew a.head terminals]⟩

def pass (alternatives : List Alternatives) (f : FirstSets) : Step FirstSets :=
  sweep visit alternatives f

/-- No terminals, and the flags of `ν`. -/
def seeded (g : Grammar) (ν : Nullability) : FirstSets :=
  ⟨.ofNames g.nonterminals fun name => ⟨∅, ν.isNullable (.nonterminal name)⟩⟩

def symbolCount (alternatives : List Alternatives) : Nat :=
  (alternatives.flatMap fun a => a.productions.flatMap Production.symbols).length

/-- Passes until nothing changes. Each pass but the last adds one of the terminals of `g` to the
set of one of its heads. -/
def solve (g : Grammar) (ν : Nullability) : Settled FirstSets :=
  let alternatives := g.alternatives
  saturate (pass alternatives) (alternatives.length * symbolCount alternatives + 1) (seeded g ν)

def compute (g : Grammar) (ν : Nullability) : FirstSets := (solve g ν).state

end FirstSets

/-- A set of following terminals for each of some nonterminals. -/
structure FollowSets where
  entries : NameMap TextSet

/-- A place in a production: the symbol there and what is left after it. -/
structure Occurrence where
  head : String
  symbol : Symbol
  rest : List Symbol
  deriving DecidableEq, Repr

def occurrencesIn (head : String) : List Symbol → List Occurrence
  | [] => []
  | s :: rest => ⟨head, s, rest⟩ :: occurrencesIn head rest

def Grammar.occurrences (g : Grammar) : List Occurrence :=
  g.groupedRules.flatMap fun rule => occurrencesIn rule.head rule.production.symbols

namespace FollowSets

def none : FollowSets := ⟨[]⟩

/-- What follows a name; nothing does if it has no entry. -/
def follow (f : FollowSets) (name : String) : TextSet := (f.entries.get? name).getD ∅

/-- Adds terminals, except `epsilon`, to what follows a symbol. Nothing is kept for terminals. -/
def unify (f : FollowSets) (s : Symbol) (additional : TextSet) : Step FollowSets :=
  match s with
  | .terminal _ => ⟨f, false, []⟩
  | .nonterminal name =>
    let old := f.follow name
    let grown := old ∪ additional.erase epsilonText
    if grown.size = old.size then
      ⟨f, false, []⟩
    else
      ⟨⟨f.entries.put name grown⟩, true, [.followGrew name grown]⟩

/-- Applies both rules at one place. -/
def visit (first : FirstSets) (f : FollowSets) (o : Occurrence) : Step FollowSets :=
  let trailer := first.ofChain o.rest
  let here := f.unify o.symbol trailer.terminals
  if o.rest.isEmpty || trailer.nullable then
    here.andThen fun f => f.unify o.symbol (f.follow o.head)
  else
    here

def pass (occurrences : List Occurrence) (first : FirstSets) (f : FollowSets) : Step FollowSets :=
  sweep (visit first) occurrences f

/-- Nothing follows any nonterminal, except the end of the input after the start symbol. -/
def seeded (g : Grammar) : Step FollowSets :=
  let unseeded : FollowSets := ⟨.ofNames g.nonterminals fun _ => ∅⟩
  match g.start with
  | .none => ⟨unseeded, false, []⟩
  | .some start => unseeded.unify (.nonterminal start) (.singleton endOfInput)

def candidateCount (occurrences : List Occurrence) (first : FirstSets) : Nat :=
  (occurrences.flatMap fun o => (first.ofSymbol o.symbol).terminals.toList).length

/-- Passes until nothing changes. Each pass but the last adds the end of the input, or a terminal
with which a symbol of `g` can start, to the set of one of its nonterminals. -/
def solve (g : Grammar) (first : FirstSets) : Settled FollowSets :=
  let occurrences := g.occurrences
  let seed := seeded g
  let limit := g.nonterminals.length * (candidateCount occurrences first + 1) + 1
  let settled := saturate (pass occurrences first) limit seed.state
  { settled with records := seed.records ++ settled.records }

def compute (g : Grammar) (first : FirstSets) : FollowSets := (solve g first).state

end FollowSets

/-- Everything computed for one grammar. -/
structure Analysis where
  grammar : Grammar
  nullability : Nullability
  first : FirstSets
  follow : FollowSets
  records : List Record

def analyze (g : Grammar) : Analysis :=
  let nullability := Nullability.solve g
  let first := FirstSets.solve g nullability.state
  let follow := FollowSets.solve g first.state
  { grammar := g
    nullability := nullability.state
    first := first.state
    follow := follow.state
    records :=
      nullability.log .nullability ++ first.log .first ++ follow.log .follow ++
        [.analyzed g.nonterminals.length nullability.state.size] }

namespace Analysis

def isNullable (a : Analysis) (name : String) : Bool := a.nullability.isNullable (.nonterminal name)

end Analysis

end Lookahead
