import Lookahead.Diagnostic

/-!
# Grammars

A terminal is a text of the language, a nonterminal a name that the grammar defines. A production is
a right-hand side and the place it was read from; in canonical form `epsilon` stands alone or not at
all. A grammar is a list of rules in the order in which they were added, and a start symbol, which
is the head of the first rule until another nonterminal that has productions is chosen. Everything
else is read off the rules: which nonterminals there are, in order of first appearance, which of
them are defined, and the productions of each. A grammar is printed as a source with one line for
each rule, grouped by head.
-/

namespace Lookahead

inductive Symbol where
  | terminal (text : String)
  | nonterminal (name : String)
  deriving DecidableEq, Repr

/-- The terminal text that stands for the empty sequence. -/
def epsilonText : String := "epsilon"

/-- The terminal text that follows the start symbol. -/
def endOfInput : String := "end-of-file"

namespace Symbol

def epsilon : Symbol := .terminal epsilonText

def isEpsilon (s : Symbol) : Bool := s == epsilon

/-- How the symbol is written in a grammar. -/
def spelling : Symbol → String
  | terminal text => "\"" ++ text ++ "\""
  | nonterminal name => name

def name? : Symbol → Option String
  | terminal _ => none
  | nonterminal name => some name

/-- The terminal's text or the nonterminal's name. -/
def label : Symbol → String
  | terminal text => text
  | nonterminal name => name

@[simp] theorem isEpsilon_iff {s : Symbol} : s.isEpsilon = true ↔ s = epsilon := by
  simp [isEpsilon]

end Symbol

def spellSymbols (symbols : List Symbol) : String :=
  " ".intercalate (symbols.map Symbol.spelling)

/-- The nonterminals among some symbols, in order and with repetitions. -/
def nonterminalNames (symbols : List Symbol) : List String :=
  symbols.filterMap Symbol.name?

/-- Drops every `epsilon`, and writes the single `epsilon` when nothing is left. -/
def canonicalSymbols (symbols : List Symbol) : List Symbol :=
  match symbols.filter (!·.isEpsilon) with
  | [] => [.epsilon]
  | rest => rest

theorem mem_canonicalSymbols {symbols : List Symbol} {s : Symbol}
    (h : s ∈ canonicalSymbols symbols) : s ∈ symbols ∨ s = .epsilon := by
  unfold canonicalSymbols at h
  split at h
  · exact .inr (List.mem_singleton.1 h)
  · exact .inl (List.mem_filter.1 h).1

theorem canonicalSymbols_canonicalSymbols (symbols : List Symbol) :
    canonicalSymbols (canonicalSymbols symbols) = canonicalSymbols symbols := by
  cases h : symbols.filter (!·.isEpsilon) with
  | nil => simp only [canonicalSymbols, h]; rfl
  | cons s rest =>
    have hrest : (s :: rest).filter (!·.isEpsilon) = s :: rest := by
      rw [← h, List.filter_filter]
      simp only [Bool.and_self]
    simp only [canonicalSymbols, h, hrest]

structure Production where
  symbols : List Symbol
  location : Location
  deriving DecidableEq, Repr

namespace Production

/-- The production with these symbols in canonical form. -/
def canonical (symbols : List Symbol) (location : Location) : Production :=
  ⟨canonicalSymbols symbols, location⟩

/-- Whether the production is the single `epsilon`. -/
def isEmpty (p : Production) : Bool := p.symbols == [.epsilon]

/-- Whether the production of `head` starts with `head` itself. -/
def isLeftRecursive (p : Production) (head : String) : Bool :=
  p.symbols.head? == some (.nonterminal head)

def nonterminals (p : Production) : List String := nonterminalNames p.symbols

def spelling (p : Production) : String := spellSymbols p.symbols

end Production

structure Rule where
  head : String
  production : Production
  deriving DecidableEq, Repr

namespace Rule

def isLeftRecursive (r : Rule) : Bool := r.production.isLeftRecursive r.head

/-- The nonterminals that the rule mentions, its head first. -/
def names (r : Rule) : List String := r.head :: r.production.nonterminals

end Rule

@[ext]
structure Grammar where
  /-- The rules in the order in which they were added. -/
  rules : List Rule := []
  /-- The start symbol, once one has been chosen. -/
  chosen : Option String := none
  chosen_defined : ∀ name, chosen = some name → ∃ rule ∈ rules, rule.head = name := by nofun
  deriving DecidableEq

structure Alternatives where
  head : String
  productions : List Production
  deriving DecidableEq, Repr

namespace Grammar

def empty : Grammar := {}

instance : Inhabited Grammar := ⟨empty⟩

/-- The grammar of some rules, with the first head as start symbol. -/
def ofRules (rules : List Rule) : Grammar := { rules }

def add (g : Grammar) (rule : Rule) : Grammar where
  rules := g.rules ++ [rule]
  chosen := g.chosen
  chosen_defined name h :=
    let ⟨r, hr, hn⟩ := g.chosen_defined name h
    ⟨r, List.mem_append_left _ hr, hn⟩

def start (g : Grammar) : Option String :=
  g.chosen.or (g.rules.head?.map Rule.head)

def isEmpty (g : Grammar) : Bool := g.rules.isEmpty

/-- Whether `name` has productions. -/
def isDefined (g : Grammar) (name : String) : Bool := g.rules.any (·.head == name)

theorem isDefined_iff {g : Grammar} {name : String} :
    g.isDefined name = true ↔ ∃ rule ∈ g.rules, rule.head = name := by
  simp [isDefined]

/-- The grammar with `name` as start symbol, if `name` has productions. -/
def withStart? (g : Grammar) (name : String) : Option Grammar :=
  if h : g.isDefined name = true then
    some {
      rules := g.rules
      chosen := some name
      chosen_defined := fun _ hn => Option.some.inj hn ▸ isDefined_iff.1 h }
  else
    none

/-- Every nonterminal, defined or only mentioned, in order of first appearance. -/
def nonterminals (g : Grammar) : List String := (g.rules.flatMap Rule.names).eraseDups

/-- The nonterminals that have productions. -/
def heads (g : Grammar) : List String := g.nonterminals.filter g.isDefined

/-- The nonterminals that are mentioned but have no productions. -/
def undefined (g : Grammar) : List String := g.nonterminals.filter (!g.isDefined ·)

def rulesOf (g : Grammar) (name : String) : List Rule := g.rules.filter (·.head == name)

/-- The productions of one nonterminal, in order; none if it is undefined. -/
def productions (g : Grammar) (name : String) : List Production :=
  (g.rulesOf name).map Rule.production

/-- All rules, grouped by head. -/
def groupedRules (g : Grammar) : List Rule := g.heads.flatMap g.rulesOf

def alternatives (g : Grammar) : List Alternatives :=
  g.heads.map fun head => ⟨head, g.productions head⟩

end Grammar

/-- The rule as a line of a source, without the line end. -/
def Rule.print (r : Rule) : String :=
  r.head ++ " -> " ++ r.production.spelling ++ " ."

def Grammar.print (g : Grammar) : String :=
  String.join (g.groupedRules.map fun rule => rule.print ++ "\n")

end Lookahead
