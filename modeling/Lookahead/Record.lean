import Lookahead.TextSet

/-!
# Log records

What loading and analysing a grammar report about their progress. Each phase of the analysis
records every change of its sets as it happens and, once nothing changes any more, how many passes
that took.
-/

namespace Lookahead

inductive Level where
  | warn
  | info
  | debug
  | trace
  deriving DecidableEq, Repr

namespace Level

def name : Level → String
  | warn => "WARN"
  | info => "INFO"
  | debug => "DEBUG"
  | trace => "TRACE"

/-- The number of levels that give less detail. -/
def rank : Level → Nat
  | warn => 0
  | info => 1
  | debug => 2
  | trace => 3

end Level

/-- The three sets that an analysis solves for. -/
inductive Phase where
  | nullability
  | first
  | follow
  deriving DecidableEq, Repr

def Phase.name : Phase → String
  | .nullability => "nullability"
  | .first => "FIRST sets"
  | .follow => "FOLLOW sets"

inductive Record where
  /-- A source was read: of `parsed` productions `kept` are in the grammar. -/
  | loaded (kept parsed heads : Nat) (file : String)
  | nullable (name : String)
  | firstGrew (name : String) (terminals : TextSet)
  | followGrew (name : String) (terminals : TextSet)
  /-- The last of `passes` passes changed nothing. -/
  | settled (phase : Phase) (passes : Nat)
  /-- An analysis is complete, and `marked` of the nonterminals are nullable. -/
  | analyzed (nonterminals marked : Nat)
  deriving DecidableEq

namespace Record

def level : Record → Level
  | loaded .. | analyzed .. => .info
  | settled .. => .debug
  | nullable .. | firstGrew .. | followGrew .. => .trace

def message : Record → String
  | loaded kept parsed heads file =>
    "loaded " ++ toString kept ++ " of " ++ toString parsed ++ " productions for " ++
      toString heads ++ " nonterminals from " ++ file
  | nullable name => "`" ++ name ++ "` is nullable"
  | firstGrew name terminals => "FIRST(" ++ name ++ ") grew to " ++ terminals.displayEscaped
  | followGrew name terminals => "FOLLOW(" ++ name ++ ") grew to " ++ terminals.displayEscaped
  | settled phase passes =>
    phase.name ++ " reached a fixed point after " ++ toString passes ++ " passes"
  | analyzed nonterminals marked =>
    "analyzed " ++ toString nonterminals ++ " nonterminals, " ++ toString marked ++
      " of them nullable"

end Record

end Lookahead
