import Lookahead.Grammar
import Lookahead.Record
import Lookahead.RuleLine
import Lookahead.Source

/-!
# Loaded grammars

Loading turns a source into a grammar and a list of errors, and never stops at an error. Lines
that cannot be read are left out, left-recursive productions are dropped, and nonterminals without
productions are reported where they are first mentioned. Errors are in ascending order of line;
those of one line are in the order in which these checks are made.
-/

namespace Lookahead

/-- What the lines of a source say: the rules, and an error for each line without one. -/
structure Reading where
  rules : List Rule
  errors : List LoadDiagnostic
  deriving DecidableEq, Repr

namespace Reading

/-- Reads one line; nothing comes of blank lines and comments. -/
def readLine (file : String) (line : SourceLine) : Option (Except LoadDiagnostic Rule) :=
  let location : Location := ⟨file, line.number⟩
  match line.text? with
  | none => some (.error ⟨location, .unreadable .notUTF8⟩)
  | some text =>
    if isRuleLine text then
      some ((Rule.ofLine location text).mapError fun e => ⟨location, .malformed e⟩)
    else
      none

/-- Collects rules and errors, each in order. -/
def ofResults (results : List (Except LoadDiagnostic Rule)) : Reading where
  rules := results.filterMap fun
    | .ok rule => some rule
    | .error _ => none
  errors := results.filterMap fun
    | .ok _ => none
    | .error e => some e

def ofSource (file : String) (source : Bytes) : Reading :=
  ofResults ((sourceLines source).filterMap (readLine file))

end Reading

/-- A grammar and everything that went wrong while loading it. -/
structure Loaded where
  grammar : Grammar
  errors : List LoadDiagnostic
  deriving DecidableEq

/-- Errors in ascending order of line. -/
def sortByLine (errors : List LoadDiagnostic) : List LoadDiagnostic :=
  sortByKey (·.location.line) errors

def Grammar.undefinedMentions (g : Grammar) : List (String × Location) :=
  (g.groupedRules.flatMap fun rule =>
    rule.production.nonterminals.map fun name => (name, rule.production.location)).filter
      fun mention => !g.isDefined mention.1

/-- One error for each undefined nonterminal, at its first mention. -/
def Grammar.undefinedErrors (g : Grammar) : List LoadDiagnostic :=
  ((sortByKey (·.2.line) g.undefinedMentions).eraseDupsBy (·.1 == ·.1)).map
    fun mention => ⟨mention.2, .undefinedNonterminal mention.1⟩

namespace Loaded

def empty : Loaded := ⟨.empty, []⟩

/-- The error of a rule that is dropped because it is left-recursive. -/
def leftRecursionError (rule : Rule) : LoadDiagnostic :=
  ⟨rule.production.location, .leftRecursive rule.head⟩

/-- Builds a grammar from rules. -/
def ofRules (rules : List Rule) : Loaded :=
  let grammar := Grammar.ofRules (rules.filter (!·.isLeftRecursive))
  let dropped := (rules.filter (·.isLeftRecursive)).map leftRecursionError
  ⟨grammar, sortByLine (dropped ++ grammar.undefinedErrors)⟩

def ofReading (reading : Reading) : Loaded :=
  let loaded := ofRules reading.rules
  { loaded with errors := sortByLine (reading.errors ++ loaded.errors) }

def ofSource (file : String) (source : Bytes) : Loaded :=
  ofReading (Reading.ofSource file source)

def sourceRecord (file : String) (source : Bytes) : Record :=
  let reading := Reading.ofSource file source
  let grammar := (ofReading reading).grammar
  .loaded grammar.groupedRules.length reading.rules.length grammar.heads.length file

/-- Makes `name` the start symbol. If it has no productions the grammar stays as it is and an error
about the whole file is added. -/
def overrideStart (loaded : Loaded) (name file : String) : Loaded :=
  match loaded.grammar.withStart? name with
  | some grammar => { loaded with grammar }
  | none =>
    { loaded with
      errors := sortByLine (loaded.errors ++ [⟨.wholeFile file, .undefinedStart name⟩]) }

end Loaded

end Lookahead
