import Lookahead.CommandLine
import Lookahead.Loaded
import Lookahead.Report

/-!
# The program

The program reads a grammar from a file or from standard input, prints the errors of loading it,
and prints the report. Only a file that cannot be opened makes it fail. Records up to the level
that the options ask for go where the errors go.
-/

namespace Lookahead

/-- What a run of the program leaves behind. -/
structure Outcome where
  exitCode : Nat
  out : String
  err : String
  deriving DecidableEq, Repr

namespace Program

def stdinName : String := "<stdin>"

def lines (texts : List String) : String := String.join (texts.map (· ++ "\n"))

def logLine (r : Record) : String := "[" ++ r.level.name ++ "] " ++ r.message

/-- The lines of the records that the level lets through. -/
def logLines (level : Level) (records : List Record) : List String :=
  (records.filter fun r => r.level.rank ≤ level.rank).map logLine

/-- Runs the program on a source that could be opened. -/
def runOn (o : Options) (name : String) (source : Bytes) : Outcome :=
  let loaded := Loaded.ofSource name source
  let loaded := match o.start with
    | some start => loaded.overrideStart start name
    | none => loaded
  let analysis := analyze loaded.grammar
  { exitCode := 0
    out := analysis.report (!o.plain)
    err :=
      lines (logLines o.level [Loaded.sourceRecord name source] ++
        loaded.errors.map (Diagnostic.render (!o.plain)) ++
        logLines o.level analysis.records) }

/-- The failure to open a file. -/
def openFailure (file : String) (e : FileError) : LoadDiagnostic :=
  ⟨.wholeFile file, .unreadable e⟩

/-- Runs the program, given how files are opened and what standard input holds. -/
def run (o : Options) (openFile : String → Except FileError Bytes) (stdin : Bytes) : Outcome :=
  match o.inputFile? with
  | none => runOn o stdinName stdin
  | some file =>
    match openFile file with
    | .ok source => runOn o file source
    | .error e =>
      { exitCode := 1
        out := ""
        err := lines [(openFailure file e).render (!o.plain)] }

end Program

end Lookahead
