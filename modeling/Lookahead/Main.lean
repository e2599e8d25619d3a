import Lookahead.Program

/-!
# The command

Reads the arguments, opens the file, and prints what the program leaves behind.
-/

namespace Lookahead

def faultOf : IO.Error → FileFault
  | .noFileOrDirectory .. => .notFound
  | .permissionDenied .. => .permissionDenied
  | .inappropriateType _ 21 _ => .isADirectory
  | .inappropriateType .. => .notADirectory
  | .invalidArgument _ 36 _ => .nameTooLong
  | _ => .unexpectedEnd

def readSource (file : String) : IO (Except FileError Bytes) := do
  try
    let bytes ← IO.FS.readBinFile file
    return .ok bytes.toList
  catch e =>
    return .error (.ofSystem (faultOf e))

partial def readStream (stream : IO.FS.Stream) (before : ByteArray) : IO ByteArray := do
  let bytes ← stream.read 65536
  if bytes.isEmpty then
    return before
  else
    readStream stream (before ++ bytes)

def usage : String :=
  "Checks whether a BNF grammar can be parsed with one token of lookahead\n\n" ++
  "Usage: lookahead [OPTIONS] [FILE]\n\n" ++
  "  FILE                  file containing the grammar (default: standard input)\n" ++
  "  -s, --start SYMBOL    start symbol (default: first in the file)\n" ++
  "      --plain           print diagnostics without colours\n" ++
  "  -v, --verbose         log more about the analysis, repeat for more detail\n" ++
  "  -h, --help            print this text\n" ++
  "  -V, --version         print the version\n"

def UsageError.message : UsageError → String
  | .unknownArgument => "unexpected argument"
  | .argumentConflict => "an argument cannot be used multiple times"
  | .invalidValue => "a value is required"
  | .tooManyValues => "unexpected value for a flag"
  | .helpRequested => usage
  | .versionRequested => "lookahead 0.1.0"

def refuse (e : UsageError) : IO UInt32 := do
  match e with
  | .helpRequested =>
    IO.print e.message
    return 0
  | .versionRequested =>
    IO.println e.message
    return 0
  | _ =>
    IO.eprintln ("error: " ++ e.message ++ "\n\n" ++ usage)
    return 2

/-- Runs the program with the files that are there. -/
def runWith (o : Options) : IO UInt32 := do
  let outcome ← match o.inputFile? with
    | none => do
      let bytes ← readStream (← IO.getStdin) .empty
      pure (Program.run o (fun _ => .error (.ofSystem .notFound)) bytes.toList)
    | some file => do
      let content ← readSource file
      pure (Program.run o (fun _ => content) [])
  IO.eprint outcome.err
  IO.print outcome.out
  return outcome.exitCode.toUInt32

end Lookahead

def main (arguments : List String) : IO UInt32 :=
  match Lookahead.CommandLine.parse arguments with
  | .ok options => Lookahead.runWith options
  | .error e => Lookahead.refuse e
