import Lookahead.Record

/-!
# The command line

The arguments are read from left to right, and the first problem met decides. A file, and a start
symbol that is an argument of its own, are held back and only accepted or refused once the next
argument has been recognised; so a problem with recognising that argument comes first.
-/

namespace Lookahead

structure Options where
  /-- The grammar file; `-` and no file both mean standard input. -/
  file : Option String := none
  start : Option String := none
  plain : Bool := false
  /-- How often more logging was asked for, up to 255. -/
  verbosity : Nat := 0
  deriving DecidableEq, Repr

namespace Options

/-- The file to open, unless the grammar comes from standard input. -/
def inputFile? (o : Options) : Option String := o.file.filter (· != "-")

/-- The level of detail up to which records are logged. -/
def level (o : Options) : Level :=
  match o.verbosity with
  | 0 => .warn
  | 1 => .info
  | 2 => .debug
  | _ => .trace

end Options

/-- Why the command line holds no options to run with. -/
inductive UsageError where
  /-- An unknown option, or a second file. -/
  | unknownArgument
  | argumentConflict
  /-- A value is missing, or the file name is empty. -/
  | invalidValue
  | tooManyValues
  | helpRequested
  | versionRequested
  deriving DecidableEq, Repr

namespace CommandLine

inductive Flag where
  | plain
  | verbose
  | help
  | version
  deriving DecidableEq, Repr

/-- A known option. -/
inductive Known where
  | flag (f : Flag)
  | start
  deriving DecidableEq, Repr

def longOption? : String → Option Known
  | "plain" => some (.flag .plain)
  | "verbose" => some (.flag .verbose)
  | "help" => some (.flag .help)
  | "version" => some (.flag .version)
  | "start" => some .start
  | _ => none

def shortOption? : Char → Option Known
  | 'v' => some (.flag .verbose)
  | 'h' => some (.flag .help)
  | 'V' => some (.flag .version)
  | 's' => some .start
  | _ => none

/-- Something read that is not accepted yet. -/
inductive Pending where
  | file (path : String)
  | start (value : Option String)
  deriving DecidableEq, Repr

/-- The options accepted so far and what is held back. -/
structure State where
  options : Options := {}
  pending : Option Pending := none
  deriving DecidableEq, Repr

namespace State

def hasFile (s : State) : Bool :=
  s.options.file.isSome || match s.pending with
    | some (.file _) => true
    | _ => false

/-- Accepts or refuses what is held back. -/
def settle (s : State) : Except UsageError State :=
  match s.pending with
  | none => .ok s
  | some (.file path) =>
    if path = "" then .error .invalidValue
    else .ok { options := { s.options with file := some path } }
  | some (.start none) => .error .invalidValue
  | some (.start (some value)) =>
    if s.options.start.isSome then .error .argumentConflict
    else .ok { options := { s.options with start := some value } }

def setFlag (s : State) (f : Flag) : Except UsageError State := do
  let s ← s.settle
  match f with
  | .plain =>
    if s.options.plain then .error .argumentConflict
    else .ok { s with options := { s.options with plain := true } }
  | .verbose =>
    .ok { s with options := { s.options with verbosity := min 255 (s.options.verbosity + 1) } }
  | .help => .error .helpRequested
  | .version => .error .versionRequested

def setStart (s : State) (value : String) : Except UsageError State := do
  let s ← s.settle
  settle { s with pending := some (.start (some value)) }

/-- Takes the option for a start symbol that is still to come. -/
def awaitStart (s : State) : Except UsageError State := do
  let s ← s.settle
  .ok { s with pending := some (.start none) }

/-- Reads what follows two dashes. -/
def readLong (s : State) (name : String) (value : Option String) : Except UsageError State :=
  match longOption? name, value with
  | none, _ => .error .unknownArgument
  | some (.flag f), none => s.setFlag f
  | some (.flag _), some _ => .error .tooManyValues
  | some .start, some value => s.setStart value
  | some .start, none => s.awaitStart

/-- Reads the letters after a single dash. What follows the letter of the start symbol is its
value, less one equals sign. -/
def readShort (s : State) : List Char → Except UsageError State
  | [] => .ok s
  | c :: letters =>
    match shortOption? c with
    | none => .error .unknownArgument
    | some (.flag f) => do (← s.setFlag f).readShort letters
    | some .start =>
      match letters with
      | [] => s.awaitStart
      | '=' :: value => s.setStart (String.ofList value)
      | value => s.setStart (String.ofList value)

/-- Reads an argument that is neither an option nor the value of one. -/
def readFile (s : State) (path : String) : Except UsageError State :=
  if s.hasFile then
    .error .unknownArgument
  else do
    let s ← s.settle
    .ok { s with pending := some (.file path) }

end State

/-- The forms of an argument. -/
inductive Shape where
  /-- Two dashes alone: everything after them is a file. -/
  | separator
  | long (name : String) (value : Option String)
  | short (letters : List Char)
  | plain
  deriving DecidableEq, Repr

/-- The name of a long option, and its value if there is an equals sign. -/
def splitLong (text : List Char) : Shape :=
  let name := String.ofList (text.takeWhile (· != '='))
  match text.dropWhile (· != '=') with
  | [] => .long name none
  | _ :: value => .long name (some (String.ofList value))

def shape (argument : String) : Shape :=
  match argument.toList with
  | ['-', '-'] => .separator
  | '-' :: '-' :: text => splitLong text
  | '-' :: c :: letters => .short (c :: letters)
  | _ => .plain

def readFiles (s : State) : List String → Except UsageError State
  | [] => s.settle
  | path :: rest => do readFiles (← s.readFile path) rest

def readAll (s : State) : List String → Except UsageError State
  | [] => s.settle
  | argument :: rest =>
    match shape argument with
    | .separator => readFiles s rest
    | .long name value => do readAll (← s.readLong name value) rest
    | .short letters => do readAll (← s.readShort letters) rest
    | .plain =>
      match s.pending with
      | some (.start none) => readAll { s with pending := some (.start (some argument)) } rest
      | _ => do readAll (← s.readFile argument) rest

/-- The options that the arguments after the program name ask for. -/
def parse (arguments : List String) : Except UsageError Options :=
  (readAll {} arguments).map State.options

end CommandLine

end Lookahead
