import Lookahead.Diagnostic
import Lookahead.Token

/-!
# What can go wrong while loading

Errors are causes, from the characters of one line up to the grammar as a whole. Each has one
message. All of them are reported with severity error, and none stops the loading of the other
lines.
-/

namespace Lookahead

inductive SyntaxError where
  | lexical (e : LexError)
  | missingArrow
  | unexpectedArrow
  | missingNonterminal
  | missingPeriod
  | unexpectedPeriod
  /-- There are no tokens; lines like that are skipped before they are parsed. -/
  | blankLine
  deriving DecidableEq, Repr

inductive FileFault where
  | notFound
  | permissionDenied
  | notADirectory
  | isADirectory
  | nameTooLong
  /-- The path holds a NUL character, which no path may hold. -/
  | invalidPath
  | invalidData
  | unexpectedEnd
  deriving DecidableEq, Repr

/-- A failure to read a file. The detail, if there is one, is what the system says about it. -/
structure FileError where
  fault : FileFault
  detail : Option String := none
  deriving DecidableEq, Repr

/-- A cause of trouble with a grammar source. -/
inductive LoadError where
  | malformed (e : SyntaxError)
  | unreadable (e : FileError)
  | undefinedNonterminal (name : String)
  | leftRecursive (name : String)
  | undefinedStart (name : String)
  deriving DecidableEq, Repr

def LexError.message : LexError → String
  | .unmatchedQuote => "Unmatched quotes"
  | .unexpectedCharacter c => "Unexpected character `" ++ c.toString ++ "`"

def SyntaxError.message : SyntaxError → String
  | .lexical e => e.message
  | .missingArrow => "Expected `->` after nonterminal"
  | .unexpectedArrow => "Unexpected `->` encountered"
  | .missingNonterminal => "Tried to define something other than a nonterminal"
  | .missingPeriod => "Production does not end with `.`"
  | .unexpectedPeriod => "Unexpected `.` before the end of the production"
  | .blankLine =>
    "Blank line encountered in rule parser (this is a problem with the loader, not the grammar)"

/-- The general name of the fault, for when the system says nothing about it. -/
def FileFault.text : FileFault → String
  | .notFound => "entity not found"
  | .permissionDenied => "permission denied"
  | .notADirectory => "not a directory"
  | .isADirectory => "is a directory"
  | .nameTooLong => "invalid filename"
  | .invalidPath => "invalid input parameter"
  | .invalidData => "invalid data"
  | .unexpectedEnd => "unexpected end of file"

/-- What the system says about the fault when a file is opened, with its number for it. A path
that is invalid never reaches the system, so that there is no number. -/
def FileFault.systemText : FileFault → String
  | .notFound => "No such file or directory (os error 2)"
  | .permissionDenied => "Permission denied (os error 13)"
  | .notADirectory => "Not a directory (os error 20)"
  | .isADirectory => "Is a directory (os error 21)"
  | .nameTooLong => "File name too long (os error 36)"
  | .invalidPath => "file name contained an unexpected NUL byte"
  | .invalidData => "Invalid or incomplete multibyte or wide character (os error 84)"
  | .unexpectedEnd => "Input/output error (os error 5)"

def FileError.ofSystem (fault : FileFault) : FileError := ⟨fault, some fault.systemText⟩

def FileError.text (e : FileError) : String := e.detail.getD e.fault.text

def FileError.notUTF8 : FileError := ⟨.invalidData, some "stream did not contain valid UTF-8"⟩

namespace LoadError

def message : LoadError → String
  | malformed e => e.message
  | unreadable e => "File error: " ++ e.text
  | undefinedNonterminal name => "Undefined nonterminal `" ++ name ++ "`"
  | leftRecursive name => "Left-recursive production for `" ++ name ++ "` was dropped"
  | undefinedStart name => "Start symbol `" ++ name ++ "` has no productions"

instance : Finding LoadError where
  severity _ := .error
  message := message

end LoadError

/-- An error and the line it is about. -/
abbrev LoadDiagnostic := Diagnostic LoadError

end Lookahead
