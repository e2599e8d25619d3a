/-!
# Diagnostics

A diagnostic is a finding at a place in a source. Findings of any type can be shown once they have
a severity and a message; the shown form is the same for all of them, with or without terminal
colours. Findings are put in order by a number, such as that of their line, with equal numbers left
as they were.
-/

namespace Lookahead

/-- A line of a file, counted from 1. Line 0 stands for the whole file. -/
structure Location where
  file : String
  line : Nat
  deriving DecidableEq, Repr

namespace Location

def wholeFile (file : String) : Location := ⟨file, 0⟩

def render (l : Location) : String :=
  if l.line = 0 then l.file else l.file ++ ":" ++ toString l.line

end Location

inductive Severity where
  | error
  | warning
  deriving DecidableEq, Repr

namespace Severity

def name : Severity → String
  | error => "error"
  | warning => "warning"

/-- The number of the terminal colour in which a location is shown. -/
def colour : Severity → Nat
  | error => 31
  | warning => 33

end Severity

/-- Types whose values can be reported to the user. -/
class Finding (κ : Type) where
  severity : κ → Severity
  message : κ → String

/-- A finding and where it was made. -/
structure Diagnostic (κ : Type) where
  location : Location
  kind : κ
  deriving DecidableEq, Repr

namespace Diagnostic

variable {κ : Type} [Finding κ]

/-- The severity and the message, as in `error: Unmatched quotes`. -/
def summary (d : Diagnostic κ) : String :=
  (Finding.severity d.kind).name ++ ": " ++ Finding.message d.kind

def plain (d : Diagnostic κ) : String :=
  "[" ++ d.location.render ++ "] " ++ d.summary

/-- The diagnostic in bold with the location in the colour of the severity. -/
def coloured (d : Diagnostic κ) : String :=
  "\x1b[" ++ toString (Finding.severity d.kind).colour ++ ";49;1m[" ++ d.location.render ++
    "]\x1b[39;49;1m  " ++ d.summary ++ "\x1b[0m"

def render (colour : Bool) (d : Diagnostic κ) : String :=
  if colour then d.coloured else d.plain

end Diagnostic

/-- Puts `x` before the first element whose key is not smaller. -/
def insertByKey {α : Type} (key : α → Nat) (x : α) : List α → List α
  | [] => [x]
  | y :: ys => if key x ≤ key y then x :: y :: ys else y :: insertByKey key x ys

/-- Ascending by key, with equal keys in their old order. -/
def sortByKey {α : Type} (key : α → Nat) (l : List α) : List α := l.foldr (insertByKey key) []

end Lookahead
