/-!
# Sources

A source is a sequence of bytes. Its lines end at line feeds; one carriage return directly before
a line feed belongs to the line end, and what follows the last line feed is a line only if it is
not empty. Each line is decoded by itself, so a line that is not UTF-8 does not affect the others.
Two edits of a source, on its bytes, take out a line and rewrite the line ends.
-/

namespace Lookahead

abbrev Bytes := List UInt8

namespace Bytes

def lineFeed : UInt8 := 10

def carriageReturn : UInt8 := 13

/-- The line without one carriage return at its end. -/
def dropCarriageReturn (line : Bytes) : Bytes :=
  if line.getLast? = some carriageReturn then line.dropLast else line

def lines (bytes : Bytes) : List Bytes :=
  if bytes = [] then
    []
  else
    let line := bytes.takeWhile (· != lineFeed)
    match h : bytes.dropWhile (· != lineFeed) with
    | [] => [line]
    | _ :: rest =>
      have : rest.length < bytes.length := by
        have := (List.dropWhile_sublist (l := bytes) (· != lineFeed)).length_le
        rw [h] at this
        exact this
      dropCarriageReturn line :: lines rest
  termination_by bytes.length

/-- The text that the bytes encode, if they are UTF-8. -/
def decode? (bytes : Bytes) : Option String := String.fromUTF8? bytes.toByteArray

def ofText (text : String) : Bytes := text.toUTF8.data.toList

/-- Takes out one line, counted from 0, together with its line end. There is no change if the source
has no such line. -/
def deleteLine : Nat → Bytes → Bytes
  | 0, bytes => (bytes.dropWhile (· != lineFeed)).drop 1
  | index + 1, bytes =>
    match bytes.dropWhile (· != lineFeed) with
    | [] => bytes
    | feed :: rest => bytes.takeWhile (· != lineFeed) ++ feed :: deleteLine index rest

/-- Writes a carriage return before every line feed. -/
def withCarriageReturns (bytes : Bytes) : Bytes :=
  bytes.flatMap fun b => if b = lineFeed then [carriageReturn, lineFeed] else [b]

end Bytes

structure SourceLine where
  number : Nat
  text? : Option String
  deriving DecidableEq, Repr

/-- The lines of a source with their numbers. -/
def sourceLines (source : Bytes) : List SourceLine :=
  (source.lines.zipIdx 1).map fun (line, number) => ⟨number, line.decode?⟩

end Lookahead
