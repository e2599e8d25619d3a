import Lookahead.Analysis
import Lookahead.Conflict
import Lookahead.Text.NameChar

/-!
# The report

A report shows one row for each nonterminal, in columns that are as wide as their widest cell,
then how many conflicts there are, then the conflicts. Widths count characters, and no row ends in
blanks. There is nothing to report about a grammar without rules.
-/

namespace Lookahead

namespace Report

/-- The cells of a row: name, nullability, FIRST and FOLLOW set. -/
abbrev Row := List String

def header : Row := ["Symbol", "Nullable", "FIRST", "FOLLOW"]

/-- The row of a nonterminal. -/
def row (a : Analysis) (name : String) : Row :=
  [if a.grammar.isDefined name then name else name ++ " (undefined)",
   if a.isNullable name then "yes" else "no",
   (a.first.first name).display,
   (a.follow.follow name).display]

def rows (a : Analysis) : List Row := a.grammar.nonterminals.map (row a)

/-- The greatest length in each column of some rows that are all as long as `first`. -/
def widths (first : Row) (rows : List Row) : List Nat :=
  rows.foldl (fun ws row => List.zipWith (fun w (cell : String) => max w cell.length) ws row)
    (first.map String.length)

def pad (width : Nat) (text : String) : String :=
  text ++ String.ofList (List.replicate (width - text.length) ' ')

def trimEnd (text : String) : String :=
  String.ofList (text.toList.reverse.dropWhile Text.isBlank).reverse

/-- The cells of a row in columns of the given widths, with two spaces between. -/
def line (widths : List Nat) (row : Row) : String :=
  trimEnd ("  ".intercalate (List.zipWith pad widths row))

/-- The lines of the table. -/
def table (a : Analysis) : List String :=
  let rows := rows a
  (header :: rows).map (line (widths header rows))

def summary : Nat → String
  | 0 => "No conflicts found"
  | 1 => "1 conflict found"
  | n => toString n ++ " conflicts found"

def lines (a : Analysis) (warnings : List Warning) (colour : Bool) : List String :=
  table a ++ ["", summary warnings.length] ++ warnings.map (Diagnostic.render colour)

def render (a : Analysis) (warnings : List Warning) (colour : Bool) : String :=
  if a.grammar.isEmpty then ""
  else String.join ((lines a warnings colour).map (· ++ "\n"))

end Report

def Analysis.report (a : Analysis) (colour : Bool) : String :=
  Report.render a (a.grammar.conflicts a.first) colour

end Lookahead
