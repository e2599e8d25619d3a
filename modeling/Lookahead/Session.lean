import Lookahead.Analysis
import Lookahead.Loaded

/-!
# Sessions

A session holds a loaded grammar and the results last computed. Editing the grammar leaves the
results as they are, so they can belong to an earlier grammar, and FIRST and FOLLOW sets can be
recomputed from results that do.
-/

namespace Lookahead

/-- A grammar being worked on, and results that may be out of date. -/
structure Session where
  loaded : Loaded
  nullability : Nullability
  first : FirstSets
  follow : FollowSets

/-- What can be done in a session. -/
inductive Edit where
  | loadSource (file : String) (source : Bytes)
  | loadRules (rules : List Rule)
  /-- Add a rule, even a left-recursive one. -/
  | add (rule : Rule)
  /-- Choose a start symbol; without effect if it has no productions. -/
  | setStart (name : String)
  /-- Choose a start symbol; an error if it has no productions. -/
  | overrideStart (name file : String)
  | analyze
  | recomputeFirst
  | recomputeFollow
  | unify (symbol : Symbol) (terminals : TextSet)

namespace Session

/-- The empty grammar with its results. -/
def fresh : Session where
  loaded := .empty
  nullability := .compute .empty
  first := .compute .empty (.compute .empty)
  follow := .compute .empty (.compute .empty (.compute .empty))

def grammar (s : Session) : Grammar := s.loaded.grammar

def apply (s : Session) : Edit → Session
  | .loadSource file source => { s with loaded := .ofSource file source }
  | .loadRules rules => { s with loaded := .ofRules rules }
  | .add rule => { s with loaded := { s.loaded with grammar := s.grammar.add rule } }
  | .setStart name =>
    match s.grammar.withStart? name with
    | some grammar => { s with loaded := { s.loaded with grammar } }
    | none => s
  | .overrideStart name file => { s with loaded := s.loaded.overrideStart name file }
  | .analyze =>
    let analysis := Lookahead.analyze s.grammar
    { s with
      nullability := analysis.nullability, first := analysis.first, follow := analysis.follow }
  | .recomputeFirst => { s with first := .compute s.grammar s.nullability }
  | .recomputeFollow => { s with follow := .compute s.grammar s.first }
  | .unify symbol terminals => { s with follow := (s.follow.unify symbol terminals).state }

def run (s : Session) (edits : List Edit) : Session := edits.foldl apply s

end Session

end Lookahead
