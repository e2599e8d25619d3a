import Lookahead.Grammar.Store
import Lookahead.Proofs.Grammar.Rules
import Lookahead.Session

/-!
# Grammars by their history

A grammar is made from the empty one by adding rules and choosing start symbols, where the choice of
a name without productions is refused. One change appends its rule and otherwise leaves the rules as
they are (`Grammar.change_cases`), so the rules of a grammar are those that were added
(`Grammar.rules_run`), and of the choices the last one counts (`Grammar.chosen_run`). Every grammar
is made in this way (`Grammar.run_changes`), and sessions that only make such changes build these
grammars (`Session.grammar_run_edits`).
-/

namespace Lookahead

namespace Change

def rule? : Change → Option Rule
  | add rule => some rule
  | setStart _ => none

/-- The name that a change has chosen, by whether the change was made. -/
def chosen? : Change × Bool → Option String
  | (setStart name, true) => some name
  | _ => none

end Change

namespace Grammar

variable {g : Grammar}

/-- Makes a change, and says whether it was made. -/
def change (g : Grammar) : Change → Grammar × Bool
  | .add rule => (g.add rule, true)
  | .setStart name =>
    match g.withStart? name with
    | some g' => (g', true)
    | none => (g, false)

def run (g : Grammar) (changes : List Change) : Grammar :=
  changes.foldl (fun g change => (g.change change).1) g

def transcript (g : Grammar) : List Change → List (Change × Bool)
  | [] => []
  | change :: changes => (change, (g.change change).2) :: (g.change change).1.transcript changes

/-- What a change can do. -/
theorem change_cases (g : Grammar) (change : Change) :
    (∃ rule, change = .add rule ∧ g.change change = (g.add rule, true)) ∨
    (∃ name g', change = .setStart name ∧ g.isDefined name = true ∧
      g.withStart? name = some g' ∧ g.change change = (g', true)) ∨
    (∃ name, change = .setStart name ∧ g.isDefined name = false ∧
      g.change change = (g, false)) := by
  cases change with
  | add rule => exact .inl ⟨rule, rfl, rfl⟩
  | setStart name =>
    cases hdefined : g.isDefined name with
    | true =>
      obtain ⟨g', hg'⟩ := exists_withStart? hdefined
      exact .inr (.inl ⟨name, g', rfl, hdefined, hg', by rw [change, hg']⟩)
    | false =>
      exact .inr (.inr ⟨name, rfl, hdefined, by rw [change, withStart?_eq_none hdefined]⟩)

theorem rules_change (g : Grammar) (change : Change) :
    (g.change change).1.rules = g.rules ++ change.rule?.toList := by
  rcases g.change_cases change with ⟨rule, rfl, h⟩ | ⟨name, g', rfl, -, hg', h⟩ | ⟨name, rfl, -, h⟩
  · rw [h]
    rfl
  · rw [h]
    exact (rules_withStart? hg').trans (List.append_nil _).symm
  · rw [h]
    exact (List.append_nil _).symm

theorem chosen_change (g : Grammar) (change : Change) :
    (g.change change).1.chosen =
      (Change.chosen? (change, (g.change change).2)).or g.chosen := by
  rcases g.change_cases change with ⟨rule, rfl, h⟩ | ⟨name, g', rfl, -, hg', h⟩ | ⟨name, rfl, -, h⟩
  · rw [h]
    rfl
  · rw [h]
    exact chosen_withStart? hg'
  · rw [h]
    rfl

/-- The rules are those that were added. -/
theorem rules_run (g : Grammar) (changes : List Change) :
    (g.run changes).rules = g.rules ++ changes.filterMap Change.rule? := by
  induction changes generalizing g with
  | nil => exact (List.append_nil _).symm
  | cons change changes ih =>
    calc (g.run (change :: changes)).rules
        = (g.change change).1.rules ++ changes.filterMap Change.rule? := ih _
      _ = g.rules ++ (change.rule?.toList ++ changes.filterMap Change.rule?) := by
        rw [rules_change, List.append_assoc]
      _ = g.rules ++ (change :: changes).filterMap Change.rule? := by
        cases h : change.rule? <;> simp [h]

/-- The choice that counts is the last one that was made. -/
theorem chosen_run (g : Grammar) (changes : List Change) :
    (g.run changes).chosen =
      ((g.transcript changes).filterMap Change.chosen?).getLast?.or g.chosen := by
  induction changes generalizing g with
  | nil => rfl
  | cons change changes ih =>
    calc (g.run (change :: changes)).chosen
        = (((g.change change).1.transcript changes).filterMap Change.chosen?).getLast?.or
            (g.change change).1.chosen := ih _
      _ = ((((g.change change).1.transcript changes).filterMap Change.chosen?).getLast?.or
            (Change.chosen? (change, (g.change change).2))).or g.chosen := by
        rw [chosen_change, Option.or_assoc]
      _ = ((g.transcript (change :: changes)).filterMap Change.chosen?).getLast?.or g.chosen := by
        cases h : Change.chosen? (change, (g.change change).2) <;>
          simp [transcript, h, List.getLast?_cons]

theorem chosen_run_map_add (g : Grammar) (rules : List Rule) :
    (g.run (rules.map .add)).chosen = g.chosen := by
  induction rules generalizing g with
  | nil => rfl
  | cons rule rules ih => exact ih (g.add rule)

/-- Every grammar is made by its changes. -/
theorem run_changes (g : Grammar) : empty.run g.changes = g := by
  have hrules : (empty.run (g.rules.map .add)).rules = g.rules := by
    rw [rules_run, List.filterMap_map]
    exact List.filterMap_some
  have hchosen := empty.chosen_run_map_add g.rules
  rw [changes, run, List.foldl_append]
  cases h : g.chosen with
  | none => exact Grammar.ext hrules (hchosen.trans h.symm)
  | some name =>
    have hdefined : (empty.run (g.rules.map .add)).isDefined name = true := by
      rw [isDefined_iff, hrules]
      exact g.chosen_defined name h
    obtain ⟨g', hg'⟩ := exists_withStart? hdefined
    change ((empty.run (g.rules.map .add)).change (.setStart name)).1 = g
    rw [change, hg']
    exact Grammar.ext ((rules_withStart? hg').trans hrules) ((chosen_withStart? hg').trans h.symm)

end Grammar

/-! ## Sessions -/

def Change.edit : Change → Edit
  | add rule => .add rule
  | setStart name => .setStart name

theorem Session.grammar_apply_edit (s : Session) (change : Change) :
    (s.apply change.edit).grammar = (s.grammar.change change).1 := by
  cases change with
  | add rule => rfl
  | setStart name =>
    simp only [Change.edit, apply, Grammar.change]
    cases s.grammar.withStart? name <;> rfl

/-- A session that only adds rules and chooses start symbols changes its grammar accordingly. -/
theorem Session.grammar_run_edits (s : Session) (changes : List Change) :
    (s.run (changes.map Change.edit)).grammar = s.grammar.run changes := by
  induction changes generalizing s with
  | nil => rfl
  | cons change changes ih =>
    calc (s.run ((change :: changes).map Change.edit)).grammar
        = (s.apply change.edit).grammar.run changes := ih _
      _ = s.grammar.run (change :: changes) := by rw [grammar_apply_edit]; rfl

end Lookahead
