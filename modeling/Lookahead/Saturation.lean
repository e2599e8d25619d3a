import Lookahead.Record

/-!
# Saturation

The sets of an analysis grow until a pass over the grammar changes nothing. A step is the outcome
of some work on the sets: the sets afterwards, whether the work says that it changed them, and a
record of every change. `sweep` is one pass, in which each visit sees the changes of the visits
before it, and `saturate` repeats passes up to and including the first that says that it changed
nothing. `Settles` describes the same repetition without the limit that `saturate` needs.
-/

namespace Lookahead

/-- The outcome of some work on a state. -/
structure Step (σ : Type) where
  state : σ
  changed : Bool
  /-- A record of every change, in order. -/
  records : List Record

variable {σ α : Type}

/-- Some work, and then more work on the state that it leaves. -/
def Step.andThen (step : Step σ) (work : σ → Step σ) : Step σ :=
  let next := work step.state
  ⟨next.state, step.changed || next.changed, step.records ++ next.records⟩

/-- Visits the items from left to right. -/
def sweep (visit : σ → α → Step σ) : List α → σ → Step σ
  | [], s => ⟨s, false, []⟩
  | a :: as, s => (visit s a).andThen (sweep visit as)

structure Settled (σ : Type) where
  state : σ
  records : List Record
  /-- The number of passes, with the last one that changed nothing. -/
  passes : Nat

/-- Repeats a pass until it changes nothing, at most `limit` times. -/
def saturate (pass : σ → Step σ) (limit : Nat) (s : σ) : Settled σ :=
  match limit with
  | 0 => ⟨s, [], 0⟩
  | limit + 1 =>
    let step := pass s
    if step.changed then
      let rest := saturate pass limit step.state
      ⟨rest.state, step.records ++ rest.records, rest.passes + 1⟩
    else
      ⟨step.state, step.records, 1⟩

/-- Passes from the first state on, repeated without a limit, end in the last one after the given
number of passes: the last pass changes nothing, and every pass before it changes something. -/
inductive Settles (pass : σ → Step σ) : σ → Nat → σ → Prop where
  | quiet {s : σ} : (pass s).changed = false → Settles pass s 1 (pass s).state
  | again {s s' : σ} {passes : Nat} : (pass s).changed = true →
      Settles pass (pass s).state passes s' → Settles pass s (passes + 1) s'

/-- The records of a phase, with the one that closes it. -/
def Settled.log (s : Settled σ) (phase : Phase) : List Record :=
  s.records ++ [.settled phase s.passes]

end Lookahead
