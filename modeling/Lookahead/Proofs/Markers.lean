import Lookahead.Proofs.First.Solution
import Lookahead.Proofs.Follow.Solution
import Lookahead.Session

/-!
# The two markers in a session

Whatever is done in a session, and however much its results are out of date, `epsilon` gets into no
stored set (`Session.epsilonFree_run`). The end of the input follows the start symbol once FOLLOW
sets have been computed. Until they are computed again they only grow, so it stays there
(`Session.mem_follow_run`).
-/

namespace Lookahead

variable {f : FirstSets} {s : Session} {edit : Edit} {edits : List Edit} {name start t : String}

namespace FirstSets

def EpsilonFree (f : FirstSets) : Prop := ∀ name, epsilonText ∉ f.first name

theorem epsilonFree_compute (g : Grammar) (ν : Nullability) : (compute g ν).EpsilonFree :=
  fun _ h => ne_epsilon_of_mem_first h rfl

theorem EpsilonFree.ofSymbol (hf : f.EpsilonFree) (symbol : Symbol) :
    epsilonText ∉ (f.ofSymbol symbol).terminals := by
  cases symbol with
  | terminal text => exact fun h => (mem_terminals_terminal.1 h).2 rfl
  | nonterminal name => exact hf name

theorem EpsilonFree.ofChain (hf : f.EpsilonFree) (chain : List Symbol) :
    epsilonText ∉ (f.ofChain chain).terminals := by
  rw [terminals_ofChain]
  intro h
  obtain ⟨before, symbol, after, -, -, hsymbol⟩ := mem_ofSequence.1 h
  exact hf.ofSymbol symbol hsymbol

end FirstSets

namespace FollowSets

variable {f : FollowSets}

def EpsilonFree (f : FollowSets) : Prop := ∀ name, epsilonText ∉ f.follow name

theorem epsilonFree_compute (g : Grammar) (first : FirstSets) : (compute g first).EpsilonFree :=
  fun _ h => ne_epsilon_of_mem_follow h rfl

theorem EpsilonFree.unify (hf : f.EpsilonFree) (symbol : Symbol) (terminals : TextSet) :
    (f.unify symbol terminals).state.EpsilonFree := by
  intro name h
  rcases mem_follow_unify.1 h with h | ⟨-, -, hne⟩
  · exact hf name h
  · exact hne rfl

end FollowSets

/-- The FOLLOW sets are computed anew. -/
def Edit.recomputesFollow : Edit → Bool
  | .analyze | .recomputeFollow => true
  | _ => false

namespace Session

/-- No stored set holds `epsilon`. -/
structure EpsilonFree (s : Session) : Prop where
  first : s.first.EpsilonFree
  follow : s.follow.EpsilonFree

theorem epsilonFree_fresh : fresh.EpsilonFree :=
  ⟨FirstSets.epsilonFree_compute _ _, FollowSets.epsilonFree_compute _ _⟩

theorem EpsilonFree.apply (hs : s.EpsilonFree) (edit : Edit) : (s.apply edit).EpsilonFree := by
  cases edit with
  | loadSource file source => exact ⟨hs.first, hs.follow⟩
  | loadRules rules => exact ⟨hs.first, hs.follow⟩
  | add rule => exact ⟨hs.first, hs.follow⟩
  | setStart name =>
    simp only [Session.apply]
    split
    · exact ⟨hs.first, hs.follow⟩
    · exact hs
  | overrideStart name file => exact ⟨hs.first, hs.follow⟩
  | analyze => exact ⟨FirstSets.epsilonFree_compute _ _, FollowSets.epsilonFree_compute _ _⟩
  | recomputeFirst => exact ⟨FirstSets.epsilonFree_compute _ _, hs.follow⟩
  | recomputeFollow => exact ⟨hs.first, FollowSets.epsilonFree_compute _ _⟩
  | unify symbol terminals => exact ⟨hs.first, hs.follow.unify symbol terminals⟩

theorem EpsilonFree.run (hs : s.EpsilonFree) (edits : List Edit) : (s.run edits).EpsilonFree := by
  induction edits generalizing s with
  | nil => exact hs
  | cons edit edits ih => exact ih (hs.apply edit)

/-- Once FOLLOW sets are computed, the end of the input follows the start symbol. -/
theorem endOfInput_mem_follow_apply (hedit : edit.recomputesFollow = true)
    (hstart : s.grammar.start = some start) :
    endOfInput ∈ (s.apply edit).follow.follow start := by
  cases edit with
  | analyze => exact (FollowSets.closed_compute s.grammar _).start hstart
  | recomputeFollow => exact (FollowSets.closed_compute s.grammar _).start hstart
  | _ => cases hedit

/-- Until FOLLOW sets are computed again, they only grow. -/
theorem mem_follow_apply (hedit : edit.recomputesFollow = false)
    (ht : t ∈ s.follow.follow name) : t ∈ (s.apply edit).follow.follow name := by
  cases edit with
  | analyze => cases hedit
  | recomputeFollow => cases hedit
  | setStart name =>
    simp only [apply]
    split
    · exact ht
    · exact ht
  | unify symbol terminals => exact FollowSets.mem_follow_unify.2 (.inl ht)
  | _ => exact ht

theorem mem_follow_run (hedits : ∀ edit ∈ edits, edit.recomputesFollow = false)
    (ht : t ∈ s.follow.follow name) : t ∈ (s.run edits).follow.follow name := by
  induction edits generalizing s with
  | nil => exact ht
  | cons edit edits ih =>
    obtain ⟨hedit, hedits⟩ := List.forall_mem_cons.1 hedits
    exact ih hedits (mem_follow_apply hedit ht)

theorem run_append (s : Session) (before after : List Edit) :
    s.run (before ++ after) = (s.run before).run after :=
  List.foldl_append

end Session

/-- At every point of a session, no stored FIRST or FOLLOW set holds `epsilon`, and no symbol or
chain starts with it by the stored FIRST sets. The end of the input follows what was the start
symbol when FOLLOW sets were last computed. -/
theorem markers_hold (edits : List Edit) :
    let s := Session.fresh.run edits
    (∀ name, epsilonText ∉ s.first.first name) ∧
    (∀ name, epsilonText ∉ s.follow.follow name) ∧
    (∀ symbol, epsilonText ∉ (s.first.ofSymbol symbol).terminals) ∧
    (∀ chain, epsilonText ∉ (s.first.ofChain chain).terminals) ∧
    ∀ before edit after start, edits = before ++ edit :: after → edit.recomputesFollow = true →
      (∀ edit' ∈ after, edit'.recomputesFollow = false) →
      (Session.fresh.run before).grammar.start = some start →
      endOfInput ∈ s.follow.follow start := by
  intro s
  have hs : s.EpsilonFree := Session.epsilonFree_fresh.run edits
  refine ⟨hs.first, hs.follow, hs.first.ofSymbol, hs.first.ofChain, ?_⟩
  rintro before edit after start hedits hedit hafter hstart
  have hrun : s = ((Session.fresh.run before).apply edit).run after := by
    change Session.fresh.run edits = _
    rw [hedits, Session.run_append]
    rfl
  rw [hrun]
  exact Session.mem_follow_run hafter (Session.endOfInput_mem_follow_apply hedit hstart)

/-- The edits of a session after its only analysis: results get out of date, `epsilon` is handed to
`unify`, and another start symbol is chosen. -/
def editsAfterAnalysis : List Edit := [
  .add ⟨"T", ⟨[.epsilon, .terminal "t", .epsilon], ⟨"sample.bnf", 2⟩⟩⟩,
  .recomputeFirst,
  .unify (.nonterminal "T") (.ofList [epsilonText, "x"]),
  .overrideStart "T" "sample.bnf"]

/-- In the sample session `T` is followed by `x` but not by `epsilon`, and `S` by the end of the
input still. -/
theorem markers_hold_editsAfterAnalysis :
    let before : List Edit := [.add ⟨"S", ⟨[.nonterminal "T"], ⟨"sample.bnf", 1⟩⟩⟩]
    let s := Session.fresh.run (before ++ .analyze :: editsAfterAnalysis)
    Edit.analyze.recomputesFollow = true ∧
    (∀ edit ∈ editsAfterAnalysis, edit.recomputesFollow = false) ∧
    (Session.fresh.run before).grammar.start = some "S" ∧
    endOfInput ∈ s.follow.follow "S" ∧
    "x" ∈ s.follow.follow "T" ∧ epsilonText ∉ s.follow.follow "T" ∧
    epsilonText ∉ (s.first.ofChain [.epsilon, .nonterminal "T"]).terminals := by
  intro before s
  have hafter : ∀ edit ∈ editsAfterAnalysis, edit.recomputesFollow = false := by
    simp [editsAfterAnalysis, Edit.recomputesFollow]
  have hstart : (Session.fresh.run before).grammar.start = some "S" := rfl
  have hx : "x" ∈ s.follow.follow "T" := by decide +kernel
  obtain ⟨-, hfollow, -, hchain, hend⟩ := markers_hold (before ++ .analyze :: editsAfterAnalysis)
  exact ⟨rfl, hafter, hstart, hend before .analyze editsAfterAnalysis "S" rfl rfl hafter hstart, hx,
    hfollow "T", hchain _⟩

end Lookahead
