import Lookahead.Proofs.First.Solution
import Lookahead.Proofs.Follow.Solution
import Lookahead.Proofs.Nullability

/-!
# What a pass reports

Passes are repeated as long as they say that they changed something, so that everything rests on
what they say. What a visit says rests on the size of a set before and after it, and a pass puts
together what its visits say. From any state, also one that was computed for another grammar, a pass
only adds to the sets of the state, and it says that it changed something exactly if one of them is
another one afterwards (`passes_report_growth`).
-/

namespace Lookahead

variable {σ : Type}

/-- A sweep of growing visits keeps what each set holds, and says that it changed something exactly
if the set of some name is another one afterwards. -/
theorem Grows.report {work : σ → Step σ} {view : σ → String → TextSet}
    (h : Grows work fun s (k : String × String) => k.2 ∈ view s k.1) (s : σ) :
    (∀ name, view s name ⊆ view (work s).state name) ∧
    ((work s).changed = true ↔ ∃ name, view (work s).state name ≠ view s name) := by
  have hkeeps (name : String) : view s name ⊆ view (work s).state name := fun t ht =>
    h.keeps (k := (name, t)) ht
  refine ⟨hkeeps, h.changed_iff.trans ?_⟩
  simp only [TextSet.ne_iff_of_subset (hkeeps _), Prod.exists]

namespace Nullability

theorem grows_pass (alternatives : List Alternatives) :
    Grows (pass alternatives) fun ν name => name ∈ ν.marked :=
  .sweep fun a _ => grows_visit a

end Nullability

namespace FirstSets

variable {f : FirstSets} {alternatives : List Alternatives}

theorem grows_pass (alternatives : List Alternatives) : Grows (pass alternatives) Holds :=
  .sweep fun a _ => grows_visit a

theorem flag_pass (name : String) :
    ((pass alternatives f).state.entries.get? name).map FirstSet.nullable =
      (f.entries.get? name).map FirstSet.nullable :=
  sweep_induction (P := fun f' : FirstSets => (f'.entries.get? name).map FirstSet.nullable =
    (f.entries.get? name).map FirstSet.nullable) (fun _ _ _ hf' => flag_visit.trans hf') rfl

end FirstSets

namespace FollowSets

variable {f : FollowSets} {name other : String} {additional : TextSet}

theorem grows_pass (occurrences : List Occurrence) (first : FirstSets) :
    Grows (pass occurrences first) Holds :=
  .sweep fun o _ => grows_visit first o

theorem follow_unify :
    (f.unify (.nonterminal name) additional).state.follow name =
      f.follow name ∪ additional.erase epsilonText := by
  refine TextSet.ext fun t => ?_
  simp [mem_follow_unify]

theorem follow_unify_of_ne (hother : other ≠ name) :
    (f.unify (.nonterminal name) additional).state.follow other = f.follow other := by
  refine TextSet.ext fun t => ?_
  simp [mem_follow_unify, hother.symm]

theorem changed_unify :
    (f.unify (.nonterminal name) additional).changed = true ↔
      (f.unify (.nonterminal name) additional).state.follow name ≠ f.follow name := by
  have hreport := (grows_unify (.nonterminal name) fun _ => additional).report f
  refine hreport.2.trans ⟨?_, fun h => ⟨name, h⟩⟩
  rintro ⟨other, hne⟩
  by_cases hother : other = name
  · exact hother ▸ hne
  · exact absurd (follow_unify_of_ne hother) hne

end FollowSets

/-- From any state, a pass of nullability, of the FIRST sets or of the FOLLOW sets only adds to the
marks or sets, leaves the flags of the FIRST sets as they are, and says that it changed something
exactly if the marks or some set are others afterwards. Uniting terminals with what follows a
nonterminal makes this the old set and all of the terminals but `epsilon`, leaves every other set
alone, and says whether the set changed; for a terminal nothing is done. -/
theorem passes_report_growth (g : Grammar) :
    (∀ ν : Nullability,
      let step := ν.pass g.alternatives
      ν.marked ⊆ step.state.marked ∧ (step.changed = true ↔ step.state.marked ≠ ν.marked)) ∧
    (∀ f : FirstSets,
      let step := f.pass g.alternatives
      (∀ name, f.first name ⊆ step.state.first name) ∧
      (∀ name, (step.state.entries.get? name).map FirstSet.nullable =
        (f.entries.get? name).map FirstSet.nullable) ∧
      (step.changed = true ↔ ∃ name, step.state.first name ≠ f.first name)) ∧
    (∀ (first : FirstSets) (f : FollowSets),
      let step := f.pass g.occurrences first
      (∀ name, f.follow name ⊆ step.state.follow name) ∧
      (step.changed = true ↔ ∃ name, step.state.follow name ≠ f.follow name)) ∧
    (∀ (f : FollowSets) (name : String) (additional : TextSet),
      let step := f.unify (.nonterminal name) additional
      step.state.follow name = f.follow name ∪ additional.erase epsilonText ∧
      (∀ other, other ≠ name → step.state.follow other = f.follow other) ∧
      (step.changed = true ↔ step.state.follow name ≠ f.follow name)) ∧
    ∀ (f : FollowSets) (text : String) (additional : TextSet),
      (f.unify (.terminal text) additional).state = f ∧
      (f.unify (.terminal text) additional).changed = false := by
  refine ⟨fun ν => ?_, fun f => ?_, fun first f => ?_, fun f name additional => ?_,
    fun f text additional => ⟨rfl, rfl⟩⟩
  · have hgrows := Nullability.grows_pass g.alternatives
    have hkeeps : ν.marked ⊆ (ν.pass g.alternatives).state.marked := fun _ => hgrows.keeps
    exact ⟨hkeeps, hgrows.changed_iff.trans (TextSet.ne_iff_of_subset hkeeps).symm⟩
  · obtain ⟨hkeeps, hchanged⟩ := (FirstSets.grows_pass g.alternatives).report f
    exact ⟨hkeeps, FirstSets.flag_pass, hchanged⟩
  · exact (FollowSets.grows_pass g.occurrences first).report f
  · exact ⟨FollowSets.follow_unify, fun _ => FollowSets.follow_unify_of_ne,
      FollowSets.changed_unify⟩

def plainLead : Grammar :=
  .ofRules [⟨"S", .canonical [.nonterminal "T", .terminal "t"] ⟨"sample.bnf", 1⟩⟩]

/-- FOLLOW sets of some other grammar, in which `S` is unknown and `epsilon` got into a set. -/
def foreignFollow : FollowSets := ⟨[("T", .ofList [epsilonText]), ("U", .ofList ["u"])]⟩

/-- A pass over the sample grammar from the foreign sets changes the set of `T`, and uniting it with
`epsilon` and `t` does so, too, and leaves that of `U` alone. -/
theorem passes_report_growth_foreignFollow :
    let step := foreignFollow.pass plainLead.occurrences .none
    let united := foreignFollow.unify (.nonterminal "T") (.ofList [epsilonText, "t"])
    step.changed = true ∧ (∃ name, step.state.follow name ≠ foreignFollow.follow name) ∧
    epsilonText ∈ step.state.follow "T" ∧
    "U" ≠ "T" ∧ united.state.follow "U" = foreignFollow.follow "U" ∧ united.changed = true := by
  intro step united
  obtain ⟨-, -, hfollow, hunify, -⟩ := passes_report_growth plainLead
  obtain ⟨hkeeps, hchanged⟩ := hfollow .none foreignFollow
  obtain ⟨hunited, hother, hsays⟩ := hunify foreignFollow "T" (.ofList [epsilonText, "t"])
  have hstep : step.changed = true := by decide +kernel
  have hne : "U" ≠ "T" := by decide
  refine ⟨hstep, hchanged.1 hstep, hkeeps "T" _ (by decide), hne, hother "U" hne, hsays.2 ?_⟩
  rw [hunited]
  decide +kernel

end Lookahead
