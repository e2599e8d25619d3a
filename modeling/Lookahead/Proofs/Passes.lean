import Lookahead.Proofs.First.Solution
import Lookahead.Proofs.Follow.Solution
import Lookahead.Proofs.Nullability

/-!
# The number of passes

Each of the three solvers settles, and makes at most one pass more than the grammar has nonterminals
(`passes_le_nonterminals`). A mark is the only thing that nullability adds, so each pass but the
last marks another nonterminal. FIRST and FOLLOW sets can grow more often than that, but the
terminals do not affect each other: the flags stay as they are while the sets grow, so one terminal
spreads from set to set independently of the others, and it reaches another set in each pass until
it is everywhere it can get.
-/

namespace Lookahead

open Grammar

variable {g : Grammar} {ν : Nullability} {a : Alternatives} {o : Occurrence} {t : String}

namespace Nullability

theorem itemwise_visit (a : Alternatives) :
    Itemwise (visit · a) (fun ν name => name ∈ ν.marked) (fun _ => ()) (fun _ => ()) where
  keeps _ := rfl
  agree {ν ν' _} _ hsame := by
    obtain ⟨marked⟩ := ν
    obtain ⟨marked'⟩ := ν'
    obtain rfl : marked = marked' := TextSet.ext fun name => hsame name rfl
    exact fun _ _ => Iff.rfl

theorem settles_solve (g : Grammar) :
    Settles (pass g.alternatives) none (solve g).passes (compute g) :=
  Grows.settles_saturate (.sweep fun a _ => grows_visit a)
    (fun _ => sweep_induction fun _ _ => within_visit)
    (fun _ h => absurd h (TextSet.not_mem_empty _)) (by simp)

theorem passes_solve_le (g : Grammar) : (solve g).passes ≤ g.nonterminals.length + 1 := by
  refine (settles_solve g).passes_le_of_visits (fun _ => g.heads) grows_visit
    itemwise_visit ?_ fun _ => List.length_filter_le _ _
  intro a ha ν name hname
  rcases mem_marked_visit.1 hname with hname | ⟨rfl, -⟩
  · exact .inl hname
  · exact .inr (mem_heads.2 (mem_alternatives.1 ha).1)

end Nullability

namespace FirstSets

variable {f f' : FirstSets}

def flags (f : FirstSets) (name : String) : Option Bool :=
  (f.entries.get? name).map FirstSet.nullable

theorem isNullable_eq_of_flags (h : f.flags = f'.flags) (s : Symbol) :
    f.isNullable s = f'.isNullable s := by
  cases s with
  | terminal text => rfl
  | nonterminal name =>
    have hflag : ∀ f : FirstSets, f.isNullable (.nonterminal name) = (f.flags name).getD false := by
      intro f
      simp only [isNullable, ofSymbol, entry, flags]
      cases f.entries.get? name with
      | none => rfl
      | some first => rfl
    rw [hflag, hflag, h]

theorem mem_ofSequence_congr (hflags : f.flags = f'.flags)
    (hsame : ∀ name, t ∈ f.first name ↔ t ∈ f'.first name) (c : List Symbol) :
    t ∈ (f.ofSequence c).terminals ↔ t ∈ (f'.ofSequence c).terminals := by
  induction c with
  | nil => exact Iff.rfl
  | cons s c ih =>
    have hs : t ∈ (f.ofSymbol s).terminals ↔ t ∈ (f'.ofSymbol s).terminals := by
      cases s with
      | terminal text => exact Iff.rfl
      | nonterminal name => exact hsame name
    rw [mem_ofSequence_cons, mem_ofSequence_cons, hs, isNullable_eq_of_flags hflags, ih]

theorem itemwise_visit (a : Alternatives) : Itemwise (visit · a) Holds Prod.snd flags where
  keeps _ := funext fun _ => flag_visit
  agree {f f' t} hflags hsame := by
    have hfirst : ∀ name, t ∈ f.first name ↔ t ∈ f'.first name := fun name => hsame (name, t) rfl
    have hsome : (f.entries.get? a.head).isSome = (f'.entries.get? a.head).isSome := by
      have h := congrArg Option.isSome (congrFun hflags a.head)
      simpa [flags] using h
    rintro ⟨name, _⟩ rfl
    simp only [Holds, mem_first_visit, mem_gained, hfirst, hsome,
      mem_ofSequence_congr hflags hfirst]

theorem settles_solve (g : Grammar) (ν : Nullability) :
    Settles (pass g.alternatives) (seeded g ν) (solve g ν).passes (compute g ν) :=
  Grows.settles_saturate (.sweep fun a _ => grows_visit a)
    (fun _ => sweep_induction fun _ _ => within_visit)
    (fun _ h => absurd h not_mem_first_seeded) (Nat.lt_succ_of_le (Nat.le_of_eq (length_pool g)))

theorem passes_solve_le (g : Grammar) (ν : Nullability) :
    (solve g ν).passes ≤ g.nonterminals.length + 1 := by
  refine (settles_solve g ν).passes_le_of_visits
    (fun t => g.nonterminals.map fun name => (name, t)) grows_visit itemwise_visit ?_
    fun _ => Nat.le_of_eq (List.length_map _)
  rintro a ha f ⟨name, t⟩ hk
  rcases mem_first_visit.1 hk with hk | ⟨rfl, -⟩
  · exact .inl hk
  · exact .inr (List.mem_map_of_mem (mem_nonterminals_of_isDefined (mem_alternatives.1 ha).1))

end FirstSets

namespace FollowSets

variable {first : FirstSets}

theorem itemwise_visit (first : FirstSets) (o : Occurrence) :
    Itemwise (visit first · o) Holds Prod.snd (fun _ => ()) where
  keeps _ := rfl
  agree {f f' t} _ hsame := by
    have hfollow : ∀ name, t ∈ f.follow name ↔ t ∈ f'.follow name := fun name =>
      hsame (name, t) rfl
    rintro ⟨name, _⟩ rfl
    simp only [Holds, mem_follow_visit, hfollow]

theorem settles_solve (g : Grammar) (first : FirstSets) :
    Settles (pass g.occurrences first) (seeded g).state (solve g first).passes (compute g first) :=
  Grows.settles_saturate (.sweep fun o _ => grows_visit first o)
    (fun _ => sweep_induction fun _ _ => within_visit) (within_seeded g first)
    (Nat.lt_succ_of_le (Nat.le_of_eq (length_pool g first)))

theorem passes_solve_le (g : Grammar) (first : FirstSets) :
    (solve g first).passes ≤ g.nonterminals.length + 1 := by
  refine (settles_solve g first).passes_le_of_visits
    (fun t => g.nonterminals.map fun name => (name, t)) (grows_visit first)
    (itemwise_visit first) ?_ fun _ => Nat.le_of_eq (List.length_map _)
  rintro o ho f ⟨name, t⟩ hk
  rcases mem_follow_visit.1 hk with hk | ⟨hname, -⟩
  · exact .inl hk
  · exact .inr (List.mem_map_of_mem (mem_nonterminals_of_occurrence ho hname))

end FollowSets

/-- The nonterminals of a grammar are listed once each, and one more than their number bounds the
passes of the three solvers, whatever nullability or FIRST sets they are given: repeated without any
limit, the passes settle in the computed result after that many, the last of which changes nothing,
and their number is what the last record of the phase says. -/
theorem passes_le_nonterminals (g : Grammar) :
    g.nonterminals.Nodup ∧
    (∃ passes ≤ g.nonterminals.length + 1,
      Settles (Nullability.pass g.alternatives) .none passes (.compute g) ∧
      ((Nullability.solve g).log .nullability).getLast? =
        some (.settled .nullability passes)) ∧
    (∀ ν, ∃ passes ≤ g.nonterminals.length + 1,
      Settles (FirstSets.pass g.alternatives) (.seeded g ν) passes (.compute g ν) ∧
      ((FirstSets.solve g ν).log .first).getLast? = some (.settled .first passes)) ∧
    (∀ first, ∃ passes ≤ g.nonterminals.length + 1,
      Settles (FollowSets.pass g.occurrences first) (FollowSets.seeded g).state passes
        (.compute g first) ∧
      ((FollowSets.solve g first).log .follow).getLast? = some (.settled .follow passes)) := by
  refine ⟨g.nodup_nonterminals, ?_, fun ν => ?_, fun first => ?_⟩
  · exact ⟨_, Nullability.passes_solve_le g, Nullability.settles_solve g, List.getLast?_concat⟩
  · exact ⟨_, FirstSets.passes_solve_le g ν, FirstSets.settles_solve g ν, List.getLast?_concat⟩
  · exact ⟨_, FollowSets.passes_solve_le g first, FollowSets.settles_solve g first,
      List.getLast?_concat⟩

end Lookahead
