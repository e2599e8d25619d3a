import Lookahead.Analysis
import Lookahead.Proofs.First.Solution
import Lookahead.Proofs.Follow.Solution
import Lookahead.Proofs.Nullability

/-!
# The log of an analysis

Every change of a set is recorded when it is made, so the records of a phase can be read as the
changes that lead from its first state to its last one. `Tells` says this of any part of a phase:
the values that the records show for a name go up from what it had before to what it has after. It
holds of a visit, and of work done one after the other (`Tells.append`), so of passes and of the
whole phase. In the log of an analysis the values shown end in the result (`log_replays_result`).
-/

namespace Lookahead

open Grammar

variable {σ β : Type}

/-! ## Values that go up -/

/-- From one value to another one, each value above the one before. -/
inductive Climbs (above : β → β → Prop) : β → List β → β → Prop where
  | done (b : β) : Climbs above b [] b
  | up {b c d : β} {values : List β} : above b c → Climbs above c values d →
      Climbs above b (c :: values) d

namespace Climbs

variable {above : β → β → Prop} {b c d : β} {values values' : List β}

theorem append (h : Climbs above b values c) (h' : Climbs above c values' d) :
    Climbs above b (values ++ values') d := by
  induction h with
  | done => exact h'
  | up hup _ ih => exact .up hup (ih h')

theorem single (h : above b c) : Climbs above b [c] c := .up h (.done c)

theorem getLast?_getD (h : Climbs above b values c) : values.getLast?.getD b = c := by
  induction h with
  | done => rfl
  | @up b c d values _ _ ih =>
    cases values with
    | nil => exact ih
    | cons v values => simpa [List.getLast?_cons_cons, List.getLast?_cons] using ih

theorem pairwise_cons (htrans : ∀ a b c, above a b → above b c → above a c)
    (h : Climbs above b values c) : (b :: values).Pairwise above := by
  induction h with
  | done b => exact List.pairwise_singleton _ b
  | up hup _ ih =>
    refine List.pairwise_cons.2 ⟨fun v hv => ?_, ih⟩
    rcases List.mem_cons.1 hv with rfl | hv
    · exact hup
    · exact htrans _ _ _ hup ((List.pairwise_cons.1 ih).1 v hv)

end Climbs

theorem Climbs.eq_ite {flags : List Bool} {flag : Bool} (h : Climbs (· < ·) false flags flag) :
    flags = if flag = true then [true] else [] := by
  cases h with
  | done => rfl
  | @up _ c _ _ hup hrest =>
    obtain rfl : c = true := by revert hup; cases c <;> decide
    cases hrest with
    | done => rfl
    | @up _ c _ _ hup => exact absurd hup (by cases c <;> decide)

/-- The sets strictly increase, the last one is the final one, and there are none exactly if the
final one is empty. -/
structure Replays (shown : List TextSet) (final : TextSet) : Prop where
  increasing : shown.Pairwise (· ⊂ ·)
  last : shown.getLast?.getD ∅ = final
  silent : shown = [] ↔ final = ∅

theorem Climbs.replays {shown : List TextSet} {final : TextSet}
    (h : Climbs (· ⊂ ·) ∅ shown final) : Replays shown final := by
  have htrans : ∀ s t u : TextSet, s ⊂ t → t ⊂ u → s ⊂ u := fun _ _ _ => TextSet.ssubset_trans
  have hpairwise := h.pairwise_cons htrans
  have hlast := h.getLast?_getD
  refine ⟨(List.pairwise_cons.1 hpairwise).2, hlast, fun hnil => ?_, fun hempty => ?_⟩
  · rw [← hlast, hnil]
    rfl
  · -- A last set that is empty would be above the empty set.
    refine List.getLast?_eq_none_iff.1 (Option.eq_none_iff_forall_ne_some.2 fun s hs => ?_)
    have habove : ∅ ⊂ s := (List.pairwise_cons.1 hpairwise).1 s (List.mem_of_getLast? hs)
    rw [hs, Option.getD_some, hempty] at hlast
    exact TextSet.not_ssubset_empty ∅ (hlast ▸ habove)

/-! ## The records of a phase -/

namespace Record

def phase? : Record → Option Phase
  | nullable .. => some .nullability
  | firstGrew .. => some .first
  | followGrew .. => some .follow
  | settled phase _ => some phase
  | loaded .. | analyzed .. => none

/-- Whether a record is of a change in one of the sets of a phase. -/
def isChange (phase : Phase) (r : Record) : Bool := r.level = .trace ∧ r.phase? = some phase

/-- The set of a nonterminal that a record shows. -/
def shows? (name : String) : Record → Option TextSet
  | firstGrew n terminals | followGrew n terminals => if n = name then some terminals else none
  | _ => none

def marks? (name : String) (r : Record) : Option Bool :=
  if r = nullable name then some true else none

end Record

/-- All records are of changes in a phase, and the values they show for each name lead from what it
had before to what it has after. -/
structure Tells (phase : Phase) (shows? : String → Record → Option β) (above : β → β → Prop)
    (view : σ → String → β) (s : σ) (records : List Record) (s' : σ) : Prop where
  changes : ∀ r ∈ records, r.isChange phase = true
  climbs : ∀ name, Climbs above (view s name) (records.filterMap (shows? name)) (view s' name)

namespace Tells

variable {phase : Phase} {shows? : String → Record → Option β} {above : β → β → Prop}
  {view : σ → String → β} {s s' s'' : σ} {records records' : List Record}

theorem nil : Tells phase shows? above view s [] s := ⟨nofun, fun _ => .done _⟩

theorem append (h : Tells phase shows? above view s records s')
    (h' : Tells phase shows? above view s' records' s'') :
    Tells phase shows? above view s (records ++ records') s'' :=
  ⟨List.forall_mem_append.2 ⟨h.changes, h'.changes⟩, fun name =>
    List.filterMap_append ▸ (h.climbs name).append (h'.climbs name)⟩

theorem accrues : Accrues (Tells phase shows? above view) := ⟨fun _ => .nil, .append⟩

/-- One record, of the only name whose value is another one afterwards. -/
theorem single {r : Record} {n : String} (hchange : r.isChange phase = true)
    (hself : shows? n r = some (view s' n)) (habove : above (view s n) (view s' n))
    (hother : ∀ name, n ≠ name → shows? name r = none ∧ view s' name = view s name) :
    Tells phase shows? above view s [r] s' := by
  refine ⟨fun r' hr' => List.mem_singleton.1 hr' ▸ hchange, fun name => ?_⟩
  by_cases hname : n = name
  · subst hname
    simpa [hself] using Climbs.single habove
  · obtain ⟨hnone, hsame⟩ := hother name hname
    simpa [hnone, hsame] using Climbs.done (view s name)

end Tells

namespace Nullability

abbrev Told (ν : Nullability) (records : List Record) (ν' : Nullability) : Prop :=
  Tells .nullability Record.marks? (· < ·) (fun ν name => decide (name ∈ ν.marked)) ν records ν'

theorem told_visit (ν : Nullability) (a : Alternatives) :
    Told ν (ν.visit a).records (ν.visit a).state := by
  unfold visit
  split
  · exact .nil
  · split
    · rename_i hmarked _
      have hlt : false < true := by decide
      refine .single rfl (n := a.head) ?_ ?_ fun name hname => ⟨?_, ?_⟩
      · simp [Record.marks?]
      · simp [hmarked, hlt]
      · simp [Record.marks?, hname]
      · simp [Ne.symm hname]
    · exact .nil

theorem told_solve (g : Grammar) : Told none (solve g).records (compute g) :=
  Tells.accrues.saturate (fun ν => Tells.accrues.sweep told_visit ν) _ _

end Nullability

namespace FirstSets

abbrev Told (f : FirstSets) (records : List Record) (f' : FirstSets) : Prop :=
  Tells .first Record.shows? (· ⊂ ·) first f records f'

theorem told_visit (f : FirstSets) (a : Alternatives) :
    Told f (f.visit a).records (f.visit a).state := by
  rcases f.visit_cases a with ⟨hvisit, -⟩ | ⟨old, hget, hne, hvisit⟩
  · rw [hvisit]
    exact .nil
  · rw [hvisit]
    refine .single rfl (n := a.head) ?_ ?_ fun name hname => ⟨?_, ?_⟩
    · simp [Record.shows?, first, entry, NameMap.get?_put]
    · simpa [first, entry, NameMap.get?_put, hget] using TextSet.ssubset_union hne
    · simp [Record.shows?, hname]
    · simp [first, entry, NameMap.get?_put, Ne.symm hname]

theorem told_solve (g : Grammar) (ν : Nullability) :
    Told (seeded g ν) (solve g ν).records (compute g ν) :=
  Tells.accrues.saturate (fun f => Tells.accrues.sweep told_visit f) _ _

theorem first_seeded (g : Grammar) (ν : Nullability) (name : String) :
    (seeded g ν).first name = ∅ :=
  TextSet.eq_empty_of_forall_not_mem fun _ => not_mem_first_seeded

end FirstSets

namespace FollowSets

variable {first : FirstSets}

abbrev Told (f : FollowSets) (records : List Record) (f' : FollowSets) : Prop :=
  Tells .follow Record.shows? (· ⊂ ·) follow f records f'

theorem told_unify (f : FollowSets) (s : Symbol) (additional : TextSet) :
    Told f (f.unify s additional).records (f.unify s additional).state := by
  rcases f.unify_cases s additional with ⟨hunify, -⟩ | ⟨n, -, hne, hunify⟩
  · rw [hunify]
    exact .nil
  · rw [hunify]
    refine .single rfl (n := n) ?_ ?_ fun name hname => ⟨?_, ?_⟩
    · simp [Record.shows?, follow, NameMap.get?_put]
    · simpa [follow, NameMap.get?_put] using TextSet.ssubset_union hne
    · simp [Record.shows?, hname]
    · simp [follow, NameMap.get?_put, Ne.symm hname]

theorem told_visit (f : FollowSets) (o : Occurrence) :
    Told f (visit first f o).records (visit first f o).state := by
  rw [visit_eq]
  split
  · exact (told_unify ..).append (told_unify ..)
  · exact told_unify ..

def unseeded (g : Grammar) : FollowSets := ⟨.ofNames g.nonterminals fun _ => ∅⟩

theorem follow_unseeded (g : Grammar) (name : String) : (unseeded g).follow name = ∅ :=
  TextSet.eq_empty_of_forall_not_mem fun _ => not_mem_follow_unseeded

theorem told_seeded (g : Grammar) : Told (unseeded g) (seeded g).records (seeded g).state := by
  unfold seeded
  cases g.start with
  | none => exact .nil
  | some start => exact told_unify ..

theorem told_solve (g : Grammar) (first : FirstSets) :
    Told (unseeded g) (solve g first).records (compute g first) :=
  (told_seeded g).append (Tells.accrues.saturate (fun f => Tells.accrues.sweep told_visit f) _ _)

theorem records_seeded (g : Grammar) :
    (seeded g).records = g.start.toList.map (.followGrew · (.singleton endOfInput)) := by
  unfold seeded
  cases g.start with
  | none => rfl
  | some start =>
    have hempty := follow_unseeded g start
    unfold unseeded at hempty
    simp only [unify, hempty]
    rfl

end FollowSets

/-! ## The records of an analysis -/

namespace Analysis

/-- The records of the changes that one phase made. -/
def changes (a : Analysis) (phase : Phase) : List Record :=
  a.records.filter (Record.isChange phase)

/-- The sets that a phase shows for a nonterminal, one after the other. -/
def shown (a : Analysis) (phase : Phase) (name : String) : List TextSet :=
  (a.changes phase).filterMap (Record.shows? name)

end Analysis

/-- The changes in the log of a phase are those of that phase alone. -/
theorem Tells.filter_log {phase : Phase} {shows? : String → Record → Option β}
    {above : β → β → Prop} {view : σ → String → β} {s : σ} {settled : Settled σ}
    (h : Tells phase shows? above view s settled.records settled.state) (other : Phase) :
    (settled.log phase).filter (Record.isChange other) =
      if phase = other then settled.records else [] := by
  have hclosing : [Record.settled phase settled.passes].filter (Record.isChange other) = [] := rfl
  rw [Settled.log, List.filter_append, hclosing, List.append_nil]
  split
  · rename_i heq
    exact List.filter_eq_self.2 (heq ▸ h.changes)
  · rename_i hne
    refine List.filter_eq_nil_iff.2 fun r hr hother => hne ?_
    have hr := h.changes r hr
    simp only [Record.isChange, decide_eq_true_eq] at hr hother
    exact Option.some.inj (hr.2.symm.trans hother.2)

namespace Analysis

variable (g : Grammar)

theorem records_analyze :
    (analyze g).records =
      (Nullability.solve g).log .nullability ++ (FirstSets.solve g (.compute g)).log .first ++
        (FollowSets.solve g (.compute g (.compute g))).log .follow ++
        [.analyzed g.nonterminals.length (Nullability.compute g).size] := rfl

theorem changes_analyze (phase : Phase) :
    (analyze g).changes phase =
      (if .nullability = phase then (Nullability.solve g).records else []) ++
        (if .first = phase then (FirstSets.solve g (.compute g)).records else []) ++
        (if .follow = phase then (FollowSets.solve g (.compute g (.compute g))).records
          else []) := by
  rw [changes, records_analyze, List.filter_append, List.filter_append, List.filter_append,
    (Nullability.told_solve g).filter_log, (FirstSets.told_solve g (.compute g)).filter_log,
    (FollowSets.told_solve g (.compute g (.compute g))).filter_log]
  exact List.append_nil _

theorem changes_nullability :
    (analyze g).changes .nullability = (Nullability.solve g).records := by
  simp [changes_analyze]

theorem changes_first :
    (analyze g).changes .first = (FirstSets.solve g (.compute g)).records := by
  simp [changes_analyze]

theorem changes_follow :
    (analyze g).changes .follow = (FollowSets.solve g (.compute g (.compute g))).records := by
  simp [changes_analyze]

def passes (g : Grammar) : Phase → Nat
  | .nullability => (Nullability.solve g).passes
  | .first => (FirstSets.solve g (.compute g)).passes
  | .follow => (FollowSets.solve g (.compute g (.compute g))).passes

theorem filter_debug_changes (a : Analysis) (phase : Phase) :
    (a.changes phase).filter (fun r => r.level = .debug) = [] := by
  refine List.filter_eq_nil_iff.2 fun r hr hdebug => ?_
  have hchange := (List.mem_filter.1 hr).2
  simp only [Record.isChange, decide_eq_true_eq] at hchange hdebug
  exact absurd (hchange.1.symm.trans hdebug) (by decide)

theorem isNullable_analyze {name : String} :
    (analyze g).isNullable name = true ↔ g.Derives [.nonterminal name] [] :=
  Nullability.isNullable_nonterminal.trans Nullability.mem_marked_iff

open Classical in
theorem size_nullability :
    (Nullability.compute g).size = g.nonterminals.countP (analyze g).isNullable := by
  rw [Nullability.size, TextSet.size, (Nullability.perm_toList_marked g).length_eq,
    List.countP_eq_length_filter]
  refine congrArg List.length (List.filter_congr fun name _ => ?_)
  rw [Bool.eq_iff_iff, decide_eq_true_iff, isNullable_analyze]

theorem records_eq_phases :
    (analyze g).records =
      ([.nullability, .first, .follow].flatMap fun phase =>
        (analyze g).changes phase ++ [.settled phase (passes g phase)]) ++
      [.analyzed g.nonterminals.length (g.nonterminals.countP (analyze g).isNullable)] := by
  rw [← size_nullability, records_analyze]
  simp [Settled.log, changes_nullability, changes_first, changes_follow, passes]

end Analysis

theorem count_nullable (name : String) (records : List Record) :
    records.count (.nullable name) = (records.filterMap (Record.marks? name)).length := by
  rw [List.length_filterMap_eq_countP, List.count]
  refine List.countP_congr fun r _ => ?_
  by_cases hr : r = .nullable name <;> simp [Record.marks?, hr]

/-- The log of an analysis replays its result. Each nullable nonterminal is recorded once, and no
other name is. The sets recorded for a name in the FIRST phase, and those in the FOLLOW phase, which
starts with the end of the input after the start symbol, strictly increase up to the result, and
none are recorded if that is empty. The changes of the three phases come one phase after the other,
each phase closed by its record of the passes, the only ones for debugging. The last record counts
the nonterminals, which are listed once each, and the nullable ones. -/
theorem log_replays_result (g : Grammar) :
    (∀ name, (analyze g).records.count (.nullable name) =
      if (analyze g).isNullable name = true then 1 else 0) ∧
    (∀ name, Replays ((analyze g).shown .first name) ((analyze g).first.first name)) ∧
    (∀ name, Replays ((analyze g).shown .follow name) ((analyze g).follow.follow name)) ∧
    g.start.toList.map (.followGrew · (.singleton endOfInput)) <+: (analyze g).changes .follow ∧
    g.nonterminals.Nodup ∧
    ∃ passes : Phase → Nat,
      (analyze g).records =
        ([.nullability, .first, .follow].flatMap fun phase =>
          (analyze g).changes phase ++ [.settled phase (passes phase)]) ++
        [.analyzed g.nonterminals.length (g.nonterminals.countP (analyze g).isNullable)] ∧
      (analyze g).records.filter (·.level = .debug) =
        [.nullability, .first, .follow].map fun phase => .settled phase (passes phase) := by
  have hν := Nullability.told_solve g
  have hfirst := FirstSets.told_solve g (.compute g)
  have hfollow := FollowSets.told_solve g (.compute g (.compute g))
  refine ⟨fun name => ?_, fun name => ?_, fun name => ?_, ?_, g.nodup_nonterminals, ?_⟩
  · have hflags := Climbs.eq_ite (hν.climbs name)
    rw [← List.count_filter (p := Record.isChange .nullability) rfl, ← Analysis.changes,
      Analysis.changes_nullability, count_nullable, hflags]
    change List.length (if (analyze g).isNullable name = true then [true] else []) = _
    split <;> rfl
  · rw [Analysis.shown, Analysis.changes_first]
    exact (FirstSets.first_seeded g _ name ▸ hfirst.climbs name).replays
  · rw [Analysis.shown, Analysis.changes_follow]
    exact (FollowSets.follow_unseeded g name ▸ hfollow.climbs name).replays
  · rw [Analysis.changes_follow, ← FollowSets.records_seeded]
    exact List.prefix_append _ _
  · have hrecords := Analysis.records_eq_phases g
    refine ⟨Analysis.passes g, hrecords, ?_⟩
    have hsettled : ∀ phase n, (Record.settled phase n).level = .debug := fun _ _ => rfl
    have hanalyzed : ∀ m n, (Record.analyzed m n).level = .info := fun _ _ => rfl
    rw [hrecords]
    simp [Analysis.filter_debug_changes, hsettled, hanalyzed]

end Lookahead
