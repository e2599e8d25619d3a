import Lookahead.Proofs.LineFates

/-!
# Requests for a start symbol

Errors come from reading, from dropping left-recursive rules, from looking for undefined
nonterminals and from requests for start symbols without productions, and they are sorted each time
that some are added. Sorting a part beforehand makes no difference, so that after any requests the
errors are those of all four, in this order, sorted once (`Loaded.errors_overrideAll`). A request
that fails inserts one error behind those about the whole file and changes nothing else
(`error_order_and_atomic_overrides`).
-/

namespace Lookahead

open Grammar

variable {loaded : Loaded}

/-- How far loading has come when the error is found. -/
def LoadError.stage : LoadError → Nat
  | malformed _ | unreadable _ => 0
  | leftRecursive _ => 1
  | undefinedNonterminal _ => 2
  | undefinedStart _ => 3

inductive Origin where
  | ruleList (rules : List Rule)
  | file (name : String) (source : Bytes)

/-- A request to make `name` the start symbol; a failure is an error about `file`. -/
structure StartRequest where
  name : String
  file : String
  deriving DecidableEq, Repr

namespace StartRequest

def error (request : StartRequest) : LoadDiagnostic :=
  ⟨.wholeFile request.file, .undefinedStart request.name⟩

end StartRequest

namespace Origin

def reading : Origin → Reading
  | ruleList rules => ⟨rules, []⟩
  | file name source => .ofSource name source

def load : Origin → Loaded
  | ruleList rules => .ofRules rules
  | file name source => .ofSource name source

end Origin

namespace Loaded

def override (loaded : Loaded) (request : StartRequest) : Loaded :=
  loaded.overrideStart request.name request.file

def overrideAll (loaded : Loaded) (requests : List StartRequest) : Loaded :=
  requests.foldl override loaded

/-- The errors of the requests that fail. -/
def failures (loaded : Loaded) (requests : List StartRequest) : List LoadDiagnostic :=
  (requests.filter fun request => loaded.grammar.productions request.name = []).map
    StartRequest.error

theorem grammar_load (origin : Origin) :
    (ofReading origin.reading).grammar = origin.load.grammar := by
  cases origin with
  | ruleList rules => rfl
  | file name source => rfl

theorem errors_load (origin : Origin) :
    origin.load.errors = sortByLine origin.reading.found := by
  cases origin with
  | ruleList rules => rfl
  | file name source => exact errors_ofReading _

theorem override_cases (loaded : Loaded) (request : StartRequest) :
    (∃ g, loaded.grammar.productions request.name ≠ [] ∧ g.rules = loaded.grammar.rules ∧
      g.start = some request.name ∧ loaded.override request = ⟨g, loaded.errors⟩) ∨
    (loaded.grammar.productions request.name = [] ∧
      loaded.override request =
        ⟨loaded.grammar, sortByLine (loaded.errors ++ [request.error])⟩) := by
  cases hdefined : loaded.grammar.isDefined request.name with
  | true =>
    obtain ⟨g, hg⟩ := exists_withStart? hdefined
    have hne : loaded.grammar.productions request.name ≠ [] := fun h =>
      Bool.false_ne_true ((productions_eq_nil_iff.1 h).symm.trans hdefined)
    refine .inl ⟨g, hne, rules_withStart? hg, start_withStart? hg, ?_⟩
    rw [override, overrideStart, hg]
  | false =>
    refine .inr ⟨productions_eq_nil_iff.2 hdefined, ?_⟩
    rw [override, overrideStart, withStart?_eq_none hdefined]
    rfl

theorem overrideStart_of_ne_nil {name : String} (h : loaded.grammar.productions name ≠ [])
    (file : String) :
    ∃ g, loaded.overrideStart name file = ⟨g, loaded.errors⟩ ∧
      g.rules = loaded.grammar.rules ∧ g.start = some name := by
  rcases loaded.override_cases ⟨name, file⟩ with ⟨g, -, hrules, hstart, heq⟩ | ⟨hnil, -⟩
  · exact ⟨g, heq, hrules, hstart⟩
  · exact absurd hnil h

theorem overrideStart_of_eq_nil {name : String} (h : loaded.grammar.productions name = [])
    (hsorted : loaded.errors.Pairwise (·.location.line ≤ ·.location.line)) (file : String) :
    ∃ before after, loaded.errors = before ++ after ∧
      loaded.overrideStart name file =
        ⟨loaded.grammar, before ++ ⟨⟨file, 0⟩, .undefinedStart name⟩ :: after⟩ ∧
      (∀ e ∈ before, e.location.line = 0) ∧ ∀ e ∈ after, 0 < e.location.line := by
  rcases loaded.override_cases ⟨name, file⟩ with ⟨g, hne, -⟩ | ⟨-, heq⟩
  · exact absurd h hne
  · obtain ⟨before, after, hsplit, hinsert, hbefore, hafter⟩ :=
      exists_sortByKey_append_singleton hsorted (StartRequest.error ⟨name, file⟩)
    refine ⟨before, after, hsplit, ?_, fun e he => Nat.le_zero.1 (hbefore e he), hafter⟩
    exact heq.trans (congrArg (Loaded.mk _) hinsert)

theorem rules_override (loaded : Loaded) (request : StartRequest) :
    (loaded.override request).grammar.rules = loaded.grammar.rules := by
  rcases loaded.override_cases request with ⟨g, -, hrules, -, h⟩ | ⟨-, h⟩
  · rw [h, hrules]
  · rw [h]

theorem errors_override (loaded : Loaded) (request : StartRequest) {errors : List LoadDiagnostic}
    (herrors : loaded.errors = sortByLine errors) :
    (loaded.override request).errors = sortByLine (errors ++ loaded.failures [request]) := by
  rcases loaded.override_cases request with ⟨g, hne, -, -, h⟩ | ⟨hnil, h⟩
  · rw [h, failures, List.filter_cons_of_neg (by simpa using hne)]
    simpa using herrors
  · rw [h, failures, List.filter_cons_of_pos (by simpa using hnil), herrors]
    exact sortByKey_sortByKey_append _ _ _

theorem failures_append (loaded : Loaded) (requests requests' : List StartRequest) :
    loaded.failures (requests ++ requests') =
      loaded.failures requests ++ loaded.failures requests' := by
  rw [failures, List.filter_append, List.map_append]
  rfl

theorem failures_override (loaded : Loaded) (request : StartRequest)
    (requests : List StartRequest) :
    (loaded.override request).failures requests = loaded.failures requests := by
  have hproductions (name : String) :
      (loaded.override request).grammar.productions name = loaded.grammar.productions name := by
    rw [productions, rulesOf, rules_override]
    rfl
  refine congrArg _ (List.filter_congr fun r _ => ?_)
  rw [hproductions]

theorem rules_overrideAll (loaded : Loaded) (requests : List StartRequest) :
    (loaded.overrideAll requests).grammar.rules = loaded.grammar.rules := by
  induction requests generalizing loaded with
  | nil => rfl
  | cons request requests ih => exact (ih _).trans (rules_override loaded request)

/-- The errors are as if they had been sorted once. -/
theorem errors_overrideAll (loaded : Loaded) (requests : List StartRequest)
    {errors : List LoadDiagnostic} (herrors : loaded.errors = sortByLine errors) :
    (loaded.overrideAll requests).errors = sortByLine (errors ++ loaded.failures requests) := by
  induction requests generalizing loaded errors with
  | nil => exact herrors.trans (congrArg _ (List.append_nil errors).symm)
  | cons request requests ih =>
    -- The invariant is the list before sorting, to which each failure is appended.
    have hstep := ih (loaded.override request) (errors_override loaded request herrors)
    rw [failures_override, List.append_assoc, ← failures_append] at hstep
    exact hstep

end Loaded

/-! ## Stages -/

/-- The errors are in order of stage, and all from before stage `k`. -/
structure StagedBelow (k : Nat) (errors : List LoadDiagnostic) : Prop where
  ordered : errors.Pairwise (·.kind.stage ≤ ·.kind.stage)
  below : ∀ e ∈ errors, e.kind.stage < k

theorem StagedBelow.append {k : Nat} {errors next : List LoadDiagnostic}
    (h : StagedBelow k errors) (hnext : ∀ e ∈ next, e.kind.stage = k) :
    StagedBelow (k + 1) (errors ++ next) where
  ordered := by
    refine List.pairwise_append.2 ⟨h.ordered, ?_, fun a ha b hb => ?_⟩
    · exact List.pairwise_of_forall_mem_list fun a ha b hb =>
        Nat.le_of_eq ((hnext a ha).trans (hnext b hb).symm)
    · rw [hnext b hb]
      exact Nat.le_of_lt (h.below a ha)
  below e he := by
    rcases List.mem_append.1 he with he | he
    · exact Nat.lt_succ_of_lt (h.below e he)
    · rw [hnext e he]
      exact Nat.lt_succ_self k

theorem stagedBelow_reading (origin : Origin) : StagedBelow 1 origin.reading.errors := by
  have hnone : StagedBelow 0 [] := ⟨.nil, nofun⟩
  refine hnone.append fun e he => ?_
  cases origin with
  | ruleList rules => cases he
  | file name source =>
    rcases Reading.kind_of_mem_errors he with hkind | ⟨fault, hkind⟩ <;> rw [hkind] <;> rfl

theorem stagedBelow_found (origin : Origin) (requests : List StartRequest) :
    StagedBelow 4 (origin.reading.found ++ origin.load.failures requests) := by
  refine (((stagedBelow_reading origin).append fun e he => ?_).append fun e he => ?_).append
    fun e he => ?_
  · obtain ⟨rule, -, rfl⟩ := List.mem_map.1 he
    rfl
  · obtain ⟨⟨name, hkind⟩, -⟩ := exists_rule_of_mem_undefinedErrors he
    rw [hkind]
    rfl
  · obtain ⟨request, -, rfl⟩ := List.mem_map.1 he
    rfl

/-- The errors are in ascending order of line. At each line they are those of reading, those of
left-recursive rules in the order of the rules, those of undefined nonterminals and those of failed
requests in the order of the requests. The rules stay. A request for a name with productions changes
the start symbol only. Any other request leaves the grammar and inserts one error, behind the others
about the whole file and before those about a line. -/
theorem error_order_and_atomic_overrides (origin : Origin) (requests : List StartRequest) :
    let loaded := origin.load.overrideAll requests
    loaded.errors.Pairwise (·.location.line ≤ ·.location.line) ∧
    (∀ line, loaded.errorsAt line =
      (origin.reading.errors ++
        (origin.reading.rules.filter (·.isLeftRecursive)).map Loaded.leftRecursionError ++
        origin.load.grammar.undefinedErrors ++
        (requests.filter fun request => origin.load.grammar.productions request.name = []).map
          StartRequest.error).filter (·.location.line = line)) ∧
    loaded.errors.Pairwise
      (fun a b => a.location.line = b.location.line → a.kind.stage ≤ b.kind.stage) ∧
    loaded.grammar.rules = origin.load.grammar.rules ∧
    ∀ name file,
      (loaded.grammar.productions name ≠ [] → ∃ g,
        loaded.overrideStart name file = ⟨g, loaded.errors⟩ ∧
        g.rules = loaded.grammar.rules ∧ g.start = some name) ∧
      (loaded.grammar.productions name = [] → ∃ before after,
        loaded.errors = before ++ after ∧
        loaded.overrideStart name file =
          ⟨loaded.grammar, before ++ ⟨⟨file, 0⟩, .undefinedStart name⟩ :: after⟩ ∧
        (∀ e ∈ before, e.location.line = 0) ∧ ∀ e ∈ after, 0 < e.location.line) := by
  intro loaded
  have herrors :
      loaded.errors = sortByLine (origin.reading.found ++ origin.load.failures requests) :=
    origin.load.errors_overrideAll requests (Loaded.errors_load origin)
  have hsorted : loaded.errors.Pairwise (·.location.line ≤ ·.location.line) := by
    rw [herrors]
    exact pairwise_sortByKey _ _
  refine ⟨hsorted, fun line => ?_, ?_, origin.load.rules_overrideAll requests,
    fun name file => ?_⟩
  · rw [Loaded.errorsAt, herrors, Reading.found, Loaded.grammar_load]
    exact filter_sortByKey _ _ _
  · rw [herrors]
    exact pairwise_sortByKey_of_pairwise (stagedBelow_found origin requests).ordered
  · exact ⟨fun hne => Loaded.overrideStart_of_ne_nil hne file,
      fun hnil => Loaded.overrideStart_of_eq_nil hnil hsorted file⟩

/-- Rules of one line and a rule without a line; the second one is left-recursive, and `A`, `B` and
`C` are undefined. -/
def sharedLines : Origin := .ruleList [
  ⟨"S", ⟨[.nonterminal "A", .nonterminal "B"], ⟨"sample", 2⟩⟩⟩,
  ⟨"S", ⟨[.nonterminal "S"], ⟨"sample", 2⟩⟩⟩,
  ⟨"T", ⟨[.nonterminal "C"], ⟨"sample", 0⟩⟩⟩]

/-- After two failed requests and one that succeeds in between, a request for `S` succeeds and one
for `B` fails. -/
theorem error_order_and_atomic_overrides_sharedLines :
    let loaded := sharedLines.load.overrideAll [⟨"X", "one"⟩, ⟨"T", "two"⟩, ⟨"A", "three"⟩]
    loaded.errors = [
      ⟨⟨"sample", 0⟩, .undefinedNonterminal "C"⟩, ⟨⟨"one", 0⟩, .undefinedStart "X"⟩,
      ⟨⟨"three", 0⟩, .undefinedStart "A"⟩, ⟨⟨"sample", 2⟩, .leftRecursive "S"⟩,
      ⟨⟨"sample", 2⟩, .undefinedNonterminal "A"⟩, ⟨⟨"sample", 2⟩, .undefinedNonterminal "B"⟩] ∧
    loaded.errors.Pairwise (·.location.line ≤ ·.location.line) ∧
    loaded.grammar.productions "S" ≠ [] ∧
    (∃ g, loaded.overrideStart "S" "four" = ⟨g, loaded.errors⟩ ∧
      g.rules = loaded.grammar.rules ∧ g.start = some "S") ∧
    loaded.grammar.productions "B" = [] ∧
    ∃ before after, loaded.errors = before ++ after ∧
      loaded.overrideStart "B" "five" =
        ⟨loaded.grammar, before ++ ⟨⟨"five", 0⟩, .undefinedStart "B"⟩ :: after⟩ ∧
      (∀ e ∈ before, e.location.line = 0) ∧ ∀ e ∈ after, 0 < e.location.line := by
  intro loaded
  obtain ⟨hsorted, -, -, -, hrequest⟩ := error_order_and_atomic_overrides sharedLines
    [⟨"X", "one"⟩, ⟨"T", "two"⟩, ⟨"A", "three"⟩]
  have hne : loaded.grammar.productions "S" ≠ [] := by decide +kernel
  have hnil : loaded.grammar.productions "B" = [] := by decide +kernel
  exact ⟨by decide +kernel, hsorted, hne, (hrequest "S" "four").1 hne, hnil,
    (hrequest "B" "five").2 hnil⟩

end Lookahead
