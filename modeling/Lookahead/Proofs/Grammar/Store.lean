import Lookahead.Proofs.Grammar.Contents
import Lookahead.Proofs.Grammar.History
import Mathlib.Data.List.Induction
import Mathlib.Data.List.Nodup

/-!
# Stored grammars and their history

The three parts of a stored grammar are updated separately, and agree all the same. A store that has
the start symbol, the nonterminals and the productions of a grammar (`GrammarStore.Stores`) gives
the same answers as the grammar, and still does after both have made the same change
(`GrammarStore.Stores.change`), hence after the same run. So what a store says is fixed by the calls
that were made (`GrammarStore.run_represents_history`): its nonterminals are the names that the
added rules mention, its productions are those that were added, and its start symbol is the last one
that was chosen, else the first head.
-/

namespace Lookahead

/-! ## Order of first appearance -/

/-- The names of some mentions, each once and in the order of their first appearance. -/
structure FirstAppearances (names mentions : List String) : Prop where
  nodup : names.Nodup
  mem_iff (name : String) : name ∈ names ↔ name ∈ mentions
  ordered : names.Pairwise (mentions.idxOf · < mentions.idxOf ·)

namespace FirstAppearances

variable {names mentions : List String} {name : String}

theorem ordered_append (h : FirstAppearances names mentions) (name : String) :
    names.Pairwise ((mentions ++ [name]).idxOf · < (mentions ++ [name]).idxOf ·) := by
  refine h.ordered.imp_of_mem fun ha hb hlt => ?_
  rw [List.idxOf_append_of_mem ((h.mem_iff _).1 ha), List.idxOf_append_of_mem ((h.mem_iff _).1 hb)]
  exact hlt

theorem append_of_mem (h : FirstAppearances names mentions) (hname : name ∈ mentions) :
    FirstAppearances names (mentions ++ [name]) where
  nodup := h.nodup
  mem_iff other := by
    rw [h.mem_iff, List.mem_append, List.mem_singleton]
    refine ⟨.inl, ?_⟩
    rintro (hother | rfl)
    · exact hother
    · exact hname
  ordered := h.ordered_append name

theorem append_of_not_mem (h : FirstAppearances names mentions) (hname : name ∉ mentions) :
    FirstAppearances (names ++ [name]) (mentions ++ [name]) where
  nodup := List.nodup_append.2 ⟨h.nodup, List.nodup_singleton name, by
    rintro a ha b hb rfl
    exact hname ((h.mem_iff _).1 (List.mem_singleton.1 hb ▸ ha))⟩
  mem_iff other := by
    rw [List.mem_append, h.mem_iff, List.mem_append]
  ordered := by
    refine List.pairwise_append.2 ⟨h.ordered_append name, List.pairwise_singleton _ _, ?_⟩
    intro a ha b hb
    obtain rfl := List.mem_singleton.1 hb
    have hmem := (h.mem_iff a).1 ha
    rw [List.idxOf_append_of_mem hmem, List.idxOf_append_of_notMem hname]
    exact Nat.lt_add_right _ (List.idxOf_lt_length_of_mem hmem)

theorem eraseDups (mentions : List String) : FirstAppearances mentions.eraseDups mentions := by
  induction mentions using List.reverseRecOn with
  | nil => exact ⟨.nil, fun _ => .rfl, .nil⟩
  | append_singleton mentions name ih =>
    rw [List.eraseDups_append]
    by_cases hname : name ∈ mentions
    · simpa [List.removeAll, hname] using ih.append_of_mem hname
    · simpa [List.removeAll, hname, List.eraseDups_cons] using ih.append_of_not_mem hname

end FirstAppearances

namespace GrammarStore

variable {s : GrammarStore} {g : Grammar} {name : String}

/-! ## Stores of a grammar -/

/-- The parts of the store are those of the grammar. -/
structure Stores (s : GrammarStore) (g : Grammar) : Prop where
  startSymbol : s.startSymbol = g.start
  symbols : s.symbols = g.nonterminals
  rules (name : String) :
    s.rules.get? name = if g.isDefined name then some (g.productions name) else none

theorem stores_empty : empty.Stores .empty where
  startSymbol := rfl
  symbols := rfl
  rules _ := rfl

namespace Stores

theorem isDefined (h : s.Stores g) (name : String) : s.isDefined name = g.isDefined name := by
  rw [GrammarStore.isDefined, h.rules]
  cases g.isDefined name <;> rfl

theorem productions (h : s.Stores g) (name : String) :
    s.productions name = g.productions name := by
  rw [GrammarStore.productions, h.rules]
  cases hdefined : g.isDefined name with
  | true => rfl
  | false => exact (Grammar.productions_eq_nil_iff.2 hdefined).symm

theorem heads (h : s.Stores g) : s.heads = g.heads := by
  rw [GrammarStore.heads, nonterminals, h.symbols, funext h.isDefined]
  rfl

theorem allProductions (h : s.Stores g) : s.allProductions = g.groupedRules := by
  rw [GrammarStore.allProductions, Grammar.groupedRules, h.heads]
  refine List.flatMap_congr fun head _ => ?_
  rw [h.productions, Grammar.productions, List.map_map]
  refine (List.map_congr_left fun rule hr => ?_).trans (List.map_id _)
  exact congrArg (Rule.mk · rule.production) (beq_iff_eq.1 (List.mem_filter.1 hr).2).symm

theorem isEmpty (h : s.Stores g) : s.isEmpty = g.isEmpty := by
  rw [Bool.eq_iff_iff, GrammarStore.isEmpty, Grammar.isEmpty, List.isEmpty_iff, List.isEmpty_iff,
    NameMap.eq_nil_iff]
  have hnone (name : String) : s.rules.get? name = none ↔ g.isDefined name = false := by
    rw [h.rules]
    cases g.isDefined name <;> simp
  simp only [hnone, Grammar.isDefined, List.any_eq_false, beq_iff_eq]
  constructor
  · intro hrules
    exact List.eq_nil_iff_forall_not_mem.2 fun rule hr => hrules rule.head rule hr rfl
  · intro hrules name rule hr
    rw [hrules] at hr
    cases hr

end Stores

theorem noteSymbol_eq {mentions : List String} (h : s.symbols = mentions.eraseDups)
    (name : String) : s.noteSymbol name = { s with symbols := (mentions ++ [name]).eraseDups } := by
  rw [List.eraseDups_append, ← h]
  by_cases hname : name ∈ mentions
  · have hnoted : name ∈ s.symbols := h ▸ List.mem_eraseDups.2 hname
    simp [noteSymbol, hnoted, List.removeAll, hname]
  · have hnew : name ∉ s.symbols := fun hmem => hname (List.mem_eraseDups.1 (h ▸ hmem))
    simp [noteSymbol, hnew, List.removeAll, hname, List.eraseDups_cons]

/-- Noting names one after the other changes only the list of names, and keeps the first mentions.
-/
theorem foldl_noteSymbol {mentions : List String} (h : s.symbols = mentions.eraseDups)
    (names : List String) :
    names.foldl noteSymbol s = { s with symbols := (mentions ++ names).eraseDups } := by
  induction names generalizing s mentions with
  | nil => rw [List.append_nil, ← h]; rfl
  | cons name names ih =>
    rw [List.foldl_cons, noteSymbol_eq h, ih rfl, List.append_assoc]
    rfl

namespace Stores

theorem addProduction (h : s.Stores g) (rule : Rule) :
    (s.addProduction rule.head rule.production).Stores (g.add rule) := by
  have hnoted : rule.production.nonterminals.foldl noteSymbol (s.noteSymbol rule.head) =
      { s with symbols := (g.add rule).nonterminals } := by
    have hmentions : (g.rules ++ [rule]).flatMap Rule.names =
        g.rules.flatMap Rule.names ++ rule.names := by
      rw [List.flatMap_append, List.flatMap_singleton]
    have hnames := foldl_noteSymbol h.symbols rule.names
    rw [← hmentions] at hnames
    exact hnames
  rw [GrammarStore.addProduction, hnoted]
  refine ⟨?_, rfl, fun name => ?_⟩
  · rw [Grammar.start_add, ← h.startSymbol]
    cases s.startSymbol <;> rfl
  · change
      NameMap.get? (s.rules.put rule.head (s.productions rule.head ++ [rule.production])) name = _
    rw [NameMap.get?_put, h.productions, h.rules, Grammar.isDefined_add, Grammar.productions_add]
    by_cases hname : name = rule.head
    · subst hname
      simp
    · simp [hname, Ne.symm hname]

theorem setStartSymbol (h : s.Stores g) (name : String) :
    (s.setStartSymbol name).1.Stores (g.change (.setStart name)).1 ∧
      (s.setStartSymbol name).2 = (g.change (.setStart name)).2 := by
  rw [GrammarStore.setStartSymbol, h.isDefined]
  rcases g.change_cases (.setStart name) with
    ⟨rule, hadd, -⟩ | ⟨_, g', ⟨rfl⟩, hdefined, hg', hchange⟩ | ⟨_, ⟨rfl⟩, hundefined, hchange⟩
  · cases hadd
  · rw [hchange, if_pos hdefined]
    have hrules := Grammar.rules_withStart? hg'
    refine ⟨⟨(Grammar.start_withStart? hg').symm, ?_, fun other => ?_⟩, rfl⟩
    · rw [Grammar.nonterminals, hrules]
      exact h.symbols
    · rw [Grammar.isDefined, Grammar.productions, Grammar.rulesOf, hrules]
      exact h.rules other
  · rw [hchange, hundefined]
    exact ⟨h, rfl⟩

/-- A store and the grammar that it holds make the same change, and agree on whether they do. -/
theorem change (h : s.Stores g) (change : Change) :
    (s.change change).1.Stores (g.change change).1 ∧
      (s.change change).2 = (g.change change).2 := by
  cases change with
  | add rule => exact ⟨h.addProduction rule, rfl⟩
  | setStart name => exact h.setStartSymbol name

theorem run (h : s.Stores g) (changes : List Change) :
    (s.run changes).Stores (g.run changes) ∧ s.transcript changes = g.transcript changes := by
  induction changes generalizing s g with
  | nil => exact ⟨h, rfl⟩
  | cons change changes ih =>
    obtain ⟨hstep, hmade⟩ := h.change change
    obtain ⟨hrun, hrest⟩ := ih hstep
    refine ⟨hrun, ?_⟩
    rw [transcript, Grammar.transcript, hmade, hrest]

end Stores

theorem stores_run (changes : List Change) :
    (empty.run changes).Stores (Grammar.empty.run changes) :=
  (stores_empty.run changes).1

/-- Every grammar is what its store holds. -/
theorem stores_store (g : Grammar) : g.store.Stores g := by
  have h := stores_run g.changes
  rwa [g.run_changes] at h

/-! ## What a store says -/

/-- What a store says after some rules were added and some names were chosen as start symbol. -/
structure Represents (s : GrammarStore) (rules : List Rule) (choices : List String) : Prop where
  nonterminals : FirstAppearances s.nonterminals (rules.flatMap Rule.names)
  heads_nodup : s.heads.Nodup
  heads_sublist : s.heads.Sublist s.nonterminals
  mem_heads (name : String) : name ∈ s.heads ↔ ∃ rule ∈ rules, rule.head = name
  isDefined (name : String) : s.isDefined name = true ↔ name ∈ s.heads
  isEmpty : s.isEmpty = true ↔ rules = []
  productions (name : String) :
    s.productions name = (rules.filter (·.head == name)).map Rule.production
  allProductions : s.allProductions.Perm rules
  startSymbol_eq_none : s.startSymbol = none ↔ rules = []
  startSymbol_defined (name : String) : s.startSymbol = some name → name ∈ s.heads
  startSymbol_eq : s.startSymbol = choices.getLast?.or (rules.head?.map Rule.head)

theorem Stores.represents (h : s.Stores g) {choices : List String}
    (hchosen : g.chosen = choices.getLast?) : s.Represents g.rules choices where
  nonterminals := by
    rw [GrammarStore.nonterminals, h.symbols]
    exact .eraseDups _
  heads_nodup := h.heads ▸ g.nodup_heads
  heads_sublist := List.filter_sublist
  mem_heads _ := by rw [h.heads, Grammar.mem_heads, Grammar.isDefined_iff]
  isDefined _ := by rw [h.isDefined, h.heads, Grammar.mem_heads]
  isEmpty := by rw [h.isEmpty, Grammar.isEmpty, List.isEmpty_iff]
  productions _ := h.productions _
  allProductions := h.allProductions ▸ g.groupedRules_perm
  startSymbol_eq_none := h.startSymbol ▸ Grammar.start_eq_none_iff
  startSymbol_defined _ hname := by
    rw [h.heads, Grammar.mem_heads]
    exact Grammar.isDefined_of_start (h.startSymbol ▸ hname)
  startSymbol_eq := by rw [h.startSymbol, Grammar.start, hchosen]

theorem setStartSymbol_snd (s : GrammarStore) (name : String) :
    (s.setStartSymbol name).2 = s.isDefined name := by
  rw [setStartSymbol]
  cases s.isDefined name <;> rfl

theorem setStartSymbol_fst_eq (h : (s.setStartSymbol name).2 = false) :
    (s.setStartSymbol name).1 = s := by
  rw [setStartSymbol_snd] at h
  rw [setStartSymbol, h]
  rfl

/-- After any run of changes from the empty store, the nonterminals are the names that the added
rules mention, in order of first appearance, and the heads those that have rules; the productions of
a name are those that were added for it; and the start symbol is the last one that was chosen, else
the first head. A choice is refused exactly if the name has no productions, and then changes
nothing. -/
theorem run_represents_history (changes : List Change) :
    let s := empty.run changes
    s.Represents (changes.filterMap Change.rule?)
      ((empty.transcript changes).filterMap Change.chosen?) ∧
    ∀ name, ((s.setStartSymbol name).2 = true ↔ name ∈ s.heads) ∧
      ((s.setStartSymbol name).2 = false → (s.setStartSymbol name).1 = s) := by
  intro s
  obtain ⟨hstores, hmade⟩ := stores_empty.run changes
  have hrules : (Grammar.empty.run changes).rules = changes.filterMap Change.rule? :=
    Grammar.empty.rules_run changes
  have hchosen : (Grammar.empty.run changes).chosen =
      ((empty.transcript changes).filterMap Change.chosen?).getLast? := by
    rw [hmade, Grammar.chosen_run]
    exact Option.or_none
  have hrepresents := hstores.represents hchosen
  rw [hrules] at hrepresents
  refine ⟨hrepresents, fun name => ⟨?_, setStartSymbol_fst_eq⟩⟩
  rw [setStartSymbol_snd, hrepresents.isDefined]

/-- `A` is mentioned before it has productions, so that its first choice is refused. -/
def lateHead : List Change := [
  .add ⟨"S", ⟨[.nonterminal "A", .nonterminal "S"], ⟨"sample", 1⟩⟩⟩, .setStart "A",
  .add ⟨"A", ⟨[.nonterminal "B"], ⟨"sample", 2⟩⟩⟩, .setStart "A", .setStart "B"]

/-- The second choice of `A` is the only one that is made, and `B` cannot be chosen. -/
theorem run_represents_history_lateHead :
    let s := empty.run lateHead
    (empty.transcript lateHead).map Prod.snd = [true, false, true, true, false] ∧
    s.nonterminals = ["S", "A", "B"] ∧ s.heads = ["S", "A"] ∧
    s.Represents (lateHead.filterMap Change.rule?) ["A"] ∧
    (s.setStartSymbol "B").2 = false ∧ (s.setStartSymbol "B").1 = s := by
  intro s
  obtain ⟨hhistory, hchoice⟩ := run_represents_history lateHead
  have hchosen : (empty.transcript lateHead).filterMap Change.chosen? = ["A"] := by decide
  have hrefused : (s.setStartSymbol "B").2 = false := by decide
  rw [hchosen] at hhistory
  exact ⟨by decide, by decide, by decide, hhistory, hrefused, (hchoice "B").2 hrefused⟩

end GrammarStore

/-- A session that only adds rules and chooses start symbols keeps the grammar that its store
holds after the same changes. -/
theorem Session.stores_run_edits (s : Session) (changes : List Change) :
    (s.grammar.store.run changes).Stores (s.run (changes.map Change.edit)).grammar := by
  rw [s.grammar_run_edits]
  exact ((GrammarStore.stores_store s.grammar).run changes).1

end Lookahead
