import Lookahead.Proofs.Grammar.Rules

/-!
# What a grammar says, apart from locations

The content of a rule is its head and its symbols. Two grammars agree if they have the same start
symbol, the same nonterminals and, for every head, the same right-hand sides in the same order. A
grammar agrees with one that has its rules grouped by head (`Agrees.of_grouped`).
-/

namespace Lookahead

/-- What a rule says, wherever it was read. -/
def Rule.content (r : Rule) : String × List Symbol := (r.head, r.production.symbols)

namespace Grammar

/-- The grammars differ at most in locations, in the order of rules with different heads and in the
order of nonterminals. -/
structure Agrees (g g' : Grammar) : Prop where
  start : g.start = g'.start
  nonterminals (name : String) : name ∈ g.nonterminals ↔ name ∈ g'.nonterminals
  symbols (name : String) :
    (g.productions name).map (·.symbols) = (g'.productions name).map (·.symbols)

variable {g g' : Grammar} {name : String}

/-! ## Grouping by head -/

theorem rulesOf_eq_nil (h : g.isDefined name = false) : g.rulesOf name = [] := by
  simpa [rulesOf, isDefined] using h

theorem filter_rulesOf (g : Grammar) (head name : String) :
    (g.rulesOf head).filter (·.head == name) = if head = name then g.rulesOf name else [] := by
  split
  · rename_i h
    subst h
    simp [rulesOf]
  · rename_i h
    simp only [rulesOf, List.filter_filter, List.filter_eq_nil_iff, Bool.and_eq_true, beq_iff_eq]
    rintro rule - ⟨hname, hhead⟩
    exact h (hhead.symm.trans hname)

theorem filter_flatMap_rulesOf {names : List String} (h : names.Nodup) :
    (names.flatMap g.rulesOf).filter (·.head == name) =
      if name ∈ names then g.rulesOf name else [] := by
  induction names with
  | nil => rfl
  | cons head names ih =>
    obtain ⟨hhead, hnames⟩ := List.nodup_cons.1 h
    rw [List.flatMap_cons, List.filter_append, ih hnames, filter_rulesOf]
    by_cases heq : head = name
    · subst heq
      simp [hhead]
    · simp [heq, Ne.symm heq]

theorem filter_groupedRules (g : Grammar) (name : String) :
    g.groupedRules.filter (·.head == name) = g.rulesOf name := by
  rw [groupedRules, filter_flatMap_rulesOf g.nodup_heads]
  split
  · rfl
  · rename_i h
    rw [mem_heads, Bool.not_eq_true] at h
    exact (rulesOf_eq_nil h).symm

theorem groupedRules_perm (g : Grammar) : g.groupedRules.Perm g.rules := by
  refine List.perm_iff_count.2 fun rule => ?_
  have hcount (rules : List Rule) :
      (rules.filter (·.head == rule.head)).count rule = rules.count rule :=
    List.count_filter (p := fun r : Rule => r.head == rule.head) (beq_self_eq_true _)
  rw [← hcount g.groupedRules, filter_groupedRules, rulesOf, hcount]

theorem heads_perm (g : Grammar) : g.heads.Perm (g.groupedRules.map Rule.head).eraseDups := by
  refine (List.perm_ext_iff_of_nodup g.nodup_heads (nodup_eraseDups _)).2 fun name => ?_
  simp only [mem_heads, isDefined_iff, List.mem_eraseDups, List.mem_map, mem_groupedRules]

theorem head?_groupedRules (g : Grammar) : g.groupedRules.head? = g.rules.head? := by
  cases hrules : g.rules with
  | nil => simp [groupedRules, heads, nonterminals, hrules]
  | cons rule rules =>
    have hdefined : g.isDefined rule.head = true := isDefined_head (hrules ▸ List.mem_cons_self)
    -- The first name that appears is the head of the first rule, which is defined.
    have hheads : ∃ heads, g.heads = rule.head :: heads := by
      rw [heads, nonterminals, hrules, List.flatMap_cons, Rule.names, List.cons_append,
        List.eraseDups_cons, List.filter_cons_of_pos hdefined]
      exact ⟨_, rfl⟩
    have hof : ∃ rest, g.rulesOf rule.head = rule :: rest := by
      rw [rulesOf, hrules, List.filter_cons, if_pos (beq_self_eq_true _)]
      exact ⟨_, rfl⟩
    obtain ⟨heads, hheads⟩ := hheads
    obtain ⟨rest, hof⟩ := hof
    rw [groupedRules, hheads, List.flatMap_cons, hof, List.cons_append, List.head?_cons,
      List.head?_cons]

theorem start_eq_of_chosen (h : g.chosen = none) :
    g.start = (g.rules.map Rule.content).head?.map Prod.fst := by
  rw [start, h, Option.none_or, List.head?_map, Option.map_map]
  rfl

theorem mem_nonterminals_iff_content :
    name ∈ g.nonterminals ↔
      ∃ content ∈ g.rules.map Rule.content, name ∈ content.1 :: nonterminalNames content.2 := by
  rw [mem_nonterminals]
  constructor
  · rintro ⟨rule, hr, hname⟩
    exact ⟨_, List.mem_map_of_mem hr, hname⟩
  · rintro ⟨_, hcontent, hname⟩
    obtain ⟨rule, hr, rfl⟩ := List.mem_map.1 hcontent
    exact ⟨rule, hr, hname⟩

theorem map_symbols_filter (rules : List Rule) (name : String) :
    (rules.filter (·.head == name)).map (·.production.symbols) =
      ((rules.map Rule.content).filter (·.1 == name)).map Prod.snd := by
  rw [List.filter_map, List.map_map]
  rfl

theorem map_symbols_productions (g : Grammar) (name : String) :
    (g.productions name).map (·.symbols) =
      ((g.rules.map Rule.content).filter (·.1 == name)).map Prod.snd := by
  rw [productions, List.map_map, ← map_symbols_filter]
  rfl

/-- A grammar with the rules of another one grouped by head agrees with it. -/
theorem Agrees.of_grouped (hchosen : g.chosen = none) (hchosen' : g'.chosen = none)
    (h : g.rules.map Rule.content = g'.groupedRules.map Rule.content) : g.Agrees g' where
  start := by
    rw [start_eq_of_chosen hchosen, start_eq_of_chosen hchosen', h, List.head?_map, List.head?_map,
      head?_groupedRules]
  nonterminals name := by
    simp only [mem_nonterminals_iff_content, h, List.mem_map, mem_groupedRules]
  symbols name := by
    rw [map_symbols_productions, h, ← map_symbols_filter, filter_groupedRules, productions,
      List.map_map]
    rfl

theorem Agrees.isDefined (h : g.Agrees g') (name : String) :
    g.isDefined name = g'.isDefined name := by
  have hiff (g : Grammar) :
      g.isDefined name = true ↔ (g.productions name).map (·.symbols) ≠ [] := by
    simp [isDefined_iff, productions, rulesOf]
  rw [Bool.eq_iff_iff, hiff, hiff, h.symbols]

theorem Agrees.mem_undefined (h : g.Agrees g') : name ∈ g.undefined ↔ name ∈ g'.undefined := by
  rw [undefined, undefined, List.mem_filter, List.mem_filter, h.nonterminals, h.isDefined]

end Grammar

end Lookahead
