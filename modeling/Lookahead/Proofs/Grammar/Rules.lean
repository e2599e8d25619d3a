import Lookahead.Grammar

/-!
# Reading rules off a grammar

Everything that a grammar says about its nonterminals is read off its rules. Here each of these
views is traced back to membership of a rule, and it is said what adding a rule and choosing a start
symbol do to the rules and to the start symbol.
-/

namespace Lookahead.Grammar

variable {g g' : Grammar} {name : String}

theorem mem_nonterminals : name ∈ g.nonterminals ↔ ∃ rule ∈ g.rules, name ∈ rule.names := by
  simp [nonterminals, List.mem_eraseDups, List.mem_flatMap]

theorem mem_nonterminals_of_isDefined (h : g.isDefined name = true) : name ∈ g.nonterminals := by
  obtain ⟨rule, hr, rfl⟩ := isDefined_iff.1 h
  exact mem_nonterminals.2 ⟨rule, hr, List.mem_cons_self⟩

theorem mem_heads : name ∈ g.heads ↔ g.isDefined name = true := by
  rw [heads, List.mem_filter]
  exact ⟨And.right, fun h => ⟨mem_nonterminals_of_isDefined h, h⟩⟩

theorem isDefined_head {rule : Rule} (h : rule ∈ g.rules) : g.isDefined rule.head = true :=
  isDefined_iff.2 ⟨rule, h, rfl⟩

theorem isDefined_of_start (h : g.start = some name) : g.isDefined name = true := by
  unfold start at h
  cases hc : g.chosen with
  | some chosen =>
    rw [hc] at h
    exact isDefined_iff.2 (Option.some.inj h ▸ g.chosen_defined chosen hc)
  | none =>
    rw [hc, Option.none_or] at h
    obtain ⟨rule, hr, rfl⟩ := Option.map_eq_some_iff.1 h
    exact isDefined_head (List.mem_of_mem_head? hr)

theorem start_eq_none_iff : g.start = none ↔ g.rules = [] := by
  constructor
  · intro h
    rw [start, Option.or_eq_none_iff, Option.map_eq_none_iff, List.head?_eq_none_iff] at h
    exact h.2
  · intro h
    cases hstart : g.start with
    | none => rfl
    | some name =>
      obtain ⟨rule, hr, -⟩ := isDefined_iff.1 (isDefined_of_start hstart)
      rw [h] at hr
      cases hr

theorem mem_productions {p : Production} : p ∈ g.productions name ↔ ⟨name, p⟩ ∈ g.rules := by
  simp only [productions, rulesOf, List.mem_map, List.mem_filter, beq_iff_eq]
  constructor
  · rintro ⟨⟨head, q⟩, ⟨hr, rfl⟩, rfl⟩
    exact hr
  · exact fun h => ⟨⟨name, p⟩, ⟨h, rfl⟩, rfl⟩

theorem productions_eq_nil_iff : g.productions name = [] ↔ g.isDefined name = false := by
  simp [productions, rulesOf, isDefined]

theorem mem_groupedRules {rule : Rule} : rule ∈ g.groupedRules ↔ rule ∈ g.rules := by
  simp only [groupedRules, rulesOf, List.mem_flatMap, List.mem_filter, beq_iff_eq, mem_heads]
  constructor
  · rintro ⟨head, -, hr, -⟩
    exact hr
  · exact fun h => ⟨rule.head, isDefined_head h, h, rfl⟩

theorem forall_mem_groupedRules {P : Rule → Prop} :
    (∀ rule ∈ g.groupedRules, P rule) ↔ ∀ rule ∈ g.rules, P rule := by
  simp only [mem_groupedRules]

theorem mem_alternatives {a : Alternatives} :
    a ∈ g.alternatives ↔ g.isDefined a.head = true ∧ a.productions = g.productions a.head := by
  simp only [alternatives, List.mem_map, mem_heads]
  constructor
  · rintro ⟨head, hd, rfl⟩
    exact ⟨hd, rfl⟩
  · rintro ⟨hd, hp⟩
    exact ⟨a.head, hd, by rw [← hp]⟩

theorem mem_nonterminals_of_mem_symbols {rule : Rule} (hr : rule ∈ g.rules)
    (hn : .nonterminal name ∈ rule.production.symbols) : name ∈ g.nonterminals := by
  refine mem_nonterminals.2 ⟨rule, hr, List.mem_cons_of_mem _ ?_⟩
  exact List.mem_filterMap.2 ⟨_, hn, rfl⟩

/-! ## Changes -/

theorem start_add (g : Grammar) (rule : Rule) :
    (g.add rule).start = g.start.or (some rule.head) := by
  change g.chosen.or ((g.rules ++ [rule]).head?.map Rule.head) =
    (g.chosen.or (g.rules.head?.map Rule.head)).or (some rule.head)
  rw [List.head?_append, Option.map_or, Option.or_assoc]
  rfl

theorem isDefined_add (g : Grammar) (rule : Rule) (name : String) :
    (g.add rule).isDefined name = (g.isDefined name || rule.head == name) := by
  rw [isDefined, add, List.any_append, List.any_cons, List.any_nil, Bool.or_false]
  rfl

theorem productions_add (g : Grammar) (rule : Rule) (name : String) :
    (g.add rule).productions name =
      g.productions name ++ if rule.head = name then [rule.production] else [] := by
  rw [productions, rulesOf, add, List.filter_append, List.map_append]
  by_cases h : rule.head = name <;> simp [productions, rulesOf, h]

theorem exists_withStart? (h : g.isDefined name = true) : ∃ g', g.withStart? name = some g' :=
  ⟨_, dif_pos h⟩

theorem withStart?_eq_none (h : g.isDefined name = false) : g.withStart? name = none :=
  dif_neg (Bool.eq_false_iff.1 h)

theorem rules_withStart? (h : g.withStart? name = some g') : g'.rules = g.rules := by
  unfold withStart? at h
  split at h
  · rw [← Option.some.inj h]
  · cases h

theorem chosen_withStart? (h : g.withStart? name = some g') : g'.chosen = some name := by
  unfold withStart? at h
  split at h
  · rw [← Option.some.inj h]
  · cases h

theorem start_withStart? (h : g.withStart? name = some g') : g'.start = some name := by
  rw [start, chosen_withStart? h, Option.some_or]

theorem nodup_eraseDups : ∀ names : List String, names.eraseDups.Nodup
  | [] => by simp
  | name :: names => by
    rw [List.eraseDups_cons, List.nodup_cons]
    refine ⟨fun h => ?_, nodup_eraseDups _⟩
    simpa using List.mem_eraseDups.1 h
termination_by names => names.length
decreasing_by exact Nat.lt_succ_of_le (List.length_filter_le _ _)

theorem nodup_nonterminals (g : Grammar) : g.nonterminals.Nodup := nodup_eraseDups _

theorem nodup_heads (g : Grammar) : g.heads.Nodup := g.nodup_nonterminals.filter _

end Lookahead.Grammar
