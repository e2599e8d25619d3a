import Lookahead.Proofs.First.Exact
import Lookahead.Proofs.Grammar.Contents
import Lookahead.Proofs.Loading
import Lookahead.Report
import Mathlib.Data.List.Basic

/-!
# Undefined nonterminals

Loading sorts the mentions of undefined nonterminals by line and keeps the first mention of each. So
each is reported once, at its mention on the least line, and of several on that line at the first by
the grouping of the grammar (`Loaded.filter_errors_ofRules`). The report marks the same names, and
nothing is derived from them (`undefined_diagnostics_exact`).
-/

namespace Lookahead

open Grammar

variable {g : Grammar} {name : String} {rules : List Rule} {rule : Rule}

theorem filter_eraseDupsBy {α β : Type} [DecidableEq β] {f : α → β} (k : β) :
    ∀ l : List α, (l.eraseDupsBy (f · == f ·)).filter (f · = k) = (l.find? (f · = k)).toList
  | [] => rfl
  | a :: l => by
    rw [List.eraseDupsBy_cons, List.filter_cons, filter_eraseDupsBy k, List.find?_cons]
    by_cases hak : f a = k
    · have hnone : (l.filter fun b => (f b == f a) = false).find? (f · = k) = none := by
        refine List.find?_eq_none.2 fun b hb => ?_
        have hba : f b ≠ f a := by simpa using (List.mem_filter.1 hb).2
        simpa [← hak] using hba
      rw [hnone]
      simp [hak]
    · have hfilter : (l.filter fun b => (f b == f a) = false).filter (f · = k) =
          l.filter (f · = k) := by
        rw [List.filter_filter]
        refine List.filter_congr fun b _ => ?_
        by_cases hbk : f b = k
        · simp [hbk, Ne.symm hak]
        · simp [hbk]
      rw [← List.head?_filter, hfilter, List.head?_filter]
      simp [hak]
termination_by l => l.length
decreasing_by exact Nat.lt_succ_of_le (List.length_filter_le _ _)

/-! ## Mentions of one name -/

namespace Grammar

def mentioning (g : Grammar) (name : String) : List Rule :=
  g.groupedRules.filter fun rule => name ∈ rule.production.nonterminals

/-- The places where an undefined nonterminal is mentioned. -/
def mentionsOf (g : Grammar) (name : String) : List (String × Location) :=
  g.undefinedMentions.filter (·.1 = name)

theorem mentionsOf_eq (h : g.isDefined name = false) :
    g.mentionsOf name = g.groupedRules.flatMap fun rule =>
      (rule.production.nonterminals.filter (· = name)).map fun n =>
        (n, rule.production.location) := by
  rw [mentionsOf, undefinedMentions, List.filter_filter, List.filter_flatMap]
  refine List.flatMap_congr fun rule _ => ?_
  rw [List.filter_map]
  congr 1
  refine List.filter_congr fun n _ => ?_
  by_cases hn : n = name
  · simp [hn, h]
  · simp [hn]

theorem mentionsOf_ne_nil_iff : g.mentionsOf name ≠ [] ↔ name ∈ g.undefined := by
  rw [← mem_undefinedMentions, mentionsOf]
  simp

theorem exists_rule_of_head?_mentionsOf {mention : String × Location}
    (hundefined : g.isDefined name = false)
    (h : (sortByKey (·.2.line) (g.mentionsOf name)).head? = some mention) :
    ∃ rule, FirstLeast (·.production.location.line) (g.mentioning name) rule ∧
      mention = (name, rule.production.location) := by
  have hfirst := firstLeast_of_head?_sortByKey h
  rw [mentionsOf_eq hundefined] at hfirst
  have hline (rule : Rule) (m : String × Location)
      (hm : m ∈ (rule.production.nonterminals.filter (· = name)).map fun n =>
        (n, rule.production.location)) : m.2.line = rule.production.location.line := by
    obtain ⟨n, -, rfl⟩ := List.mem_map.1 hm
    rfl
  obtain ⟨rule, hmention, hrule⟩ := hfirst.of_flatMap hline
  obtain ⟨n, hn, rfl⟩ := List.mem_map.1 hmention
  obtain rfl : n = name := of_decide_eq_true (List.mem_filter.1 hn).2
  refine ⟨rule, ?_, rfl⟩
  have hmentioning : g.mentioning n = g.groupedRules.filter fun rule =>
      ((rule.production.nonterminals.filter (· = n)).map fun n =>
        (n, rule.production.location)) ≠ [] := by
    refine List.filter_congr fun rule _ => ?_
    simp
  rwa [hmentioning]

/-- An undefined nonterminal has one error, at its first mention. -/
theorem filter_undefinedErrors (g : Grammar) (name : String) :
    g.undefinedErrors.filter (·.kind = .undefinedNonterminal name) =
      (sortByKey (·.2.line) (g.mentionsOf name)).head?.toList.map
        fun mention => ⟨mention.2, .undefinedNonterminal mention.1⟩ := by
  have hkind : (fun e : LoadDiagnostic => decide (e.kind = .undefinedNonterminal name)) ∘
      (fun mention : String × Location => ⟨mention.2, .undefinedNonterminal mention.1⟩) =
      fun mention => decide (mention.1 = name) := by
    funext mention
    simp
  rw [undefinedErrors, List.filter_map, hkind, filter_eraseDupsBy, mentionsOf, sortByKey_filter,
    List.head?_filter]

theorem mem_undefined : name ∈ g.undefined ↔ name ∈ g.nonterminals ∧ g.productions name = [] := by
  rw [undefined, List.mem_filter, productions_eq_nil_iff, Bool.not_eq_true']

theorem isDefined_of_mem_undefined (h : name ∈ g.undefined) : g.isDefined name = false :=
  productions_eq_nil_iff.1 (mem_undefined.1 h).2

end Grammar

namespace Loaded

/-- Whether there is an error about `name` as an undefined nonterminal. -/
def reportsUndefined (loaded : Loaded) (name : String) : Bool :=
  loaded.errors.any (·.kind == .undefinedNonterminal name)

theorem filter_errors_ofRules (rules : List Rule) (name : String) :
    (ofRules rules).errors.filter (·.kind = .undefinedNonterminal name) =
      (ofRules rules).grammar.undefinedErrors.filter (·.kind = .undefinedNonterminal name) := by
  have hdropped : ((rules.filter (·.isLeftRecursive)).map leftRecursionError).filter
      (·.kind = .undefinedNonterminal name) = [] := by
    refine List.filter_eq_nil_iff.2 fun e he => ?_
    obtain ⟨rule, -, rfl⟩ := List.mem_map.1 he
    simp [leftRecursionError]
  rw [ofRules, sortByLine, ← sortByKey_filter, List.filter_append, hdropped, List.nil_append,
    filter_undefinedErrors]
  cases (sortByKey (·.2.line) (Grammar.mentionsOf _ name)).head? with
  | none => rfl
  | some mention => rfl

theorem reportsUndefined_iff (rules : List Rule) (name : String) :
    (ofRules rules).reportsUndefined name = true ↔ name ∈ (ofRules rules).grammar.undefined := by
  have hfilter : (ofRules rules).reportsUndefined name = true ↔
      (ofRules rules).errors.filter (·.kind = .undefinedNonterminal name) ≠ [] := by
    simp [reportsUndefined]
  rw [hfilter, filter_errors_ofRules, filter_undefinedErrors, ← mentionsOf_ne_nil_iff,
    not_iff_not, List.map_eq_nil_iff, Option.toList_eq_nil_iff, head?_sortByKey_eq_none]

/-- The error about an undefined nonterminal is at its first mention, and there is no other one. -/
theorem exists_rule_of_reportsUndefined (h : (ofRules rules).reportsUndefined name = true) :
    ∃ rule,
      FirstLeast (·.production.location.line) ((ofRules rules).grammar.mentioning name) rule ∧
      (ofRules rules).errors.filter (·.kind = .undefinedNonterminal name) =
        [⟨rule.production.location, .undefinedNonterminal name⟩] := by
  have hundefined := (reportsUndefined_iff rules name).1 h
  cases hhead : (sortByKey (·.2.line) ((ofRules rules).grammar.mentionsOf name)).head? with
  | none => exact absurd (head?_sortByKey_eq_none.1 hhead) (mentionsOf_ne_nil_iff.2 hundefined)
  | some mention =>
    obtain ⟨rule, hrule, rfl⟩ :=
      exists_rule_of_head?_mentionsOf (isDefined_of_mem_undefined hundefined) hhead
    refine ⟨rule, hrule, ?_⟩
    rw [filter_errors_ofRules, filter_undefinedErrors, hhead]
    rfl

theorem reportsUndefined_eq_not_isDefined
    (h : name ∈ (ofRules rules).grammar.nonterminals) :
    (ofRules rules).reportsUndefined name = !(ofRules rules).grammar.isDefined name := by
  rw [Bool.eq_iff_iff, reportsUndefined_iff, undefined, List.mem_filter]
  exact and_iff_right h

theorem map_head?_rows (rules : List Rule) :
    (Report.rows (analyze (ofRules rules).grammar)).map List.head? =
      (ofRules rules).grammar.nonterminals.map fun name =>
        some (if (ofRules rules).reportsUndefined name then name ++ " (undefined)" else name) := by
  rw [Report.rows, List.map_map]
  refine List.map_congr_left fun name hname => ?_
  have hcell : (Report.row (analyze (ofRules rules).grammar) name).head? =
      some (if (ofRules rules).grammar.isDefined name then name else name ++ " (undefined)") := rfl
  rw [Function.comp_apply, hcell, reportsUndefined_eq_not_isDefined hname]
  cases (ofRules rules).grammar.isDefined name with
  | true => rfl
  | false => rfl

end Loaded

/-! ## Nothing is derived from an undefined nonterminal -/

theorem isNullable_eq_false_of_undefined (h : g.isDefined name = false) :
    (analyze g).isNullable name = false := by
  refine Bool.eq_false_iff.2 fun hnull => ?_
  have hdefined := Nullability.isDefined_of_mem_marked (Nullability.isNullable_nonterminal.1 hnull)
  rw [h] at hdefined
  cases hdefined

theorem first_eq_empty_of_undefined (h : g.isDefined name = false) :
    (analyze g).first.first name = ∅ := by
  refine TextSet.ext fun t => iff_of_false (fun ht => ?_) (TextSet.not_mem_empty t)
  obtain ⟨-, rest, hd⟩ := FirstSets.mem_first_iff.1 ht
  cases eq_of_derives_undefined h hd

/-- The errors of loading rules about undefined nonterminals are about the nonterminals of the
grammar without productions, each once: on the least line on which an accepted rule mentions it, in
the first such rule of that line by the grouping of the grammar. The report marks the same names as
undefined, and they are not nullable and start with nothing. -/
theorem undefined_diagnostics_exact (rules : List Rule) :
    let loaded := Loaded.ofRules rules
    let g := loaded.grammar
    let a := analyze g
    g.groupedRules.Perm (rules.filter (!·.isLeftRecursive)) ∧
    (∀ name, loaded.reportsUndefined name = true ↔
      name ∈ g.nonterminals ∧ g.productions name = []) ∧
    (∀ name, loaded.reportsUndefined name = true → ∃ rule,
      FirstLeast (·.production.location.line) (g.mentioning name) rule ∧
      loaded.errors.filter (·.kind = .undefinedNonterminal name) =
        [⟨rule.production.location, .undefinedNonterminal name⟩]) ∧
    (Report.rows a).map List.head? = (g.nonterminals.map fun name =>
      some (if loaded.reportsUndefined name then name ++ " (undefined)" else name)) ∧
    ∀ name, loaded.reportsUndefined name = true →
      a.isNullable name = false ∧ a.first.first name = ∅ := by
  intro loaded g a
  have hreports (name : String) : loaded.reportsUndefined name = true ↔
      name ∈ g.nonterminals ∧ g.productions name = [] :=
    (Loaded.reportsUndefined_iff rules name).trans mem_undefined
  refine ⟨g.groupedRules_perm, hreports, fun name => Loaded.exists_rule_of_reportsUndefined,
    Loaded.map_head?_rows rules, fun name hname => ?_⟩
  have hundefined := productions_eq_nil_iff.1 ((hreports name).1 hname).2
  exact ⟨isNullable_eq_false_of_undefined hundefined, first_eq_empty_of_undefined hundefined⟩

/-- Rules from two files. The rule of `X` is dropped, and `Z` is mentioned on three lines. -/
def scatteredMentions : List Rule := [
  ⟨"S", ⟨[.nonterminal "A", .nonterminal "Z"], ⟨"a.bnf", 5⟩⟩⟩,
  ⟨"X", ⟨[.nonterminal "X", .nonterminal "W"], ⟨"a.bnf", 1⟩⟩⟩,
  ⟨"A", ⟨[.nonterminal "Z"], ⟨"b.bnf", 2⟩⟩⟩,
  ⟨"S", ⟨[.terminal "s", .nonterminal "Z"], ⟨"a.bnf", 2⟩⟩⟩]

/-- `Z` is reported in the second rule of `S`, which comes before the rule of `A` when they are
grouped, and `W` is not reported at all. -/
theorem undefined_diagnostics_exact_scatteredMentions :
    let loaded := Loaded.ofRules scatteredMentions
    loaded.reportsUndefined "Z" = true ∧ loaded.reportsUndefined "W" = false ∧
    "W" ∉ loaded.grammar.nonterminals ∧
    (∃ rule, FirstLeast (·.production.location.line) (loaded.grammar.mentioning "Z") rule ∧
      rule.production.location = ⟨"a.bnf", 2⟩) ∧
    (analyze loaded.grammar).isNullable "Z" = false ∧
    (analyze loaded.grammar).first.first "Z" = ∅ := by
  intro loaded
  have hz : loaded.reportsUndefined "Z" = true := by decide +kernel
  have herror : loaded.errors.filter (·.kind = .undefinedNonterminal "Z") =
      [⟨⟨"a.bnf", 2⟩, .undefinedNonterminal "Z"⟩] := by decide +kernel
  obtain ⟨-, -, hmention, -, hnothing⟩ := undefined_diagnostics_exact scatteredMentions
  obtain ⟨rule, hrule, herror'⟩ := hmention "Z" hz
  obtain ⟨hlocation, -⟩ := Diagnostic.mk.inj (List.cons.inj (herror'.symm.trans herror)).1
  exact ⟨hz, by decide +kernel, by decide +kernel, ⟨rule, hrule, hlocation⟩, hnothing "Z" hz⟩

end Lookahead
