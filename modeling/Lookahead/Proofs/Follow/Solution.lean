import Lookahead.Analysis
import Lookahead.Proofs.First.Solution

/-!
# The FOLLOW sets as a solution of their equations

At each place of a production two rules can enlarge what follows the symbol there. Whatever FIRST
sets they are computed from, the FOLLOW sets obey both rules everywhere (`closed_compute`), and they
are the least sets that do and in which the end of the input follows the start symbol
(`Closed.of_mem_follow`).
-/

namespace Lookahead.FollowSets

open Grammar

variable {g : Grammar} {first : FirstSets} {f : FollowSets} {o : Occurrence} {name t : String}

/-! ## Places -/

theorem mem_occurrencesIn {head : String} {symbols : List Symbol} :
    o ∈ occurrencesIn head symbols ↔
      o.head = head ∧ ∃ before, symbols = before ++ o.symbol :: o.rest := by
  induction symbols with
  | nil => simp [occurrencesIn]
  | cons s rest ih =>
    rw [occurrencesIn, List.mem_cons, ih]
    constructor
    · rintro (rfl | ⟨hhead, before, rfl⟩)
      · exact ⟨rfl, [], rfl⟩
      · exact ⟨hhead, s :: before, rfl⟩
    · rintro ⟨rfl, before, hsymbols⟩
      cases before with
      | nil =>
        obtain ⟨rfl, rfl⟩ := List.cons.inj hsymbols
        exact .inl rfl
      | cons b before =>
        obtain ⟨rfl, rfl⟩ := List.cons.inj hsymbols
        exact .inr ⟨rfl, before, rfl⟩

theorem mem_occurrences :
    o ∈ g.occurrences ↔
      ∃ rule ∈ g.rules, o.head = rule.head ∧
        ∃ before, rule.production.symbols = before ++ o.symbol :: o.rest := by
  simp only [occurrences, List.mem_flatMap, mem_groupedRules, mem_occurrencesIn]

theorem mem_nonterminals_of_occurrence (ho : o ∈ g.occurrences)
    (hname : o.symbol = .nonterminal name) : name ∈ g.nonterminals := by
  obtain ⟨rule, hr, -, before, hsymbols⟩ := mem_occurrences.1 ho
  exact mem_nonterminals_of_mem_symbols hr (by simp [hsymbols, hname])

/-- What FOLLOW sets hold: a nonterminal with a terminal that can come after it. -/
def Holds (f : FollowSets) (k : String × String) : Prop := k.2 ∈ f.follow k.1

/-- Uniting does nothing, for a terminal or when nothing is added, or it enlarges a set. -/
theorem unify_cases (f : FollowSets) (s : Symbol) (additional : TextSet) :
    (f.unify s additional = ⟨f, false, []⟩ ∧
      ∀ name, s = .nonterminal name → ∀ t ∈ additional.erase epsilonText, t ∈ f.follow name) ∨
    ∃ name, s = .nonterminal name ∧
      f.follow name ∪ additional.erase epsilonText ≠ f.follow name ∧
      f.unify s additional =
        let grown := f.follow name ∪ additional.erase epsilonText
        ⟨⟨f.entries.put name grown⟩, true, [.followGrew name grown]⟩ := by
  cases s with
  | terminal text => exact .inl ⟨rfl, nofun⟩
  | nonterminal name =>
    by_cases hsame : f.follow name ∪ additional.erase epsilonText = f.follow name
    · refine .inl ⟨?_, fun _ hname => ?_⟩
      · simp only [unify, hsame, if_true]
      · obtain rfl := Symbol.nonterminal.inj hname
        exact TextSet.union_eq_left.1 hsame
    · refine .inr ⟨name, rfl, hsame, ?_⟩
      simp only [unify, TextSet.size_union_eq_iff, hsame, if_false]

theorem mem_follow_unify {s : Symbol} {additional : TextSet} :
    t ∈ (f.unify s additional).state.follow name ↔
      t ∈ f.follow name ∨ s = .nonterminal name ∧ t ∈ additional ∧ t ≠ epsilonText := by
  rcases f.unify_cases s additional with ⟨hunify, hadded⟩ | ⟨n, rfl, -, hunify⟩
  · rw [hunify]
    refine ⟨.inl, fun h => h.elim id ?_⟩
    rintro ⟨hs, ht⟩
    exact hadded name hs t (TextSet.mem_erase.2 ht)
  · rw [hunify]
    by_cases hname : n = name
    · subst hname
      simp [follow, NameMap.get?_put]
    · simp [follow, NameMap.get?_put, hname, Ne.symm hname]

theorem grows_unify (s : Symbol) (additional : FollowSets → TextSet) :
    Grows (fun f => f.unify s (additional f)) Holds where
  quiet {f} h := by
    rcases f.unify_cases s (additional f) with ⟨hunify, -⟩ | ⟨n, -, -, hunify⟩
    · rw [hunify]
    · rw [hunify] at h
      cases h
  keeps h := mem_follow_unify.2 (.inl h)
  adds {f} h := by
    rcases f.unify_cases s (additional f) with ⟨hunify, -⟩ | ⟨n, hs, hne, -⟩
    · rw [hunify] at h
      cases h
    · obtain ⟨t, hnot, ht⟩ := TextSet.exists_mem_of_union_ne hne
      exact ⟨(n, t), hnot, mem_follow_unify.2 (.inr ⟨hs, TextSet.mem_erase.1 ht⟩)⟩

/-- A place with nothing after it counts as one whose rest is nullable. -/
theorem rest_nullable :
    (o.rest.isEmpty || (first.ofChain o.rest).nullable) = (first.ofSequence o.rest).nullable := by
  cases o.rest with
  | nil => rfl
  | cons s rest => rfl

theorem visit_eq :
    visit first f o =
      if (first.ofSequence o.rest).nullable = true then
        (f.unify o.symbol (first.ofSequence o.rest).terminals).andThen fun f =>
          f.unify o.symbol (f.follow o.head)
      else
        f.unify o.symbol (first.ofSequence o.rest).terminals := by
  simp only [visit, rest_nullable, FirstSets.terminals_ofChain]

theorem grows_visit (first : FirstSets) (o : Occurrence) : Grows (visit first · o) Holds := by
  have hhere := grows_unify o.symbol fun _ => (first.ofSequence o.rest).terminals
  have hinherited := grows_unify o.symbol fun f => f.follow o.head
  by_cases hnull : (first.ofSequence o.rest).nullable = true
  · simpa only [visit_eq, hnull, if_true] using hhere.andThen hinherited
  · simpa only [visit_eq, hnull, Bool.false_eq_true, if_false] using hhere

/-- What a visit adds to the symbol at a place: what the rest starts with and, if the rest is
nullable, what follows the head. -/
theorem mem_follow_visit :
    t ∈ (visit first f o).state.follow name ↔
      t ∈ f.follow name ∨ o.symbol = .nonterminal name ∧ t ≠ epsilonText ∧
        (t ∈ (first.ofSequence o.rest).terminals ∨
          (first.ofSequence o.rest).nullable = true ∧ t ∈ f.follow o.head) := by
  rw [visit_eq]
  split
  · rename_i hnull
    simp only [Step.andThen, mem_follow_unify, hnull]
    tauto
  · rename_i hnull
    simp only [mem_follow_unify, hnull]
    tauto

theorem not_mem_follow_unseeded {names : List String} :
    ¬ t ∈ FollowSets.follow ⟨.ofNames names fun _ => ∅⟩ name := by
  unfold follow
  rw [NameMap.get?_ofNames]
  split <;> simp

theorem mem_follow_seeded :
    t ∈ (seeded g).state.follow name ↔ g.start = some name ∧ t = endOfInput := by
  unfold seeded
  cases g.start with
  | none => simp [not_mem_follow_unseeded]
  | some start =>
    simp only [mem_follow_unify, not_mem_follow_unseeded, false_or, Symbol.nonterminal.injEq,
      TextSet.mem_singleton, Option.some.injEq]
    exact and_congr_right fun _ => and_iff_left_of_imp fun ht => ht ▸ by decide

/-! ## The passes -/

def pool (g : Grammar) (first : FirstSets) : List (String × String) :=
  g.nonterminals.flatMap fun name =>
    (endOfInput :: g.occurrences.flatMap fun o => (first.ofSymbol o.symbol).terminals.toList).map
      fun t => (name, t)

theorem length_pool (g : Grammar) (first : FirstSets) :
    (pool g first).length =
      g.nonterminals.length * (candidateCount g.occurrences first + 1) := by
  simp [pool, candidateCount, List.length_flatMap, List.map_const']

theorem mem_pool {k : String × String} :
    k ∈ pool g first ↔
      k.1 ∈ g.nonterminals ∧
        (k.2 = endOfInput ∨ ∃ o ∈ g.occurrences, k.2 ∈ (first.ofSymbol o.symbol).terminals) := by
  obtain ⟨name, t⟩ := k
  simp only [pool, List.mem_flatMap, List.mem_map, List.mem_cons, TextSet.mem_toList,
    Prod.mk.injEq]
  constructor
  · rintro ⟨name, hname, t, ht, rfl, rfl⟩
    exact ⟨hname, ht⟩
  · rintro ⟨hname, ht⟩
    exact ⟨name, hname, t, ht, rfl, rfl⟩

theorem within_seeded (g : Grammar) (first : FirstSets) :
    Within Holds (pool g first) (seeded g).state := by
  rintro ⟨name, t⟩ hk
  obtain ⟨hstart, rfl⟩ := mem_follow_seeded.1 hk
  exact mem_pool.2 ⟨mem_nonterminals_of_isDefined (isDefined_of_start hstart), .inl rfl⟩

theorem exists_occurrence_of_mem_rest (ho : o ∈ g.occurrences)
    (ht : t ∈ (first.ofSequence o.rest).terminals) :
    ∃ o' ∈ g.occurrences, t ∈ (first.ofSymbol o'.symbol).terminals := by
  obtain ⟨rule, hr, hhead, before, hsymbols⟩ := mem_occurrences.1 ho
  obtain ⟨between, s, after, hrest, -, hs⟩ := FirstSets.mem_ofSequence.1 ht
  refine ⟨⟨rule.head, s, after⟩, mem_occurrences.2 ⟨rule, hr, rfl, ?_⟩, hs⟩
  exact ⟨before ++ o.symbol :: between, by simp [hsymbols, hrest]⟩

theorem within_visit (ho : o ∈ g.occurrences) (hf : Within Holds (pool g first) f) :
    Within Holds (pool g first) (visit first f o).state := by
  rintro ⟨name, t⟩ hk
  rcases mem_follow_visit.1 hk with hk | ⟨hsymbol, -, ht⟩
  · exact hf _ hk
  · refine mem_pool.2 ⟨mem_nonterminals_of_occurrence ho hsymbol, ?_⟩
    rcases ht with ht | ⟨-, ht⟩
    · exact .inr (exists_occurrence_of_mem_rest ho ht)
    · exact (mem_pool.1 (hf (o.head, t) ht)).2

theorem visit_compute (ho : o ∈ g.occurrences) :
    (visit first (compute g first) o).state = compute g first :=
  Grows.visit_settled (grows_visit first) (fun _ _ => within_visit) (within_seeded g first)
    (Nat.lt_succ_of_le (Nat.le_of_eq (length_pool g first))) o ho

/-! ## The solution -/

/-- A family of sets in which the end of the input follows the start symbol and to which the two
rules add nothing. -/
structure Closed (g : Grammar) (first : FirstSets) (F : String → String → Prop) : Prop where
  start : ∀ {name}, g.start = some name → F name endOfInput
  trailer : ∀ {rule before name rest t}, rule ∈ g.rules →
    rule.production.symbols = before ++ .nonterminal name :: rest → t ≠ epsilonText →
    t ∈ (first.ofSequence rest).terminals → F name t
  inherited : ∀ {rule before name rest t}, rule ∈ g.rules →
    rule.production.symbols = before ++ .nonterminal name :: rest → t ≠ epsilonText →
    (first.ofSequence rest).nullable = true → F rule.head t → F name t

theorem mem_follow_of_rule {rule : Rule} {before rest : List Symbol} (hr : rule ∈ g.rules)
    (hsymbols : rule.production.symbols = before ++ .nonterminal name :: rest)
    (hne : t ≠ epsilonText)
    (ht : t ∈ (first.ofSequence rest).terminals ∨
      (first.ofSequence rest).nullable = true ∧ t ∈ (compute g first).follow rule.head) :
    t ∈ (compute g first).follow name := by
  have ho : (⟨rule.head, .nonterminal name, rest⟩ : Occurrence) ∈ g.occurrences :=
    mem_occurrences.2 ⟨rule, hr, rfl, before, hsymbols⟩
  rw [← visit_compute ho]
  exact mem_follow_visit.2 (.inr ⟨rfl, hne, ht⟩)

/-- The computed sets obey both rules. -/
theorem closed_compute (g : Grammar) (first : FirstSets) :
    Closed g first fun name t => t ∈ (compute g first).follow name where
  start {name} hstart := by
    have hpass : Grows (pass g.occurrences first) Holds := .sweep fun o _ => grows_visit first o
    exact saturate_induction (P := (Holds · (name, endOfInput))) (fun _ h => hpass.keeps h) _
      (mem_follow_seeded.2 ⟨hstart, rfl⟩)
  trailer hr hsymbols hne ht := mem_follow_of_rule hr hsymbols hne (.inl ht)
  inherited hr hsymbols hne hnull ht := mem_follow_of_rule hr hsymbols hne (.inr ⟨hnull, ht⟩)

/-- No set of `f` holds more than `F` allows. -/
def Below (F : String → String → Prop) (f : FollowSets) : Prop :=
  ∀ name t, t ∈ f.follow name → F name t

theorem Closed.below_visit {F : String → String → Prop} (hF : Closed g first F)
    (ho : o ∈ g.occurrences) (hf : Below F f) : Below F (visit first f o).state := by
  intro name t ht
  rcases mem_follow_visit.1 ht with ht | ⟨hsymbol, hne, ht⟩
  · exact hf name t ht
  · obtain ⟨rule, hr, hhead, before, hsymbols⟩ := mem_occurrences.1 ho
    rw [hsymbol] at hsymbols
    rcases ht with ht | ⟨hnull, ht⟩
    · exact hF.trailer hr hsymbols hne ht
    · exact hF.inherited hr hsymbols hne hnull (hhead ▸ hf o.head t ht)

/-- The computed sets are the least that obey both rules. -/
theorem Closed.of_mem_follow {F : String → String → Prop} (hF : Closed g first F)
    (ht : t ∈ (compute g first).follow name) : F name t := by
  have hseeded : Below F (seeded g).state := by
    intro name t ht
    obtain ⟨hstart, rfl⟩ := mem_follow_seeded.1 ht
    exact hF.start hstart
  have hcompute : Below F (compute g first) :=
    saturate_induction (fun _ hf => sweep_induction (fun _ _ ho => hF.below_visit ho) hf) _ hseeded
  exact hcompute name t ht

theorem ne_epsilon_of_mem_follow (ht : t ∈ (compute g first).follow name) : t ≠ epsilonText := by
  have hF : Closed g first fun _ t => t ≠ epsilonText :=
    ⟨fun _ => by decide, fun _ _ hne _ => hne, fun _ _ hne _ _ => hne⟩
  exact hF.of_mem_follow ht

end Lookahead.FollowSets
