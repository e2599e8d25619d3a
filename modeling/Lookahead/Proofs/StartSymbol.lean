import Lookahead.Conflict
import Lookahead.Proofs.First.Exact
import Lookahead.Proofs.Follow.Solution

/-!
# The choice of the start symbol

Nullability, FIRST sets and conflicts are read off the rules of a grammar alone. The start symbol
comes in only as the seed of the FOLLOW sets, and since the FOLLOW sets are the least that obey
their rules, another seed can only move the end of the input (`mem_follow_of_rules_eq`). So two
choices of the start symbol differ in nothing else (`start_noninterference`).
-/

namespace Lookahead

open Grammar

variable {g g' : Grammar} {name t : String}

namespace Grammar

theorem nonterminals_congr (h : g.rules = g'.rules) : g.nonterminals = g'.nonterminals := by
  rw [nonterminals, nonterminals, h]

theorem alternatives_congr (h : g.rules = g'.rules) : g.alternatives = g'.alternatives := by
  obtain ⟨rules, chosen, hchosen⟩ := g
  obtain ⟨rules', chosen', hchosen'⟩ := g'
  obtain rfl : rules = rules' := h
  rfl

theorem nullability_congr (h : g.rules = g'.rules) :
    Nullability.compute g = Nullability.compute g' := by
  simp only [Nullability.compute, Nullability.solve, alternatives_congr h]

theorem firstSets_congr (h : g.rules = g'.rules) : g.firstSets = g'.firstSets := by
  simp only [firstSets, FirstSets.compute, FirstSets.solve, FirstSets.seeded, nullability_congr h,
    alternatives_congr h, nonterminals_congr h]

theorem conflicts_congr (h : g.rules = g'.rules) (first : FirstSets) :
    g.conflicts first = g'.conflicts first := by
  rw [conflicts, conflicts, alternatives_congr h]

end Grammar

namespace FollowSets

variable {first : FirstSets}

/-- The FOLLOW sets for one start symbol, with the end of the input added everywhere, obey the rules
for every other one. -/
theorem closed_of_rules_eq (h : g.rules = g'.rules) (first : FirstSets) :
    Closed g first fun name t => t ∈ (compute g' first).follow name ∨ t = endOfInput where
  start _ := .inr rfl
  trailer hr hsymbols hne ht :=
    .inl ((closed_compute g' first).trailer (h ▸ hr) hsymbols hne ht)
  inherited hr hsymbols hne hnull ht :=
    ht.imp_left ((closed_compute g' first).inherited (h ▸ hr) hsymbols hne hnull)

theorem mem_follow_of_rules_eq (h : g.rules = g'.rules)
    (ht : t ∈ (compute g first).follow name) :
    t ∈ (compute g' first).follow name ∨ t = endOfInput :=
  (closed_of_rules_eq h first).of_mem_follow ht

theorem erase_follow_congr (h : g.rules = g'.rules) (first : FirstSets) (name : String) :
    ((compute g first).follow name).erase endOfInput =
      ((compute g' first).follow name).erase endOfInput := by
  apply TextSet.ext
  intro t
  rw [TextSet.mem_erase, TextSet.mem_erase]
  refine and_congr_left fun hne => ⟨fun ht => ?_, fun ht => ?_⟩
  · exact (mem_follow_of_rules_eq h ht).resolve_right hne
  · exact (mem_follow_of_rules_eq h.symm ht).resolve_right hne

end FollowSets

/-- Any two defined nonterminals can be chosen as start symbol, and the two analyses agree on
nullability, on FIRST sets, on conflicts and, apart from the end of the input, on what follows each
name. -/
theorem start_noninterference (g : Grammar) (S₁ S₂ : String) (h₁ : g.isDefined S₁ = true)
    (h₂ : g.isDefined S₂ = true) :
    ∃ g₁ g₂, g.withStart? S₁ = some g₁ ∧ g.withStart? S₂ = some g₂ ∧
      g₁.start = some S₁ ∧ g₂.start = some S₂ ∧
      (analyze g₁).nullability = (analyze g₂).nullability ∧
      (analyze g₁).first = (analyze g₂).first ∧
      g₁.conflicts (analyze g₁).first = g₂.conflicts (analyze g₂).first ∧
      ∀ name, ((analyze g₁).follow.follow name).erase endOfInput =
        ((analyze g₂).follow.follow name).erase endOfInput := by
  obtain ⟨g₁, hg₁⟩ := exists_withStart? h₁
  obtain ⟨g₂, hg₂⟩ := exists_withStart? h₂
  have hrules : g₁.rules = g₂.rules := (rules_withStart? hg₁).trans (rules_withStart? hg₂).symm
  have hfirst : g₁.firstSets = g₂.firstSets := firstSets_congr hrules
  refine ⟨g₁, g₂, hg₁, hg₂, start_withStart? hg₁, start_withStart? hg₂, nullability_congr hrules,
    hfirst, ?_, fun name => ?_⟩
  · change g₁.conflicts g₁.firstSets = g₂.conflicts g₂.firstSets
    rw [hfirst, conflicts_congr hrules]
  · change ((FollowSets.compute g₁ g₁.firstSets).follow name).erase endOfInput =
      ((FollowSets.compute g₂ g₂.firstSets).follow name).erase endOfInput
    rw [hfirst, FollowSets.erase_follow_congr hrules]

/-- With `T` as start symbol of the sample instead of `S`, the end of the input follows `T` as well,
and that is the only difference. -/
theorem start_noninterference_optionalLead :
    optionalLead.isDefined "S" = true ∧ optionalLead.isDefined "T" = true ∧
    ∃ g₁ g₂, optionalLead.withStart? "S" = some g₁ ∧ optionalLead.withStart? "T" = some g₂ ∧
      (analyze g₁).first = (analyze g₂).first ∧
      (analyze g₁).follow.follow "T" ≠ (analyze g₂).follow.follow "T" ∧
      ((analyze g₁).follow.follow "T").erase endOfInput =
        ((analyze g₂).follow.follow "T").erase endOfInput := by
  have hs : optionalLead.isDefined "S" = true := by decide
  have ht : optionalLead.isDefined "T" = true := by decide
  obtain ⟨g₁, g₂, hg₁, hg₂, -, -, -, hfirst, -, hfollow⟩ :=
    start_noninterference optionalLead "S" "T" hs ht
  refine ⟨hs, ht, g₁, g₂, hg₁, hg₂, hfirst, ?_, hfollow "T"⟩
  have hfollow₁ : (optionalLead.withStart? "S").map (fun g => (analyze g).follow.follow "T") =
      some (.ofList ["s"]) := by decide +kernel
  have hfollow₂ : (optionalLead.withStart? "T").map (fun g => (analyze g).follow.follow "T") =
      some (.ofList ["s", endOfInput]) := by decide +kernel
  rw [hg₁, Option.map_some, Option.some.injEq] at hfollow₁
  rw [hg₂, Option.map_some, Option.some.injEq] at hfollow₂
  rw [hfollow₁, hfollow₂]
  decide +kernel

end Lookahead
