import Lookahead.Proofs.Conflict.Alternation
import Lookahead.Proofs.Follow.Solution

/-!
# Concatenation warnings and FOLLOW sets

Warnings about neighbours are found from FIRST sets alone, but they agree with the FOLLOW sets. A
symbol that is warned about is a nonterminal (`exists_name_of_isNullable`), and what the symbol
after it starts with follows it (`FollowSets.mem_follow_of_next`). So whatever is shared is in the
FIRST and in the FOLLOW set of the same nullable nonterminal.
-/

namespace Lookahead

open Grammar

variable {g : Grammar} {first : FirstSets} {left right : Symbol} {name t : String} {w : Warning}

theorem mem_neighbours {α : Type} {l : List α} {a b : α} :
    (a, b) ∈ neighbours l ↔ ∃ before after, l = before ++ a :: b :: after := by
  induction l with
  | nil => simp [neighbours]
  | cons c l ih =>
    cases l with
    | nil => simp [neighbours, List.cons_eq_append_iff]
    | cons d l =>
      have hcons : neighbours (c :: d :: l) = (c, d) :: neighbours (d :: l) := rfl
      rw [hcons, List.mem_cons, ih]
      constructor
      · rintro (heq | ⟨before, after, hl⟩)
        · obtain ⟨rfl, rfl⟩ := Prod.mk.inj heq
          exact ⟨[], l, rfl⟩
        · exact ⟨c :: before, after, congrArg (c :: ·) hl⟩
      · rintro ⟨before, after, hl⟩
        cases before with
        | nil =>
          obtain ⟨rfl, htail⟩ := List.cons.inj hl
          obtain ⟨rfl, -⟩ := List.cons.inj htail
          exact .inl rfl
        | cons c' before =>
          obtain ⟨rfl, htail⟩ := List.cons.inj hl
          exact .inr ⟨before, after, htail⟩

theorem mem_conflicts_cases (h : w ∈ g.conflicts first) :
    w.kind.isAlternation = true ∨
      ∃ rule ∈ g.rules, ∃ before left right after,
        rule.production.symbols = before ++ left :: right :: after ∧
        Alternatives.concatenation? first rule.head rule.production left right = some w := by
  obtain ⟨a, ha, hw⟩ := List.mem_flatMap.1 h
  obtain ⟨-, hproductions⟩ := mem_alternatives.1 ha
  rcases List.mem_append.1 hw with hw | hw
  · obtain ⟨⟨p, q⟩, -, hw⟩ := List.mem_filterMap.1 hw
    obtain ⟨-, rfl⟩ := alternation?_eq_some.1 hw
    exact .inl rfl
  · obtain ⟨p, hp, hw⟩ := List.mem_flatMap.1 hw
    obtain ⟨⟨left, right⟩, hneighbours, hw⟩ := List.mem_filterMap.1 hw
    obtain ⟨before, after, hsymbols⟩ := mem_neighbours.1 hneighbours
    rw [hproductions] at hp
    exact .inr ⟨⟨a.head, p⟩, mem_productions.1 hp, before, left, right, after, hsymbols, hw⟩

/-- Only a nonterminal is nullable and starts with something: `epsilon` starts with nothing, and no
other terminal is nullable. -/
theorem exists_name_of_isNullable (hnull : first.isNullable left = true)
    (ht : t ∈ (first.ofSymbol left).terminals) : ∃ name, left = .nonterminal name := by
  cases left with
  | terminal text =>
    obtain ⟨rfl, hne⟩ := FirstSets.mem_terminals_terminal.1 ht
    exact absurd (FirstSets.isNullable_terminal.1 hnull) hne
  | nonterminal name => exact ⟨name, rfl⟩

theorem FollowSets.mem_follow_of_next {rule : Rule} {before after : List Symbol}
    (hr : rule ∈ g.rules)
    (hsymbols : rule.production.symbols = before ++ .nonterminal name :: right :: after)
    (hne : t ≠ epsilonText) (ht : t ∈ (first.ofSymbol right).terminals) :
    t ∈ (compute g first).follow name :=
  (closed_compute g first).trailer hr hsymbols hne (FirstSets.mem_ofSequence_cons.2 (.inl ht))

/-- A conflict that is no alternation is about a nullable nonterminal, and what is shared starts it
and follows it. -/
theorem Grammar.shared_of_mem_conflicts {head : String} {production : List Symbol}
    {shared : TextSet} (h : w ∈ g.conflicts g.firstSets)
    (hkind : w.kind = .concatenation head production left right shared) :
    ∃ name, left = .nonterminal name ∧ g.firstSets.isNullable left = true ∧ (∃ t, t ∈ shared) ∧
      ∀ t ∈ shared, t ∈ g.firstSets.first name ∧
        t ∈ (FollowSets.compute g g.firstSets).follow name := by
  rcases mem_conflicts_cases h with halt | ⟨rule, hr, before, left', right', after, hsymbols, hw⟩
  · rw [hkind] at halt
    cases halt
  · obtain ⟨hnull, ⟨t, ht⟩, rfl⟩ := concatenation?_eq_some.1 hw
    cases hkind
    obtain ⟨hleft, -⟩ := TextSet.mem_inter.1 ht
    obtain ⟨name, rfl⟩ := exists_name_of_isNullable hnull hleft
    refine ⟨name, rfl, hnull, ⟨t, ht⟩, fun u hu => ?_⟩
    obtain ⟨hfirst, hnext⟩ := TextSet.mem_inter.1 hu
    have hne : u ≠ epsilonText := FirstSets.ne_epsilon_of_mem_first hfirst
    exact ⟨hfirst, FollowSets.mem_follow_of_next hr hsymbols hne hnext⟩

/-- The two ways of looking at what comes after a nullable symbol agree. A concatenation warning is
about a nullable nonterminal, and each terminal that it shows is in the FIRST and in the FOLLOW set
of that nonterminal. So there are none if these two sets are disjoint for every nullable
nonterminal. -/
theorem concatenation_warnings_agree_with_follow (g : Grammar) :
    let a := analyze g
    (∀ w ∈ g.conflicts a.first, ∀ head production left right shared,
      w.kind = .concatenation head production left right shared →
      ∃ name, left = .nonterminal name ∧ a.isNullable name = true ∧ (∃ t, t ∈ shared) ∧
        ∀ t ∈ shared, t ∈ a.first.first name ∧ t ∈ a.follow.follow name) ∧
    ((∀ name, a.isNullable name = true →
        ∀ t ∈ a.first.first name, t ∉ a.follow.follow name) →
      ∀ w ∈ g.conflicts a.first, w.kind.isAlternation = true) := by
  intro a
  have hagree : ∀ w ∈ g.conflicts a.first, ∀ head production left right shared,
      w.kind = .concatenation head production left right shared →
      ∃ name, left = .nonterminal name ∧ a.isNullable name = true ∧ (∃ t, t ∈ shared) ∧
        ∀ t ∈ shared, t ∈ a.first.first name ∧ t ∈ a.follow.follow name := by
    intro w hw head production left right shared hkind
    obtain ⟨name, rfl, hnull, hshared⟩ := g.shared_of_mem_conflicts hw hkind
    rw [FirstSets.isNullable_firstSets] at hnull
    exact ⟨name, rfl, hnull, hshared⟩
  refine ⟨hagree, fun hdisjoint w hw => ?_⟩
  cases hkind : w.kind with
  | alternation => rfl
  | concatenation head production left right shared =>
    obtain ⟨name, -, hnull, ⟨t, ht⟩, hshared⟩ := hagree w hw _ _ _ _ _ hkind
    obtain ⟨hfirst, hfollow⟩ := hshared t ht
    exact absurd hfollow (hdisjoint name hnull t hfirst)

/-- The grammar `S → T`, `T → epsilon A A "x" B`, `A → "a"`, `A → epsilon`, `B → "b"`,
`B → epsilon`. -/
def repeatedLead : Grammar :=
  .ofRules [
    ⟨"S", ⟨[.nonterminal "T"], ⟨"sample.bnf", 1⟩⟩⟩,
    ⟨"T", ⟨[.epsilon, .nonterminal "A", .nonterminal "A", .terminal "x", .nonterminal "B"],
      ⟨"sample.bnf", 2⟩⟩⟩,
    ⟨"A", ⟨[.terminal "a"], ⟨"sample.bnf", 3⟩⟩⟩,
    ⟨"A", ⟨[], ⟨"sample.bnf", 4⟩⟩⟩,
    ⟨"B", ⟨[.terminal "b"], ⟨"sample.bnf", 5⟩⟩⟩,
    ⟨"B", ⟨[.epsilon], ⟨"sample.bnf", 6⟩⟩⟩]

/-- The warning about `A A` in the sample shows `a`, with which `A` starts and which follows it. In
the grammar of `optionalLead` with `S → "s"` added, the only warning is about the two productions of
`S`. -/
theorem concatenation_warnings_agree_with_follow_repeatedLead :
    let a := analyze repeatedLead
    let g' := optionalLead.add ⟨"S", ⟨[.terminal "s"], ⟨"sample.bnf", 4⟩⟩⟩
    let a' := analyze g'
    (∃ w ∈ repeatedLead.conflicts a.first,
      w.kind = .concatenation "T" [.epsilon, .nonterminal "A", .nonterminal "A", .terminal "x",
        .nonterminal "B"] (.nonterminal "A") (.nonterminal "A") (.singleton "a")) ∧
    a.isNullable "A" = true ∧ "a" ∈ a.first.first "A" ∧ "a" ∈ a.follow.follow "A" ∧
    (∀ name, a'.isNullable name = true →
      ∀ t ∈ a'.first.first name, t ∉ a'.follow.follow name) ∧
    (g'.conflicts a'.first).length = 1 ∧
    ∀ w ∈ g'.conflicts a'.first, w.kind.isAlternation = true := by
  intro a g' a'
  have hwarning : ∃ w ∈ repeatedLead.conflicts a.first,
      w.kind = .concatenation "T" [.epsilon, .nonterminal "A", .nonterminal "A", .terminal "x",
        .nonterminal "B"] (.nonterminal "A") (.nonterminal "A") (.singleton "a") := by
    decide +kernel
  obtain ⟨w, hw, hkind⟩ := hwarning
  obtain ⟨name, hname, hnull, -, hshared⟩ :=
    (concatenation_warnings_agree_with_follow repeatedLead).1 w hw _ _ _ _ _ hkind
  obtain rfl := Symbol.nonterminal.inj hname
  obtain ⟨hfirst, hfollow⟩ := hshared "a" (TextSet.mem_singleton.2 rfl)
  have hdisjoint : ∀ name, a'.isNullable name = true →
      ∀ t ∈ a'.first.first name, t ∉ a'.follow.follow name := by
    have hmarked : a'.nullability.marked = .singleton "T" := by decide +kernel
    have hsets : ∀ t ∈ (a'.first.first "T").toList, t ∉ a'.follow.follow "T" := by decide +kernel
    intro name hname
    have hmem : name ∈ a'.nullability.marked := of_decide_eq_true hname
    rw [hmarked, TextSet.mem_singleton] at hmem
    exact hmem ▸ hsets
  exact ⟨⟨w, hw, hkind⟩, hnull, hfirst, hfollow, hdisjoint, by decide +kernel,
    (concatenation_warnings_agree_with_follow g').2 hdisjoint⟩

end Lookahead
