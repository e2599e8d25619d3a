import Lookahead.Proofs.First.Exact
import Lookahead.Proofs.Follow.Solution
import Mathlib.Data.Set.Basic
import Mathlib.Order.Bounds.Basic

/-!
# Rules for pairs of positions

The solvers take what is left of a production at a time. FIRST and FOLLOW sets can also be described
by rules for single positions and for pairs of them: a symbol counts for the head, or for a
nonterminal before it, if every symbol in between can be skipped. For any nullability and any FIRST
sets, also those of another grammar, the computed sets are the least ones that obey these rules
(`least_for_any_input`).
-/

namespace Lookahead

open Grammar

variable {g : Grammar} {ν : Nullability} {first : FirstSets} {name t : String} {rule : Rule}
  {s : Symbol} {F : String → Set String}

namespace FirstSets

def Skips (g : Grammar) (ν : Nullability) (s : Symbol) : Prop :=
  s = .epsilon ∨ ∃ name ∈ g.nonterminals, s = .nonterminal name ∧ name ∈ ν.marked

/-- The sets belong to the nonterminals of the grammar, and the set of a head holds each terminal of
a production, and all of the set of each nonterminal, before which every symbol can be skipped. -/
structure Obeys (g : Grammar) (ν : Nullability) (F : String → Set String) : Prop where
  outside : ∀ {name}, name ∉ g.nonterminals → F name = ∅
  terminal : ∀ {rule before t after}, rule ∈ g.rules →
    rule.production.symbols = before ++ .terminal t :: after →
    (∀ s ∈ before, Skips g ν s) → t ≠ epsilonText → t ∈ F rule.head
  nonterminal : ∀ {rule before name after}, rule ∈ g.rules →
    rule.production.symbols = before ++ .nonterminal name :: after →
    (∀ s ∈ before, Skips g ν s) → name ∈ g.nonterminals → F name ⊆ F rule.head

theorem skips_iff (hr : rule ∈ g.rules) (hs : s ∈ rule.production.symbols) :
    Skips g ν s ↔ ν.isNullable s = true := by
  unfold Skips
  cases s with
  | terminal text => simp [Symbol.epsilon, Nullability.isNullable]
  | nonterminal name =>
    have hname := mem_nonterminals_of_mem_symbols hr hs
    simp only [Symbol.epsilon, reduceCtorEq, false_or, Symbol.nonterminal.injEq,
      Nullability.isNullable_nonterminal]
    constructor
    · rintro ⟨_, -, rfl, hmarked⟩
      exact hmarked
    · exact fun hmarked => ⟨name, hname, rfl, hmarked⟩

theorem forall_skips_iff {before after : List Symbol} (hr : rule ∈ g.rules)
    (hsymbols : rule.production.symbols = before ++ after) :
    (∀ s ∈ before, Skips g ν s) ↔ ν.allNullable before = true := by
  rw [Nullability.allNullable, List.all_eq_true]
  refine forall₂_congr fun s hs => skips_iff hr ?_
  rw [hsymbols]
  exact List.mem_append_left after hs

theorem mem_nonterminals_of_mem_first (ht : t ∈ (compute g ν).first name) :
    name ∈ g.nonterminals := by
  have hF : Closed g ν fun name _ => name ∈ g.nonterminals :=
    ⟨fun hr _ _ _ => mem_nonterminals_of_isDefined (isDefined_head hr),
      fun hr _ _ _ => mem_nonterminals_of_isDefined (isDefined_head hr)⟩
  exact hF.of_mem_first ht

theorem obeys_compute (g : Grammar) (ν : Nullability) :
    Obeys g ν fun name => {t | t ∈ (compute g ν).first name} where
  outside hname := Set.eq_empty_of_forall_notMem fun _ ht =>
    hname (mem_nonterminals_of_mem_first ht)
  terminal hr hsymbols hbefore :=
    (closed_compute g ν).terminal hr hsymbols ((forall_skips_iff hr hsymbols).1 hbefore)
  nonterminal hr hsymbols hbefore _ _ :=
    (closed_compute g ν).nonterminal hr hsymbols ((forall_skips_iff hr hsymbols).1 hbefore)

theorem Obeys.closed (h : Obeys g ν F) : Closed g ν fun name t => t ∈ F name where
  terminal hr hsymbols hbefore :=
    h.terminal hr hsymbols ((forall_skips_iff hr hsymbols).2 hbefore)
  nonterminal hr hsymbols hbefore ht :=
    h.nonterminal hr hsymbols ((forall_skips_iff hr hsymbols).2 hbefore)
      (mem_nonterminals_of_mem_symbols hr (by simp [hsymbols])) ht

theorem isLeast_compute (g : Grammar) (ν : Nullability) :
    IsLeast {F | Obeys g ν F} fun name => {t | t ∈ (compute g ν).first name} :=
  ⟨obeys_compute g ν, fun _ hF _ _ ht => hF.closed.of_mem_first ht⟩

theorem not_mem_epsilon_ofSymbol : epsilonText ∉ ((compute g ν).ofSymbol s).terminals := by
  intro ht
  cases s with
  | terminal text => exact (mem_terminals_terminal.1 ht).2 rfl
  | nonterminal name => exact ne_epsilon_of_mem_first ht rfl

end FirstSets

namespace FollowSets

/-- The sets belong to the nonterminals of the grammar, the end of the input follows the start
symbol, and a nonterminal in a production is followed by what a later symbol starts with, if all
symbols between the two are nullable, and by what follows the head, if all symbols after it are. -/
structure Obeys (g : Grammar) (first : FirstSets) (F : String → Set String) : Prop where
  outside : ∀ {name}, name ∉ g.nonterminals → F name = ∅
  start : ∀ {name}, g.start = some name → endOfInput ∈ F name
  inherited : ∀ {rule before name rest}, rule ∈ g.rules →
    rule.production.symbols = before ++ .nonterminal name :: rest →
    rest = [] ∨ (∀ s ∈ rest, first.isNullable s = true) → F rule.head ⊆ F name
  later : ∀ {rule before name between s after t}, rule ∈ g.rules →
    rule.production.symbols = before ++ .nonterminal name :: (between ++ s :: after) →
    (∀ b ∈ between, first.isNullable b = true) → t ∈ (first.ofSymbol s).terminals →
    t ≠ epsilonText → t ∈ F name

theorem mem_nonterminals_of_mem_follow (ht : t ∈ (compute g first).follow name) :
    name ∈ g.nonterminals := by
  have hF : Closed g first fun name _ => name ∈ g.nonterminals :=
    ⟨fun hstart => mem_nonterminals_of_isDefined (isDefined_of_start hstart),
      fun hr hsymbols _ _ => mem_nonterminals_of_mem_symbols hr (by simp [hsymbols]),
      fun hr hsymbols _ _ _ => mem_nonterminals_of_mem_symbols hr (by simp [hsymbols])⟩
  exact hF.of_mem_follow ht

theorem obeys_compute (g : Grammar) (first : FirstSets) :
    Obeys g first fun name => {t | t ∈ (compute g first).follow name} where
  outside hname := Set.eq_empty_of_forall_notMem fun _ ht =>
    hname (mem_nonterminals_of_mem_follow ht)
  start := (closed_compute g first).start
  inherited {rule before name rest} hr hsymbols hrest t ht := by
    have hnull : (first.ofSequence rest).nullable = true := by
      rw [FirstSets.nullable_ofSequence]
      rcases hrest with rfl | hrest
      · exact nofun
      · exact hrest
    exact (closed_compute g first).inherited hr hsymbols (ne_epsilon_of_mem_follow ht) hnull ht
  later hr hsymbols hbetween ht hne :=
    (closed_compute g first).trailer hr hsymbols hne
      (FirstSets.mem_ofSequence.2 ⟨_, _, _, rfl, hbetween, ht⟩)

theorem Obeys.closed (h : Obeys g first F) : Closed g first fun name t => t ∈ F name where
  start := h.start
  trailer hr hsymbols hne ht := by
    obtain ⟨between, s, after, rfl, hbetween, hs⟩ := FirstSets.mem_ofSequence.1 ht
    exact h.later hr hsymbols hbetween hs hne
  inherited hr hsymbols _ hnull ht :=
    h.inherited hr hsymbols (.inr (FirstSets.nullable_ofSequence.1 hnull)) ht

theorem isLeast_compute (g : Grammar) (first : FirstSets) :
    IsLeast {F | Obeys g first F} fun name => {t | t ∈ (compute g first).follow name} :=
  ⟨obeys_compute g first, fun _ hF _ _ ht => hF.closed.of_mem_follow ht⟩

end FollowSets

/-- Whatever nullability they are given, the FIRST sets are the least sets of the nonterminals that
obey the rules for positions, and whatever FIRST sets they are given, so are the FOLLOW sets. FIRST
sets that were computed, for this grammar or another one, do not hold the `epsilon` that the FOLLOW
sets leave out. -/
theorem least_for_any_input (g : Grammar) (ν : Nullability) (first : FirstSets) :
    IsLeast {F | FirstSets.Obeys g ν F} (fun name => {t | t ∈ (FirstSets.compute g ν).first name}) ∧
    IsLeast {F | FollowSets.Obeys g first F}
      (fun name => {t | t ∈ (FollowSets.compute g first).follow name}) ∧
    ∀ s, epsilonText ∉ ((FirstSets.compute g ν).ofSymbol s).terminals :=
  ⟨FirstSets.isLeast_compute g ν, FollowSets.isLeast_compute g first, fun _ =>
    FirstSets.not_mem_epsilon_ofSymbol⟩

example : (FirstSets.compute optionalLead .none).first "S" = .ofList ["t"] := by decide +kernel

end Lookahead
