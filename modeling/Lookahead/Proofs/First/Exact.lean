import Lookahead.Analysis
import Lookahead.Proofs.First.Solution
import Lookahead.Proofs.Nullability

/-!
# FIRST sets are exact

With the nullability of the same grammar, FIRST sets hold exactly the terminals with which a
derivation can start (`mem_ofSequence_iff`), and a sequence is flagged exactly if it derives the
empty sequence (`nullable_ofSequence_iff`). One direction adds up the derivations behind each entry,
the other undoes a derivation step by step.
-/

namespace Lookahead

open Grammar

variable {g : Grammar} {name t : String} {c u v : List Symbol}

/-- The FIRST sets of a grammar by its own nullability. -/
abbrev Grammar.firstSets (g : Grammar) : FirstSets := .compute g (.compute g)

namespace FirstSets

theorem isNullable_firstSets (s : Symbol) :
    g.firstSets.isNullable s = (Nullability.compute g).isNullable s := by
  rw [Bool.eq_iff_iff]
  cases s with
  | terminal text =>
    rw [isNullable_terminal]
    simp [Nullability.isNullable]
  | nonterminal name =>
    rw [(flagged_compute g _).isNullable_nonterminal, Nullability.isNullable_nonterminal]
    exact and_iff_right_of_imp fun h =>
      mem_nonterminals_of_isDefined (Nullability.isDefined_of_mem_marked h)

theorem nullable_ofSequence_iff : (g.firstSets.ofSequence c).nullable = true ↔ g.Derives c [] := by
  rw [nullable_ofSequence, ← Nullability.allNullable_compute_iff, Nullability.allNullable,
    List.all_eq_true]
  simp only [isNullable_firstSets]

theorem isNullable_iff {s : Symbol} : g.firstSets.isNullable s = true ↔ g.Derives [s] [] := by
  rw [← nullable_ofSequence_iff, nullable_ofSequence, List.forall_mem_singleton]

/-! ## From the sets to derivations -/

/-- Terminals that can start what productions derive add nothing to themselves. -/
theorem closed_starts (g : Grammar) :
    Closed g (.compute g) fun name => g.Starts [.nonterminal name] where
  terminal {rule before t after} hr hsymbols hbefore ht := by
    have hnil := Nullability.allNullable_compute_iff.1 hbefore
    refine (derives_rule hr).starts ?_
    rw [hsymbols]
    exact starts_of_derives_nil hnil ⟨ht, [], .refl _⟩ after
  nonterminal {rule before name after t} hr hsymbols hbefore ht := by
    have hnil := Nullability.allNullable_compute_iff.1 hbefore
    refine (derives_rule hr).starts ?_
    rw [hsymbols]
    exact starts_of_derives_nil hnil ht after

/-! ## From derivations to the sets -/

theorem mem_ofSequence_of_produces (hs : g.Produces u v)
    (ht : t ∈ (g.firstSets.ofSequence v).terminals) :
    t ∈ (g.firstSets.ofSequence u).terminals := by
  cases hs with
  | @expand rule before after hr =>
    rw [List.append_assoc, mem_ofSequence_append, mem_ofSequence_append] at ht
    rw [mem_ofSequence_append, mem_ofSequence_cons]
    rcases ht with ht | ⟨hbefore, ht | ⟨hrule, ht⟩⟩
    · exact .inl ht
    · exact .inr ⟨hbefore, .inl (mem_first_of_rule hr ht)⟩
    · refine .inr ⟨hbefore, .inr ⟨?_, ht⟩⟩
      have hnil : g.Derives [.nonterminal rule.head] [] :=
        (derives_rule hr).trans (nullable_ofSequence_iff.1 hrule)
      exact nullable_ofSequence.1 (nullable_ofSequence_iff.2 hnil) _ List.mem_cons_self
  | erase before after =>
    rw [mem_ofSequence_append] at ht
    rw [mem_ofSequence_append, mem_ofSequence_cons]
    exact ht.imp_right fun h => ⟨h.1, .inr ⟨isNullable_epsilon, h.2⟩⟩

theorem mem_ofSequence_iff : t ∈ (g.firstSets.ofSequence c).terminals ↔ g.Starts c t := by
  constructor
  · intro ht
    obtain ⟨before, s, after, rfl, hbefore, hs⟩ := mem_ofSequence.1 ht
    have hnil := nullable_ofSequence_iff.1 (nullable_ofSequence.2 hbefore)
    refine starts_of_derives_nil hnil ?_ after
    cases s with
    | terminal text =>
      obtain ⟨rfl, hne⟩ := mem_terminals_terminal.1 hs
      exact ⟨hne, [], .refl _⟩
    | nonterminal n => exact (closed_starts g).of_mem_first hs
  · rintro ⟨hne, rest, hd⟩
    generalize hv : Symbol.terminal t :: rest = v at hd
    induction hd with
    | refl => exact hv ▸ mem_ofSequence_cons.2 (.inl (mem_terminals_terminal.2 ⟨rfl, hne⟩))
    | step hs _ ih => exact mem_ofSequence_of_produces hs (ih hv)

theorem mem_ofSymbol_iff {s : Symbol} :
    t ∈ (g.firstSets.ofSymbol s).terminals ↔ g.Starts [s] t := by
  rw [← mem_ofSequence_iff, mem_ofSequence_cons]
  exact (or_iff_left fun h => TextSet.not_mem_empty _ h.2).symm

theorem mem_first_iff : t ∈ g.firstSets.first name ↔ g.Starts [.nonterminal name] t :=
  mem_ofSymbol_iff (s := .nonterminal name)

end FirstSets

/-- FIRST sets are exact: the set of a nonterminal holds the terminals with which a derivation from
it can begin, the set of a chain those with which a derivation from the chain can, and a chain is
nullable if it derives the empty sequence. An undefined nonterminal derives only itself. -/
theorem first_sets_exact (g : Grammar) :
    (∀ name t, t ∈ (analyze g).first.first name ↔
      t ≠ epsilonText ∧ ∃ rest, g.Derives [.nonterminal name] (.terminal t :: rest)) ∧
    (∀ c, c ≠ [] →
      (∀ t, t ∈ ((analyze g).first.ofChain c).terminals ↔
        t ≠ epsilonText ∧ ∃ rest, g.Derives c (.terminal t :: rest)) ∧
      (((analyze g).first.ofChain c).nullable = true ↔ g.Derives c [])) ∧
    (∀ name, g.isDefined name = false →
      ∀ v, g.Derives [.nonterminal name] v ↔ v = [.nonterminal name]) := by
  refine ⟨fun _ _ => FirstSets.mem_first_iff, fun c hc => ?_, fun name hname v => ?_⟩
  · rw [FirstSets.ofChain_of_ne_nil hc]
    exact ⟨fun _ => FirstSets.mem_ofSequence_iff, FirstSets.nullable_ofSequence_iff⟩
  · exact ⟨eq_of_derives_undefined hname, fun h => h ▸ .refl _⟩

/-- The grammar `S → T "s"`, `T → "t" T`, `T → epsilon`. -/
def optionalLead : Grammar :=
  .ofRules [
    ⟨"S", .canonical [.nonterminal "T", .terminal "s"] ⟨"sample.bnf", 1⟩⟩,
    ⟨"T", .canonical [.terminal "t", .nonterminal "T"] ⟨"sample.bnf", 2⟩⟩,
    ⟨"T", .canonical [.epsilon] ⟨"sample.bnf", 3⟩⟩]

/-- A nullable nonterminal before an unknown one can start a chain but not vanish in it. -/
theorem first_sets_exact_optionalLead :
    [Symbol.nonterminal "T", .nonterminal "Z"] ≠ [] ∧ optionalLead.isDefined "Z" = false ∧
    (∃ rest, optionalLead.Derives [.nonterminal "T", .nonterminal "Z"] (.terminal "t" :: rest)) ∧
    ¬ optionalLead.Derives [.nonterminal "T", .nonterminal "Z"] [] ∧
    ∀ v, optionalLead.Derives [.nonterminal "Z"] v ↔ v = [.nonterminal "Z"] := by
  have hchain : [Symbol.nonterminal "T", .nonterminal "Z"] ≠ [] := List.cons_ne_nil _ _
  have hz : optionalLead.isDefined "Z" = false := by decide
  obtain ⟨-, hchains, hundefined⟩ := first_sets_exact optionalLead
  obtain ⟨hterminals, hnullable⟩ := hchains _ hchain
  refine ⟨hchain, hz, ((hterminals "t").1 ?_).2, mt hnullable.2 ?_, hundefined "Z" hz⟩
  · decide +kernel
  · decide +kernel

end Lookahead
