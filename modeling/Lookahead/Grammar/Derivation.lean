import Lookahead.Grammar

/-!
# Derivations

What a sequence of symbols derives: a step replaces a nonterminal by the symbols of one of its
productions, or drops an `epsilon`. Derivations can be put in a context and put one after the
other. `Leftmost` describes the derivations of a text of terminals in which the first nonterminal
is always replaced next, told apart by the positions of the productions they use.
-/

namespace Lookahead.Grammar

inductive Produces (g : Grammar) : List Symbol → List Symbol → Prop where
  | expand {rule : Rule} (before after : List Symbol) : rule ∈ g.rules →
      Produces g (before ++ .nonterminal rule.head :: after)
        (before ++ rule.production.symbols ++ after)
  | erase (before after : List Symbol) : Produces g (before ++ .epsilon :: after) (before ++ after)

inductive Derives (g : Grammar) : List Symbol → List Symbol → Prop where
  | refl (u : List Symbol) : Derives g u u
  | step {u v w : List Symbol} : Produces g u v → Derives g v w → Derives g u w

/-- A leftmost derivation of a text from some symbols. The numbers are the positions of the
productions that replace the nonterminals, among the productions of each. -/
inductive Leftmost (g : Grammar) : List Symbol → List Nat → List String → Prop where
  | done : Leftmost g [] [] []
  | terminal {t : String} {u : List Symbol} {choices : List Nat} {text : List String} :
      t ≠ epsilonText → Leftmost g u choices text →
      Leftmost g (.terminal t :: u) choices (t :: text)
  | erase {u : List Symbol} {choices : List Nat} {text : List String} :
      Leftmost g u choices text → Leftmost g (.epsilon :: u) choices text
  | expand {head : String} {i : Nat} {p : Production} {u : List Symbol} {choices : List Nat}
      {text : List String} : (g.productions head)[i]? = some p →
      Leftmost g (p.symbols ++ u) choices text →
      Leftmost g (.nonterminal head :: u) (i :: choices) text

variable {g : Grammar} {u v w x : List Symbol}

theorem Produces.append_left (h : g.Produces u v) (x : List Symbol) :
    g.Produces (x ++ u) (x ++ v) := by
  cases h with
  | expand before after hr => simpa using Produces.expand (x ++ before) after hr
  | erase before after => simpa using Produces.erase (g := g) (x ++ before) after

theorem Produces.append_right (h : g.Produces u v) (x : List Symbol) :
    g.Produces (u ++ x) (v ++ x) := by
  cases h with
  | expand before after hr => simpa using Produces.expand before (after ++ x) hr
  | erase before after => simpa using Produces.erase (g := g) before (after ++ x)

theorem Derives.trans (h : g.Derives u v) (h' : g.Derives v w) : g.Derives u w := by
  induction h with
  | refl => exact h'
  | step hs _ ih => exact .step hs (ih h')

theorem Derives.single (h : g.Produces u v) : g.Derives u v := .step h (.refl v)

theorem Derives.append_left (h : g.Derives u v) (x : List Symbol) :
    g.Derives (x ++ u) (x ++ v) := by
  induction h with
  | refl => exact .refl _
  | step hs _ ih => exact .step (hs.append_left x) ih

theorem Derives.append_right (h : g.Derives u v) (x : List Symbol) :
    g.Derives (u ++ x) (v ++ x) := by
  induction h with
  | refl => exact .refl _
  | step hs _ ih => exact .step (hs.append_right x) ih

theorem Derives.append (h : g.Derives u v) (h' : g.Derives w x) :
    g.Derives (u ++ w) (v ++ x) :=
  (h.append_right w).trans (h'.append_left v)

/-- A defined nonterminal derives the symbols of each of its productions. -/
theorem derives_production {head : String} {p : Production} (h : p ∈ g.productions head) :
    g.Derives [.nonterminal head] p.symbols := by
  obtain ⟨rule, hr, rfl⟩ := List.mem_map.1 h
  obtain ⟨hm, heq⟩ := List.mem_filter.1 hr
  rw [← eq_of_beq heq]
  simpa using Derives.single (Produces.expand [] [] hm)

theorem exists_production_of_produces {head : String} (h : g.Produces [.nonterminal head] u) :
    ∃ p ∈ g.productions head, u = p.symbols := by
  generalize hw : [Symbol.nonterminal head] = w at h
  cases h with
  | @expand rule before after hr =>
    obtain ⟨rfl, hsingle⟩ | ⟨-, hnil⟩ := List.append_eq_singleton_iff.1 hw.symm
    · obtain ⟨hhead, rfl⟩ := List.cons.inj hsingle
      obtain rfl := Symbol.nonterminal.inj hhead
      refine ⟨rule.production, List.mem_map_of_mem (List.mem_filter.2 ⟨hr, beq_self_eq_true _⟩), ?_⟩
      simp
    · cases hnil
  | erase before after =>
    obtain ⟨-, hsingle⟩ | ⟨-, hnil⟩ := List.append_eq_singleton_iff.1 hw.symm
    · cases hsingle
    · cases hnil

/-- An undefined nonterminal derives only itself. -/
theorem eq_of_derives_undefined {name : String} (hn : g.isDefined name = false)
    (h : g.Derives [.nonterminal name] v) : v = [.nonterminal name] := by
  cases h with
  | refl => rfl
  | step hs _ =>
    obtain ⟨p, hp, -⟩ := exists_production_of_produces hs
    obtain ⟨rule, hr, -⟩ := List.mem_map.1 hp
    obtain ⟨hr, hhead⟩ := List.mem_filter.1 hr
    have hd : g.isDefined name = true := isDefined_iff.2 ⟨rule, hr, eq_of_beq hhead⟩
    rw [hn] at hd
    cases hd

end Lookahead.Grammar
