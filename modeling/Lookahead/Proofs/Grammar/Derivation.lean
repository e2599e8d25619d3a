import Lookahead.Grammar.Derivation
import Lookahead.Proofs.Grammar.Rules

/-!
# Derivations in context and leftmost derivations

Every `epsilon` of a sequence can be dropped (`derives_withoutEpsilon`). A leftmost derivation of
`u ++ v` is one of `u` followed by one of `v`. From that: the texts with a leftmost derivation are
exactly the texts of terminals that are derived (`derives_iff_leftmost`), so telling leftmost
derivations apart is telling the parses of a text apart.
-/

namespace Lookahead

def withoutEpsilon (symbols : List Symbol) : List Symbol := symbols.filter (!·.isEpsilon)

@[simp] theorem withoutEpsilon_nil : withoutEpsilon [] = [] := rfl

@[simp] theorem withoutEpsilon_append (u v : List Symbol) :
    withoutEpsilon (u ++ v) = withoutEpsilon u ++ withoutEpsilon v :=
  List.filter_append u v

@[simp] theorem withoutEpsilon_epsilon_cons (u : List Symbol) :
    withoutEpsilon (.epsilon :: u) = withoutEpsilon u := rfl

theorem withoutEpsilon_cons {s : Symbol} (hs : s ≠ .epsilon) (u : List Symbol) :
    withoutEpsilon (s :: u) = s :: withoutEpsilon u :=
  List.filter_cons_of_pos (by simpa [Symbol.isEpsilon] using hs)

@[simp] theorem withoutEpsilon_nonterminal_cons (name : String) (u : List Symbol) :
    withoutEpsilon (.nonterminal name :: u) = .nonterminal name :: withoutEpsilon u := rfl

theorem withoutEpsilon_terminal_cons {t : String} (ht : t ≠ epsilonText) (u : List Symbol) :
    withoutEpsilon (.terminal t :: u) = .terminal t :: withoutEpsilon u :=
  withoutEpsilon_cons (fun h => ht (Symbol.terminal.inj h)) u

theorem withoutEpsilon_map_terminal (text : List String) :
    withoutEpsilon (text.map .terminal) = (text.filter (· ≠ epsilonText)).map .terminal := by
  induction text with
  | nil => rfl
  | cons t text ih =>
    by_cases ht : t = epsilonText
    · rw [List.filter_cons_of_neg (by simpa using ht), ← ih, ht]
      rfl
    · simp [withoutEpsilon_terminal_cons ht, ht, ih]

namespace Grammar

variable {g : Grammar} {u v w : List Symbol} {name : String}

theorem Derives.context (h : g.Derives u v) (before after : List Symbol) :
    g.Derives (before ++ u ++ after) (before ++ v ++ after) :=
  (h.append_left before).append_right after

theorem derives_rule {rule : Rule} (h : rule ∈ g.rules) :
    g.Derives [.nonterminal rule.head] rule.production.symbols :=
  derives_production (mem_productions.2 h)

theorem derives_epsilon : g.Derives [.epsilon] [] :=
  .single (.erase [] [])

theorem derives_withoutEpsilon (g : Grammar) (u : List Symbol) :
    g.Derives u (withoutEpsilon u) := by
  induction u with
  | nil => exact .refl []
  | cons s u ih =>
    by_cases hs : s = .epsilon
    · subst hs
      exact derives_epsilon.append ih
    · rw [withoutEpsilon_cons hs]
      exact ih.append_left [s]

theorem isDefined_of_derives (h : g.Derives [.nonterminal name] v) (hv : v ≠ [.nonterminal name]) :
    g.isDefined name = true := by
  cases hn : g.isDefined name with
  | true => rfl
  | false => exact absurd (eq_of_derives_undefined hn h) hv

/-- Some symbols derive a sequence that begins with the terminal `t`. -/
def Starts (g : Grammar) (u : List Symbol) (t : String) : Prop :=
  t ≠ epsilonText ∧ ∃ rest, g.Derives u (.terminal t :: rest)

theorem Derives.starts {t : String} (h : g.Derives u v) (hv : g.Starts v t) : g.Starts u t :=
  let ⟨ht, rest, hd⟩ := hv; ⟨ht, rest, h.trans hd⟩

theorem starts_of_derives_nil {t : String} {s : Symbol} (hu : g.Derives u []) (hs : g.Starts [s] t)
    (v : List Symbol) : g.Starts (u ++ s :: v) t :=
  let ⟨ht, rest, hd⟩ := hs; ⟨ht, rest ++ v, hu.append (hd.append_right v)⟩

/-! ## Leftmost derivations -/

variable {c c₁ c₂ : List Nat} {text t₁ t₂ : List String}

theorem Leftmost.append (h₁ : g.Leftmost u c₁ t₁) (h₂ : g.Leftmost v c₂ t₂) :
    g.Leftmost (u ++ v) (c₁ ++ c₂) (t₁ ++ t₂) := by
  induction h₁ with
  | done => exact h₂
  | terminal ht _ ih => exact .terminal ht ih
  | erase _ ih => exact .erase ih
  | expand hp _ ih =>
    rw [List.append_assoc] at ih
    exact .expand hp ih

theorem Leftmost.split (h : g.Leftmost w c text) (hw : w = u ++ v) :
    ∃ c₁ c₂ t₁ t₂, c = c₁ ++ c₂ ∧ text = t₁ ++ t₂ ∧ g.Leftmost u c₁ t₁ ∧ g.Leftmost v c₂ t₂ := by
  induction h generalizing u with
  | done =>
    obtain ⟨rfl, rfl⟩ := List.append_eq_nil_iff.1 hw.symm
    exact ⟨[], [], [], [], rfl, rfl, .done, .done⟩
  | terminal ht hl ih =>
    cases u with
    | nil =>
      obtain rfl : _ = v := hw
      exact ⟨[], _, [], _, rfl, rfl, .done, .terminal ht hl⟩
    | cons s u =>
      obtain ⟨rfl, rfl⟩ := List.cons.inj hw
      obtain ⟨c₁, c₂, t₁, t₂, rfl, rfl, h₁, h₂⟩ := ih rfl
      exact ⟨c₁, c₂, _, t₂, rfl, rfl, .terminal ht h₁, h₂⟩
  | erase hl ih =>
    cases u with
    | nil =>
      obtain rfl : _ = v := hw
      exact ⟨[], _, [], _, rfl, rfl, .done, .erase hl⟩
    | cons s u =>
      obtain ⟨rfl, rfl⟩ := List.cons.inj hw
      obtain ⟨c₁, c₂, t₁, t₂, rfl, rfl, h₁, h₂⟩ := ih rfl
      exact ⟨c₁, c₂, t₁, t₂, rfl, rfl, .erase h₁, h₂⟩
  | expand hp hl ih =>
    cases u with
    | nil =>
      obtain rfl : _ = v := hw
      exact ⟨[], _, [], _, rfl, rfl, .done, .expand hp hl⟩
    | cons s u =>
      obtain ⟨rfl, rfl⟩ := List.cons.inj hw
      obtain ⟨c₁, c₂, t₁, t₂, rfl, rfl, h₁, h₂⟩ := ih (List.append_assoc ..).symm
      exact ⟨_ :: c₁, c₂, t₁, t₂, rfl, rfl, .expand hp h₁, h₂⟩

theorem Leftmost.derives (h : g.Leftmost u c text) : g.Derives u (text.map .terminal) := by
  induction h with
  | done => exact .refl []
  | terminal _ _ ih => exact ih.append_left [_]
  | erase _ ih => exact .step (.erase [] _) ih
  | expand hp _ ih =>
    exact ((derives_production (List.mem_of_getElem? hp)).append_right _).trans ih

theorem leftmost_terminals (h : epsilonText ∉ text) : g.Leftmost (text.map .terminal) [] text := by
  induction text with
  | nil => exact .done
  | cons t text ih =>
    obtain ⟨ht, htext⟩ := not_or.1 (mt List.mem_cons.2 h)
    exact .terminal (Ne.symm ht) (ih htext)

/-- A step before a leftmost derivation can be put where it belongs. -/
theorem Produces.exists_leftmost (hs : g.Produces u v) (h : g.Leftmost v c text) :
    ∃ c', g.Leftmost u c' text := by
  cases hs with
  | @expand rule before after hr =>
    obtain ⟨_, c₃, _, t₃, rfl, rfl, h', h₃⟩ := h.split rfl
    obtain ⟨c₁, c₂, t₁, t₂, rfl, rfl, h₁, h₂⟩ := h'.split rfl
    obtain ⟨i, hi⟩ := List.getElem?_of_mem (mem_productions.2 hr)
    refine ⟨c₁ ++ i :: (c₂ ++ c₃), ?_⟩
    rw [List.append_assoc]
    exact h₁.append (.expand hi (h₂.append h₃))
  | erase before after =>
    obtain ⟨c₁, c₂, t₁, t₂, rfl, rfl, h₁, h₂⟩ := h.split rfl
    exact ⟨c₁ ++ c₂, h₁.append (.erase h₂)⟩

/-- A text is derived exactly if it has a leftmost derivation. -/
theorem derives_iff_leftmost (h : epsilonText ∉ text) :
    g.Derives u (text.map .terminal) ↔ ∃ c, g.Leftmost u c text := by
  constructor
  · intro hd
    generalize hv : text.map Symbol.terminal = v at hd
    induction hd with
    | refl => exact ⟨[], hv ▸ leftmost_terminals h⟩
    | step hs _ ih =>
      obtain ⟨c, hc⟩ := ih hv
      exact hs.exists_leftmost hc
  · rintro ⟨c, hc⟩
    exact hc.derives

end Grammar

end Lookahead
