import Lookahead.Proofs.Unambiguous

/-!
# Predictive grammars are not left-recursive

A nonterminal is left-recursive if in one or more steps it derives something that begins with
itself, directly, through other nonterminals or behind symbols that vanish. Every nonterminal on the
way has a production that leads on to the next one, the leading production. In a predictive grammar
the first step of any derivation of a text is by that production, so part of the derivation is a
shorter one from the next nonterminal, and there is no end to it (`Predictive.not_leftRecursive`).
-/

namespace Lookahead

open Grammar

variable {g : Grammar} {head name member t : String} {u v rest before : List Symbol} {c : List Nat}
  {text : List String}

namespace Grammar

/-- Something that `head` derives begins with `name`. -/
def BeginsWith (g : Grammar) (head name : String) : Prop :=
  ∃ rest, g.Derives [.nonterminal head] (.nonterminal name :: rest)

/-- Something that `head` derives in one or more steps begins with `name`. -/
def LeadsTo (g : Grammar) (head name : String) : Prop :=
  ∃ u rest, g.Produces [.nonterminal head] u ∧ g.Derives u (.nonterminal name :: rest)

/-- Something that `name` derives in one or more steps begins with `name` again. -/
def LeftRecursive (g : Grammar) (name : String) : Prop := g.LeadsTo name name

/-- Some text of terminals is derived. -/
def Productive (g : Grammar) (u : List Symbol) : Prop :=
  ∃ text : List String, g.Derives u (text.map .terminal)

/-! ## Leading nonterminals -/

/-- Before a nonterminal that leads to `name` everything can vanish. -/
def Leading (g : Grammar) (name : String) (u : List Symbol) : Prop :=
  ∃ before head after, u = before ++ .nonterminal head :: after ∧ g.Derives before [] ∧
    g.BeginsWith head name

theorem Leading.of_produces (hs : g.Produces u v) (h : g.Leading name v) : g.Leading name u := by
  obtain ⟨before, head, after, hv, hnil, hhead⟩ := h
  cases hs with
  | @expand rule b a hr =>
    rcases split_parts hv with ⟨x, rfl, -⟩ | ⟨x, y, hsymbols, rfl, -⟩ | ⟨y, rfl, rfl⟩
    · exact ⟨before, head, x ++ .nonterminal rule.head :: a, by simp, hnil, hhead⟩
    · -- The head of the rule leads to what its production leads to.
      obtain ⟨hb, hx⟩ := derives_nil_append.1 hnil
      obtain ⟨rest, hrest⟩ := hhead
      have hrule : g.Derives [.nonterminal rule.head] (.nonterminal head :: y) := by
        have hd := (derives_rule hr).trans (hsymbols ▸ hx.append_right _)
        simpa using hd
      exact ⟨b, rule.head, a, rfl, hb, rest ++ y, hrule.trans (hrest.append_right y)⟩
    · obtain ⟨hbr, hy⟩ := derives_nil_append.1 hnil
      obtain ⟨hb, hrule⟩ := derives_nil_append.1 hbr
      refine ⟨b ++ .nonterminal rule.head :: y, head, after, by simp, ?_, hhead⟩
      exact hb.append (((derives_rule hr).trans hrule).append hy)
  | erase b a =>
    rw [← List.append_nil b] at hv
    rcases split_parts hv with ⟨x, rfl, -⟩ | ⟨x, y, hsymbols, -⟩ | ⟨y, rfl, rfl⟩
    · exact ⟨before, head, x ++ .epsilon :: a, by simp, hnil, hhead⟩
    · simp at hsymbols
    · rw [List.append_nil] at hnil
      refine ⟨b ++ .epsilon :: y, head, after, by simp, ?_, hhead⟩
      exact .step (.erase b y) hnil

theorem leading_of_derives (h : g.Derives u (.nonterminal name :: rest)) : g.Leading name u := by
  generalize hv : Symbol.nonterminal name :: rest = v at h
  induction h with
  | refl => exact ⟨[], name, rest, hv.symm, .refl [], [], .refl _⟩
  | step hs _ ih => exact (ih hv).of_produces hs

theorem Productive.append (hu : g.Productive u) (hv : g.Productive v) : g.Productive (u ++ v) := by
  obtain ⟨text, hu⟩ := hu
  obtain ⟨text', hv⟩ := hv
  exact ⟨text ++ text', by simpa using hu.append hv⟩

theorem productive_of_forall (h : ∀ s ∈ u, g.Productive [s]) : g.Productive u := by
  induction u with
  | nil => exact ⟨[], .refl []⟩
  | cons s u ih =>
    obtain ⟨hs, hu⟩ := List.forall_mem_cons.1 h
    exact hs.append (ih hu)

theorem productive_of_rule (h : ∀ name ∈ g.nonterminals, g.Productive [.nonterminal name])
    {rule : Rule} (hr : rule ∈ g.rules) : g.Productive rule.production.symbols := by
  refine productive_of_forall fun s hs => ?_
  cases s with
  | terminal t => exact ⟨[t], .refl _⟩
  | nonterminal name => exact h name (mem_nonterminals_of_mem_symbols hr hs)

theorem Productive.exists_leftmost (h : g.Productive u) : ∃ c text, g.Leftmost u c text := by
  obtain ⟨text, hd⟩ := h
  have hne : epsilonText ∉ text.filter (· ≠ epsilonText) := by simp
  have htext := hd.trans (g.derives_withoutEpsilon _)
  rw [withoutEpsilon_map_terminal] at htext
  obtain ⟨c, hc⟩ := (derives_iff_leftmost hne).1 htext
  exact ⟨c, _, hc⟩

/-! ## Round a cycle -/

/-- `member` lies on a cycle of leading nonterminals through `name`. -/
def OnCycle (g : Grammar) (name member : String) : Prop :=
  g.BeginsWith name member ∧ g.LeadsTo member name

theorem OnCycle.starts {next : String} (h : g.OnCycle name member) (h' : g.OnCycle name next)
    (ht : g.Starts [.nonterminal member] t) : g.Starts [.nonterminal next] t := by
  have hstarts : ∀ {u rest} {n : String}, g.Derives u (.nonterminal n :: rest) →
      g.Starts [.nonterminal n] t → g.Starts u t := fun hd hn =>
    hd.starts (starts_of_derives_nil (.refl []) hn _)
  obtain ⟨⟨_, hname⟩, -⟩ := h
  obtain ⟨-, _, _, hstep, hnext⟩ := h'
  exact hstarts (.step hstep hnext) (hstarts hname ht)

/-- A member has a production that leads on to a member. -/
theorem OnCycle.exists_leading (hname : g.LeftRecursive name) (h : g.OnCycle name member) :
    ∃ (i : Nat) (p : Production) (before : List Symbol) (next : String) (after : List Symbol),
      (g.productions member)[i]? = some p ∧
      p.symbols = before ++ .nonterminal next :: after ∧ g.Derives before [] ∧
      g.OnCycle name next := by
  obtain ⟨⟨rest, hmember⟩, u, _, hs, hd⟩ := h
  obtain ⟨p, hp, rfl⟩ := exists_production_of_produces hs
  obtain ⟨before, next, after, hsymbols, hnil, hnext⟩ := leading_of_derives hd
  obtain ⟨i, hi⟩ := List.getElem?_of_mem hp
  refine ⟨i, p, before, next, after, hi, hsymbols, hnil, ⟨after ++ rest, ?_⟩, ?_⟩
  · have hprod : g.Derives [.nonterminal member] (.nonterminal next :: after) := by
      have hb := hnil.append_right (.nonterminal next :: after)
      exact (derives_production hp).trans (hsymbols ▸ hb)
    exact hmember.trans (hprod.append_right rest)
  · obtain ⟨_, hnext⟩ := hnext
    generalize hw : [Symbol.nonterminal next] = w at hnext
    cases hnext with
    | refl =>
      obtain ⟨hhead, -⟩ := List.cons.inj hw
      exact Symbol.nonterminal.inj hhead ▸ hname
    | step hs' hd' => exact ⟨_, _, hw ▸ hs', hd'⟩

/-- What starts symbols that can vanish cannot come after them. -/
theorem Predictive.not_starts_after (hg : g.Predictive)
    (hd : g.Derives [.nonterminal head] (before ++ u)) (hnil : g.Derives before [])
    (hbefore : g.Starts before t) : ¬ g.Starts u t := by
  intro hu
  obtain ⟨b, s, a, rfl, -, hs⟩ :=
    FirstSets.mem_ofSequence.1 (FirstSets.mem_ofSequence_iff.2 hbefore)
  obtain ⟨-, hsa⟩ := derives_nil_append.1 hnil
  obtain ⟨hsnil, ha⟩ : g.Derives [s] [] ∧ g.Derives a [] := derives_nil_append.1 hsa
  cases s with
  | terminal text =>
    obtain ⟨rfl, hne⟩ := FirstSets.mem_terminals_terminal.1 hs
    have hnull := FirstSets.nullable_ofSequence.1 (FirstSets.nullable_ofSequence_iff.2 hsnil)
    exact hne (FirstSets.isNullable_terminal.1 (hnull _ List.mem_cons_self))
  | nonterminal n =>
    rw [List.append_assoc] at hd
    exact hg.separate hsnil (FirstSets.mem_first_iff.1 hs)
      (.of_context hd (starts_append.2 (.inr ⟨ha, hu⟩)))

/-- No member of a cycle yields a terminal: a shortest derivation would contain a shorter one. -/
theorem Predictive.not_leftmost_cons (hg : g.Predictive) (hname : g.LeftRecursive name)
    (h : g.OnCycle name member) : ¬ g.Leftmost [.nonterminal member] c (t :: text) := by
  induction hn : c.length using Nat.strongRecOn generalizing member c t text with
  | ind n ih =>
    intro hl
    obtain ⟨j, q, before, next, after, hq, hsymbols, hnil, hnext⟩ := h.exists_leading hname
    have hstarts : g.Starts [.nonterminal next] t := h.starts hnext hl.starts
    have hqstarts : g.Starts q.symbols t := hsymbols ▸ starts_of_derives_nil hnil hstarts after
    have hbody : g.Derives [.nonterminal member] (before ++ .nonterminal next :: after) :=
      hsymbols ▸ derives_production (List.mem_of_getElem? hq)
    cases hl with
    | @expand _ i p _ c _ hp hl =>
      -- The first step is by the leading production.
      rw [List.append_nil] at hl
      obtain rfl := hg.eq_of_confusable hp hq (.inl ⟨t, hl.starts, hqstarts⟩)
      obtain rfl := Option.some.inj (hp.symm.trans hq)
      obtain ⟨c₁, _, t₁, _, rfl, htext, h₁, h₂₃⟩ := hl.split hsymbols
      obtain ⟨c₂, c₃, t₂, t₃, rfl, rfl, h₂, h₃⟩ := h₂₃.split (u := [.nonterminal next]) rfl
      -- The terminal comes from before the next member, from it or from after it.
      cases t₁ with
      | cons t' t₁ =>
        obtain ⟨rfl, -⟩ := List.cons.inj htext
        exact hg.not_starts_after hbody hnil h₁.starts
          (starts_of_derives_nil (.refl []) hstarts after)
      | nil =>
        cases t₂ with
        | cons t' t₂ =>
          have hlt : c₂.length < n := by simp [← hn]; omega
          exact ih _ hlt hnext rfl h₂
        | nil =>
          obtain rfl : t :: text = t₃ := htext
          exact hg.separate h₂.derives hstarts (.of_context hbody h₃.starts)

/-- No member of a cycle yields nothing either, if its leading production yields some text. -/
theorem Predictive.not_leftmost_nil (hg : g.Predictive) (hname : g.LeftRecursive name)
    (hproductive : ∀ n ∈ g.nonterminals, g.Productive [.nonterminal n])
    (h : g.OnCycle name member) : ¬ g.Leftmost [.nonterminal member] c [] := by
  induction hn : c.length using Nat.strongRecOn generalizing member c with
  | ind n ih =>
    intro hl
    obtain ⟨j, q, before, next, after, hq, hsymbols, hnil, hnext⟩ := h.exists_leading hname
    have hrule := mem_productions.1 (List.mem_of_getElem? hq)
    obtain ⟨c', text, hbody⟩ := (productive_of_rule hproductive hrule).exists_leftmost
    cases text with
    | cons t text =>
      have hmember : g.Leftmost [.nonterminal member] (j :: c') (t :: text) :=
        .expand hq (by rwa [List.append_nil])
      exact hg.not_leftmost_cons hname h hmember
    | nil =>
      cases hl with
      | @expand _ i p _ c _ hp hl =>
        rw [List.append_nil] at hl
        obtain rfl := hg.eq_of_confusable hp hq (.inr ⟨hl.derives, hbody.derives⟩)
        obtain rfl := Option.some.inj (hp.symm.trans hq)
        obtain ⟨c₁, _, t₁, _, rfl, htext, -, h₂₃⟩ := hl.split hsymbols
        obtain ⟨-, rfl⟩ := List.append_eq_nil_iff.1 htext.symm
        obtain ⟨c₂, c₃, t₂, t₃, rfl, htext', h₂, -⟩ := h₂₃.split (u := [.nonterminal next]) rfl
        obtain ⟨rfl, -⟩ := List.append_eq_nil_iff.1 htext'.symm
        have hlt : c₂.length < n := by simp [← hn]; omega
        exact ih _ hlt hnext rfl h₂

/-- In a predictive grammar without useless nonterminals there is no left recursion. -/
theorem Predictive.not_leftRecursive (hg : g.Predictive)
    (hproductive : ∀ n ∈ g.nonterminals, g.Productive [.nonterminal n]) :
    ¬ g.LeftRecursive name := by
  intro hname
  obtain ⟨u, rest, hs, hd⟩ := hname
  obtain ⟨p, hp, -⟩ := exists_production_of_produces hs
  have hmem : name ∈ g.nonterminals :=
    mem_nonterminals_of_isDefined (isDefined_head (mem_productions.1 hp))
  have hcycle : g.OnCycle name name := ⟨⟨[], .refl _⟩, u, rest, hs, hd⟩
  obtain ⟨c, text, hl⟩ := (hproductive name hmem).exists_leftmost
  cases text with
  | nil => exact hg.not_leftmost_nil hcycle.2 hproductive hcycle hl
  | cons t text => exact hg.not_leftmost_cons hcycle.2 hcycle hl

end Grammar

/-- If every nonterminal of a canonical grammar derives some text of terminals, and its analysis
gives no alternation warning and keeps FIRST and FOLLOW of every nullable nonterminal apart, then no
nonterminal derives, in one or more steps, something that begins with itself. -/
theorem not_leftRecursive_of_no_alternation (g : Grammar) (hg : g.IsCanonical)
    (hproductive : ∀ name ∈ g.nonterminals,
      ∃ text : List String, g.Derives [.nonterminal name] (text.map .terminal))
    (hnone : ∀ w ∈ g.conflicts (analyze g).first, w.kind.isAlternation = false)
    (hapart : ∀ name, (analyze g).isNullable name = true →
      ∀ t ∈ (analyze g).first.first name, ¬ t ∈ (analyze g).follow.follow name) :
    ¬ ∃ name u rest, g.Produces [.nonterminal name] u ∧
      g.Derives u (.nonterminal name :: rest) := by
  have hpred : g.Predictive := predictive_of_analysis hg hnone fun name hname =>
    hapart name (Nullability.isNullable_nonterminal.2 hname)
  rintro ⟨name, hname⟩
  exact hpred.not_leftRecursive hproductive hname

/-- The grammar `S → A U`, `A → "a"`, `A → epsilon`, `U → "u" S`, `U → epsilon`. -/
def optionalParts : Grammar :=
  .ofRules [
    ⟨"S", .canonical [.nonterminal "A", .nonterminal "U"] ⟨"sample.bnf", 1⟩⟩,
    ⟨"A", .canonical [.terminal "a"] ⟨"sample.bnf", 2⟩⟩,
    ⟨"A", .canonical [.epsilon] ⟨"sample.bnf", 3⟩⟩,
    ⟨"U", .canonical [.terminal "u", .nonterminal "S"] ⟨"sample.bnf", 4⟩⟩,
    ⟨"U", .canonical [.epsilon] ⟨"sample.bnf", 5⟩⟩]

/-- All three nonterminals of the sample are nullable, and `S` comes back to itself only behind the
terminal `u`. -/
theorem not_leftRecursive_optionalParts :
    optionalParts.IsCanonical ∧
    (∀ name ∈ optionalParts.nonterminals,
      ∃ text : List String, optionalParts.Derives [.nonterminal name] (text.map .terminal)) ∧
    (∀ w ∈ optionalParts.conflicts (analyze optionalParts).first,
      w.kind.isAlternation = false) ∧
    (∀ name, (analyze optionalParts).isNullable name = true →
      ∀ t ∈ (analyze optionalParts).first.first name,
        ¬ t ∈ (analyze optionalParts).follow.follow name) ∧
    ¬ ∃ name u rest, optionalParts.Produces [.nonterminal name] u ∧
      optionalParts.Derives u (.nonterminal name :: rest) := by
  have hcanonical : optionalParts.IsCanonical := by
    simp only [IsCanonical, optionalParts, ofRules, List.forall_mem_cons]
    exact ⟨⟨_, _, rfl⟩, ⟨_, _, rfl⟩, ⟨_, _, rfl⟩, ⟨_, _, rfl⟩, ⟨_, _, rfl⟩, List.forall_mem_nil _⟩
  have hnullable : ∀ name ∈ optionalParts.nonterminals,
      name ∈ (Nullability.compute optionalParts).marked := by decide +kernel
  have hnone : ∀ w ∈ optionalParts.conflicts (analyze optionalParts).first,
      w.kind.isAlternation = false := by decide +kernel
  have hmarked : ∀ name ∈ (analyze optionalParts).nullability.marked.toList,
      ∀ t ∈ ((analyze optionalParts).first.first name).toList,
        ¬ t ∈ (analyze optionalParts).follow.follow name := by decide +kernel
  have hproductive : ∀ name ∈ optionalParts.nonterminals,
      ∃ text : List String, optionalParts.Derives [.nonterminal name] (text.map .terminal) :=
    fun name hname => ⟨[], Nullability.mem_marked_iff.1 (hnullable name hname)⟩
  have hapart : ∀ name, (analyze optionalParts).isNullable name = true →
      ∀ t ∈ (analyze optionalParts).first.first name,
        ¬ t ∈ (analyze optionalParts).follow.follow name := fun name hname =>
    hmarked name (Nullability.isNullable_nonterminal.1 hname)
  exact ⟨hcanonical, hproductive, hnone, hapart,
    not_leftRecursive_of_no_alternation optionalParts hcanonical hproductive hnone hapart⟩

end Lookahead
