import Lookahead.Proofs.Conflict.Alternation
import Lookahead.Proofs.Follow.Exact

/-!
# Grammars that one terminal of lookahead decides

In a predictive grammar no two productions of a head are confusable, and nothing that can start a
nullable nonterminal can follow it. Then at each step of a leftmost derivation the next terminal of
the text leaves one production only: either the production yields that terminal, or it yields
nothing and the terminal follows the head. So every text has at most one leftmost derivation
(`Predictive.eq_choices`).
-/

namespace Lookahead

open Grammar

variable {g : Grammar} {start head name t : String} {before u : List Symbol} {p q : Production}
  {i j : Nat} {c c' : List Nat} {text text' : List String}

namespace Grammar

/-- One terminal of lookahead decides which production to use. -/
structure Predictive (g : Grammar) : Prop where
  distinct : ∀ {head i j p q}, g.At ⟨head, i, j⟩ p q → i < j → ¬ g.Confusable p q
  separate : ∀ {head t}, g.Derives [.nonterminal head] [] → g.Starts [.nonterminal head] t →
    ¬ g.Follows head t

theorem Confusable.symm (h : g.Confusable p q) : g.Confusable q p :=
  h.imp (fun ⟨t, hp, hq⟩ => ⟨t, hq, hp⟩) And.symm

theorem Predictive.eq_of_confusable (hg : g.Predictive) (hp : (g.productions head)[i]? = some p)
    (hq : (g.productions head)[j]? = some q) (h : g.Confusable p q) : i = j := by
  rcases Nat.lt_trichotomy i j with hij | hij | hij
  · exact absurd h (hg.distinct ⟨hp, hq⟩ hij)
  · exact hij
  · exact absurd h.symm (hg.distinct ⟨hq, hp⟩ hij)

theorem Leftmost.not_mem_epsilon (h : g.Leftmost u c text) : epsilonText ∉ text := by
  induction h with
  | done => exact List.not_mem_nil
  | terminal ht _ ih => exact fun hmem => (List.mem_cons.1 hmem).elim (Ne.symm ht) ih
  | erase _ ih => exact ih
  | expand _ _ ih => exact ih

theorem Leftmost.starts (h : g.Leftmost u c (t :: text)) : g.Starts u t :=
  ⟨fun ht => h.not_mem_epsilon (ht ▸ List.mem_cons_self), _, h.derives⟩

theorem Follows.of_context (hd : g.Derives [.nonterminal start] (before ++ .nonterminal head :: u))
    (hu : g.Starts u t) : g.Follows head t := by
  obtain ⟨hne, rest, hrest⟩ := hu
  have hadj : g.Derives [.nonterminal start]
      (before ++ .nonterminal head :: .terminal t :: rest) :=
    hd.trans ((hrest.append_left [.nonterminal head]).append_left before)
  refine ⟨hne, .inl ⟨start, isDefined_of_derives hadj fun h => ?_, before, rest, hadj⟩⟩
  have hlength := congrArg List.length h
  simp only [List.length_append, List.length_cons, List.length_nil] at hlength
  omega

/-- A production that yields nothing and one that yields the next terminal are not both there. -/
theorem Predictive.not_empty_and_starts (hg : g.Predictive)
    (hd : g.Derives [.nonterminal start] (before ++ .nonterminal head :: u))
    (hp : (g.productions head)[i]? = some p) (hempty : g.Derives p.symbols [])
    (hq : (g.productions head)[j]? = some q) (hstarts : g.Starts q.symbols t)
    (hu : g.Starts u t) : False :=
  hg.separate ((derives_production (List.mem_of_getElem? hp)).trans hempty)
    ((derives_production (List.mem_of_getElem? hq)).starts hstarts) (.of_context hd hu)

/-- The text decides which production replaces the head. -/
theorem Predictive.eq_position (hg : g.Predictive)
    (hd : g.Derives [.nonterminal start] (before ++ .nonterminal head :: u))
    (hp : (g.productions head)[i]? = some p) (hl : g.Leftmost (p.symbols ++ u) c text)
    (hq : (g.productions head)[j]? = some q) (hl' : g.Leftmost (q.symbols ++ u) c' text) :
    i = j := by
  obtain ⟨_, _, yield, rest, -, rfl, hyield, hrest⟩ := hl.split rfl
  obtain ⟨_, _, yield', rest', -, htext, hyield', hrest'⟩ := hl'.split rfl
  cases yield with
  | nil =>
    cases yield' with
    | nil => exact hg.eq_of_confusable hp hq (.inr ⟨hyield.derives, hyield'.derives⟩)
    | cons t yield' =>
      obtain rfl : rest = t :: (yield' ++ rest') := htext
      exact (hg.not_empty_and_starts hd hp hyield.derives hq hyield'.starts hrest.starts).elim
  | cons t yield =>
    cases yield' with
    | nil =>
      obtain rfl : t :: (yield ++ rest) = rest' := htext
      exact (hg.not_empty_and_starts hd hq hyield'.derives hp hyield.starts hrest'.starts).elim
    | cons t' yield' =>
      obtain ⟨rfl, -⟩ := List.cons.inj htext
      exact hg.eq_of_confusable hp hq (.inl ⟨t, hyield.starts, hyield'.starts⟩)

/-- Two leftmost derivations of one text from what is left of a sentential form agree. -/
theorem Predictive.eq_choices (hg : g.Predictive)
    (hd : g.Derives [.nonterminal start] (before ++ u)) (h : g.Leftmost u c text)
    (h' : g.Leftmost u c' text) : c = c' := by
  induction h generalizing before c' with
  | done =>
    cases h'
    rfl
  | @terminal t u _ _ ht _ ih =>
    cases h' with
    | terminal _ hl' =>
      have hd' : g.Derives [.nonterminal start] ((before ++ [.terminal t]) ++ u) := by
        simpa using hd
      exact ih hd' hl'
    | erase => exact absurd rfl ht
  | @erase u _ _ _ ih =>
    cases h' with
    | terminal ht => exact absurd rfl ht
    | erase hl' =>
      have hd' : g.Derives [.nonterminal start] ((before ++ [.epsilon]) ++ u) := by simpa using hd
      exact ih hd' hl'
  | @expand head i p u _ _ hp hl ih =>
    cases h' with
    | expand hq hl' =>
      obtain rfl := hg.eq_position hd hp hl hq hl'
      obtain rfl := Option.some.inj (hp.symm.trans hq)
      have hstep := (derives_production (List.mem_of_getElem? hp)).context before u
      have hd' : g.Derives [.nonterminal start] (before ++ (p.symbols ++ u)) :=
        hd.trans (by simpa using hstep)
      rw [ih hd' hl']

end Grammar

/-! ## From an analysis -/

/-- A grammar is predictive if its analysis gives no alternation warning and keeps FIRST and FOLLOW
of every nullable nonterminal apart. -/
theorem predictive_of_analysis (hg : g.IsCanonical)
    (hnone : ∀ w ∈ g.conflicts g.firstSets, w.kind.isAlternation = false)
    (hapart : ∀ name ∈ (Nullability.compute g).marked, ∀ t ∈ g.firstSets.first name,
      ¬ t ∈ g.followSets.follow name) : g.Predictive where
  distinct {head i j p q} hat hij hconf := by
    have hd : g.isDefined head = true :=
      isDefined_head (mem_productions.1 (List.mem_of_getElem? hat.1))
    obtain ⟨hj, -⟩ := List.getElem?_eq_some_iff.1 hat.2
    exact not_clashes_of_no_alternation hg hnone (mem_rivals.2 ⟨mem_heads.2 hd, hij, hj⟩)
      ⟨p, q, hat, hconf⟩
  separate {head t} hnil hstarts hfollows :=
    hapart head (Nullability.mem_marked_iff.2 hnil) t (FirstSets.mem_first_iff.2 hstarts)
      (mem_follow_iff.2 hfollows)

/-- If the analysis of a canonical grammar gives no alternation warning and FIRST and FOLLOW of
every nullable nonterminal are disjoint, the grammar is unambiguous: each text of terminals that a
nonterminal derives has exactly one leftmost derivation from it, by positions of productions. -/
theorem unambiguous_of_no_alternation (g : Grammar) (hg : g.IsCanonical)
    (hnone : ∀ w ∈ g.conflicts (analyze g).first, w.kind.isAlternation = false)
    (hapart : ∀ name, (analyze g).isNullable name = true →
      ∀ t ∈ (analyze g).first.first name, ¬ t ∈ (analyze g).follow.follow name) :
    ∀ head text, epsilonText ∉ text →
      (g.Derives [.nonterminal head] (text.map .terminal) ↔
        ∃ c, g.Leftmost [.nonterminal head] c text) ∧
      ∀ c c', g.Leftmost [.nonterminal head] c text → g.Leftmost [.nonterminal head] c' text →
        c = c' := by
  have hpred : g.Predictive := predictive_of_analysis hg hnone fun name hname =>
    hapart name (Nullability.isNullable_nonterminal.2 hname)
  intro head text htext
  refine ⟨derives_iff_leftmost htext, fun c c' h h' => ?_⟩
  have hd : g.Derives [.nonterminal head] ([] ++ [.nonterminal head]) := .refl _
  exact hpred.eq_choices hd h h'

/-- The sample is clean, and the only leftmost derivation of `t s` goes by the first production, the
first and the second. -/
theorem unambiguous_optionalLead :
    optionalLead.IsCanonical ∧
    (∀ w ∈ optionalLead.conflicts (analyze optionalLead).first, w.kind.isAlternation = false) ∧
    (∀ name, (analyze optionalLead).isNullable name = true →
      ∀ t ∈ (analyze optionalLead).first.first name,
        ¬ t ∈ (analyze optionalLead).follow.follow name) ∧
    epsilonText ∉ ["t", "s"] ∧
    ∀ c, optionalLead.Leftmost [.nonterminal "S"] c ["t", "s"] ↔ c = [0, 0, 1] := by
  have hcanonical : optionalLead.IsCanonical := by
    simp only [IsCanonical, optionalLead, ofRules, List.forall_mem_cons]
    exact ⟨⟨_, _, rfl⟩, ⟨_, _, rfl⟩, ⟨_, _, rfl⟩, List.forall_mem_nil _⟩
  have hnone : ∀ w ∈ optionalLead.conflicts (analyze optionalLead).first,
      w.kind.isAlternation = false := by decide +kernel
  have hapart : ∀ name, (analyze optionalLead).isNullable name = true →
      ∀ t ∈ (analyze optionalLead).first.first name,
        ¬ t ∈ (analyze optionalLead).follow.follow name := by
    have hmarked : (analyze optionalLead).nullability.marked = .singleton "T" := by decide +kernel
    have hfirst : (analyze optionalLead).first.first "T" = .singleton "t" := by decide +kernel
    intro name hname t ht
    have hmem := Nullability.isNullable_nonterminal.1 hname
    rw [hmarked, TextSet.mem_singleton] at hmem
    subst hmem
    rw [hfirst, TextSet.mem_singleton] at ht
    subst ht
    decide +kernel
  have htext : epsilonText ∉ ["t", "s"] := by decide
  have hleftmost : optionalLead.Leftmost [.nonterminal "S"] [0, 0, 1] ["t", "s"] :=
    .expand rfl (.expand rfl (.terminal (by decide) (.expand rfl (.erase (.terminal (by decide)
      .done)))))
  refine ⟨hcanonical, hnone, hapart, htext, fun c => ⟨fun hc => ?_, fun hc => hc ▸ hleftmost⟩⟩
  exact (unambiguous_of_no_alternation optionalLead hcanonical hnone hapart "S" _ htext).2 c _ hc
    hleftmost

end Lookahead
