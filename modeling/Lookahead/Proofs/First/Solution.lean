import Lookahead.Analysis
import Lookahead.Proofs.Grammar.Rules
import Lookahead.Proofs.Saturation
import Mathlib.Tactic.Tauto

/-!
# The FIRST sets as a solution of their equations

Which terminals start a sequence is said position by position: those of a symbol before which all
are nullable (`mem_ofSequence`). Whatever nullability they are computed from, the FIRST sets take in
what their productions start with (`closed_compute`) and are the least sets that do
(`Closed.of_mem_first`). The flags stay as they were at the start (`flagged_compute`).
-/

namespace Lookahead.FirstSets

open Grammar

variable {g : Grammar} {ν : Nullability} {f : FirstSets} {a : Alternatives} {name t : String}
  {u v c : List Symbol}

/-! ## Sequences -/

theorem isNullable_epsilon : f.isNullable .epsilon = true := by
  simp [isNullable, ofSymbol, Symbol.epsilon]

theorem isNullable_terminal : f.isNullable (.terminal t) = true ↔ t = epsilonText := by
  by_cases ht : t = epsilonText <;> simp [isNullable, ofSymbol, ht]

theorem mem_terminals_terminal {text : String} :
    t ∈ (f.ofSymbol (.terminal text)).terminals ↔ t = text ∧ t ≠ epsilonText := by
  by_cases ht : text = epsilonText
  · simp +contextual [ofSymbol, ht]
  · simp only [ofSymbol, ht, if_false, TextSet.mem_singleton]
    exact ⟨fun h => ⟨h, h ▸ ht⟩, And.left⟩

theorem mem_ofSequence_cons {s : Symbol} :
    t ∈ (f.ofSequence (s :: c)).terminals ↔
      t ∈ (f.ofSymbol s).terminals ∨ f.isNullable s = true ∧ t ∈ (f.ofSequence c).terminals := by
  rw [ofSequence, isNullable]
  by_cases hs : (f.ofSymbol s).nullable = true <;> simp [hs]

theorem nullable_ofSequence :
    (f.ofSequence c).nullable = true ↔ ∀ s ∈ c, f.isNullable s = true := by
  induction c with
  | nil => simp [ofSequence]
  | cons s c ih =>
    rw [List.forall_mem_cons, ← ih, ofSequence, isNullable]
    by_cases hs : (f.ofSymbol s).nullable = true <;> simp [hs]

/-- A sequence starts with the terminals of a symbol before which all symbols are nullable. -/
theorem mem_ofSequence :
    t ∈ (f.ofSequence c).terminals ↔
      ∃ before s after, c = before ++ s :: after ∧ (∀ b ∈ before, f.isNullable b = true) ∧
        t ∈ (f.ofSymbol s).terminals := by
  induction c with
  | nil => simp [ofSequence]
  | cons s c ih =>
    rw [mem_ofSequence_cons, ih]
    constructor
    · rintro (ht | ⟨hs, before, s', after, rfl, hbefore, ht⟩)
      · exact ⟨[], s, c, rfl, nofun, ht⟩
      · exact ⟨s :: before, s', after, rfl, List.forall_mem_cons.2 ⟨hs, hbefore⟩, ht⟩
    · rintro ⟨before, s', after, hc, hbefore, ht⟩
      cases before with
      | nil =>
        obtain ⟨rfl, rfl⟩ := List.cons.inj hc
        exact .inl ht
      | cons b before =>
        obtain ⟨rfl, rfl⟩ := List.cons.inj hc
        obtain ⟨hs, hbefore⟩ := List.forall_mem_cons.1 hbefore
        exact .inr ⟨hs, before, s', after, rfl, hbefore, ht⟩

theorem mem_ofSequence_append :
    t ∈ (f.ofSequence (u ++ v)).terminals ↔
      t ∈ (f.ofSequence u).terminals ∨
        (f.ofSequence u).nullable = true ∧ t ∈ (f.ofSequence v).terminals := by
  induction u with
  | nil => simp [ofSequence]
  | cons s u ih =>
    rw [List.cons_append, mem_ofSequence_cons, mem_ofSequence_cons, ih, nullable_ofSequence,
      nullable_ofSequence, List.forall_mem_cons]
    tauto

theorem nullable_ofSequence_append :
    (f.ofSequence (u ++ v)).nullable = true ↔
      (f.ofSequence u).nullable = true ∧ (f.ofSequence v).nullable = true := by
  simp only [nullable_ofSequence, List.forall_mem_append]

theorem ofChain_of_ne_nil (h : c ≠ []) : f.ofChain c = f.ofSequence c := by
  simp [ofChain, h]

/-- A chain and a sequence differ only in whether no symbols are nullable. -/
theorem terminals_ofChain : (f.ofChain c).terminals = (f.ofSequence c).terminals := by
  cases c with
  | nil => rfl
  | cons s c => rfl

theorem mem_gained {productions : List Production} :
    t ∈ f.gained productions ↔ ∃ p ∈ productions, t ∈ (f.ofSequence p.symbols).terminals := by
  simp only [gained, TextSet.mem_unionAll, List.mem_map, terminals_ofChain]
  constructor
  · rintro ⟨_, ⟨p, hp, rfl⟩, ht⟩
    exact ⟨p, hp, ht⟩
  · rintro ⟨p, hp, ht⟩
    exact ⟨_, ⟨p, hp, rfl⟩, ht⟩

/-- A visit does nothing, since nothing is gained or there is no entry, or it enlarges a set. -/
theorem visit_cases (f : FirstSets) (a : Alternatives) :
    (f.visit a = ⟨f, false, []⟩ ∧
      ((f.entries.get? a.head).isSome = true → ∀ t ∈ f.gained a.productions, t ∈ f.first a.head)) ∨
    ∃ old, f.entries.get? a.head = some old ∧
      f.first a.head ∪ f.gained a.productions ≠ f.first a.head ∧
      f.visit a =
        let terminals := f.first a.head ∪ f.gained a.productions
        ⟨⟨f.entries.put a.head { old with terminals }⟩, true, [.firstGrew a.head terminals]⟩ := by
  cases hget : f.entries.get? a.head with
  | none => exact .inl ⟨by simp only [visit, hget], nofun⟩
  | some old =>
    have hfirst : f.first a.head = old.terminals := by
      simp only [first, entry, hget, Option.getD_some]
    rw [hfirst]
    by_cases hsame : old.terminals ∪ f.gained a.productions = old.terminals
    · refine .inl ⟨?_, fun _ => TextSet.union_eq_left.1 hsame⟩
      simp only [visit, hget, hsame, if_true]
    · refine .inr ⟨old, rfl, hsame, ?_⟩
      simp only [visit, hget, TextSet.size_union_eq_iff, hsame, if_false]

theorem mem_first_visit :
    t ∈ (f.visit a).state.first name ↔
      t ∈ f.first name ∨
        name = a.head ∧ (f.entries.get? a.head).isSome = true ∧ t ∈ f.gained a.productions := by
  rcases f.visit_cases a with ⟨hvisit, hgained⟩ | ⟨old, hget, -, hvisit⟩
  · rw [hvisit]
    refine ⟨.inl, fun h => h.elim id ?_⟩
    rintro ⟨rfl, hsome, ht⟩
    exact hgained hsome t ht
  · rw [hvisit]
    by_cases hname : name = a.head
    · subst hname
      simp [first, entry, NameMap.get?_put, hget]
    · simp [first, entry, NameMap.get?_put, hname]

theorem flag_visit :
    ((f.visit a).state.entries.get? name).map FirstSet.nullable =
      (f.entries.get? name).map FirstSet.nullable := by
  rcases f.visit_cases a with ⟨hvisit, -⟩ | ⟨old, hget, -, hvisit⟩
  · rw [hvisit]
  · rw [hvisit]
    simp only [NameMap.get?_put]
    split
    · rename_i hname
      simp [hname, hget]
    · rfl

/-- What FIRST sets hold: a nonterminal with a terminal that can start it. -/
def Holds (f : FirstSets) (k : String × String) : Prop := k.2 ∈ f.first k.1

theorem grows_visit (a : Alternatives) : Grows (visit · a) Holds where
  quiet {f} h := by
    rcases f.visit_cases a with ⟨hvisit, -⟩ | ⟨old, -, -, hvisit⟩
    · rw [hvisit]
    · rw [hvisit] at h
      cases h
  keeps h := mem_first_visit.2 (.inl h)
  adds {f} h := by
    rcases f.visit_cases a with ⟨hvisit, -⟩ | ⟨old, hget, hne, -⟩
    · rw [hvisit] at h
      cases h
    · obtain ⟨t, hnot, ht⟩ := TextSet.exists_mem_of_union_ne hne
      exact ⟨(a.head, t), hnot, mem_first_visit.2 (.inr ⟨rfl, hget ▸ rfl, ht⟩)⟩

/-- There is an entry for each nonterminal of `g`, flagged as `ν` says, and no other. -/
def Flagged (g : Grammar) (ν : Nullability) (f : FirstSets) : Prop :=
  ∀ name, (f.entries.get? name).map FirstSet.nullable =
    if name ∈ g.nonterminals then some (ν.isNullable (.nonterminal name)) else .none

theorem flagged_seeded (g : Grammar) (ν : Nullability) : Flagged g ν (seeded g ν) := by
  intro name
  rw [seeded, NameMap.get?_ofNames]
  split <;> rfl

theorem flagged_visit (h : Flagged g ν f) : Flagged g ν (f.visit a).state :=
  fun name => flag_visit.trans (h name)

theorem flagged_compute (g : Grammar) (ν : Nullability) : Flagged g ν (compute g ν) :=
  saturate_induction (fun _ h => sweep_induction (fun _ _ _ => flagged_visit) h) _
    (flagged_seeded g ν)

theorem Flagged.isSome_entry (h : Flagged g ν f) (hn : name ∈ g.nonterminals) :
    (f.entries.get? name).isSome = true := by
  have hname := h name
  rw [if_pos hn] at hname
  obtain ⟨_, hentry, -⟩ := Option.map_eq_some_iff.1 hname
  rw [hentry]
  rfl

theorem Flagged.isNullable_nonterminal (h : Flagged g ν f) :
    f.isNullable (.nonterminal name) = true ↔
      name ∈ g.nonterminals ∧ ν.isNullable (.nonterminal name) = true := by
  have hname := h name
  unfold isNullable ofSymbol entry
  by_cases hn : name ∈ g.nonterminals
  · rw [if_pos hn] at hname
    obtain ⟨first, hentry, hflag⟩ := Option.map_eq_some_iff.1 hname
    simp [hentry, hflag, hn]
  · rw [if_neg hn, Option.map_eq_none_iff] at hname
    simp [hname, hn, FirstSet.unknown]

/-! ## The passes -/

def pool (g : Grammar) : List (String × String) :=
  g.heads.flatMap fun head =>
    (g.alternatives.flatMap fun a => a.productions.flatMap Production.symbols).map
      fun s => (head, s.label)

theorem length_pool (g : Grammar) :
    (pool g).length = g.alternatives.length * symbolCount g.alternatives := by
  simp [pool, symbolCount, alternatives, List.length_flatMap, List.map_const']

theorem mem_pool {k : String × String} :
    k ∈ pool g ↔
      g.isDefined k.1 = true ∧ ∃ rule ∈ g.rules, ∃ s ∈ rule.production.symbols, s.label = k.2 := by
  obtain ⟨name, t⟩ := k
  simp only [pool, List.mem_flatMap, List.mem_map, mem_heads, mem_alternatives, Prod.mk.injEq]
  constructor
  · rintro ⟨head, hd, s, ⟨a, ⟨-, hp⟩, p, hpa, hs⟩, rfl, rfl⟩
    exact ⟨hd, ⟨a.head, p⟩, mem_productions.1 (hp ▸ hpa), s, hs, rfl⟩
  · rintro ⟨hd, ⟨head, p⟩, hr, s, hs, rfl⟩
    exact ⟨name, hd, s, ⟨⟨head, g.productions head⟩, ⟨isDefined_head hr, rfl⟩, p,
      mem_productions.2 hr, hs⟩, rfl, rfl⟩

theorem exists_label_of_mem_ofSequence (hf : Within Holds (pool g) f) {rule : Rule}
    (hr : rule ∈ g.rules) (ht : t ∈ (f.ofSequence rule.production.symbols).terminals) :
    ∃ rule ∈ g.rules, ∃ s ∈ rule.production.symbols, s.label = t := by
  obtain ⟨before, s, after, hsymbols, -, hs⟩ := mem_ofSequence.1 ht
  cases s with
  | terminal text =>
    refine ⟨rule, hr, .terminal text, ?_, (mem_terminals_terminal.1 hs).1.symm⟩
    simp [hsymbols]
  | nonterminal n => exact (mem_pool.1 (hf (n, t) hs)).2

theorem within_visit (ha : a ∈ g.alternatives) (hf : Within Holds (pool g) f) :
    Within Holds (pool g) (f.visit a).state := by
  rintro ⟨name, t⟩ hk
  rcases mem_first_visit.1 hk with hk | ⟨hname, -, ht⟩
  · exact hf _ hk
  · obtain ⟨p, hp, ht⟩ := mem_gained.1 ht
    obtain ⟨hd, hprods⟩ := mem_alternatives.1 ha
    rw [hprods] at hp
    exact mem_pool.2 ⟨hname ▸ hd, exists_label_of_mem_ofSequence hf (mem_productions.1 hp) ht⟩

theorem not_mem_first_seeded : ¬ t ∈ (seeded g ν).first name := by
  unfold first entry seeded
  rw [NameMap.get?_ofNames]
  split <;> simp [FirstSet.unknown]

/-- Another visit adds nothing. -/
theorem visit_compute (ha : a ∈ g.alternatives) :
    ((compute g ν).visit a).state = compute g ν :=
  Grows.visit_settled grows_visit (fun _ _ => within_visit)
    (fun _ h => absurd h not_mem_first_seeded) (Nat.lt_succ_of_le (Nat.le_of_eq (length_pool g)))
    a ha

/-! ## The solution -/

theorem mem_first_of_rule {rule : Rule} (hr : rule ∈ g.rules)
    (ht : t ∈ ((compute g ν).ofSequence rule.production.symbols).terminals) :
    t ∈ (compute g ν).first rule.head := by
  have hd := isDefined_head hr
  have ha : (⟨rule.head, g.productions rule.head⟩ : Alternatives) ∈ g.alternatives :=
    mem_alternatives.2 ⟨hd, rfl⟩
  have hsome := (flagged_compute g ν).isSome_entry (mem_nonterminals_of_isDefined hd)
  rw [← visit_compute ha]
  exact mem_first_visit.2 (.inr ⟨rfl, hsome, mem_gained.2 ⟨_, mem_productions.2 hr, ht⟩⟩)

/-- A family of sets to which the productions add nothing. A symbol of a production counts if `ν`
says that all before it are nullable. -/
structure Closed (g : Grammar) (ν : Nullability) (F : String → String → Prop) : Prop where
  terminal : ∀ {rule before t after}, rule ∈ g.rules →
    rule.production.symbols = before ++ .terminal t :: after → ν.allNullable before = true →
    t ≠ epsilonText → F rule.head t
  nonterminal : ∀ {rule before name after t}, rule ∈ g.rules →
    rule.production.symbols = before ++ .nonterminal name :: after → ν.allNullable before = true →
    F name t → F rule.head t

theorem Flagged.isNullable_of_mem (h : Flagged g ν f) {rule : Rule} (hr : rule ∈ g.rules)
    {s : Symbol} (hs : s ∈ rule.production.symbols) : f.isNullable s = ν.isNullable s := by
  rw [Bool.eq_iff_iff]
  cases s with
  | terminal text =>
    rw [isNullable_terminal]
    simp [Nullability.isNullable]
  | nonterminal name =>
    rw [h.isNullable_nonterminal]
    exact and_iff_right (mem_nonterminals_of_mem_symbols hr hs)

theorem Flagged.allNullable_of_mem (h : Flagged g ν f) {rule : Rule} (hr : rule ∈ g.rules)
    (hu : ∀ s ∈ u, s ∈ rule.production.symbols) :
    (∀ s ∈ u, f.isNullable s = true) ↔ ν.allNullable u = true := by
  rw [Nullability.allNullable, List.all_eq_true]
  exact forall₂_congr fun s hs => by rw [h.isNullable_of_mem hr (hu s hs)]

theorem Flagged.mem_ofSequence_of_split (h : Flagged g ν f) {rule : Rule} (hr : rule ∈ g.rules)
    {before after : List Symbol} {s : Symbol}
    (hsymbols : rule.production.symbols = before ++ s :: after)
    (hbefore : ν.allNullable before = true) (ht : t ∈ (f.ofSymbol s).terminals) :
    t ∈ (f.ofSequence rule.production.symbols).terminals := by
  have hmem : ∀ s ∈ before, s ∈ rule.production.symbols := fun s hs => by simp [hsymbols, hs]
  exact mem_ofSequence.2
    ⟨before, s, after, hsymbols, (h.allNullable_of_mem hr hmem).2 hbefore, ht⟩

/-- Productions add nothing to the computed sets. -/
theorem closed_compute (g : Grammar) (ν : Nullability) :
    Closed g ν fun name t => t ∈ (compute g ν).first name where
  terminal hr hsymbols hbefore ht :=
    mem_first_of_rule hr ((flagged_compute g ν).mem_ofSequence_of_split hr hsymbols hbefore
      (mem_terminals_terminal.2 ⟨rfl, ht⟩))
  nonterminal hr hsymbols hbefore ht :=
    mem_first_of_rule hr ((flagged_compute g ν).mem_ofSequence_of_split hr hsymbols hbefore ht)

/-- The flags are those of `ν`, and no set holds more than `F` allows. -/
structure Below (g : Grammar) (ν : Nullability) (F : String → String → Prop) (f : FirstSets) :
    Prop where
  flagged : Flagged g ν f
  bound : ∀ {name t}, t ∈ f.first name → F name t

theorem Closed.below_visit {F : String → String → Prop} (hF : Closed g ν F)
    (ha : a ∈ g.alternatives) (hf : Below g ν F f) : Below g ν F (f.visit a).state := by
  refine ⟨flagged_visit hf.flagged, fun ht => ?_⟩
  rcases mem_first_visit.1 ht with ht | ⟨rfl, -, ht⟩
  · exact hf.bound ht
  · obtain ⟨p, hp, ht⟩ := mem_gained.1 ht
    rw [(mem_alternatives.1 ha).2, mem_productions] at hp
    obtain ⟨before, s, after, hsymbols, hbefore, hs⟩ := mem_ofSequence.1 ht
    have hmem : ∀ s ∈ before, s ∈ p.symbols := fun s hs => by simp [hsymbols, hs]
    have hnull := (hf.flagged.allNullable_of_mem hp hmem).1 hbefore
    cases s with
    | terminal text =>
      obtain ⟨rfl, hne⟩ := mem_terminals_terminal.1 hs
      exact hF.terminal hp hsymbols hnull hne
    | nonterminal n => exact hF.nonterminal hp hsymbols hnull (hf.bound hs)

/-- The computed sets are the least to which productions add nothing. -/
theorem Closed.of_mem_first {F : String → String → Prop} (hF : Closed g ν F)
    (ht : t ∈ (compute g ν).first name) : F name t :=
  (saturate_induction (fun _ hf => sweep_induction (fun _ _ ha => hF.below_visit ha) hf) _
    (⟨flagged_seeded g ν, fun h => absurd h not_mem_first_seeded⟩ :
      Below g ν F (seeded g ν))).bound ht

theorem ne_epsilon_of_mem_first (ht : t ∈ (compute g ν).first name) : t ≠ epsilonText := by
  have hF : Closed g ν fun _ t => t ≠ epsilonText := ⟨fun _ _ _ hne => hne, fun _ _ _ hne => hne⟩
  exact hF.of_mem_first ht

end Lookahead.FirstSets
