import Lookahead.Proofs.Conflict.Places

/-!
# Concatenation warnings are exact

In every grammar, canonical or not, there is exactly one concatenation warning for each symbol that
can vanish and shares a first terminal with the symbol after it, and it shows exactly the terminals
that the two share.
-/

namespace Lookahead

open Grammar

variable {g : Grammar} {p : Production} {left right : Symbol} {head : String} {k i : Nat}
  {w : Warning}

namespace Grammar

/-- The symbols at `index` and after it in a production of `head`. -/
def NeighboursAt (g : Grammar) (head : String) (production index : Nat) (p : Production)
    (left right : Symbol) : Prop :=
  (g.productions head)[production]? = some p ∧ p.symbols[index]? = some left ∧
    p.symbols[index + 1]? = some right

/-- After a symbol that can vanish comes one that can start with the same terminal. -/
def Blurred (g : Grammar) (left right : Symbol) : Prop :=
  g.Derives [left] [] ∧ ∃ t, g.Starts [left] t ∧ g.Starts [right] t

theorem mem_inter_ofSymbol {t : String} :
    t ∈ (g.firstSets.ofSymbol left).terminals ∩ (g.firstSets.ofSymbol right).terminals ↔
      g.Starts [left] t ∧ g.Starts [right] t := by
  rw [TextSet.mem_inter, FirstSets.mem_ofSymbol_iff, FirstSets.mem_ofSymbol_iff]

theorem concatenation?_firstSets :
    Alternatives.concatenation? g.firstSets head p left right = some w ↔
      g.Blurred left right ∧ ∃ shared, (∀ t, t ∈ shared ↔ g.Starts [left] t ∧ g.Starts [right] t) ∧
        w = ⟨p.location, .concatenation head p.symbols left right shared⟩ := by
  simp only [concatenation?_eq_some, FirstSets.isNullable_iff, mem_inter_ofSymbol, Blurred]
  constructor
  · rintro ⟨hnil, hshared, rfl⟩
    exact ⟨⟨hnil, hshared⟩, _, fun _ => mem_inter_ofSymbol, rfl⟩
  · rintro ⟨⟨hnil, hshared⟩, shared, hmem, rfl⟩
    have heq : shared =
        (g.firstSets.ofSymbol left).terminals ∩ (g.firstSets.ofSymbol right).terminals :=
      TextSet.ext fun t => (hmem t).trans mem_inter_ofSymbol.symm
    exact ⟨hnil, hshared, heq ▸ rfl⟩

theorem NeighboursAt.mem_places (h : g.NeighboursAt head k i p left right) :
    (.concatenation head k i : Conflict.Place) ∈ g.places := by
  obtain ⟨hp, -, hright⟩ := h
  exact concatenation_mem_places.2 ⟨p, hp, (List.getElem?_eq_some_iff.1 hright).1⟩

theorem concatenation_mem_placedConflicts :
    (.concatenation head k i, w) ∈ g.placedConflicts g.firstSets ↔
      ∃ p left right, g.NeighboursAt head k i p left right ∧ g.Blurred left right ∧
        ∃ shared, (∀ t, t ∈ shared ↔ g.Starts [left] t ∧ g.Starts [right] t) ∧
          w = ⟨p.location, .concatenation head p.symbols left right shared⟩ := by
  simp only [mem_placedConflicts, warningAt?_concatenation, concatenation?_firstSets]
  constructor
  · rintro ⟨-, p, left, right, hp, hleft, hright, hw⟩
    exact ⟨p, left, right, ⟨hp, hleft, hright⟩, hw⟩
  · rintro ⟨p, left, right, hat, hw⟩
    have ⟨hp, hleft, hright⟩ := hat
    exact ⟨hat.mem_places, p, left, right, hp, hleft, hright, hw⟩

theorem alternation_of_mem_placedConflicts {first : FirstSets} {i j : Nat}
    (h : (.alternation head i j, w) ∈ g.placedConflicts first) :
    ∃ p q shared, g.At ⟨head, i, j⟩ p q ∧
      w = ⟨q.location, .alternation head p.symbols q.symbols shared⟩ := by
  obtain ⟨-, hw⟩ := mem_placedConflicts.1 h
  obtain ⟨p, q, hp, hq, hw⟩ := warningAt?_alternation.1 hw
  exact ⟨p, q, _, ⟨hp, hq⟩, (alternation?_eq_some.1 hw).2⟩

end Grammar

/-- Every conflict of a grammar has its own place, in ascending order of places, and so the
concatenation warnings of a nonterminal come after its alternation warnings and in order of the
production and the index. There is one at an index of a production exactly if the symbol there can
vanish and shares a first terminal with the next one. -/
theorem concatenation_warnings_exact (g : Grammar) :
    let placed := g.placedConflicts (analyze g).first
    placed.map Prod.snd = g.conflicts (analyze g).first ∧
    placed.Pairwise (fun c d => g.Before c.1 d.1) ∧
    (∀ head i j w, (.alternation head i j, w) ∈ placed → ∃ p q shared, g.At ⟨head, i, j⟩ p q ∧
      w = ⟨q.location, .alternation head p.symbols q.symbols shared⟩) ∧
    ∀ head k i w, (.concatenation head k i, w) ∈ placed ↔
      ∃ p left right, g.NeighboursAt head k i p left right ∧ g.Blurred left right ∧
        ∃ shared, (∀ t, t ∈ shared ↔ g.Starts [left] t ∧ g.Starts [right] t) ∧
          w = ⟨p.location, .concatenation head p.symbols left right shared⟩ :=
  ⟨g.map_snd_placedConflicts _, g.pairwise_placedConflicts _,
    fun _ _ _ _ => alternation_of_mem_placedConflicts,
    fun _ _ _ _ => concatenation_mem_placedConflicts⟩

/-- The grammar `S → U U U`, `U → "u"`, `U → epsilon`, `U → "u" epsilon`. -/
def repeatedOptional : Grammar :=
  .ofRules [
    ⟨"S", ⟨[.nonterminal "U", .nonterminal "U", .nonterminal "U"], ⟨"sample.bnf", 1⟩⟩⟩,
    ⟨"U", ⟨[.terminal "u"], ⟨"sample.bnf", 2⟩⟩⟩,
    ⟨"U", ⟨[.epsilon], ⟨"sample.bnf", 3⟩⟩⟩,
    ⟨"U", ⟨[.terminal "u", .epsilon], ⟨"sample.bnf", 4⟩⟩⟩]

/-- Both equal pairs of neighbours of the first production are reported, by the same warning, and
the first and the third production of `U` are in conflict as well. -/
theorem concatenation_warnings_exact_repeatedOptional :
    let placed := repeatedOptional.placedConflicts (analyze repeatedOptional).first
    let w : Warning := ⟨⟨"sample.bnf", 1⟩, .concatenation "S"
      [.nonterminal "U", .nonterminal "U", .nonterminal "U"] (.nonterminal "U") (.nonterminal "U")
      (.singleton "u")⟩
    let w' : Warning := ⟨⟨"sample.bnf", 4⟩, .alternation "U" [.terminal "u"]
      [.terminal "u", .epsilon] (.singleton "u")⟩
    (.concatenation "S" 0 0, w) ∈ placed ∧ (.concatenation "S" 0 1, w) ∈ placed ∧
    (.alternation "U" 0 2, w') ∈ placed ∧
    repeatedOptional.Blurred (.nonterminal "U") (.nonterminal "U") ∧
    ∃ p q, repeatedOptional.At ⟨"U", 0, 2⟩ p q ∧ q.location = w'.location := by
  intro placed w w'
  have hzero : (.concatenation "S" 0 0, w) ∈ placed := by decide +kernel
  have hone : (.concatenation "S" 0 1, w) ∈ placed := by decide +kernel
  have halternation : (.alternation "U" 0 2, w') ∈ placed := by decide +kernel
  obtain ⟨-, -, hrivals, hneighbours⟩ := concatenation_warnings_exact repeatedOptional
  obtain ⟨p, q, shared, hat, hw'⟩ := hrivals _ _ _ _ halternation
  obtain ⟨p', left, right, ⟨hp', hleft, hright⟩, hblurred, -⟩ := (hneighbours _ _ _ _).1 hone
  obtain rfl := Option.some.inj hp'
  obtain rfl := Option.some.inj hleft
  obtain rfl := Option.some.inj hright
  exact ⟨hzero, hone, halternation, hblurred, p, q, hat, (congrArg Diagnostic.location hw').symm⟩

end Lookahead
