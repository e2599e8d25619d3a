import Lookahead.Proofs.Loading
import Lookahead.Proofs.RuleLine
import Lookahead.Session

/-!
# Canonical grammars

In a canonical grammar `epsilon` stands alone in a production or not at all. The grammar of a source
always is canonical (`isCanonical_ofSource`), and so is every grammar that a session builds by
loading sources, loading or adding canonical rules and choosing start symbols
(`Session.isCanonical_run`).
-/

namespace Lookahead

def Production.IsCanonical (p : Production) : Prop :=
  ∃ symbols location, p = .canonical symbols location

/-- Every production was put in canonical form. -/
def Grammar.IsCanonical (g : Grammar) : Prop := ∀ rule ∈ g.rules, rule.production.IsCanonical

variable {g : Grammar} {p : Production} {rule : Rule}

theorem canonicalSymbols_ne_nil (symbols : List Symbol) : canonicalSymbols symbols ≠ [] := by
  unfold canonicalSymbols
  split
  · simp
  · assumption

theorem Production.IsCanonical.symbols_ne_nil (h : p.IsCanonical) : p.symbols ≠ [] := by
  obtain ⟨symbols, location, rfl⟩ := h
  exact canonicalSymbols_ne_nil symbols

theorem Production.IsCanonical.canonicalSymbols_eq (h : p.IsCanonical) :
    canonicalSymbols p.symbols = p.symbols := by
  obtain ⟨symbols, location, rfl⟩ := h
  exact canonicalSymbols_canonicalSymbols symbols

namespace Grammar

theorem IsCanonical.add (hg : g.IsCanonical) (hr : rule.production.IsCanonical) :
    (g.add rule).IsCanonical := by
  intro r h
  rcases List.mem_append.1 h with h | h
  · exact hg r h
  · exact List.mem_singleton.1 h ▸ hr

theorem IsCanonical.withStart {g' : Grammar} {name : String} (hg : g.IsCanonical)
    (h : g.withStart? name = some g') : g'.IsCanonical := by
  rw [IsCanonical, rules_withStart? h]
  exact hg

end Grammar

theorem isCanonical_of_ofLine {location : Location} {line : String}
    (h : Rule.ofLine location line = .ok rule) : rule.production.IsCanonical := by
  obtain ⟨head, symbols, -, rfl⟩ := Rule.ofLine_eq_ok_iff.1 h
  exact ⟨symbols, location, rfl⟩

theorem isCanonical_of_mem_reading {file : String} {source : Bytes}
    (h : rule ∈ (Reading.ofSource file source).rules) : rule.production.IsCanonical := by
  obtain ⟨number, text, -, hread⟩ := Reading.exists_line_of_mem_rules h
  exact isCanonical_of_ofLine hread

namespace Loaded

theorem isCanonical_ofRules {rules : List Rule}
    (h : ∀ rule ∈ rules, rule.production.IsCanonical) : (ofRules rules).grammar.IsCanonical :=
  fun rule hr => h rule (List.mem_filter.1 hr).1

theorem isCanonical_ofSource (file : String) (source : Bytes) :
    (ofSource file source).grammar.IsCanonical :=
  isCanonical_ofRules fun _ => isCanonical_of_mem_reading

theorem isCanonical_overrideStart {loaded : Loaded} (h : loaded.grammar.IsCanonical)
    (name file : String) : (loaded.overrideStart name file).grammar.IsCanonical := by
  unfold overrideStart
  split
  · rename_i hstart
    exact h.withStart hstart
  · exact h

end Loaded

def Edit.IsCanonical : Edit → Prop
  | .loadRules rules => ∀ rule ∈ rules, rule.production.IsCanonical
  | .add rule => rule.production.IsCanonical
  | _ => True

namespace Session

variable {s : Session}

theorem isCanonical_apply (hs : s.grammar.IsCanonical) {edit : Edit} (he : edit.IsCanonical) :
    (s.apply edit).grammar.IsCanonical := by
  cases edit with
  | loadSource file source => exact Loaded.isCanonical_ofSource file source
  | loadRules rules => exact Loaded.isCanonical_ofRules he
  | add rule => exact hs.add he
  | setStart name =>
    simp only [apply]
    split
    · rename_i hstart
      exact hs.withStart hstart
    · exact hs
  | overrideStart name file => exact Loaded.isCanonical_overrideStart hs name file
  | analyze => exact hs
  | recomputeFirst => exact hs
  | recomputeFollow => exact hs
  | unify symbol terminals => exact hs

theorem isCanonical_run {edits : List Edit} (hs : s.grammar.IsCanonical)
    (hedits : ∀ edit ∈ edits, edit.IsCanonical) : (s.run edits).grammar.IsCanonical := by
  induction edits generalizing s with
  | nil => exact hs
  | cons edit edits ih =>
    obtain ⟨hedit, hedits⟩ := List.forall_mem_cons.1 hedits
    exact ih (isCanonical_apply hs hedit) hedits

end Session

end Lookahead
