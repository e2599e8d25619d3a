import Lookahead.Proofs.LineByLine
import Mathlib.Data.Nat.Basic
import Mathlib.Order.Monotone.Basic

/-!
# Renumbering the lines

Where a rule stands decides nothing but the places that errors name and their order. If the lines of
a source are renumbered, what they give is renumbered (`Reading.readLine_renumber`); a renumbered
grammar has the same start symbol and the same nonterminals (`Grammar.start_renumber`,
`Grammar.nonterminals_renumber`), and if the order of the lines is kept, also the same errors in the
same order (`Grammar.undefinedErrors_renumber`, `sortByLine_renumber`).
-/

namespace Lookahead

variable {f : Nat → Nat} {g : Grammar} {numbers : Set Nat}

def Location.renumber (f : Nat → Nat) (location : Location) : Location :=
  { location with line := f location.line }

def Production.renumber (f : Nat → Nat) (p : Production) : Production :=
  { p with location := p.location.renumber f }

def Rule.renumber (f : Nat → Nat) (rule : Rule) : Rule :=
  { rule with production := rule.production.renumber f }

def SourceLine.renumber (f : Nat → Nat) (line : SourceLine) : SourceLine :=
  { line with number := f line.number }

def Diagnostic.renumber {κ : Type} (f : Nat → Nat) (d : Diagnostic κ) : Diagnostic κ :=
  { d with location := d.location.renumber f }

def Grammar.renumber (f : Nat → Nat) (g : Grammar) : Grammar where
  rules := g.rules.map (·.renumber f)
  chosen := g.chosen
  chosen_defined name h :=
    let ⟨rule, hr, hname⟩ := g.chosen_defined name h
    ⟨rule.renumber f, List.mem_map_of_mem hr, hname⟩

@[simp] theorem Rule.head_renumber (rule : Rule) : (rule.renumber f).head = rule.head := rfl

@[simp] theorem Rule.names_renumber (rule : Rule) : (rule.renumber f).names = rule.names := rfl

@[simp] theorem Rule.isLeftRecursive_renumber (rule : Rule) :
    (rule.renumber f).isLeftRecursive = rule.isLeftRecursive := rfl

theorem Rule.ofTokens_renumber (location : Location) (tokens : List Token) :
    ofTokens (location.renumber f) tokens = (ofTokens location tokens).map (·.renumber f) := by
  unfold ofTokens
  split
  · rfl
  · split
    · cases symbolsOfTokens _ <;> rfl
    · rfl
  · rfl
  · rfl

theorem Rule.ofLine_renumber (location : Location) (text : String) :
    ofLine (location.renumber f) text = (ofLine location text).map (·.renumber f) := by
  unfold ofLine
  split
  · rfl
  · exact ofTokens_renumber location _

namespace Reading

theorem readLine_renumber (file : String) (line : SourceLine) :
    readLine file (line.renumber f) =
      (readLine file line).map fun result =>
        (result.map (·.renumber f)).mapError (·.renumber f) := by
  obtain ⟨number, text?⟩ := line
  cases text? with
  | none => rfl
  | some text =>
    have hline := Rule.ofLine_renumber (f := f) ⟨file, number⟩ text
    simp only [readLine, SourceLine.renumber, Location.renumber] at hline ⊢
    split
    · rw [hline]
      cases Rule.ofLine ⟨file, number⟩ text <;> rfl
    · rfl

theorem bind_readLine_renumber {α : Type} {pick : Except LoadDiagnostic Rule → Option α}
    {move : α → α}
    (hpick : ∀ result : Except LoadDiagnostic Rule,
      pick ((result.map (·.renumber f)).mapError (·.renumber f)) = (pick result).map move)
    (file : String) (line : SourceLine) :
    (readLine file (line.renumber f)).bind pick = ((readLine file line).bind pick).map move := by
  rw [readLine_renumber]
  cases readLine file line with
  | none => rfl
  | some result => exact hpick result

theorem ruleOf?_renumber (file : String) (line : SourceLine) :
    ruleOf? file (line.renumber f) = (ruleOf? file line).map (·.renumber f) :=
  bind_readLine_renumber (fun result => by cases result <;> rfl) file line

theorem errorOf?_renumber (file : String) (line : SourceLine) :
    errorOf? file (line.renumber f) = (errorOf? file line).map (·.renumber f) :=
  bind_readLine_renumber (fun result => by cases result <;> rfl) file line

end Reading

/-! ## Grammars -/

namespace Grammar

theorem renumber_ofRules (rules : List Rule) :
    (ofRules rules).renumber f = ofRules (rules.map (·.renumber f)) := rfl

@[simp] theorem start_renumber (g : Grammar) : (g.renumber f).start = g.start := by
  simp only [start, renumber, List.head?_map, Option.map_map, Function.comp_def, Rule.head_renumber]

@[simp] theorem nonterminals_renumber (g : Grammar) :
    (g.renumber f).nonterminals = g.nonterminals := by
  simp only [nonterminals, renumber, List.flatMap_map, Rule.names_renumber]

@[simp] theorem isDefined_renumber (g : Grammar) : (g.renumber f).isDefined = g.isDefined := by
  funext name
  simp only [isDefined, renumber, List.any_map, Function.comp_def, Rule.head_renumber]

@[simp] theorem heads_renumber (g : Grammar) : (g.renumber f).heads = g.heads := by
  rw [heads, heads, nonterminals_renumber, isDefined_renumber]

theorem rulesOf_renumber (g : Grammar) (name : String) :
    (g.renumber f).rulesOf name = (g.rulesOf name).map (·.renumber f) :=
  List.filter_map

theorem productions_renumber (g : Grammar) (name : String) :
    (g.renumber f).productions name = (g.productions name).map (·.renumber f) := by
  rw [productions, productions, rulesOf_renumber, List.map_map, List.map_map]
  rfl

theorem groupedRules_renumber (g : Grammar) :
    (g.renumber f).groupedRules = g.groupedRules.map (·.renumber f) := by
  rw [groupedRules, groupedRules, heads_renumber, List.map_flatMap]
  exact congrArg (List.flatMap · g.heads) (funext g.rulesOf_renumber)

theorem mentions_renumber (rules : List Rule) :
    (rules.map (·.renumber f)).flatMap (fun rule =>
        rule.production.nonterminals.map fun name => (name, rule.production.location)) =
      (rules.flatMap fun rule =>
        rule.production.nonterminals.map fun name => (name, rule.production.location)).map
          fun mention => (mention.1, mention.2.renumber f) := by
  rw [List.flatMap_map, List.map_flatMap]
  refine congrArg (List.flatMap · rules) (funext fun rule => ?_)
  rw [List.map_map]
  rfl

theorem undefinedMentions_renumber (g : Grammar) :
    (g.renumber f).undefinedMentions =
      g.undefinedMentions.map fun mention => (mention.1, mention.2.renumber f) := by
  rw [undefinedMentions, undefinedMentions, groupedRules_renumber, mentions_renumber,
    isDefined_renumber, List.filter_map]
  rfl

end Grammar

/-- If renumbering keeps the order of the lines, each undefined nonterminal is still reported at the
same mention. -/
theorem Grammar.undefinedErrors_renumber (hf : StrictMonoOn f numbers)
    (h : ∀ rule ∈ g.rules, rule.production.location.line ∈ numbers) :
    (g.renumber f).undefinedErrors = g.undefinedErrors.map (·.renumber f) := by
  have hline (mention) (hmention : mention ∈ g.undefinedMentions) : mention.2.line ∈ numbers := by
    obtain ⟨rule, hr, hlocation⟩ := exists_rule_of_mem_undefinedMentions hmention
    exact hlocation ▸ h rule hr
  have hsort : sortByKey (·.2.line) (g.undefinedMentions.map fun m => (m.1, m.2.renumber f)) =
      (sortByKey (·.2.line) g.undefinedMentions).map fun m => (m.1, m.2.renumber f) :=
    sortByKey_map fun a ha b hb => hf.le_iff_le (hline a ha) (hline b hb)
  rw [undefinedErrors, undefinedMentions_renumber, hsort,
    eraseDupsBy_map (r := (·.1 == ·.1)) fun _ _ => rfl, undefinedErrors, List.map_map, List.map_map]
  rfl

theorem sortByLine_renumber {errors : List LoadDiagnostic} (hf : StrictMonoOn f numbers)
    (h : ∀ e ∈ errors, e.location.line ∈ numbers) :
    sortByLine (errors.map (·.renumber f)) = (sortByLine errors).map (·.renumber f) :=
  sortByKey_map fun a ha b hb => hf.le_iff_le (h a ha) (h b hb)

end Lookahead
