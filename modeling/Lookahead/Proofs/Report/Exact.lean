import Lookahead.Proofs.Follow.Exact
import Lookahead.Proofs.Overrides
import Lookahead.Proofs.Report.Layout
import Lookahead.Proofs.RoundTrip

/-!
# What the report shows

The table is aligned, and what its cells show can be read back. The members of a set are shown as
terminals are written, and like these they end at the next quote (`TextSet.display_injective`). The
mark of an undefined nonterminal begins with a space, which is part of no name
(`Report.nameCell_injective`). Names and terminals that come from a text are such names and hold no
quotes (`Grammar.IsSpellable`), so that rows are the same only if all that they show is
(`report_is_aligned_and_lossless`).
-/

namespace Lookahead

variable {g : Grammar} {name t : String}

/-! ## Sets of texts -/

namespace TextSet

def quotedChars (t : String) : List Char := '"' :: t.toList ++ ['"']

def laterChars (ts : List String) : List Char := ts.flatMap fun t => ',' :: ' ' :: quotedChars t

theorem laterChars_cons (t : String) (ts : List String) :
    laterChars (t :: ts) = ',' :: ' ' :: (quotedChars t ++ laterChars ts) := by
  simp [laterChars]

theorem toList_intercalate_quoted (t : String) (ts : List String) :
    (", ".intercalate ((t :: ts).map fun t => "\"" ++ t ++ "\"")).toList =
      quotedChars t ++ laterChars ts := by
  induction ts generalizing t with
  | nil => simp [quotedChars, laterChars]
  | cons u ts ih =>
    simp only [List.map_cons, String.intercalate_cons_cons, String.toList_append] at ih ⊢
    rw [ih, laterChars_cons]
    simp [quotedChars]

theorem readTerminal_quotedChars (ht : '"' ∉ t.toList) (rest : List Char) :
    Token.readTerminal (quotedChars t ++ rest) = (.ok (.terminal t), rest) := by
  have hread := Token.readTerminal_append (fun c hc => ne_of_mem_of_not_mem hc ht) rest
  simpa [quotedChars] using hread

theorem quotedChars_append_inj {u : String} {rest rest' : List Char} (ht : '"' ∉ t.toList)
    (hu : '"' ∉ u.toList) (h : quotedChars t ++ rest = quotedChars u ++ rest') :
    t = u ∧ rest = rest' := by
  have hread := congrArg Token.readTerminal h
  rw [readTerminal_quotedChars ht, readTerminal_quotedChars hu] at hread
  simpa using hread

theorem laterChars_inj {ts us : List String} (hts : ∀ t ∈ ts, '"' ∉ t.toList)
    (hus : ∀ u ∈ us, '"' ∉ u.toList) (h : laterChars ts = laterChars us) : ts = us := by
  induction ts generalizing us with
  | nil =>
    cases us with
    | nil => rfl
    | cons u us => cases h.trans (laterChars_cons u us)
  | cons t ts ih =>
    cases us with
    | nil => cases (laterChars_cons t ts).symm.trans h
    | cons u us =>
      obtain ⟨ht, hts⟩ := List.forall_mem_cons.1 hts
      obtain ⟨hu, hus⟩ := List.forall_mem_cons.1 hus
      rw [laterChars_cons, laterChars_cons] at h
      obtain ⟨htu, hrest⟩ := quotedChars_append_inj ht hu (List.cons.inj (List.cons.inj h).2).2
      rw [htu, ih hts hus hrest]

theorem intercalate_quoted_inj {ts us : List String} (hts : ∀ t ∈ ts, '"' ∉ t.toList)
    (hus : ∀ u ∈ us, '"' ∉ u.toList)
    (h : (", ".intercalate (ts.map fun t => "\"" ++ t ++ "\"")).toList =
      (", ".intercalate (us.map fun t => "\"" ++ t ++ "\"")).toList) : ts = us := by
  cases ts with
  | nil =>
    cases us with
    | nil => rfl
    | cons u us => cases h.trans (toList_intercalate_quoted u us)
  | cons t ts =>
    cases us with
    | nil => cases (toList_intercalate_quoted t ts).symm.trans h
    | cons u us =>
      obtain ⟨ht, hts⟩ := List.forall_mem_cons.1 hts
      obtain ⟨hu, hus⟩ := List.forall_mem_cons.1 hus
      rw [toList_intercalate_quoted, toList_intercalate_quoted] at h
      obtain ⟨htu, hrest⟩ := quotedChars_append_inj ht hu h
      rw [htu, laterChars_inj hts hus hrest]

/-- A set without quotes can be read back, whatever else its members hold. -/
theorem display_injective {s u : TextSet} (hs : ∀ t ∈ s, '"' ∉ t.toList)
    (hu : ∀ t ∈ u, '"' ∉ t.toList) (h : s.display = u.display) : s = u := by
  obtain ⟨ts, hsorted⟩ := s
  obtain ⟨us, hsorted'⟩ := u
  have hwords := congrArg String.toList h
  simp only [display, braced, String.toList_append, List.append_cancel_left_eq,
    List.append_cancel_right_eq] at hwords
  obtain rfl : ts = us := intercalate_quoted_inj hs hu hwords
  rfl

end TextSet

namespace Report

theorem takeWhile_nameCell (defined : Bool) (hname : ∀ c ∈ name.toList, Text.isNameChar c = true) :
    (if defined then name else name ++ " (undefined)").toList.takeWhile Text.isNameChar =
      name.toList := by
  have hspace : Text.isNameChar ' ' = false := Text.isNameChar_of_isBlank (by decide)
  cases defined with
  | true => simpa using hname
  | false => simp [List.takeWhile_append_of_pos hname, hspace]

theorem nameCell_injective {name' : String} {defined defined' : Bool}
    (hname : ∀ c ∈ name.toList, Text.isNameChar c = true)
    (hname' : ∀ c ∈ name'.toList, Text.isNameChar c = true)
    (h : (if defined then name else name ++ " (undefined)") =
      if defined' then name' else name' ++ " (undefined)") :
    name = name' ∧ defined = defined' := by
  have heq : name = name' := by
    rw [← String.toList_inj, ← takeWhile_nameCell defined hname, h,
      takeWhile_nameCell defined' hname']
  subst heq
  refine ⟨rfl, ?_⟩
  have hlength := congrArg String.length h
  cases defined <;> cases defined' <;> simp at hlength ⊢

theorem summary_eq (n : Nat) :
    summary n = (if n = 0 then "No" else toString n) ++
      (if n = 1 then " conflict found" else " conflicts found") := by
  match n with
  | 0 | 1 => rfl
  | n + 2 => simp [summary]

end Report

/-! ## Grammars of a text -/

namespace Grammar

def IsSpellable (g : Grammar) : Prop := ∀ rule ∈ g.rules, rule.IsSpellable

/-- The grammar is loaded from a text, with any requests for a start symbol. -/
def IsFromText (g : Grammar) : Prop :=
  ∃ file source requests, g = ((Loaded.ofSource file source).overrideAll requests).grammar

theorem IsFromText.isSpellable (h : g.IsFromText) : g.IsSpellable := by
  obtain ⟨file, source, requests, rfl⟩ := h
  intro rule hrule
  rw [Loaded.rules_overrideAll] at hrule
  exact (Loaded.isLoadable_of_mem_rules hrule).spellable

namespace IsSpellable

theorem isNameChar (h : g.IsSpellable) (hname : name ∈ g.nonterminals) :
    ∀ c ∈ name.toList, Text.isNameChar c = true := by
  obtain ⟨rule, hrule, hname⟩ := mem_nonterminals.1 hname
  obtain ⟨hhead, hsymbols⟩ := h rule hrule
  rcases List.mem_cons.1 hname with rfl | hname
  · exact hhead.2
  · obtain ⟨s, hs, hname⟩ := List.mem_filterMap.1 hname
    cases s with
    | terminal text => cases hname
    | nonterminal n =>
      cases hname
      exact (hsymbols _ hs).2

theorem quote_not_mem (h : g.IsSpellable) {rule : Rule} (hr : rule ∈ g.rules)
    (hs : .terminal t ∈ rule.production.symbols) : '"' ∉ t.toList := fun hquote =>
  (h rule hr).2 _ hs _ hquote rfl

theorem first (h : g.IsSpellable) : ∀ t ∈ g.firstSets.first name, '"' ∉ t.toList := by
  have hF : FirstSets.Closed g (.compute g) fun _ t => '"' ∉ t.toList :=
    { terminal := fun hr hsymbols _ _ => h.quote_not_mem hr (by simp [hsymbols])
      nonterminal := fun _ _ _ ht => ht }
  exact fun t ht => hF.of_mem_first ht

theorem follow (h : g.IsSpellable) : ∀ t ∈ g.followSets.follow name, '"' ∉ t.toList := by
  have hF : FollowSets.Closed g g.firstSets fun _ t => '"' ∉ t.toList := by
    refine ⟨fun _ => by decide, ?_, fun _ _ _ _ ht => ht⟩
    intro rule before _ rest t hr hsymbols _ ht
    obtain ⟨between, s, after, hrest, -, ht⟩ := FirstSets.mem_ofSequence.1 ht
    cases s with
    | terminal text =>
      obtain ⟨rfl, -⟩ := FirstSets.mem_terminals_terminal.1 ht
      exact h.quote_not_mem hr (by simp [hsymbols, hrest])
    | nonterminal n => exact h.first t ht
  exact fun t ht => hF.of_mem_follow ht

end IsSpellable

end Grammar

/-- The cells of two rows are the same only if all that they show is. -/
theorem row_injective {g g' : Grammar} {name name' : String} (hg : g.IsSpellable)
    (hg' : g'.IsSpellable) (hname : name ∈ g.nonterminals) (hname' : name' ∈ g'.nonterminals)
    (h : Report.row (analyze g) name = Report.row (analyze g') name') :
    name = name' ∧ g.isDefined name = g'.isDefined name' ∧
      (analyze g).isNullable name = (analyze g').isNullable name' ∧
      (analyze g).first.first name = (analyze g').first.first name' ∧
      (analyze g).follow.follow name = (analyze g').follow.follow name' := by
  simp only [Report.row, List.cons.injEq, and_true] at h
  obtain ⟨hcell, hnullable, hfirst, hfollow⟩ := h
  obtain ⟨hnames, hdefined⟩ :=
    Report.nameCell_injective (hg.isNameChar hname) (hg'.isNameChar hname') hcell
  refine ⟨hnames, hdefined, ?_, TextSet.display_injective hg.first hg'.first hfirst,
    TextSet.display_injective hg.follow hg'.follow hfollow⟩
  cases hn : (analyze g).isNullable name <;> cases hn' : (analyze g').isNullable name' <;>
    simp [hn, hn'] at hnullable ⊢

/-- For any analysis of a grammar with rules, the report begins with a table of a header and one row
for each nonterminal in order. Every cell stands in full at the sum of the widths of the columns
before it, each with two spaces, where a column is as wide as its widest cell; it is followed by
spaces only. Then come an empty line, the number of conflicts and one line for each of them. If the
grammars are loaded from texts, equal cells mean equal names, definedness, nullability, FIRST and
FOLLOW sets, since sets without quotes are shown alike only if they are equal. -/
theorem report_is_aligned_and_lossless :
    (∀ (a : Analysis) (warnings : List Warning) (colour : Bool), a.grammar.isEmpty = false →
      let rows := Report.header :: a.grammar.nonterminals.map (Report.row a)
      let widths := (List.range 4).map (Report.columnWidth rows)
      ∃ table, List.Forall₂ (Report.Aligned widths) rows table ∧
        Report.render a warnings colour =
          String.join ((table ++
            ["", (if warnings.length = 0 then "No" else toString warnings.length) ++
              (if warnings.length = 1 then " conflict found" else " conflicts found")] ++
            warnings.map (Diagnostic.render colour)).map (· ++ "\n"))) ∧
    (∀ g g' : Grammar, g.IsFromText → g'.IsFromText →
      ∀ name ∈ g.nonterminals, ∀ name' ∈ g'.nonterminals,
        Report.row (analyze g) name = Report.row (analyze g') name' →
        name = name' ∧ g.isDefined name = g'.isDefined name' ∧
          (analyze g).isNullable name = (analyze g').isNullable name' ∧
          (analyze g).first.first name = (analyze g').first.first name' ∧
          (analyze g).follow.follow name = (analyze g').follow.follow name') ∧
    ∀ s t : TextSet, (∀ x ∈ s, '"' ∉ x.toList) → (∀ x ∈ t, '"' ∉ x.toList) →
      s.display = t.display → s = t := by
  refine ⟨fun a warnings colour hrules => ?_, fun g g' hg hg' name hname name' hname' => ?_,
    fun s t => TextSet.display_injective⟩
  · refine ⟨Report.table a, Report.forall₂_aligned_table a, ?_⟩
    rw [Report.render, hrules, Report.lines, Report.summary_eq]
    rfl
  · exact row_injective hg.isSpellable hg'.isSpellable hname hname'

/-- The grammar of one line, with a terminal that looks like two parts of a shown set and a
nonterminal without productions. -/
def undefinedTail : Grammar :=
  (Loaded.ofSource "once.bnf" (.ofText "S -> \"é\x7d, \x7b\" T .")).grammar

/-- The grammar that has this line twice. -/
def repeatedTail : Grammar :=
  (Loaded.ofSource "twice.bnf"
    (.ofText "S -> \"é\x7d, \x7b\" T .\nS -> \"é\x7d, \x7b\" T .")).grammar

/-- The report on the second grammar, and the row of `S` in both. -/
theorem report_is_aligned_and_lossless_repeatedTail :
    let a := analyze repeatedTail
    let warnings := repeatedTail.conflicts a.first
    let rows := Report.header :: repeatedTail.nonterminals.map (Report.row a)
    let widths := (List.range 4).map (Report.columnWidth rows)
    repeatedTail.isEmpty = false ∧ widths = [13, 8, 9, 15] ∧
    (∃ table, List.Forall₂ (Report.Aligned widths) rows table ∧
      Report.render a warnings false =
        String.join ((table ++ ["", "1 conflict found"] ++
          warnings.map (Diagnostic.render false)).map (· ++ "\n"))) ∧
    Report.render a warnings false =
      "Symbol         Nullable  FIRST      FOLLOW\n" ++
      "S              no        \x7b\"é\x7d, \x7b\"\x7d  \x7b\"end-of-file\"\x7d\n" ++
      "T (undefined)  no        \x7b\x7d         \x7b\"end-of-file\"\x7d\n" ++
      "\n1 conflict found\n[twice.bnf:2] warning: Uniqueness conflict for `S` between " ++
      "`\"é\x7d, \x7b\" T` and `\"é\x7d, \x7b\" T` on \x7b\"é\x7d, \x7b\"\x7d\n" ∧
    Report.row (analyze undefinedTail) "S" = Report.row a "S" ∧
    (analyze undefinedTail).first.first "S" = a.first.first "S" ∧
    (TextSet.ofList ["\x7d", "a, b"]).display = (TextSet.ofList ["a, b", "\x7d"]).display ∧
    TextSet.ofList ["\x7d", "a, b"] = TextSet.ofList ["a, b", "\x7d"] := by
  intro a warnings rows widths
  obtain ⟨hreport, hrow, hdisplay⟩ := report_is_aligned_and_lossless
  have hrules : repeatedTail.isEmpty = false := by decide +kernel
  have hcount : warnings.length = 1 := by decide +kernel
  obtain ⟨table, haligned, hrender⟩ := hreport a warnings false hrules
  rw [hcount] at hrender
  have hcells : Report.row (analyze undefinedTail) "S" = Report.row a "S" := by decide +kernel
  obtain ⟨-, -, -, hfirst, -⟩ :=
    hrow undefinedTail repeatedTail ⟨_, _, [], rfl⟩ ⟨_, _, [], rfl⟩ "S" (by decide +kernel) "S"
      (by decide +kernel) hcells
  have hshown : (TextSet.ofList ["\x7d", "a, b"]).display =
      (TextSet.ofList ["a, b", "\x7d"]).display := by decide +kernel
  exact ⟨hrules, by decide +kernel, ⟨table, haligned, hrender⟩, by decide +kernel, hcells, hfirst,
    hshown, hdisplay _ _ (by decide) (by decide) hshown⟩

end Lookahead
