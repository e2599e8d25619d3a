import Lookahead.Proofs.Token.Lexer

/-!
# The first bad token of a line

A line that renders no tokens has exactly one split into a rendering and characters that begin no
token, and these characters say what the error is (`lex_exact`). The split is unique because a
rendering that goes on into such characters would itself have no tokens
(`Renders.eq_nil_of_append`).
-/

namespace Lookahead

open Token

variable {tokens tokens' : List Token} {before before' rest rest' x : List Char} {e e' : LexError}

namespace Token

/-- The characters that make a start bad are among the first two, or a quote stays unmatched. -/
theorem BadStart.of_append (hx : x ≠ []) (h : BadStart (x ++ rest) e) : BadStart x e := by
  obtain ⟨c, x, rfl⟩ := List.exists_cons_of_ne_nil hx
  rw [List.cons_append] at h
  cases h with
  | quote hquote => exact .quote fun hmem => hquote (List.mem_append_left _ hmem)
  | dash hdash =>
    refine .dash fun hhead => hdash ?_
    rw [List.head?_append, hhead, Option.some_or]
  | character hblank hname hperiod hdash hquote =>
    exact .character hblank hname hperiod hdash hquote

theorem BadStart.unique (h : BadStart rest e) (h' : BadStart rest e') : e = e' :=
  Except.error.inj ((lex_of_badStart h).symm.trans (lex_of_badStart h'))

end Token

/-- A rendering that goes on as a longer one does not go on with characters that begin no token. -/
theorem Renders.eq_nil_of_append (h : Renders tokens before) (h' : Renders tokens' (before ++ x))
    (hrest : BadStart (x ++ rest) e) : x = [] := by
  apply Classical.byContradiction
  intro hx
  have herror : lex (before ++ x) = .error e := lex_of_split h (hrest.of_append hx)
  rw [lex_of_renders h'] at herror
  cases herror

theorem Renders.split_unique (h : Renders tokens before) (hrest : BadStart rest e)
    (h' : Renders tokens' before') (hrest' : BadStart rest' e')
    (heq : before ++ rest = before' ++ rest') : before = before' ∧ rest = rest' := by
  rcases List.append_eq_append_iff.1 heq with ⟨x, rfl, rfl⟩ | ⟨x, rfl, rfl⟩
  · obtain rfl := h.eq_nil_of_append h' hrest
    exact ⟨(List.append_nil _).symm, rfl⟩
  · obtain rfl := h'.eq_nil_of_append h hrest'
    exact ⟨List.append_nil _, rfl⟩

/-- A line is split into tokens exactly if it renders them. A line that renders no tokens is, in
exactly one way, a rendering followed by characters that begin no token, and their error is the
error of the line. -/
theorem lex_exact (line : List Char) :
    (∀ tokens, lex line = .ok tokens ↔ Renders tokens line) ∧
    ((∀ tokens, ¬ Renders tokens line) →
      ∃ before rest e, line = before ++ rest ∧ (∃ tokens, Renders tokens before) ∧
        BadStart rest e ∧ lex line = .error e ∧
        ∀ before' rest' e', line = before' ++ rest' → (∃ tokens, Renders tokens before') →
          BadStart rest' e' → before' = before ∧ rest' = rest ∧ e' = e) := by
  refine ⟨fun _ => lex_eq_ok_iff, fun hnone => ?_⟩
  obtain ⟨tokens, before, rest, rfl, hrenders, hrest⟩ := exists_split line
  rcases hrest with rfl | ⟨e, hrest⟩
  · rw [List.append_nil] at hnone
    exact absurd hrenders (hnone tokens)
  · refine ⟨before, rest, e, rfl, ⟨tokens, hrenders⟩, hrest, lex_of_split hrenders hrest, ?_⟩
    rintro before' rest' e' heq ⟨tokens', hrenders'⟩ hrest'
    obtain ⟨rfl, rfl⟩ := hrenders.split_unique hrest hrenders' hrest' heq
    exact ⟨rfl, rfl, hrest'.unique hrest⟩

/-- The dash alone comes before the quote that is not closed; the bad characters in the first quotes
are no tokens and do no harm. -/
theorem lex_exact_loneDash :
    (∀ tokens, ¬ Renders tokens "a->\"#-\".-\"".toList) ∧
    lex "a->\"#-\".-\"".toList = .error (.unexpectedCharacter '-') ∧
    ∀ before rest e, "a->\"#-\".-\"".toList = before ++ rest → (∃ tokens, Renders tokens before) →
      BadStart rest e → rest = "-\"".toList := by
  have hlex : lex "a->\"#-\".-\"".toList = .error (.unexpectedCharacter '-') := by decide +kernel
  obtain ⟨hok, hsplit⟩ := lex_exact "a->\"#-\".-\"".toList
  have hnone : ∀ tokens, ¬ Renders tokens "a->\"#-\".-\"".toList := by
    intro tokens h
    rw [← hok, hlex] at h
    cases h
  have hbefore : Renders [.nonterminal "a", .arrow, .terminal "#-", .period]
      "a->\"#-\".".toList := lex_eq_ok_iff.1 (by decide +kernel)
  have hrest : BadStart "-\"".toList (.unexpectedCharacter '-') := .dash (by decide)
  obtain ⟨before, rest, e, -, -, -, -, hunique⟩ := hsplit hnone
  obtain ⟨-, rfl, -⟩ := hunique _ _ _ rfl ⟨_, hbefore⟩ hrest
  exact ⟨hnone, hlex, fun before' rest' e' heq h h' => (hunique before' rest' e' heq h h').2.1⟩

end Lookahead
