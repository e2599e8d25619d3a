import Lookahead.Token
import Mathlib.Data.List.TakeWhile

/-!
# A line lexes to the tokens it renders

Reading a token off the front of a line undoes its spelling, as long as a name is not followed by
another character of a name (`lex_spelling_append`), and so a rendering in front of a line is read
token by token (`lex_append`). Every line is a rendering up to its end or to characters that begin
no token (`exists_split`). Hence a line is split into some tokens exactly if it is a rendering of
them (`lex_eq_ok_iff`).
-/

namespace Lookahead

theorem exists_of_map_eq_ok {ε α β : Type} {e : Except ε α} {f : α → β} {b : β}
    (h : e.map f = .ok b) : ∃ a, e = .ok a ∧ f a = b := by
  cases e with
  | error e => cases h
  | ok a => exact ⟨a, rfl, Except.ok.inj h⟩

theorem map_eq_error_iff {ε α β : Type} {result : Except ε α} {f : α → β} {e : ε} :
    result.map f = .error e ↔ result = .error e := by
  cases result <;> simp [Except.map]

namespace Token

open Text

variable {token : Token} {tokens : List Token} {gap line rest text : List Char} {c : Char}

def NoNameFirst (line : List Char) : Prop := ∀ c ∈ line.head?, isNameChar c = false

theorem NoNameFirst.takeWhile (h : NoNameFirst line) : line.takeWhile isNameChar = [] := by
  cases line with
  | nil => rfl
  | cons c line => simp [h c rfl]

theorem NoNameFirst.dropWhile (h : NoNameFirst line) : line.dropWhile isNameChar = line := by
  cases line with
  | nil => rfl
  | cons c line => simp [h c rfl]

theorem noNameFirst_dropWhile (line : List Char) : NoNameFirst (line.dropWhile isNameChar) := by
  intro c hc
  have hnot := List.head?_dropWhile_not isNameChar line
  rwa [hc] at hnot

theorem lex_period (line : List Char) : lex ('.' :: line) = (lex line).map (.period :: ·) := by
  rw [lex]
  simp

theorem lex_arrow (line : List Char) : lex ('-' :: '>' :: line) = (lex line).map (.arrow :: ·) := by
  have hread : readArrow ('-' :: '>' :: line) = (.ok .arrow, line) := rfl
  rw [lex, if_neg (by decide), if_pos rfl]
  split
  · rename_i token rest h
    obtain ⟨rfl, rfl⟩ : arrow = token ∧ line = rest := by simpa [hread] using h
    rfl
  · rename_i h
    simp [hread] at h

theorem readTerminal_append (htext : ∀ c ∈ text, c ≠ '"') (line : List Char) :
    readTerminal ('"' :: (text ++ '"' :: line)) = (.ok (.terminal (String.ofList text)), line) := by
  have hinside : ∀ c ∈ text, (c != '"') = true := by simpa using htext
  simp [readTerminal, List.takeWhile_append_of_pos hinside, List.dropWhile_append_of_pos hinside]

theorem lex_terminal (htext : ∀ c ∈ text, c ≠ '"') (line : List Char) :
    lex ('"' :: (text ++ '"' :: line)) =
      (lex line).map (.terminal (String.ofList text) :: ·) := by
  have hread := readTerminal_append htext line
  rw [lex, if_neg (by decide), if_neg (by decide), if_pos rfl]
  split
  · rename_i token rest h
    obtain ⟨rfl, rfl⟩ : .terminal (String.ofList text) = token ∧ line = rest := by
      simpa [hread] using h
    rfl
  · rename_i h
    simp [hread] at h

theorem lex_blank (h : isBlank c = true) (line : List Char) : lex (c :: line) = lex line := by
  have hname := isNameChar_of_isBlank h
  have hne : c ≠ '.' ∧ c ≠ '-' ∧ c ≠ '"' := by
    refine ⟨?_, ?_, ?_⟩ <;> rintro rfl <;> revert h <;> decide
  rw [lex]
  simp [hne, hname, h]

theorem lex_gap (hgap : IsGap gap) (line : List Char) : lex (gap ++ line) = lex line := by
  induction gap with
  | nil => rfl
  | cons c gap ih =>
    obtain ⟨hc, hgap⟩ := List.forall_mem_cons.1 hgap
    exact (lex_blank hc _).trans (ih hgap)

theorem lex_name (hc : isNameChar c = true) (line : List Char) :
    lex (c :: line) = (lex (line.dropWhile isNameChar)).map
      (.nonterminal (String.ofList (c :: line.takeWhile isNameChar)) :: ·) := by
  have hne : c ≠ '.' ∧ c ≠ '-' ∧ c ≠ '"' := by
    refine ⟨?_, ?_, ?_⟩ <;> rintro rfl
    · exact Bool.false_ne_true (isNameChar_period ▸ hc)
    · exact Bool.false_ne_true (isNameChar_dash ▸ hc)
    · exact Bool.false_ne_true (isNameChar_quote ▸ hc)
  rw [lex]
  simp [hne, hc, readNonterminal]

theorem lex_spelling_append (h : token.IsSpellable)
    (hnext : token.isName = true → NoNameFirst line) :
    lex (token.spelling.toList ++ line) = (lex line).map (token :: ·) := by
  cases token with
  | arrow => exact lex_arrow line
  | period => exact lex_period line
  | terminal text => simpa [spelling] using lex_terminal h line
  | nonterminal name =>
    obtain ⟨hne, hname⟩ := h
    have hline : NoNameFirst line := hnext rfl
    cases hcs : name.toList with
    | nil => exact absurd (String.toList_eq_nil_iff.1 hcs) hne
    | cons c cs =>
      rw [hcs] at hname
      obtain ⟨hc, hcs'⟩ := List.forall_mem_cons.1 hname
      have hof : String.ofList (c :: cs) = name := by rw [← hcs, String.ofList_toList]
      rw [spelling, hcs, List.cons_append, lex_name hc, List.takeWhile_append_of_pos hcs',
        List.dropWhile_append_of_pos hcs', hline.takeWhile, hline.dropWhile, List.append_nil, hof]

/-! ## Renderings -/

theorem noNameFirst_iff (h : RendersTight tokens line) :
    NoNameFirst line ↔ (tokens.head?.any isName) = false := by
  cases h with
  | nil => simp [NoNameFirst]
  | @cons token tokens gap line hspell hgap _ _ =>
    cases token with
    | arrow => simp [NoNameFirst, spelling, isName, isNameChar_dash]
    | period => simp [NoNameFirst, spelling, isName, isNameChar_period]
    | terminal text => simp [NoNameFirst, spelling, isName, isNameChar_quote]
    | nonterminal name =>
      obtain ⟨hne, hname⟩ := hspell
      cases hcs : name.toList with
      | nil => exact absurd (String.toList_eq_nil_iff.1 hcs) hne
      | cons c cs =>
        have hc : isNameChar c = true := hname c (hcs ▸ List.mem_cons_self)
        simp [NoNameFirst, spelling, isName, hcs, hc]

theorem noNameFirst_gap_append (hgap : IsGap gap) (h : gap ≠ [] ∨ NoNameFirst line) :
    NoNameFirst (gap ++ line) := by
  cases gap with
  | nil => exact h.resolve_left (absurd rfl)
  | cons c gap =>
    intro c' hc'
    obtain rfl : c = c' := Option.some.inj hc'
    exact isNameChar_of_isBlank (hgap c List.mem_cons_self)

theorem NoNameFirst.append (h : NoNameFirst line) (hrest : NoNameFirst rest) :
    NoNameFirst (line ++ rest) := by
  cases line with
  | nil => exact hrest
  | cons c line => exact h

theorem NoNameFirst.of_append (h : NoNameFirst (line ++ rest)) : NoNameFirst line := by
  cases line with
  | nil => exact nofun
  | cons c line => exact h

theorem lex_rendersTight_append (h : RendersTight tokens line) (hrest : NoNameFirst rest) :
    lex (line ++ rest) = (lex rest).map (tokens ++ ·) := by
  induction h with
  | nil => cases h : lex rest <;> simp [h, Except.map]
  | @cons token tokens gap line hspell hgap hsep htight ih =>
    have hnext : token.isName = true → NoNameFirst (gap ++ (line ++ rest)) := by
      intro hname
      refine noNameFirst_gap_append hgap (Classical.or_iff_not_imp_left.2 fun hnil => ?_)
      refine NoNameFirst.append ((noNameFirst_iff htight).2 ?_) hrest
      exact Bool.eq_false_iff.2 fun hfirst => hnil (hsep hname hfirst)
    rw [List.append_assoc, List.append_assoc, lex_spelling_append hspell hnext, lex_gap hgap, ih]
    cases lex rest <;> rfl

/-- A rendering in front of a line is read token by token. -/
theorem lex_append (h : Renders tokens line) (hrest : NoNameFirst rest) :
    lex (line ++ rest) = (lex rest).map (tokens ++ ·) := by
  obtain ⟨gap, line, rfl, hgap, htight⟩ := h
  rw [List.append_assoc, lex_gap hgap, lex_rendersTight_append htight hrest]

theorem renders_cons (hspell : token.IsSpellable) (hnext : token.isName = true → NoNameFirst line)
    (h : Renders tokens line) : Renders (token :: tokens) (token.spelling.toList ++ line) := by
  obtain ⟨gap, rest, rfl, hgap, htight⟩ := h
  rw [← List.append_assoc]
  refine ⟨[], _, rfl, nofun, .cons hspell hgap (fun hname hfirst hnil => ?_) htight⟩
  have hno : NoNameFirst rest := by simpa [hnil] using hnext hname
  rw [noNameFirst_iff htight, hfirst] at hno
  cases hno

/-! ## Where a line goes wrong -/

/-- No token begins with these characters, and the error says why. -/
inductive BadStart : List Char → LexError → Prop where
  | quote {rest : List Char} : '"' ∉ rest → BadStart ('"' :: rest) .unmatchedQuote
  | dash {rest : List Char} : rest.head? ≠ some '>' →
      BadStart ('-' :: rest) (.unexpectedCharacter '-')
  | character {c : Char} {rest : List Char} : isBlank c = false → isNameChar c = false →
      c ≠ '.' → c ≠ '-' → c ≠ '"' → BadStart (c :: rest) (.unexpectedCharacter c)

variable {e : LexError}

theorem BadStart.noNameFirst (h : BadStart rest e) : NoNameFirst rest := by
  cases h with
  | quote => simp [NoNameFirst, isNameChar_quote]
  | dash => simp [NoNameFirst, isNameChar_dash]
  | character _ hname => simp [NoNameFirst, hname]

theorem lex_of_badStart (h : BadStart rest e) : lex rest = .error e := by
  cases h with
  | @quote rest hquote =>
    have hread : readTerminal ('"' :: rest) = (.error .unmatchedQuote, []) := by
      have hinside : rest.dropWhile (· != '"') = [] :=
        List.dropWhile_eq_nil_iff.2 fun c hc => bne_iff_ne.2 (ne_of_mem_of_not_mem hc hquote)
      simp [readTerminal, hinside]
    rw [lex, if_neg (by decide), if_neg (by decide), if_pos rfl]
    split
    · rename_i h
      simp [hread] at h
    · rename_i e _ h
      obtain ⟨rfl, -⟩ : LexError.unmatchedQuote = e ∧ _ := by simpa [hread] using h
      rfl
  | @dash rest hdash =>
    have hread : readArrow ('-' :: rest) = (.error (.unexpectedCharacter '-'), rest.drop 1) := by
      unfold readArrow
      split
      · rename_i h
        obtain rfl : rest = _ := h
        exact absurd rfl hdash
      · rfl
    rw [lex, if_neg (by decide), if_pos rfl]
    split
    · rename_i h
      simp [hread] at h
    · rename_i e _ h
      obtain ⟨rfl, -⟩ : LexError.unexpectedCharacter '-' = e ∧ _ := by simpa [hread] using h
      rfl
  | character hblank hname hperiod hdash hquote =>
    rw [lex]
    simp [hblank, hname, hperiod, hdash, hquote]

theorem eq_arrow_of_readArrow (h : readArrow ('-' :: line) = (.ok token, rest)) :
    token = .arrow ∧ line = '>' :: rest := by
  unfold readArrow at h
  split at h
  · rename_i rest' hline
    obtain ⟨rfl, rfl⟩ : .arrow = token ∧ rest' = rest := by simpa using h
    exact ⟨rfl, hline⟩
  · cases h

theorem eq_terminal_of_readTerminal (h : readTerminal ('"' :: line) = (.ok token, rest)) :
    ∃ text, token = .terminal (String.ofList text) ∧ line = text ++ '"' :: rest ∧
      ∀ c ∈ text, c ≠ '"' := by
  unfold readTerminal at h
  simp only [List.drop_succ_cons, List.drop_zero] at h
  split at h
  · cases h
  · rename_i c rest' hline
    obtain rfl : c = '"' := by simpa [hline] using List.head?_dropWhile_not (· != '"') line
    have hinside : ∀ c ∈ line.takeWhile (· != '"'), c ≠ '"' := by
      simpa using List.all_eq_true.1 (List.all_takeWhile (p := (· != '"')) (l := line))
    simp only [Prod.mk.injEq, Except.ok.injEq] at h
    obtain ⟨rfl, rfl⟩ := h
    refine ⟨line.takeWhile (· != '"'), rfl, ?_, hinside⟩
    rw [← hline, List.takeWhile_append_dropWhile]

theorem head?_ne_of_readArrow (h : readArrow ('-' :: line) = (.error e, rest)) :
    e = .unexpectedCharacter '-' ∧ line.head? ≠ some '>' := by
  unfold readArrow at h
  split at h
  · cases h
  · rename_i hline
    simp only [Prod.mk.injEq, Except.error.injEq] at h
    refine ⟨h.1.symm, fun hhead => ?_⟩
    obtain ⟨rest', rfl⟩ := List.head?_eq_some_iff.1 hhead
    exact hline rest' rfl

theorem not_mem_of_readTerminal (h : readTerminal ('"' :: line) = (.error e, rest)) :
    e = .unmatchedQuote ∧ '"' ∉ line := by
  unfold readTerminal at h
  simp only [List.drop_succ_cons, List.drop_zero] at h
  split at h
  · rename_i hline
    simp only [Prod.mk.injEq, Except.error.injEq] at h
    refine ⟨h.1.symm, fun hmem => ?_⟩
    simpa using List.dropWhile_eq_nil_iff.1 hline _ hmem
  · cases h

/-- The line is a rendering of some tokens up to its end, or up to characters that begin no token.
-/
def Splits (line : List Char) : Prop :=
  ∃ tokens before rest, line = before ++ rest ∧ Renders tokens before ∧
    (rest = [] ∨ ∃ e, BadStart rest e)

theorem Splits.of_badStart (h : BadStart line e) : Splits line :=
  ⟨[], [], line, rfl, renders_nil.2 nofun, .inr ⟨e, h⟩⟩

theorem Splits.cons (hspell : token.IsSpellable) (hnext : token.isName = true → NoNameFirst line)
    (h : Splits line) : Splits (token.spelling.toList ++ line) := by
  obtain ⟨tokens, before, rest, rfl, hrenders, hrest⟩ := h
  exact ⟨token :: tokens, token.spelling.toList ++ before, rest, (List.append_assoc ..).symm,
    renders_cons hspell (fun hname => (hnext hname).of_append) hrenders, hrest⟩

theorem exists_split (line : List Char) : Splits line := by
  fun_induction lex line with
  | case1 => exact ⟨[], [], [], rfl, renders_nil.2 nofun, .inl rfl⟩
  | case2 line ih =>
    have hspell : IsSpellable .period := trivial
    exact ih.cons hspell nofun
  | case3 line token rest _ hread _ ih =>
    obtain ⟨rfl, rfl⟩ := eq_arrow_of_readArrow hread
    have hspell : IsSpellable .arrow := trivial
    exact ih.cons hspell nofun
  | case4 line e rest _ hread =>
    obtain ⟨rfl, hhead⟩ := head?_ne_of_readArrow hread
    exact .of_badStart (.dash hhead)
  | case5 line token rest _ _ hread _ ih =>
    obtain ⟨text, rfl, rfl, htext⟩ := eq_terminal_of_readTerminal hread
    have hspell : IsSpellable (.terminal (String.ofList text)) := by simpa [IsSpellable]
    have hsplits := ih.cons hspell nofun
    simpa [spelling] using hsplits
  | case6 line e rest _ _ hread =>
    obtain ⟨rfl, hmem⟩ := not_mem_of_readTerminal hread
    exact .of_badStart (.quote hmem)
  | case7 c line _ _ _ hc _ ih =>
    have hline : (c :: line).takeWhile isNameChar ≠ [] := by simp [hc]
    have hname := List.all_eq_true.1 (List.all_takeWhile (p := isNameChar) (l := c :: line))
    have hspell : IsSpellable (.nonterminal (String.ofList ((c :: line).takeWhile isNameChar))) :=
      ⟨mt String.ofList_eq_empty_iff.1 hline, by rwa [String.toList_ofList]⟩
    have hsplits := ih.cons hspell fun _ => noNameFirst_dropWhile _
    simpa [spelling, readNonterminal] using hsplits
  | case8 c line _ _ _ _ hc ih =>
    obtain ⟨tokens, before, rest, rfl, hrenders, hrest⟩ := ih
    have hgap : IsGap [c] := by simpa [IsGap] using hc
    exact ⟨tokens, c :: before, rest, rfl, hrenders.append_gap hgap, hrest⟩
  | case9 c line hperiod hdash hquote hname hblank =>
    exact .of_badStart (.character (Bool.eq_false_iff.2 hblank) (Bool.eq_false_iff.2 hname) hperiod
      hdash hquote)

theorem lex_of_renders (h : Renders tokens line) : lex line = .ok tokens := by
  have hnil : NoNameFirst [] := nofun
  have happend := lex_append h hnil
  rw [List.append_nil, lex] at happend
  simpa [Except.map] using happend

theorem lex_of_split (h : Renders tokens line) (hrest : BadStart rest e) :
    lex (line ++ rest) = .error e := by
  rw [lex_append h hrest.noNameFirst, lex_of_badStart hrest]
  rfl

theorem BadStart.append_gap (h : BadStart rest e) (hgap : IsGap gap) :
    BadStart (rest ++ gap) e := by
  cases h with
  | @quote rest hquote =>
    refine .quote fun hmem => ?_
    rcases List.mem_append.1 hmem with hmem | hmem
    · exact hquote hmem
    · have hblank := hgap _ hmem
      revert hblank
      decide
  | @dash rest hdash =>
    refine .dash fun hhead => ?_
    cases rest with
    | nil =>
      have hblank := hgap _ (List.mem_of_mem_head? hhead)
      revert hblank
      decide
    | cons c rest => exact hdash hhead
  | character hblank hname hperiod hdash hquote =>
    exact .character hblank hname hperiod hdash hquote

theorem lex_append_gap (hgap : IsGap gap) (line : List Char) : lex (line ++ gap) = lex line := by
  obtain ⟨tokens, before, rest, rfl, hrenders, rfl | ⟨e, hrest⟩⟩ := exists_split line
  · have hnil : NoNameFirst gap := by
      simpa using noNameFirst_gap_append hgap (.inr (nofun : NoNameFirst []))
    have hlex : lex gap = lex [] := by simpa using lex_gap hgap []
    rw [List.append_nil, lex_append hrenders hnil, hlex, lex_of_renders hrenders, lex]
    simp [Except.map]
  · rw [List.append_assoc, lex_of_split hrenders (hrest.append_gap hgap),
      lex_of_split hrenders hrest]

/-- A line is split into some tokens exactly if it renders them. -/
theorem lex_eq_ok_iff : lex line = .ok tokens ↔ Renders tokens line := by
  refine ⟨fun h => ?_, lex_of_renders⟩
  obtain ⟨tokens', before, rest, rfl, hrenders, rfl | ⟨e, hrest⟩⟩ := exists_split line
  · rw [List.append_nil] at h ⊢
    rw [lex_of_renders hrenders] at h
    exact Except.ok.inj h ▸ hrenders
  · rw [lex_of_split hrenders hrest] at h
    cases h

end Token

end Lookahead
