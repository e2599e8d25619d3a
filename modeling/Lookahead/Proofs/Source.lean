import Lookahead.Source
import Mathlib.Data.List.TakeWhile

/-!
# Sources written from texts

A text is decoded from the bytes that encode it, and from no others (`decode?_eq_some_iff`). A line
feed is one byte that no other character uses, so a source written from texts with a line feed after
each has just these texts as its lines (`lines_ofText_join`), and a text decoded from a line has no
line feed. A carriage return is such a byte as well, so at the end of a line it does not change how
the bytes before it are decoded (`decode?_append_carriageReturn`).
-/

namespace Lookahead.Bytes

variable {bytes line rest : Bytes} {text : String}

/-! ## Encoding -/

theorem toByteArray_ofText (text : String) : (ofText text).toByteArray = text.toUTF8 := by
  apply ByteArray.ext
  rw [ofText, List.data_toByteArray, Array.toArray_toList]

theorem decode?_ofText (text : String) : (ofText text).decode? = some text := by
  rw [decode?, toByteArray_ofText, String.fromUTF8?, String.toUTF8_eq_toByteArray,
    dif_pos text.isValidUTF8]
  rfl

theorem decode?_eq_some_iff : bytes.decode? = some text ↔ bytes = ofText text := by
  constructor
  · intro h
    unfold decode? String.fromUTF8? at h
    split at h
    · rename_i hvalid
      obtain rfl := Option.some.inj h
      exact (List.toList_data_toByteArray (l := bytes)).symm
    · cases h
  · rintro rfl
    exact decode?_ofText text

theorem ofText_eq_flatMap (text : String) :
    ofText text = text.toList.flatMap String.utf8EncodeChar := by
  conv => lhs; rw [← String.ofList_toList (s := text)]
  exact List.toList_data_toByteArray

theorem ofText_append (s t : String) : ofText (s ++ t) = ofText s ++ ofText t := by
  simp [ofText_eq_flatMap]

/-- The byte of an ASCII character is in the encoding of no other character. -/
theorem ascii_mem_utf8EncodeChar {a c : Char} (ha : a.toNat < 128) :
    UInt8.ofNat a.toNat ∈ String.utf8EncodeChar c ↔ c = a := by
  have hbyte (n : Nat) : UInt8.ofNat n = UInt8.ofNat a.toNat ↔ n % 256 = a.toNat := by
    rw [← UInt8.toNat_inj, UInt8.toNat_ofNat', UInt8.toNat_ofNat']
    omega
  have hc : c = a ↔ c.val.toNat = a.toNat := Char.toNat_inj.symm
  rw [hc, String.utf8EncodeChar]
  split
  · simp only [List.mem_singleton, eq_comm (a := UInt8.ofNat a.toNat), hbyte]
    omega
  · -- All bytes of longer encodings are at least 128.
    split <;> try split
    all_goals
      simp only [List.mem_cons, List.not_mem_nil, or_false, eq_comm (a := UInt8.ofNat a.toNat),
        hbyte]
      omega

theorem lineFeed_mem_utf8EncodeChar {c : Char} :
    lineFeed ∈ String.utf8EncodeChar c ↔ c = '\n' :=
  ascii_mem_utf8EncodeChar (a := '\n') (by decide)

theorem carriageReturn_mem_utf8EncodeChar {c : Char} :
    carriageReturn ∈ String.utf8EncodeChar c ↔ c = '\r' :=
  ascii_mem_utf8EncodeChar (a := '\r') (by decide)

theorem lineFeed_mem_ofText : lineFeed ∈ ofText text ↔ '\n' ∈ text.toList := by
  simp [ofText_eq_flatMap, lineFeed_mem_utf8EncodeChar]

theorem ofText_carriageReturn : ofText "\r" = [carriageReturn] := rfl

theorem utf8EncodeChar_ne_nil (c : Char) : String.utf8EncodeChar c ≠ [] := fun h =>
  absurd (congrArg List.length h) (by simp [Nat.ne_of_gt (Char.utf8Size_pos c)])

theorem decode?_append_carriageReturn (bytes : Bytes) :
    (bytes ++ [carriageReturn]).decode? = bytes.decode?.map (· ++ "\r") := by
  refine Option.ext fun text => ?_
  simp only [Option.map_eq_some_iff, decode?_eq_some_iff]
  constructor
  · intro h
    rw [ofText_eq_flatMap] at h
    rcases List.eq_nil_or_concat text.toList with hnil | ⟨cs, c, htext⟩
    · simp [hnil] at h
    · rw [List.concat_eq_append] at htext
      rw [htext, List.flatMap_append, List.flatMap_singleton] at h
      -- The last byte is one of the last character, which is therefore a carriage return.
      have hlast := congrArg List.getLast? h
      rw [List.getLast?_concat, List.getLast?_append,
        List.getLast?_eq_some_getLast (utf8EncodeChar_ne_nil c), Option.some_or] at hlast
      have hmem : carriageReturn ∈ String.utf8EncodeChar c := by
        rw [Option.some.inj hlast]
        exact List.getLast_mem _
      obtain rfl := carriageReturn_mem_utf8EncodeChar.1 hmem
      refine ⟨String.ofList cs, ?_, ?_⟩
      · rw [ofText_eq_flatMap, String.toList_ofList]
        exact List.append_cancel_right h
      · rw [← String.toList_inj, String.toList_append, String.toList_ofList, htext]
        rfl
  · rintro ⟨start, rfl, rfl⟩
    rw [ofText_append, ofText_carriageReturn]

/-! ## Lines -/

theorem bne_lineFeed (hline : lineFeed ∉ line) : ∀ b ∈ line, (b != lineFeed) = true := fun _ hb =>
  bne_iff_ne.2 fun h => hline (h ▸ hb)

theorem takeWhile_append_lineFeed (hline : lineFeed ∉ line) (rest : Bytes) :
    (line ++ lineFeed :: rest).takeWhile (· != lineFeed) = line := by
  simp [List.takeWhile_append_of_pos (bne_lineFeed hline)]

theorem dropWhile_append_lineFeed (hline : lineFeed ∉ line) (rest : Bytes) :
    (line ++ lineFeed :: rest).dropWhile (· != lineFeed) = lineFeed :: rest := by
  simp [List.dropWhile_append_of_pos (bne_lineFeed hline)]

theorem lines_append (hline : lineFeed ∉ line) (rest : Bytes) :
    lines (line ++ lineFeed :: rest) = dropCarriageReturn line :: lines rest := by
  have hdrop := dropWhile_append_lineFeed hline rest
  rw [lines, if_neg (by simp)]
  simp only [takeWhile_append_lineFeed hline]
  split
  · rename_i h
    cases hdrop.symm.trans h
  · rename_i h
    obtain ⟨-, rfl⟩ := List.cons.inj (hdrop.symm.trans h)
    rfl

theorem lines_of_not_mem (h : lineFeed ∉ bytes) :
    lines bytes = if bytes = [] then [] else [bytes] := by
  have hdrop : bytes.dropWhile (· != lineFeed) = [] := List.dropWhile_eq_nil_iff.2 (bne_lineFeed h)
  have htake : bytes.takeWhile (· != lineFeed) = bytes :=
    List.takeWhile_eq_self_iff.2 (bne_lineFeed h)
  rw [lines]
  simp only [htake]
  split
  · rfl
  · split
    · rfl
    · rename_i hcons
      cases hdrop.symm.trans hcons

/-- Line by line up to the last line feed, then the rest. -/
@[elab_as_elim]
theorem line_induction {P : Bytes → Prop} (last : ∀ line, lineFeed ∉ line → P line)
    (cons : ∀ line rest, lineFeed ∉ line → P rest → P (line ++ lineFeed :: rest))
    (bytes : Bytes) : P bytes := by
  by_cases hfeed : lineFeed ∈ bytes
  · obtain ⟨line, rest, rfl, hline⟩ := List.eq_append_cons_of_mem hfeed
    exact cons line rest hline (line_induction last cons rest)
  · exact last bytes hfeed
termination_by bytes.length

theorem mem_dropCarriageReturn {b : UInt8} (h : b ∈ dropCarriageReturn line) : b ∈ line := by
  unfold dropCarriageReturn at h
  split at h
  · exact List.dropLast_subset line h
  · exact h

theorem lineFeed_not_mem_of_mem_lines (h : line ∈ lines bytes) : lineFeed ∉ line := by
  have htake : ∀ bytes : Bytes, lineFeed ∉ bytes.takeWhile (· != lineFeed) := fun bytes hmem =>
    absurd (List.all_eq_true.1 List.all_takeWhile _ hmem) (by simp)
  fun_induction lines bytes with
  | case1 => cases h
  | case2 bytes =>
    obtain rfl := List.mem_singleton.1 h
    exact htake bytes
  | case3 bytes _ first b rest _ _ ih =>
    rcases List.mem_cons.1 h with rfl | h
    · exact mt mem_dropCarriageReturn (htake bytes)
    · exact ih h

/-- The lines of texts that are written with a line feed after each. -/
theorem lines_ofText_join {texts : List String}
    (h : ∀ text ∈ texts, '\n' ∉ text.toList ∧ (ofText text).getLast? ≠ some carriageReturn) :
    lines (ofText (String.join (texts.map (· ++ "\n")))) = texts.map ofText := by
  induction texts with
  | nil =>
    have hempty : ofText "" = [] := rfl
    rw [List.map_nil, String.join_nil, hempty, lines, if_pos rfl, List.map_nil]
  | cons text texts ih =>
    obtain ⟨⟨hline, hlast⟩, htexts⟩ := List.forall_mem_cons.1 h
    have hfeed : ofText "\n" = [lineFeed] := rfl
    rw [List.map_cons, String.join_cons, ofText_append, ofText_append, hfeed, List.append_assoc,
      List.singleton_append, lines_append (mt lineFeed_mem_ofText.1 hline), ih htexts,
      dropCarriageReturn, if_neg hlast, List.map_cons]

end Lookahead.Bytes
