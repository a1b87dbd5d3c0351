import EmojiQuery.Text.Utf8

/-
  Text in UTF-8. The bytes of a text spell it and no other
  text, and the first byte of a character never stands inside
  another character. So a text stands inside another just when
  its bytes stand inside the bytes of the other.

  Main declarations:
    * `ofUtf8?_utf8`
    * `occursIn_iff`
    * `infix_of_utf8`
    * `occursIn_utf8_iff`
-/

------------------------------------------------------------
-- Texts and Their Bytes
------------------------------------------------------------

namespace EmojiQuery

theorem utf8_ofList_nil :
    utf8 (String.ofList []) = [] := by
  rw [utf8, String.toList_ofList, List.flatMap_nil]

theorem utf8_ofList_cons
    (c : Char)
    (cs : List Char) :
    utf8 (String.ofList (c :: cs)) =
      String.utf8EncodeChar c ++ utf8 (String.ofList cs) := by
  rw [utf8, utf8, String.toList_ofList, String.toList_ofList,
    List.flatMap_cons]

/- The bytes of joined texts are the joined bytes. -/
theorem utf8_ofList_append
    (cs ds : List Char) :
    utf8 (String.ofList (cs ++ ds)) =
      utf8 (String.ofList cs) ++ utf8 (String.ofList ds) := by
  simp only [utf8, String.toList_ofList, List.flatMap_append]

/- The bytes of a text are those by which it is stored. -/
theorem toByteArray_utf8
    (s : String) :
    (utf8 s).toByteArray = s.toByteArray :=
  String.utf8Encode_toList

/- The bytes of a text spell it. -/
theorem ofUtf8?_utf8
    (s : String) :
    ofUtf8? (utf8 s) = some s := by
  have hBytes :
      (⟨(utf8 s).toArray⟩ : ByteArray) = s.toByteArray := by
    rw [← toByteArray_utf8 s]
    apply ByteArray.ext
    rw [List.data_toByteArray]
  rw [ofUtf8?, hBytes, String.fromUTF8?, dif_pos s.isValidUTF8]
  rfl

end EmojiQuery

------------------------------------------------------------
-- Texts Inside Texts
------------------------------------------------------------

namespace EmojiQuery

/- A list is found where it stands inside another. -/
theorem occursIn_iff
    {α : Type}
    [BEq α]
    [LawfulBEq α]
    (needle hay : List α) :
    occursIn needle hay = true ↔ needle <:+: hay := by
  induction hay with
  | nil =>
      rw [occursIn, List.isEmpty_iff, List.infix_nil]
  | cons a hay ih =>
      rw [occursIn, Bool.or_eq_true, List.isPrefixOf_iff_prefix,
        ih, List.infix_cons_iff]

/- A text whose bytes begin those of another begins the other. -/
theorem prefix_of_utf8
    {cs ds : List Char}
    (hBytes :
      utf8 (String.ofList cs) <+: utf8 (String.ofList ds)) :
    cs <+: ds := by
  rcases hBytes with ⟨rest, hRest⟩
  apply List.isPrefix_of_utf8Encode_append_eq_utf8Encode
    rest.toByteArray
  rw [List.utf8Encode, List.utf8Encode,
    ← List.toByteArray_append]
  simp only [utf8, String.toList_ofList] at hRest
  rw [hRest]

/- A character begins with a byte that no character has later on. -/
theorem exists_firstByte
    (c : Char) :
    ∃ b bs, String.utf8EncodeChar c = b :: bs ∧
      b.IsUTF8FirstByte ∧ ∀ a ∈ bs, ¬ a.IsUTF8FirstByte := by
  cases hEncoded : String.utf8EncodeChar c with
  | nil =>
      exact absurd hEncoded String.utf8EncodeChar_ne_nil
  | cons b bs =>
      have hPlaces :
          ∀ i (hi : i < (b :: bs).length),
            (b :: bs)[i].IsUTF8FirstByte ↔ i = 0 := by
        rw [← hEncoded]
        intro i hi
        exact UInt8.isUTF8FirstByte_getElem_utf8EncodeChar
      refine ⟨b, bs, rfl, (hPlaces 0 (by simp)).mpr rfl, ?_⟩
      intro a hMember hFirst
      rcases List.mem_iff_getElem.mp hMember with ⟨i, hi, rfl⟩
      have hLater := (hPlaces (i + 1) (by simpa using hi)).mp
      exact absurd (hLater hFirst) (Nat.succ_ne_zero i)

/-
  Where the bytes of a text begin that is not empty, some
  character begins.
-/
theorem infix_of_utf8
    {cs ds : List Char}
    (hBytes :
      utf8 (String.ofList cs) <:+: utf8 (String.ofList ds)) :
    cs <:+: ds := by
  cases cs with
  | nil =>
      exact List.nil_infix
  | cons c cs =>
      rcases exists_firstByte c with ⟨b, bs, hEncoded, hFirst, _⟩
      have hHead :
          ∃ t, utf8 (String.ofList (c :: cs)) = b :: t := by
        rw [utf8_ofList_cons, hEncoded, List.cons_append]
        exact ⟨_, rfl⟩
      induction ds with
      | nil =>
          rcases hHead with ⟨t, hText⟩
          rw [utf8_ofList_nil, hText] at hBytes
          cases List.infix_nil.mp hBytes
      | cons d ds ih =>
          rcases exists_firstByte d with ⟨a, as, hOther, _, hRest⟩
          rcases hBytes with ⟨before, after, hText⟩
          cases before with
          | nil =>
              exact (prefix_of_utf8 ⟨after, hText⟩).isInfix
          | cons e before =>
              -- The first byte of the text is not a later byte
              -- of `d`, so all bytes of `d` stand before it.
              rw [utf8_ofList_cons d, hOther, List.cons_append,
                List.cons_append, List.cons_append,
                List.cons.injEq] at hText
              have hWithin :
                  utf8 (String.ofList (c :: cs)) <:+:
                    utf8 (String.ofList ds) := by
                rcases hHead with ⟨t, hSelf⟩
                rw [List.append_assoc] at hText
                rcases List.append_eq_append_iff.mp hText.2 with
                  ⟨inner, hAs, hAfter⟩ | ⟨inner, hBefore, hAfter⟩
                · cases inner with
                  | nil =>
                      rw [List.nil_append] at hAfter
                      exact ⟨[], after, hAfter⟩
                  | cons x inner =>
                      rw [hSelf, List.cons_append,
                        List.cons_append, List.cons.injEq]
                        at hAfter
                      apply absurd hFirst
                      apply hRest b
                      rw [hAs, hAfter.1]
                      simp
                · refine ⟨inner, after, ?_⟩
                  rw [List.append_assoc]
                  exact hAfter.symm
              exact List.infix_cons (ih hWithin)

/- A text is looked for among bytes as it would be among characters. -/
theorem occursIn_utf8_iff
    (text s : String) :
    occursIn (utf8 text) (utf8 s) = true ↔
      text.toList <:+: s.toList := by
  rw [occursIn_iff]
  constructor
  · intro hBytes
    apply infix_of_utf8
    rw [String.ofList_toList, String.ofList_toList]
    exact hBytes
  · rintro ⟨before, after, hText⟩
    refine ⟨utf8 (String.ofList before),
      utf8 (String.ofList after), ?_⟩
    simp only [utf8, String.toList_ofList, ← hText,
      List.flatMap_append]

end EmojiQuery
