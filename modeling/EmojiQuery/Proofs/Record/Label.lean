import EmojiQuery.Proofs.Query.Integers

/-
  Labels of records. The code points of a record are read back
  from its label, and what stands there of a code point, but for
  its mark, is a value with which the query finds it.

  Main declarations:
    * `labelItems`
    * `readItem?`
    * `Record.labelItems_label`
    * `Dataset.search_point`
    * `Record.label_lossless_and_searchable`
-/

------------------------------------------------------------
-- Items of Labels
------------------------------------------------------------

namespace EmojiQuery

/- The items of a label stand between spaces. The empty label has none. -/
def labelItems
    (label : String) : List String :=
  if label.isEmpty then
    []
  else
    (label.toList.splitOn ' ').map String.ofList

/- An item is read as a number in base 16 behind its mark. -/
def readItem?
    (item : String) : Option UInt32 :=
  match item.toList with
  | 'U' :: '+' :: ds =>
      (Numeral.read? 16 ds).bind fun n =>
        if n < UInt32.size then some (.ofNat n) else none
  | _ => none

/- The number of a code point in base 16. -/
def pointText
    (c : UInt32) : String :=
  String.ofList (Numeral.write 16 c.toNat)

/- The digits of numbers are letters of the lower case, or figures. -/
theorem digit_of_mem_write
    {n : Nat}
    {c : Char}
    (hMember : c ∈ Numeral.write 16 n) :
    c ≠ ' ' ∧ c.toLower = c := by
  have hDigits :
      ∀ d : Fin 16, d.val.digitChar ≠ ' ' ∧
        d.val.digitChar.toLower = d.val.digitChar := by
    decide
  rcases Numeral.exists_digit_of_mem_write (by decide) hMember with
    ⟨d, hSmall, rfl⟩
  exact hDigits ⟨d, hSmall⟩

/- An item is read as the code point that it was written for. -/
theorem readItem?_pointText
    (c : UInt32) :
    readItem? ("U+" ++ pointText c) = some c := by
  have hText :
      ("U+" ++ pointText c).toList =
        'U' :: '+' :: Numeral.write 16 c.toNat := by
    simp [pointText]
  have hFits : c.toNat < UInt32.size := c.toNat_lt
  rw [readItem?, hText]
  simp only [Numeral.read?_write (show 2 ≤ 16 by decide)
    (Nat.le_refl 16), Option.bind_some, if_pos hFits,
    UInt32.ofNat_toNat]

namespace Record

/- A label is empty if there is nothing to be written. -/
theorem label_eq_empty_iff
    (r : Record) :
    r.label = "" ↔ r.codepoints = [] := by
  rw [label]
  cases r.codepoints with
  | nil =>
      simp
  | cons c cs =>
      cases cs <;> simp [labelOf, String.ext_iff]

/- The items of a label are those of the code points, in order. -/
theorem labelItems_label
    (r : Record) :
    labelItems r.label =
      r.codepoints.map fun c => "U+" ++ pointText c := by
  have hItem :
      ∀ c, String.ofList (labelOf c) = "U+" ++ pointText c := by
    intro c
    simp [labelOf, pointText, String.ext_iff]
  unfold labelItems
  split
  · next hEmpty =>
      rw [String.isEmpty_iff, label_eq_empty_iff] at hEmpty
      rw [hEmpty]
      rfl
  · next hNonempty =>
      rw [String.isEmpty_iff, label_eq_empty_iff] at hNonempty
      have hSplit :
          r.label.toList.splitOn ' ' = r.codepoints.map labelOf := by
        rw [label, String.toList_ofList]
        apply List.splitOn_intercalate
        · intro item hMember
          rcases List.mem_map.mp hMember with ⟨c, _, rfl⟩
          intro hSpace
          simp only [labelOf, List.mem_cons] at hSpace
          rcases hSpace with hMark | hMark | hDigit
          · cases hMark
          · cases hMark
          · exact (digit_of_mem_write hDigit).1 rfl
        · simpa using hNonempty
      rw [hSplit, List.map_map]
      exact List.map_congr_left fun c _ => hItem c

/- An item of a label is the item of a code point. -/
theorem mem_labelItems_iff
    (r : Record)
    (c : UInt32) :
    "U+" ++ pointText c ∈ labelItems r.label ↔
      c ∈ r.codepoints := by
  rw [labelItems_label, List.mem_map]
  constructor
  · rintro ⟨c', hMember, hItem⟩
    have hRead := congrArg readItem? hItem
    rw [readItem?_pointText, readItem?_pointText] at hRead
    rwa [← Option.some.inj hRead]
  · intro hMember
    exact ⟨c, hMember, rfl⟩

/- The code points are read back from a label. -/
theorem map_readItem?_label
    (r : Record) :
    (labelItems r.label).map readItem? = r.codepoints.map some := by
  rw [labelItems_label, List.map_map]
  exact List.map_congr_left fun c _ => readItem?_pointText c

theorem label_inj
    (r s : Record) :
    r.label = s.label ↔ r.codepoints = s.codepoints := by
  constructor
  · intro hLabel
    have hRead := r.map_readItem?_label
    rw [hLabel, s.map_readItem?_label] at hRead
    exact (List.map_injective_iff.mpr (Option.some_injective _)
      hRead).symm
  · intro hPoints
    rw [label, label, hPoints]

end Record

end EmojiQuery

------------------------------------------------------------
-- Searches for Items
------------------------------------------------------------

namespace EmojiQuery

/- What an item has behind its mark is a bound. -/
theorem writes_pointText
    (c : UInt32) :
    IntegerField.codepoints.Writes (Predicate.pointNumber c)
      (pointText c) := by
  have hNumber := Predicate.toInt_pointNumber c
  constructor
  · rw [Int64.le_iff_toInt_le, hNumber]
    exact Int.natCast_nonneg _
  · rw [hNumber, Int.toNat_natCast, pointText,
      String.toList_ofList]
    refine ⟨[], by simp [Numeral.hexMarks], 0, _, rfl, ?_⟩
    calc (Numeral.write 16 c.toNat).map Char.toLower
        = (Numeral.write 16 c.toNat).map id :=
          List.map_congr_left fun _ hMember =>
            (digit_of_mem_write hMember).2
      _ = Numeral.write 16 c.toNat := List.map_id _

/- A clause with a code point finds the records that have it. -/
theorem Dataset.search_point
    (d : Dataset)
    (c : UInt32) :
    ∃ results, d.search ("u:" ++ pointText c) = .ok results ∧
      results.Selects d d.records fun s => c ∈ s.codepoints := by
  have hWrites := writes_pointText c
  have hRange :
      Interval.parse readHexBound? (pointText c) =
        .ok ⟨Predicate.pointNumber c, Predicate.pointNumber c⟩ := by
    have hSingle := Interval.parse_single hWrites.writesBound
    rw [Interval.between_of_le _ (Int64.le_refl _)] at hSingle
    exact hSingle
  have hBuilds : Clause.Builds ⟨.codepoints, pointText c⟩ :=
    ⟨_, (map_eq_ok_iff _ _ _).mpr ⟨_, hRange, rfl⟩⟩
  rcases d.search_text hWrites.wellFormed_single hBuilds with
    ⟨results, hSearch, hAnswers⟩
  refine ⟨results, hSearch, hAnswers.selects ?_⟩
  intro i
  apply exists_congr
  intro s
  apply and_congr_right
  intro _
  refine (exists_ok_and_iff hRange _).trans ?_
  simp only [Predicate.toInt_pointNumber]
  constructor
  · rintro ⟨point, hMember, hLower, hUpper⟩
    have hSame : c = point := UInt32.toNat_inj.mp (by omega)
    rwa [hSame]
  · intro hMember
    exact ⟨c, hMember, Int.le_refl _, Int.le_refl _⟩

/-
  The items of a label are read as the code points of the
  record, in order. So records with the same label have the same
  code points, whether these are characters or not. What an item
  of a label has behind its mark finds exactly the records with
  that item in their labels, in the order of the dataset.
-/
theorem Record.label_lossless_and_searchable :
    (∀ r : Record,
      (labelItems r.label).map readItem? = r.codepoints.map some) ∧
      (∀ r : Record, r.label = "" ↔ r.codepoints = []) ∧
      (∀ r s : Record,
        r.label = s.label ↔ r.codepoints = s.codepoints) ∧
      ∀ (d : Dataset) (r : Record) (h : String),
        "U+" ++ h ∈ labelItems r.label →
          ∃ results, d.search ("u:" ++ h) = .ok results ∧
            results.Selects d d.records fun s =>
              "U+" ++ h ∈ labelItems s.label := by
  refine ⟨map_readItem?_label, label_eq_empty_iff, label_inj, ?_⟩
  intro d r h hItem
  rw [labelItems_label, List.mem_map] at hItem
  rcases hItem with ⟨c, _, hText⟩
  obtain rfl : pointText c = h := (String.append_right_inj _).mp hText
  simp only [mem_labelItems_iff]
  exact d.search_point c

/- A code point that is no character stands between two others. -/
theorem label_lossless_and_searchable_of_surrogate :
    let r := pointedRecord [0x1F469, 0xD800, 0xFFFFFFFF] [24]
    let d := Dataset.ofRecords
      [r, pointedRecord [0x1F469] [24], pointedRecord [0xD800] []]
    r.label = "U+1f469 U+d800 U+ffffffff" ∧
      (labelItems r.label).map readItem? =
        [some 0x1F469, some 0xD800, some 0xFFFFFFFF] ∧
      "U+" ++ "d800" ∈ labelItems r.label ∧
      ∃ results, d.search ("u:" ++ "d800") = .ok results ∧
        results.Selects d d.records fun s =>
          "U+" ++ "d800" ∈ labelItems s.label := by
  intro r d
  have hItem : "U+" ++ "d800" ∈ labelItems r.label := by
    decide +kernel
  rcases Record.label_lossless_and_searchable with
    ⟨hRead, _, _, hSearch⟩
  exact ⟨by decide +kernel, hRead r, hItem, hSearch d r "d800" hItem⟩

end EmojiQuery
