import EmojiQuery.Proofs.Number.Literal
import EmojiQuery.Proofs.Number.Numeral
import EmojiQuery.Proofs.Query.Bounds
import EmojiQuery.Proofs.Query.Single
import EmojiQuery.Proofs.Record.Normal

/-
  Clauses that ask for a range of integers. Three fields have
  them; they differ in how a bound is written and in which
  numbers of a record are compared with it. From the text of
  the query to the records found, each means its range.

  Main declarations:
    * `IntegerField`
    * `IntegerField.Writes`
    * `IntegerField.Within`
    * `IntegerField.holds_iff`
    * `Dataset.search_integer_range`
-/

------------------------------------------------------------
-- Hexadecimal Bounds
------------------------------------------------------------

namespace EmojiQuery

namespace Numeral.IsHex

variable {n : Nat}
variable {s : List Char}

/- A hexadecimal text has figures and letters only. -/
theorem toNat_of_mem
    (hHex : IsHex n s)
    {c : Char}
    (hMember : c ∈ s) :
    48 ≤ c.toNat ∧ c.toNat ≤ 126 := by
  rcases hHex with ⟨mark, hMark, zeros, ds, rfl, hDigits⟩
  rcases List.mem_append.mp hMember with hInMark | hInDigits
  · have hMarks :
        ∀ mark ∈ hexMarks, ∀ c ∈ mark,
          48 ≤ c.toNat ∧ c.toNat ≤ 126 := by
      simp [hexMarks]
    exact hMarks mark hMark c hInMark
  · have hLower : c.toLower ∈ ds.map Char.toLower :=
      List.mem_map_of_mem hInDigits
    have hDigit : ∃ d < 16, c.toLower = d.digitChar := by
      rw [hDigits, List.mem_append] at hLower
      rcases hLower with hZero | hWritten
      · exact ⟨0, by decide, List.eq_of_mem_replicate hZero⟩
      · exact exists_digit_of_mem_write (by decide) hWritten
    rcases hDigit with ⟨d, hSmall, hChar⟩
    have hValue : digitValue? c = some d := by
      rw [← digitValue?_toLower, hChar,
        digitValue?_digitChar hSmall]
    have hBounds := toNat_of_digitValue? hValue
    omega

/- Digits do not begin like a mark. -/
theorem readHexBound?_of_read?
    {ds : List Char}
    (hRead : read? 16 ds = some n) :
    readHexBound? ds = readInt64? 16 ds := by
  unfold readHexBound?
  split
  · next rest =>
      simp [read?, readFrom?, digitIn?, digitValue?] at hRead
  · next rest =>
      simp [read?, readFrom?, digitIn?, digitValue?] at hRead
  · rfl

/- A hexadecimal text is read as its number. -/
theorem readHexBound?_eq
    (hHex : IsHex n s) :
    readHexBound? s = int64? n := by
  rcases hHex with ⟨mark, hMark, zeros, ds, rfl, hDigits⟩
  have hRead : read? 16 ds = some n := read?_hex hDigits
  have hNumber : readInt64? 16 ds = int64? n :=
    readInt64?_of_read? hRead
  simp only [hexMarks, List.mem_cons, List.not_mem_nil,
    or_false] at hMark
  -- Both marks are taken off by computation. Without one, the
  -- digits must not be mistaken for a mark.
  rcases hMark with rfl | rfl | rfl
  · rw [List.nil_append, readHexBound?_of_read? hRead, hNumber]
  · exact hNumber
  · exact hNumber

theorem ne_nil
    (hHex : IsHex n s) :
    s ≠ [] := by
  rintro rfl
  rcases hHex with ⟨mark, _, zeros, ds, hText, hDigits⟩
  rw [List.nil_eq_append_iff] at hText
  rw [hText.2, List.map_nil, List.nil_eq_append_iff] at hDigits
  exact write_ne_nil 16 n hDigits.2

end Numeral.IsHex

end EmojiQuery

------------------------------------------------------------
-- Fields with Integers
------------------------------------------------------------

namespace EmojiQuery

/- The fields whose clauses ask for a range of integers. -/
inductive IntegerField where
| codepoints
| support
| introduced

namespace IntegerField

/- The field that is named in the query. -/
def field :
    IntegerField → Field
| .codepoints => .codepoints
| .support => .support
| .introduced => .introduced

/- How a bound is read. -/
def read :
    IntegerField → List Char → Option Int64
| .codepoints => readHexBound?
| .support => readDecimalBound?
| .introduced => readDecimalBound?

/- The test that a range asks for. -/
def test :
    IntegerField → Interval Int64 → Predicate
| .codepoints => .codepoints
| .support => .support
| .introduced => .introduced

/-
  How a bound is written: a level in base 10, and the number
  of a code point, which is not negative, in base 16.
-/
def Writes
    (a : Int64)
    (s : String) :
    IntegerField → Prop
| .codepoints => 0 ≤ a ∧ Numeral.IsHex a.toInt.toNat s.toList
| .support => s.toList = Level.text a
| .introduced => s.toList = Level.text a

/-
  The numbers that count: any code point of the record, any of
  its levels, or only the least of them.
-/
def Within
    (range : Interval Int64)
    (r : Record) :
    IntegerField → Prop
| .codepoints =>
    ∃ point ∈ r.codepoints,
      range.lower.toInt ≤ point.toNat ∧
        point.toNat ≤ range.upper.toInt
| .support => ∃ l ∈ r.levels, l ∈ range
| .introduced =>
    ∃ l ∈ r.levels, (∀ k ∈ r.levels, l ≤ k) ∧ l ∈ range

variable {f : IntegerField}

/- The fields are tested alike, but for what is read and compared. -/
theorem ofClause_eq
    (f : IntegerField)
    (raw : String) :
    Predicate.ofClause ⟨f.field, raw⟩ =
      (Interval.parse f.read raw).map f.test := by
  cases f <;> rfl

/-
  A clause with a range holds of a record in a dataset if the
  record it was made from has a number within the range.
-/
theorem holds_iff
    {raw : String}
    {range : Interval Int64}
    (hRange : Interval.parse f.read raw = .ok range)
    (shown : List Level)
    (r : Record) :
    Clause.Holds shown r.normalize ⟨f.field, raw⟩ ↔
      f.Within range r := by
  cases f with
  | codepoints =>
      exact exists_ok_and_iff hRange _
  | support =>
      rw [Within]
      simp only [← Record.mem_levels_normalize_iff (r := r)]
      exact exists_ok_and_iff hRange _
  | introduced =>
      rw [Within]
      simp only [← and_assoc,
        ← Record.introduced?_normalize_eq_some_iff]
      exact exists_ok_and_iff hRange _

end IntegerField

end EmojiQuery

------------------------------------------------------------
-- Bounds and Values
------------------------------------------------------------

namespace EmojiQuery

namespace IntegerField

variable {f : IntegerField}
variable {a b : Int64}
variable {lower upper : String}

/- A level is written with figures, after a sign if it is negative. -/
theorem toNat_of_mem_text
    {l : Level}
    {c : Char}
    (hMember : c ∈ Level.text l) :
    c = '-' ∨ 48 ≤ c.toNat ∧ c.toNat ≤ 57 := by
  have hFigures :
      ∀ n, c ∈ Numeral.write 10 n →
        48 ≤ c.toNat ∧ c.toNat ≤ 57 :=
    fun n hWritten =>
      Digits.toNat_of_isDigit (Numeral.isDigit_of_mem_write hWritten)
  unfold Level.text Numeral.writeInt at hMember
  split at hMember
  · exact .inr (hFigures _ hMember)
  · rcases List.mem_cons.mp hMember with hSign | hWritten
    · exact .inl hSign
    · exact .inr (hFigures _ hWritten)

theorem text_ne_nil
    (l : Level) :
    Level.text l ≠ [] := by
  unfold Level.text Numeral.writeInt
  split
  · exact Numeral.write_ne_nil 10 _
  · exact List.cons_ne_nil _ _

/- The characters of a bound are visible, and no points. -/
theorem Writes.toNat_of_mem
    (hWrites : f.Writes a lower)
    {c : Char}
    (hMember : c ∈ lower.toList) :
    c ≠ '.' ∧ 35 ≤ c.toNat ∧ c.toNat ≤ 126 := by
  have hLevel :
      lower.toList = Level.text a →
        c ≠ '.' ∧ 35 ≤ c.toNat ∧ c.toNat ≤ 126 := by
    intro hText
    rw [hText] at hMember
    rcases toNat_of_mem_text hMember with rfl | hFigure
    · decide
    · refine ⟨?_, by omega, by omega⟩
      rintro rfl
      exact absurd hFigure (by decide)
  cases f with
  | codepoints =>
      have hBounds := hWrites.2.toNat_of_mem hMember
      refine ⟨?_, by omega, by omega⟩
      rintro rfl
      exact absurd hBounds (by decide)
  | support =>
      exact hLevel hWrites
  | introduced =>
      exact hLevel hWrites

/- A bound is read as the number that it writes. -/
theorem Writes.writesBound
    (hWrites : f.Writes a lower) :
    Interval.WritesBound f.read lower a := by
  have hUndivided : Undivided lower.toList := by
    apply Undivided.of_not_mem
    intro hPoint
    exact (hWrites.toNat_of_mem hPoint).1 rfl
  have hLevel :
      lower.toList = Level.text a →
        Interval.WritesBound readDecimalBound? lower a := by
    intro hText
    refine ⟨hUndivided, ?_, ?_⟩
    · rw [hText]
      exact text_ne_nil a
    · rw [hText]
      exact Numeral.readInt64?_writeInt a
  cases f with
  | codepoints =>
      rcases hWrites with ⟨hSign, hHex⟩
      have hNumber : (a.toInt.toNat : Int) = a.toInt :=
        Int.toNat_of_nonneg (Int64.le_iff_toInt_le.mp hSign)
      refine ⟨hUndivided, hHex.ne_nil, ?_⟩
      calc readHexBound? lower.toList
          = Numeral.int64? (a.toInt.toNat : Int) :=
            hHex.readHexBound?_eq
        _ = some a := by
            rw [hNumber, Numeral.int64?_toInt]
  | support =>
      exact hLevel hWrites
  | introduced =>
      exact hLevel hWrites

/- A bound is one value of a clause. -/
theorem Writes.wellFormed_single
    (hWrites : f.Writes a lower) :
    Clause.WellFormed [⟨f.field, lower⟩] := by
  have hPlain : Clause.Span.IsPlain lower.toList := by
    apply Clause.Span.isPlain_of_graphic hWrites.writesBound.ne_nil
    intro c hMember
    exact (hWrites.toNat_of_mem hMember).2
  exact .plain hPlain .nil

/- Two bounds with a separator are one value of a clause. -/
theorem Writes.wellFormed_pair
    (hLower : f.Writes a lower)
    (hUpper : f.Writes b upper) :
    Clause.WellFormed [⟨f.field, lower ++ ".." ++ upper⟩] := by
  have hText :
      (lower ++ ".." ++ upper).toList =
        lower.toList ++ '.' :: '.' :: upper.toList := by
    simp
  have hPlain :
      Clause.Span.IsPlain (lower ++ ".." ++ upper).toList := by
    rw [hText]
    apply Clause.Span.isPlain_of_graphic
    · simp
    · intro c hMember
      simp only [List.mem_append, List.mem_cons] at hMember
      rcases hMember with hLeft | rfl | rfl | hRight
      · exact (hLower.toNat_of_mem hLeft).2
      · decide
      · decide
      · exact (hUpper.toNat_of_mem hRight).2
  exact .plain hPlain .nil

end IntegerField

end EmojiQuery

------------------------------------------------------------
-- Searches for Integers
------------------------------------------------------------

namespace EmojiQuery

namespace Interval

/- Bounds in order are the bounds of a range. -/
theorem between_of_le
    (raw : String)
    {a b : Int64}
    (hOrder : a ≤ b) :
    between raw a b = .ok ⟨a, b⟩ :=
  if_neg (Int64.not_lt.mpr hOrder)

end Interval

namespace IntegerField

variable {f : IntegerField}

/- A clause whose value is a range selects the records within it. -/
theorem search_of_parse
    (f : IntegerField)
    (rs : List Record)
    {raw : String}
    {range : Interval Int64}
    (hFormed : Clause.WellFormed [⟨f.field, raw⟩])
    (hRange : Interval.parse f.read raw = .ok range) :
    ∃ results,
      (Dataset.ofRecords rs).search (f.field.name ++ ":" ++ raw) =
          .ok results ∧
        results.Selects (Dataset.ofRecords rs) rs
          (fun r => f.Within range r) := by
  have hBuilds : Clause.Builds ⟨f.field, raw⟩ := by
    refine ⟨f.test range, ?_⟩
    rw [f.ofClause_eq, hRange]
    rfl
  rcases (Dataset.ofRecords rs).search_text hFormed hBuilds with
    ⟨results, hSearch, hAnswers⟩
  refine ⟨results, hSearch, hAnswers.selects ?_⟩
  intro i
  have hStored :
      (Dataset.ofRecords rs).records[i]? =
        rs[i]?.map Record.normalize :=
    List.getElem?_map
  rw [hStored]
  simp only [Option.map_eq_some_iff]
  constructor
  · rintro ⟨_, ⟨r, hPlace, rfl⟩, hHolds⟩
    exact ⟨r, hPlace, (holds_iff hRange _ r).mp hHolds⟩
  · rintro ⟨r, hPlace, hWithin⟩
    exact ⟨r.normalize, ⟨r, hPlace, rfl⟩,
      (holds_iff hRange _ r).mpr hWithin⟩

end IntegerField

/-
  A clause with two bounds selects exactly the records with a
  number between them, in the order of the dataset. If the
  bounds are equal, one of them is enough. If they are
  reversed, the query is refused with the value of the clause.
-/
theorem Dataset.search_integer_range
    (rs : List Record)
    (f : IntegerField)
    {a b : Int64}
    {lower upper : String}
    (hLower : f.Writes a lower)
    (hUpper : f.Writes b upper) :
    let d := ofRecords rs
    let range := lower ++ ".." ++ upper
    (a ≤ b →
      ∃ results,
        d.search (f.field.name ++ ":" ++ range) = .ok results ∧
          results.Selects d rs (fun r => f.Within ⟨a, b⟩ r)) ∧
      (a = b →
        ∀ single, f.Writes a single →
          d.search (f.field.name ++ ":" ++ single) =
            d.search (f.field.name ++ ":" ++ range)) ∧
      (b < a →
        d.search (f.field.name ++ ":" ++ range) =
          .error (.malformedRange range .reversed)) := by
  intro d range
  have hFormed := hLower.wellFormed_pair hUpper
  have hParse :
      Interval.parse f.read range = Interval.between range a b :=
    Interval.parse_pair hLower.writesBound hUpper.writesBound
  refine ⟨?_, ?_, ?_⟩
  · intro hOrder
    rw [Interval.between_of_le range hOrder] at hParse
    exact f.search_of_parse rs hFormed hParse
  · rintro rfl single hSingle
    have hOrder : a ≤ a := Int64.le_refl a
    apply d.search_text_congr (c := ⟨f.field, single⟩)
      (b := ⟨f.field, range⟩) hSingle.wellFormed_single hFormed
    rw [f.ofClause_eq, f.ofClause_eq, hParse,
      Interval.parse_single hSingle.writesBound,
      Interval.between_of_le _ hOrder,
      Interval.between_of_le _ hOrder]
  · intro hReversed
    apply d.search_text_of_error (c := ⟨f.field, range⟩) hFormed
    rw [f.ofClause_eq, hParse, Interval.between, if_pos hReversed]
    rfl

/- Records with code points and levels only. -/
def pointedRecord
    (codepoints : List UInt32)
    (levels : List Level) : Record where
  codepoints := codepoints
  levels := levels
  version := .one
  notes := ""
  scores := none

/-
  Two neighbouring code points, in both letter cases, with
  either mark and without one, and the levels at both limits.
-/
theorem search_range_of_thumbs :
    let rs := [pointedRecord [0x1F44D] [30, 21, 30],
      pointedRecord [0x1F44F] []]
    let d := Dataset.ofRecords rs
    let least := "-9223372036854775808"
    let greatest := "9223372036854775807"
    (∃ results,
      d.search "u:0x1f44D..1F44e" = .ok results ∧
        results.Selects d rs fun r =>
          IntegerField.codepoints.Within ⟨0x1F44D, 0x1F44E⟩ r) ∧
      d.search "u:01F44d" = d.search "u:0X1F44D..1f44d" ∧
        (∃ results,
          d.search ("api:" ++ (least ++ ".." ++ greatest)) =
              .ok results ∧
            results.Selects d rs fun r =>
              IntegerField.support.Within
                ⟨Int64.minValue, Int64.maxValue⟩ r) ∧
          d.search ("api_added:" ++ (greatest ++ ".." ++ least)) =
            .error (.malformedRange (greatest ++ ".." ++ least)
              .reversed) := by
  intro rs d least greatest
  have hLower :
      IntegerField.codepoints.Writes 0x1F44D "0x1f44D" :=
    ⟨by decide, ['0', 'x'], by decide, 0, "1f44D".toList,
      by decide, by decide +kernel⟩
  have hUpper : IntegerField.codepoints.Writes 0x1F44E "1F44e" :=
    ⟨by decide, [], by decide, 0, "1F44e".toList,
      by decide, by decide +kernel⟩
  have hMarked :
      IntegerField.codepoints.Writes 0x1F44D "0X1F44D" :=
    ⟨by decide, ['0', 'X'], by decide, 0, "1F44D".toList,
      by decide, by decide +kernel⟩
  have hPlain : IntegerField.codepoints.Writes 0x1F44D "1f44d" :=
    ⟨by decide, [], by decide, 0, "1f44d".toList,
      by decide, by decide +kernel⟩
  have hZero : IntegerField.codepoints.Writes 0x1F44D "01F44d" :=
    ⟨by decide, [], by decide, 1, "01F44d".toList,
      by decide, by decide +kernel⟩
  have hLeast : least.toList = Level.text Int64.minValue := by
    decide +kernel
  have hGreatest : greatest.toList = Level.text Int64.maxValue := by
    decide +kernel
  exact
    ⟨(Dataset.search_integer_range rs .codepoints hLower
        hUpper).1 (by decide),
      (Dataset.search_integer_range rs .codepoints hMarked
        hPlain).2.1 rfl "01F44d" hZero,
      (Dataset.search_integer_range rs .support hLeast
        hGreatest).1 (by decide),
      (Dataset.search_integer_range rs .introduced hGreatest
        hLeast).2.2 (by decide)⟩

end EmojiQuery
