import EmojiQuery.Proofs.Dataset.Canonical
import EmojiQuery.Proofs.Record.Written

/-
  Records that were written as a JSON list are loaded as the
  dataset of these records. Only their numbers may change: each
  is read as what scaling makes of its text.

  Main declarations:
    * `Dataset.mapNumbers`
    * `Dataset.jsonText`
    * `Dataset.readText_jsonText`
    * `Dataset.readText_jsonText_near`
-/

------------------------------------------------------------
-- Numbers of Records
------------------------------------------------------------

namespace EmojiQuery

namespace Record

variable {f : Binary64 → Binary64}
variable {r : Record}

/- Nothing changes if no number does. -/
theorem mapNumbers_eq_self
    (hSame : ∀ x ∈ r.numbers, f x = x) :
    r.mapNumbers f = r := by
  rw [numbers, List.forall_mem_cons] at hSame
  have hScores : r.scores.map (Scores.mapValues f) = r.scores := by
    cases hCase : r.scores with
    | none =>
        rfl
    | some s =>
        have hEntries :
            (s.entries.map fun e => (e.1, f e.2)) = s.entries := by
          apply (List.map_congr_left _).trans (List.map_id _)
          intro e hMember
          have hValue : f e.2 = e.2 := by
            apply hSame.2
            rw [hCase]
            exact List.mem_map_of_mem hMember
          rw [hValue, id_eq]
        cases s with
        | mk es hNodup =>
            simp only [Option.map_some, Scores.mapValues, hEntries]
  rw [mapNumbers, hScores, hSame.1]

end Record

namespace Dataset

/- Change the numbers of all records. -/
def mapNumbers
    (f : Binary64 → Binary64)
    (d : Dataset) : Dataset :=
  ⟨d.records.map (Record.mapNumbers f), d.range⟩

/- Levels have nothing to do with numbers. -/
theorem ofRecords_mapNumbers
    (f : Binary64 → Binary64)
    (rs : List Record) :
    ofRecords (rs.map (Record.mapNumbers f)) =
      (ofRecords rs).mapNumbers f := by
  have hNormal :
      (rs.map (Record.mapNumbers f)).map Record.normalize =
        (rs.map Record.normalize).map (Record.mapNumbers f) := by
    rw [List.map_map, List.map_map]
    rfl
  have hLevels :
      ∀ rs : List Record,
        (rs.map (Record.mapNumbers f)).flatMap Record.levels =
          rs.flatMap Record.levels := by
    intro rs
    rw [List.flatMap_map]
    rfl
  simp only [ofRecords, mapNumbers, LevelRange.ofRecords]
  rw [hNormal, hLevels]

end Dataset

end EmojiQuery

------------------------------------------------------------
-- Loading What Was Written
------------------------------------------------------------

namespace EmojiQuery

namespace Dataset

variable {rs : List Record}

/- The JSON of a list of records. -/
def jsonText
    (rs : List Record) : String :=
  String.ofList (Json.writeList (rs.map Record.json))

/- Records are loaded with their numbers read again. -/
theorem readText_jsonText
    (hCodepoints : ∀ r ∈ rs, r.codepoints ≠ [])
    (hFinite : ∀ r ∈ rs, ∀ x ∈ r.numbers, x.isFinite = true) :
    readText (jsonText rs) =
      .ok ((ofRecords rs).mapNumbers Json.reread) := by
  have hWhole :=
    (Json.writes_list fun r hMember =>
      Record.writes_reader (hFinite r hMember)).whole
  have hReread :
      ∀ r ∈ rs.map (Record.mapNumbers Json.reread),
        r.codepoints ≠ [] := by
    rw [List.forall_mem_map]
    exact hCodepoints
  rw [readText, jsonText, read_of_whole hWhole,
    validated_eq_ok_iff.mpr ⟨hReread, rfl⟩, ofRecords_mapNumbers]

/-
  Records with code points and finite numbers survive being
  written and loaded: the result is their dataset, apart from
  numbers that are read again. The text of each number names
  that number, and what is loaded for it has its sign and is
  within five numbers of it. The dataset is the very same if
  each text is scaled with at most one rounding.
-/
theorem readText_jsonText_near
    (rs : List Record)
    (hCodepoints : ∀ r ∈ rs, r.codepoints ≠ [])
    (hFinite : ∀ r ∈ rs, ∀ x ∈ r.numbers, x.isFinite = true) :
    readText (jsonText rs) =
        .ok ((ofRecords rs).mapNumbers Json.reread) ∧
      (∀ r ∈ rs, ∀ x ∈ r.numbers,
        ∃ T : Literal, T.chars = Json.writeReal x ∧
          T.nearest = x ∧ T.Loads (Json.reread x) ∧
            (T.RoundsOnce → Json.reread x = x) ∧
              (Json.reread x).isNegative = x.isNegative ∧
                Binary64.WithinFive (Json.reread x) x.magnitude) ∧
        ((∀ r ∈ rs, ∀ x ∈ r.numbers,
          ∃ T : Literal, T.chars = Json.writeReal x ∧
            T.RoundsOnce) →
          readText (jsonText rs) = .ok (ofRecords rs)) := by
  have hRead := readText_jsonText hCodepoints hFinite
  refine ⟨hRead, ?_, ?_⟩
  · intro r hMember x hNumber
    have hOne := hFinite r hMember x hNumber
    rcases Json.exists_literal_of_writeReal hOne with ⟨T, hText⟩
    rcases Json.reread_near hOne with ⟨hSign, hWithin⟩
    exact ⟨T, hText.chars_eq, hText.nearest_eq,
      Json.loads_reread hText rfl,
      Json.reread_eq_self hOne hText.chars_eq, hSign, hWithin⟩
  · intro hOnce
    have hSame :
        rs.map (Record.mapNumbers Json.reread) = rs := by
      apply (List.map_congr_left _).trans (List.map_id _)
      intro r hMember
      apply Record.mapNumbers_eq_self
      intro x hNumber
      rcases hOnce r hMember x hNumber with ⟨T, hChars, hText⟩
      exact Json.reread_eq_self (hFinite r hMember x hNumber)
        hChars hText
    rw [hRead, ← ofRecords_mapNumbers, hSame]

/-
  A record with a code point that is no character, levels that
  are not in order, and text that needs backslashes.
-/
def escapedRecord : Record where
  codepoints := [0x1F600, 0xD800]
  levels := [22, 21, 22]
  version := ⟨0x3FD3333333333333⟩
  notes := "a\t\"b\" \\ \x01 😀"
  scores := some
    ⟨[("21_22", ⟨0x3FD3333333333333⟩),
      ("\n", ⟨0x8000000000000000⟩)], by decide⟩

/- A record with the least that a record must have. -/
def bareRecord : Record where
  codepoints := [0]
  levels := []
  version := ⟨0x402E000000000000⟩
  notes := ""
  scores := some Scores.empty

/- Both records survive as they are. -/
theorem readText_jsonText_of_escapes :
    let rs := [escapedRecord, bareRecord]
    (∀ r ∈ rs, r.codepoints ≠ []) ∧
      (∀ r ∈ rs, ∀ x ∈ r.numbers, x.isFinite = true) ∧
        readText (jsonText rs) = .ok (ofRecords rs) := by
  intro rs
  have hCodepoints : ∀ r ∈ rs, r.codepoints ≠ [] := by
    decide
  have hFinite : ∀ r ∈ rs, ∀ x ∈ r.numbers, x.isFinite = true := by
    decide +kernel
  refine ⟨hCodepoints, hFinite, ?_⟩
  apply (readText_jsonText_near rs hCodepoints hFinite).2.2
  let zero : Digits := ⟨['0'], by decide, by decide⟩
  let three : Digits := ⟨['3'], by decide, by decide⟩
  let fifteen : Digits := ⟨['1', '5'], by decide, by decide⟩
  have hSmall :
      ∀ n < 2 ^ 53, n < UInt64.size ∧ Binary64.RoundsOnce n (-1) := by
    intro n hDigits
    refine ⟨Nat.lt_trans hDigits (by decide), .inr (.inr ⟨?_, ?_⟩)⟩
    · exact ⟨n, 0, hDigits, (Nat.mul_one n).symm⟩
    · decide
  have hFraction :
      ∃ T : Literal,
        T.chars = Json.writeReal ⟨0x3FD3333333333333⟩ ∧
          T.RoundsOnce :=
    ⟨⟨false, zero, some three, none, fun _ => rfl⟩,
      by decide +kernel, hSmall 3 (by decide)⟩
  have hZero :
      ∃ T : Literal,
        T.chars = Json.writeReal ⟨0x8000000000000000⟩ ∧
          T.RoundsOnce :=
    ⟨⟨true, zero, some zero, none, fun _ => rfl⟩,
      by decide +kernel, hSmall 0 (by decide)⟩
  have hWhole :
      ∃ T : Literal,
        T.chars = Json.writeReal ⟨0x402E000000000000⟩ ∧
          T.RoundsOnce :=
    ⟨⟨false, fifteen, some zero, none, by decide⟩,
      by decide +kernel, hSmall 150 (by decide)⟩
  simp only [rs, List.forall_mem_cons, Record.numbers,
    escapedRecord, bareRecord, Option.elim_some, List.map_cons,
    List.map_nil, Scores.empty]
  exact ⟨⟨hFraction, hFraction, hZero, by simp⟩,
    ⟨hWhole, by simp⟩, by simp⟩

/-
  The double precision number nearest to `1e-23` is loaded as
  the one above it, so that its record does not survive.
-/
theorem readText_jsonText_misses_small_power :
    let r : Record :=
      ⟨[0x1F600], [21], ⟨0x3B282DB34012B251⟩, "", none⟩
    let loaded : Record :=
      ⟨[0x1F600], [21], ⟨0x3B282DB34012B252⟩, "", none⟩
    r.codepoints ≠ [] ∧ (∀ x ∈ r.numbers, x.isFinite = true) ∧
      jsonText [r] =
          "[\x7b\"codepoints\":[128512],\"api_support\":[21]," ++
            "\"emoji_level\":1e-23,\"notes\":\"\"\x7d]" ∧
        readText (jsonText [r]) = .ok (ofRecords [loaded]) ∧
          readText (jsonText [r]) ≠ .ok (ofRecords [r]) := by
  intro r loaded
  have hCodepoints : ∀ r' ∈ [r], r'.codepoints ≠ [] := by
    decide
  have hFinite :
      ∀ r' ∈ [r], ∀ x ∈ r'.numbers, x.isFinite = true := by
    decide +kernel
  have hReread :
      Json.reread ⟨0x3B282DB34012B251⟩ = ⟨0x3B282DB34012B252⟩ := by
    decide +kernel
  have hLoaded :
      readText (jsonText [r]) = .ok (ofRecords [loaded]) := by
    rw [readText_jsonText hCodepoints hFinite,
      ← ofRecords_mapNumbers, List.map_singleton]
    simp only [Record.mapNumbers, r, hReread]
    rfl
  refine ⟨by decide, by decide +kernel, by decide +kernel,
    hLoaded, ?_⟩
  rw [hLoaded]
  intro hSame
  have hRecords := congrArg Dataset.records (Except.ok.inj hSame)
  have hVersion := congrArg (List.map Record.version) hRecords
  exact absurd hVersion (by decide)

end Dataset

end EmojiQuery
