import EmojiQuery.Dataset.Basic
import EmojiQuery.Proofs.Record.Normal
import Mathlib.Order.Bounds.Basic

/-
  A dataset is a canonical form of its records. Each record has
  its levels in order and once each, and is otherwise as it was
  given; so lists of records make the same dataset just when
  they differ in nothing but the order and the repetitions of
  levels. The first record without code points is the one thing
  that keeps records from being a dataset.

  Main declarations:
    * `Record.IsNormalOf`
    * `Dataset.ofRecords_eq_ofRecords_iff`
    * `Dataset.validated_eq_error_iff`
    * `Dataset.validated_eq_ok_iff`
    * `Dataset.read_canonical`
-/

------------------------------------------------------------
-- Records in Normal Form
------------------------------------------------------------

namespace EmojiQuery

namespace Record

/-
  One record is another with its levels in order, each of them
  once.
-/
structure IsNormalOf
    (normal given : Record) : Prop where
  codepoints_eq : normal.codepoints = given.codepoints
  version_eq : normal.version = given.version
  notes_eq : normal.notes = given.notes
  scores_eq : normal.scores = given.scores
  /- The levels stand in ascending order. -/
  ascending : normal.levels.Pairwise (· < ·)
  mem_levels : ∀ l, l ∈ normal.levels ↔ l ∈ given.levels
  /- The sequence is introduced by the least of its levels. -/
  introduced :
    ∀ l, normal.introduced? = some l ↔
      l ∈ given.levels ∧ ∀ k ∈ given.levels, l ≤ k

theorem isNormalOf_normalize
    (r : Record) :
    r.normalize.IsNormalOf r where
  codepoints_eq := rfl
  version_eq := rfl
  notes_eq := rfl
  scores_eq := rfl
  ascending := r.pairwise_levels_normalize
  mem_levels _ := mem_levels_normalize_iff
  introduced _ := introduced?_normalize_eq_some_iff

end Record

end EmojiQuery

------------------------------------------------------------
-- Datasets of Records
------------------------------------------------------------

namespace EmojiQuery

namespace Dataset

variable {rs ss : List Record}

/- A dataset tells all but the order of the levels of its records. -/
theorem ofRecords_eq_ofRecords_iff :
    ofRecords rs = ofRecords ss ↔
      List.Forall₂ Record.Alike rs ss := by
  have hRecords :
      ofRecords rs = ofRecords ss ↔
        rs.map Record.normalize = ss.map Record.normalize := by
    constructor
    · intro hSame
      exact congrArg Dataset.records hSame
    · intro hSame
      rw [ofRecords, ofRecords, hSame]
  rw [hRecords, ← List.forall₂_eq_eq_eq, List.forall₂_map_left_iff,
    List.forall₂_map_right_iff]
  simp only [Record.normalize_eq_normalize_iff]

/- The records of a dataset make this dataset. -/
theorem ofRecords_records_ofRecords
    (rs : List Record) :
    ofRecords (ofRecords rs).records = ofRecords rs := by
  rw [ofRecords_eq_ofRecords_iff]
  change List.Forall₂ Record.Alike (rs.map Record.normalize) rs
  rw [List.forall₂_map_left_iff, List.forall₂_same]
  intro r _
  exact r.alike_normalize

/- The levels in a dataset are those that its records were given. -/
theorem mem_levels_records_iff
    (l : Level) :
    l ∈ (ofRecords rs).records.flatMap Record.levels ↔
      l ∈ rs.flatMap Record.levels := by
  change l ∈ (rs.map Record.normalize).flatMap Record.levels ↔ _
  rw [List.flatMap_map]
  simp only [List.mem_flatMap, Record.mem_levels_normalize_iff]

end Dataset

end EmojiQuery

------------------------------------------------------------
-- Records Without Code Points
------------------------------------------------------------

namespace EmojiQuery

namespace Dataset

variable {rs : List Record}
variable {d : Dataset}
variable {e : SearchError}

/- The places of records without code points. -/
def barePlaces
    (rs : List Record) : Set Nat :=
  {i | ∃ r, rs[i]? = some r ∧ r.codepoints = []}

/- The first record without code points is looked for. -/
theorem findIdx?_eq_some_iff_isLeast
    (rs : List Record)
    (i : Nat) :
    (rs.findIdx? fun r => r.codepoints.isEmpty) = some i ↔
      IsLeast (barePlaces rs) i := by
  simp only [List.findIdx?_eq_some_iff_getElem,
    List.isEmpty_iff, IsLeast, mem_lowerBounds, barePlaces,
    Set.mem_ofPred_eq, List.getElem?_eq_some_iff]
  constructor
  · rintro ⟨hPlace, hBare, hBefore⟩
    refine ⟨⟨_, ⟨hPlace, rfl⟩, hBare⟩, ?_⟩
    rintro j ⟨r, ⟨_, rfl⟩, hOther⟩
    exact Nat.le_of_not_lt fun hLess => hBefore j hLess hOther
  · rintro ⟨⟨r, ⟨hPlace, rfl⟩, hBare⟩, hLeast⟩
    refine ⟨hPlace, hBare, ?_⟩
    intro j hLess hOther
    exact Nat.not_le_of_lt hLess (hLeast j ⟨_, ⟨_, rfl⟩, hOther⟩)

/- Records are refused for the first of them without code points. -/
theorem validated_eq_error_iff :
    validated rs = .error e ↔
      ∃ i, IsLeast (barePlaces rs) i ∧ e = .noCodepoints i := by
  simp only [← findIdx?_eq_some_iff_isLeast, validated]
  split
  · next i hFound =>
      simp [hFound, eq_comm]
  · next hNone =>
      simp [hNone]

/- Code points are all that a record must not lack. -/
theorem validated_eq_ok_iff :
    validated rs = .ok d ↔
      (∀ r ∈ rs, r.codepoints ≠ []) ∧ d = ofRecords rs := by
  have hNone :
      (rs.findIdx? fun r => r.codepoints.isEmpty) = none ↔
        ∀ r ∈ rs, r.codepoints ≠ [] := by
    simp only [List.findIdx?_eq_none_iff, List.isEmpty_eq_false_iff]
  rw [← hNone, validated]
  split
  · next i hFound =>
      simp [hFound]
  · next hNone =>
      simp [hNone, eq_comm]

/- What is read is refused or taken as the records in it are. -/
theorem read_of_whole
    {bytes : List UInt8}
    (hWhole :
      Json.whole (Json.list Record.reader) bytes = .ok rs) :
    read bytes = validated rs := by
  rw [read, hWhole]

end Dataset

end EmojiQuery

------------------------------------------------------------
-- The Canonical Form
------------------------------------------------------------

namespace EmojiQuery

namespace Dataset

variable {rs : List Record}

/- The range of a dataset is that of the levels its records were given. -/
theorem spans_range_ofRecords
    (hSome : rs.flatMap Record.levels ≠ []) :
    (ofRecords rs).range.Spans (rs.flatMap Record.levels) := by
  have hRecords :
      (ofRecords rs).records.flatMap Record.levels ≠ [] := by
    rcases List.exists_mem_of_ne_nil _ hSome with ⟨l, hMember⟩
    exact List.ne_nil_of_mem ((mem_levels_records_iff l).mpr hMember)
  exact (LevelRange.spans_ofLevels hRecords).congr
    mem_levels_records_iff

/- Without levels, there is no range. -/
theorem isEmpty_range_ofRecords_iff :
    (ofRecords rs).range.isEmpty = true ↔
      rs.flatMap Record.levels = [] := by
  have hRecords :
      (ofRecords rs).records.flatMap Record.levels = [] ↔
        rs.flatMap Record.levels = [] := by
    simp only [List.eq_nil_iff_forall_not_mem,
      mem_levels_records_iff]
  rw [← hRecords]
  exact LevelRange.isEmpty_ofLevels_iff _

/-
  Records that were decoded are refused for the first of them
  without code points, and otherwise make a dataset. Each of its
  records is one that was given, with its levels in order and
  once each, and its range is the least that has all of these
  levels. Only the order and the repetitions of levels are lost,
  and nothing is changed if the records are taken again.
-/
theorem read_canonical
    (rs : List Record) :
    let d := ofRecords rs
    (∀ bytes,
      Json.whole (Json.list Record.reader) bytes = .ok rs →
        (∀ e, read bytes = .error e ↔
          ∃ i, IsLeast (barePlaces rs) i ∧ e = .noCodepoints i) ∧
        ∀ d', read bytes = .ok d' ↔
          (∀ r ∈ rs, r.codepoints ≠ []) ∧ d' = d) ∧
      List.Forall₂ (fun r s => s.IsNormalOf r) rs d.records ∧
        (d.range.isEmpty = true ↔ ∀ r ∈ rs, r.levels = []) ∧
          ((∃ r ∈ rs, r.levels ≠ []) →
            d.range.Spans (rs.flatMap Record.levels)) ∧
            (∀ ss, List.Forall₂ Record.Alike ss rs ↔
              ofRecords ss = d) ∧
              ofRecords d.records = d := by
  intro d
  refine ⟨?_, ?_, ?_, ?_, ?_, ofRecords_records_ofRecords rs⟩
  · intro bytes hWhole
    rw [read_of_whole hWhole]
    exact ⟨fun _ => validated_eq_error_iff,
      fun _ => validated_eq_ok_iff⟩
  · change List.Forall₂ _ rs (rs.map Record.normalize)
    rw [List.forall₂_map_right_iff, List.forall₂_same]
    intro r _
    exact r.isNormalOf_normalize
  · rw [isEmpty_range_ofRecords_iff, List.flatMap_eq_nil_iff]
  · rintro ⟨r, hMember, hLevels⟩
    apply spans_range_ofRecords
    intro hNone
    exact hLevels (List.flatMap_eq_nil_iff.mp hNone r hMember)
  · intro ss
    exact ofRecords_eq_ofRecords_iff.symm

/- A record whose levels stand in no order. -/
def scatteredRecord : Record where
  codepoints := [9829]
  levels := [22, 19, 22]
  version := .one
  notes := ""
  scores := none

/- A record with neither code points nor levels. -/
def strippedRecord : Record :=
  { scatteredRecord with codepoints := [], levels := [] }

/- The text of these two records. -/
def strippedText : String :=
  "[\x7b\"codepoints\":[9829],\"api_support\":[22,19,22]," ++
    "\"emoji_level\":1\x7d,\x7b\"codepoints\":[]," ++
      "\"api_support\":[],\"emoji_level\":1\x7d]"

/- The second of two records is refused. The first has all levels. -/
theorem read_canonical_of_strippedRecord :
    let rs := [scatteredRecord, strippedRecord]
    Json.whole (Json.list Record.reader) (utf8 strippedText) =
        .ok rs ∧
      IsLeast (barePlaces rs) 1 ∧
        read (utf8 strippedText) = .error (.noCodepoints 1) ∧
          (∃ r ∈ rs, r.levels ≠ []) ∧
            (ofRecords rs).range.Spans [22, 19, 22] := by
  intro rs
  have hWhole :
      Json.whole (Json.list Record.reader) (utf8 strippedText) =
        .ok rs := by
    decide +kernel
  have hLeast : IsLeast (barePlaces rs) 1 := by
    rw [← findIdx?_eq_some_iff_isLeast]
    decide
  have hSome : ∃ r ∈ rs, r.levels ≠ [] :=
    ⟨scatteredRecord, List.mem_cons_self, by decide⟩
  have hCanonical := read_canonical rs
  exact ⟨hWhole, hLeast,
    ((hCanonical.1 _ hWhole).1 _).mpr ⟨1, hLeast, rfl⟩, hSome,
    hCanonical.2.2.2.1 hSome⟩

end Dataset

end EmojiQuery
