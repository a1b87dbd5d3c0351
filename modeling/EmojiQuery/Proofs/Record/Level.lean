import EmojiQuery.Record.Level

/-
  The order of levels, which is that of their numbers, and the
  levels of a range.

  Main declarations:
    * `Level.toInt_max`
    * `Level.toInt_min`
    * `LevelRange.mem_levels_iff`
    * `LevelRange.pairwise_levels`
-/

namespace EmojiQuery

namespace Level

/- The greater of two levels has the greater number. -/
theorem toInt_max
    (l m : Level) :
    (max l m).toInt = max l.toInt m.toInt := by
  simp only [Max.max, Int64.le_iff_toInt_le]
  split <;> rfl

/- The lesser of two levels has the lesser number. -/
theorem toInt_min
    (l m : Level) :
    (min l m).toInt = min l.toInt m.toInt := by
  simp only [Min.min, Int64.le_iff_toInt_le]
  split <;> rfl

end Level

namespace LevelRange

/- Numbers between two levels are levels. -/
theorem toInt_ofInt_of_between
    {lower upper : Level}
    {i : Int}
    (hLower : lower.toInt ≤ i)
    (hUpper : i ≤ upper.toInt) :
    (Int64.ofInt i).toInt = i := by
  apply Int64.toInt_ofInt_of_le
  · have := lower.le_toInt
    omega
  · have := upper.toInt_lt
    omega

/- The level at an offset that the range reaches. -/
theorem toInt_ofInt_offset
    (r : LevelRange)
    {i : Nat}
    (hOffset :
      i < (r.highest.toInt + 1 - r.lowest.toInt).toNat) :
    (Int64.ofInt (r.lowest.toInt + i)).toInt =
      r.lowest.toInt + i := by
  have hLower :
      r.lowest.toInt ≤ r.lowest.toInt + i := by
    omega
  have hUpper :
      r.lowest.toInt + i ≤ r.highest.toInt := by
    omega
  exact toInt_ofInt_of_between hLower hUpper

/- A range has the levels between its ends. -/
theorem mem_levels_iff
    (r : LevelRange)
    (l : Level) :
    l ∈ r.levels ↔ r.lowest ≤ l ∧ l ≤ r.highest := by
  simp only [levels, List.mem_map, List.mem_range,
    Int64.le_iff_toInt_le]
  constructor
  · rintro ⟨i, hOffset, rfl⟩
    rw [toInt_ofInt_offset r hOffset]
    omega
  · rintro ⟨hLower, hUpper⟩
    refine ⟨(l.toInt - r.lowest.toInt).toNat, ?_, ?_⟩
    · omega
    · have hLevel :
          r.lowest.toInt +
              ((l.toInt - r.lowest.toInt).toNat : Nat) =
            l.toInt := by
        omega
      rw [hLevel, Int64.ofInt_toInt]

/- The levels of a range ascend. -/
theorem pairwise_levels
    (r : LevelRange) :
    r.levels.Pairwise (· < ·) := by
  unfold levels
  rw [List.pairwise_map]
  apply List.pairwise_lt_range.imp_of_mem
  intro i j hi hj hLess
  rw [List.mem_range] at hi hj
  rw [Int64.lt_iff_toInt_lt, toInt_ofInt_offset r hi,
    toInt_ofInt_offset r hj]
  omega

end LevelRange

end EmojiQuery
