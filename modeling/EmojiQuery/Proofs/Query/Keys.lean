import EmojiQuery.Proofs.Query.Steps

/-
  The keys of the scores between shown levels. Every shown
  level but the last has a key, and no two have the same,
  however close the levels come to the greatest of all.

  Main declarations:
    * `scoreKey?_of_mem_dropLast`
    * `scoreKeys_eq_map`
    * `nodup_scoreKeys`
    * `scoreKeys_shownLevels`
-/

namespace EmojiQuery

variable {shown : List Level}
variable {l : Level}

/- In an ascending list only the last level can be the greatest of all. -/
theorem ne_maxValue_of_mem_dropLast
    (hAscending : shown.Pairwise (· < ·))
    (hMember : l ∈ shown.dropLast) :
    l ≠ Int64.maxValue := by
  rcases exists_above_of_mem_dropLast hAscending hMember with
    ⟨m, _, hLess⟩
  have hUpper := m.toInt_le
  rw [Int64.lt_iff_toInt_lt] at hLess
  intro hGreatest
  rw [hGreatest] at hLess
  omega

/- So each level before the last has the key that leads to the next number. -/
theorem scoreKey?_of_mem_dropLast
    (hAscending : shown.Pairwise (· < ·))
    (hMember : l ∈ shown.dropLast) :
    scoreKey? l = some (pairKey l (l + 1)) := by
  have hBelow := ne_maxValue_of_mem_dropLast hAscending hMember
  rw [scoreKey?, if_neg hBelow, pairKey]

/- None of the keys is left out. -/
theorem scoreKeys_eq_map
    (hAscending : shown.Pairwise (· < ·)) :
    scoreKeys shown =
      shown.dropLast.map fun l => pairKey l (l + 1) := by
  rw [← List.filterMap_eq_map]
  apply List.filterMap_congr
  intro l hMember
  exact scoreKey?_of_mem_dropLast hAscending hMember

/- Levels that do not ascend can lack a key. -/
example :
    scoreKeys [Int64.maxValue, Int64.maxValue] = [] := by
  decide

/- No two of them are the same. -/
theorem nodup_scoreKeys
    (hAscending : shown.Pairwise (· < ·)) :
    (scoreKeys shown).Nodup := by
  have hBefore : shown.dropLast.Pairwise (· < ·) :=
    hAscending.sublist (List.dropLast_sublist shown)
  rw [scoreKeys_eq_map hAscending, List.Nodup,
    List.pairwise_map]
  apply hBefore.imp
  intro l m hLess hSame
  rcases pairKey_inj hSame with ⟨rfl, _⟩
  exact Int64.lt_irrefl hLess

/-
  The number after a shown level other than the last is a
  level, so that the keys at which a test of scores looks are
  those from each such level to the next number. There is one
  less than there are levels, and no two are the same.
-/
theorem scoreKeys_shownLevels
    (range : LevelRange)
    (ps : List Predicate) :
    let shown := shownLevels range ps
    (∀ l ∈ shown.dropLast,
      (l + 1).toInt = l.toInt + 1 ∧
        scoreKey? l = some (pairKey l (l + 1))) ∧
      scoreKeys shown =
          (shown.dropLast.map fun l => pairKey l (l + 1)) ∧
        (scoreKeys shown).length = shown.length - 1 ∧
          (scoreKeys shown).Nodup := by
  intro shown
  have hAscending : shown.Pairwise (· < ·) :=
    pairwise_shownLevels range ps
  have hKeys := scoreKeys_eq_map hAscending
  refine ⟨?_, hKeys, ?_, nodup_scoreKeys hAscending⟩
  · intro l hMember
    exact
      ⟨toInt_add_one
          (ne_maxValue_of_mem_dropLast hAscending hMember),
        scoreKey?_of_mem_dropLast hAscending hMember⟩
  · rw [hKeys, List.length_map, List.length_dropLast]

/- The last step to the greatest level, and steps across zero. -/
theorem scoreKeys_shownLevels_at_greatest :
    let high : LevelRange :=
      ⟨Int64.maxValue - 2, Int64.maxValue⟩
    let ps : List Predicate :=
      [.support ⟨Int64.maxValue - 1, Int64.maxValue⟩]
    let shown := shownLevels high ps
    let around := shownLevels ⟨-2, 1⟩ []
    shown = [Int64.maxValue - 1, Int64.maxValue] ∧
      Int64.maxValue - 1 ∈ shown.dropLast ∧
        scoreKey? (Int64.maxValue - 1) =
            some "9223372036854775806_9223372036854775807" ∧
          (scoreKeys shown).length = 1 ∧
      around = [-2, -1, 0, 1] ∧
        scoreKeys around = ["-2_-1", "-1_0", "0_1"] ∧
          (scoreKeys around).Nodup := by
  intro high ps shown around
  rcases scoreKeys_shownLevels high ps with
    ⟨hKeyOf, _, hLength, _⟩
  rcases scoreKeys_shownLevels ⟨-2, 1⟩ [] with
    ⟨_, hKeys, _, hDistinct⟩
  have hShown :
      shown = [Int64.maxValue - 1, Int64.maxValue] := by
    decide +kernel
  have hAround : around = [-2, -1, 0, 1] := by
    decide +kernel
  have hMember : Int64.maxValue - 1 ∈ shown.dropLast := by
    rw [hShown]
    decide
  refine ⟨hShown, hMember, ?_, ?_, hAround, ?_, hDistinct⟩
  · rw [(hKeyOf _ hMember).2]
    decide +kernel
  · rw [hLength]
    decide +kernel
  · rw [hKeys]
    decide +kernel

end EmojiQuery
