import EmojiQuery.Proofs.Pattern.Ways

/-
  The ways in which runs of characters, single characters and
  the ends of a text are matched. A run takes as many characters
  as it can, and nothing else if what comes after it cannot
  start inside the run.

  Main declarations:
    * `CodepointSet.contains_complement_char`
    * `Pattern.LongestFirst`
    * `Pattern.ways_captured_some`
    * `Pattern.first?_textStart`
-/

------------------------------------------------------------
-- Sets of characters
------------------------------------------------------------

namespace EmojiQuery

namespace CodepointSet

theorem rangesContain_nil
    (n : Nat) :
    rangesContain n [] = false := by
  rfl

theorem rangesContain_cons_iff
    (n lo hi : Nat)
    (rest : List (Nat × Nat)) :
    rangesContain n ((lo, hi) :: rest) = true ↔
      lo ≤ n ∧ (n ≤ hi ∨ rangesContain n rest = true) := by
  rw [rangesContain]
  split
  · next hBelow => simp [Nat.not_le.mpr hBelow]
  · next hNotBelow =>
      have hLower := Nat.not_lt.mp hNotBelow
      split
      · next hUpper => simp [hLower, hUpper]
      · next hAbove => simp [hLower, hAbove]

theorem toNat_le_top
    (c : Char) :
    c.toNat ≤ top := by
  have hValid := c.valid
  simp only [UInt32.isValidChar, Nat.isValidChar] at hValid
  simp only [Char.toNat, top]
  omega

theorem contains_complement_single
    {m n : Nat}
    (hTop : n ≤ top) :
    (single m).complement.contains n = true ↔ n ≠ m := by
  simp only [complement, single, range, gaps, contains]
  split <;> split <;> simp only [rangesContain] <;> grind

/- The set of one character. -/
theorem contains_single_char
    (c d : Char) :
    (single d.toNat).contains c.toNat = decide (c = d) := by
  rw [Bool.eq_iff_iff, contains_single, decide_eq_true_eq,
    Char.toNat_inj]

/- The set of all other characters. -/
theorem contains_complement_char
    (c d : Char) :
    (single d.toNat).complement.contains c.toNat =
      decide (c ≠ d) := by
  rw [Bool.eq_iff_iff,
    contains_complement_single (toNat_le_top c),
    decide_eq_true_eq, Ne, Ne, Char.toNat_inj]

end CodepointSet

------------------------------------------------------------
-- Runs of characters
------------------------------------------------------------

namespace Pattern

variable {text s : List Char}
variable {test : Char → Bool}
variable {set : CodepointSet}
variable {found : List Way}
variable {n : Nat}

/-
  The first way takes the whole run of characters that pass a
  test. The others leave some of it.
-/
def LongestFirst
    (test : Char → Bool)
    (s : List Char)
    (found : List Way) : Prop :=
  ∃ shorter,
    found = ⟨[], s.dropWhile test⟩ :: shorter ∧
      ∀ w ∈ shorter, ∃ c t, w.rest = c :: t ∧ test c = true

/- What cannot follow inside the run follows the whole of it. -/
theorem LongestFirst.flatMap
    (hFound : LongestFirst test s found)
    {f : Way → List Way}
    (hInside :
      ∀ w c t, w.rest = c :: t → test c = true → f w = []) :
    found.flatMap f = f ⟨[], s.dropWhile test⟩ := by
  rcases hFound with ⟨shorter, rfl, hShorter⟩
  have hNone : shorter.flatMap f = [] := by
    rw [List.flatMap_eq_nil_iff]
    intro w hWay
    rcases hShorter w hWay with ⟨c, t, hRest, hTest⟩
    exact hInside w c t hRest hTest
  rw [List.flatMap_cons, hNone, List.append_nil]

theorem LongestFirst.head?_eq
    (hFound : LongestFirst test s found) :
    found.head? = some ⟨[], s.dropWhile test⟩ := by
  rcases hFound with ⟨shorter, rfl, _⟩
  rfl

/- What is taken of a text is what stands before the rest. -/
theorem take_length_sub_rest
    {front rest : List Char}
    (hText : s = front ++ rest) :
    s.take (s.length - rest.length) = front := by
  rw [hText, List.length_append, Nat.add_sub_cancel,
    List.take_left]

section Runs

variable (hSet : ∀ c : Char, set.contains c.toNat = test c)
include hSet

/- Single characters are taken for as long as they pass. -/
theorem longestFirst_upTo
    (hRounds : s.length ≤ n) :
    LongestFirst test s
      (Way.upTo ((Pattern.chars set).ways text) n s) := by
  induction s generalizing n with
  | nil =>
      refine ⟨[], ?_, by simp⟩
      cases n with
      | zero => rfl
      | succ n => simp [Way.upTo, ways]
  | cons c s ih =>
      cases n with
      | zero => simp at hRounds
      | succ n =>
          rcases ih (Nat.le_of_succ_le_succ hRounds) with
            ⟨shorter, hUpTo, hShorter⟩
          by_cases hTest : test c = true
          · refine ⟨shorter ++ [⟨[], c :: s⟩], ?_, ?_⟩
            · simp [Way.upTo, ways, hSet, hTest, hUpTo]
            · intro w hWay
              rcases List.mem_append.mp hWay with hWay | hWay
              · exact hShorter w hWay
              · cases List.mem_singleton.mp hWay
                exact ⟨c, s, rfl, hTest⟩
          · refine ⟨[], ?_, by simp⟩
            simp [Way.upTo, ways, hSet, hTest]

/- A repetition of any number of characters. -/
theorem longestFirst_any
    (hLength : s.length ≤ text.length) :
    LongestFirst test s
      ((Pattern.rep (.chars set) 0 none).ways text s) := by
  have hLongest :
      LongestFirst test s
        (Way.upTo ((Pattern.chars set).ways text)
          (text.length + 1) s) :=
    longestFirst_upTo hSet (Nat.le_succ_of_le hLength)
  simpa [ways, Way.times, moreRounds] using hLongest

/- A repetition of one character or more. -/
theorem longestFirst_some
    (hLength : s.length ≤ text.length)
    (hSome : s.takeWhile test ≠ []) :
    LongestFirst test s
      ((Pattern.rep (.chars set) 1 none).ways text s) := by
  cases s with
  | nil => simp at hSome
  | cons c s =>
      have hTest : test c = true := by
        simpa [List.takeWhile_cons] using hSome
      have hLongest :
          LongestFirst test s
            (Way.upTo ((Pattern.chars set).ways text)
              (text.length + 1) s) :=
        longestFirst_upTo hSet
          (Nat.le_succ_of_le (Nat.le_of_succ_le hLength))
      have hWays :
          (Pattern.rep (.chars set) 1 none).ways text (c :: s) =
            Way.upTo ((Pattern.chars set).ways text)
              (text.length + 1) s := by
        simp [ways, Way.times, moreRounds, hSet, hTest]
      rw [hWays, LongestFirst, List.dropWhile_cons_of_pos hTest]
      exact hLongest

theorem ways_some_eq_nil
    (hNone : s.takeWhile test = []) :
    (Pattern.rep (.chars set) 1 none).ways text s = [] := by
  have hRounds : min 1 (text.length + 1) = 1 := by
    omega
  rw [ways, hRounds]
  cases s with
  | nil => simp [Way.times, ways]
  | cons c s =>
      have hTest : test c = false := by
        simpa [List.takeWhile_cons] using hNone
      simp [Way.times, ways, hSet, hTest]

/-
  A group takes a whole run, if what comes after it cannot
  start inside the run.
-/
theorem ways_captured_some
    {q : Pattern}
    (hLength : s.length ≤ text.length)
    (hInside :
      ∀ c t, test c = true → q.ways text (c :: t) = []) :
    (Pattern.cat (.capture (.rep (.chars set) 1 none)) q).ways
        text s =
      if s.takeWhile test = [] then
        []
      else
        Way.andThen ⟨[s.takeWhile test], s.dropWhile test⟩
          (q.ways text) := by
  rw [ways, ways, List.flatMap_map]
  split
  · next hNone => rw [ways_some_eq_nil hSet hNone, List.flatMap_nil]
  · next hSome =>
      rw [(longestFirst_some hSet hLength hSome).flatMap]
      · rw [take_length_sub_rest
          List.takeWhile_append_dropWhile.symm]
      · intro w c t hRest hTest
        rw [Way.andThen, hRest, hInside c t hTest, List.map_nil]

end Runs

/- A single character is taken where it stands. -/
theorem ways_single
    (d : Char) :
    (Pattern.chars (.single d.toNat)).ways text s =
      if s.head? = some d then [⟨[], s.tail⟩] else [] := by
  cases s with
  | nil => simp [ways]
  | cons c s =>
      simp [ways, CodepointSet.contains_single_char]

/- One character that stands there, and then a pattern. -/
theorem ways_single_cons
    (d : Char)
    (q : Pattern) :
    (Pattern.cat (.chars (.single d.toNat)) q).ways text (d :: s) =
      q.ways text s := by
  rw [ways, ways_single]
  simp

theorem ways_single_of_ne
    {d : Char}
    (hOther : s.head? ≠ some d)
    (q : Pattern) :
    (Pattern.cat (.chars (.single d.toNat)) q).ways text s =
      [] := by
  simp [ways, ways_single, hOther]

theorem ways_textStart_of_lt
    (hLess : s.length < text.length)
    (q : Pattern) :
    (Pattern.cat (.look .textStart) q).ways text s = [] := by
  have hPlace : text.length - s.length ≠ 0 := by
    omega
  have hInText :
      text.length - s.length - 1 < text.length := by
    omega
  simp [ways, before?, hPlace, Look.holds,
    List.getElem?_eq_getElem hInText]

/- A last character, and the end of the text. -/
theorem ways_single_textEnd
    (d : Char) :
    (Pattern.cat (.chars (.single d.toNat)) (.look .textEnd)).ways
        text s =
      if s = [d] then [⟨[], []⟩] else [] := by
  by_cases hHead : s.head? = some d
  · rcases List.head?_eq_some_iff.mp hHead with ⟨t, rfl⟩
    rw [ways_single_cons]
    cases t with
    | nil => simp [ways, Look.holds]
    | cons a t => simp [ways, Look.holds]
  · rw [ways_single_of_ne hHead, if_neg]
    rintro rfl
    exact hHead rfl

/- What starts with the text matches nowhere else. -/
theorem first?_textStart
    (q : Pattern)
    (text : List Char) :
    first? text (.cat (.look .textStart) q) text =
      (q.ways text text).head? := by
  have hLater :
      ∀ s : List Char, s.length < text.length →
        first? text (.cat (.look .textStart) q) s = none := by
    intro s hLess
    induction s with
    | nil => simp [first?, ways_textStart_of_lt hLess]
    | cons c s ih =>
        rw [first?, ways_textStart_of_lt hLess,
          ih (Nat.lt_of_succ_lt hLess)]
        rfl
  cases text with
  | nil => simp [first?, ways, before?, Look.holds]
  | cons c s =>
      rw [first?, hLater s (Nat.lt_succ_self _), Option.or_none]
      simp [ways, before?, Look.holds]

end Pattern

end EmojiQuery
