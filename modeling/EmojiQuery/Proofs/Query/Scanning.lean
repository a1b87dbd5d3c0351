import EmojiQuery.Proofs.Pattern.Runs
import EmojiQuery.Proofs.Query.Grammar
import EmojiQuery.Query.Note

/-
  The scanners of queries and of note values, against patterns:
  what stands between delimiters, and the clauses of a query,
  are what the groups of three written patterns take.

  Main declarations:
    * `NoteTest.compile?_quoted`
    * `NoteTest.compile?_slashed`
    * `NoteTest.groups?_enclosing`
    * `Clause.compile?_pattern`
    * `Clause.Span.allGroups_pattern`
-/

------------------------------------------------------------
-- Delimiters
------------------------------------------------------------

namespace EmojiQuery

namespace NoteTest

/-
  The start of the text, a delimiter, a group of other
  characters, the delimiter again and the end of the text.
-/
def enclosing
    (d : Char) : Pattern :=
  .cat (.look .textStart)
    (.cat (.chars (.single d.toNat))
      (.cat
        (.capture
          (.rep (.chars (CodepointSet.single d.toNat).complement) 1
            none))
        (.cat (.chars (.single d.toNat)) (.look .textEnd))))

/- The delimiters as they are written in patterns. -/
theorem compile?_quoted :
    Pattern.compile? "^\"([^\"]+)\"$" = some (enclosing '"') := by
  rfl

theorem compile?_slashed :
    Pattern.compile? "^/([^/]+)/$" = some (enclosing '/') := by
  rfl

/- What is enclosed is what the group takes. -/
theorem groups?_enclosing
    (d : Char)
    (s : List Char) :
    (enclosing d).groups? s = (enclosed? d s).map fun t => [t] := by
  rw [Pattern.groups?, enclosing, Pattern.first?_textStart]
  cases s with
  | nil =>
      rw [Pattern.ways_single_of_ne (by simp)]
      rfl
  | cons c s =>
      by_cases hOpen : c = d
      · subst hOpen
        rw [Pattern.ways_single_cons,
          Pattern.ways_captured_some
            (fun a => CodepointSet.contains_complement_char a c)
            (Nat.le_succ _)]
        · have hDrop :=
            @List.drop_left _ (s.takeWhile (· ≠ c))
              (s.dropWhile (· ≠ c))
          rw [List.takeWhile_append_dropWhile] at hDrop
          rw [Way.andThen, Pattern.ways_single_textEnd]
          simp only [enclosed?, hDrop]
          split <;> split <;> simp_all
        · intro a t hOther
          exact Pattern.ways_single_of_ne (by simpa using hOther) _
      · rw [Pattern.ways_single_of_ne (by simpa using hOpen)]
        simp [enclosed?, hOpen]

end NoteTest

------------------------------------------------------------
-- Clauses
------------------------------------------------------------

namespace Clause

/- The letters, digits and the underscore of ASCII. -/
def nameSet : CodepointSet :=
  .unions [.range 65 90, .range 97 122, .range 48 57, .single 95]

/- All characters except white space. -/
def valueSet : CodepointSet :=
  Unicode.blanks.complement

/- A character, any number of other characters and it again. -/
def delimited
    (d : Char) : Pattern :=
  .cat (.chars (.single d.toNat))
    (.cat
      (.rep (.chars (CodepointSet.single d.toNat).complement) 0
        none)
      (.chars (.single d.toNat)))

/- A group that is quoted or has no white space. -/
def valuePattern : Pattern :=
  .capture
    (.alt (delimited '"') (.rep (.chars valueSet) 1 none))

/- A group that is a name, a colon and a value. -/
def pattern : Pattern :=
  .cat (.capture (.rep (.chars nameSet) 1 none))
    (.cat (.chars (.single ':'.toNat)) valuePattern)

theorem nameSet_eq :
    nameSet = ⟨[(48, 57), (65, 90), (95, 95), (97, 122)]⟩ := by
  simp [nameSet, CodepointSet.unions, CodepointSet.ofRanges,
    CodepointSet.range, CodepointSet.single, CodepointSet.fuse,
    List.mergeSort]

theorem valueSet_eq :
    valueSet =
      ⟨[(0, 8), (14, 31), (33, 132), (134, 159), (161, 5759),
        (5761, 8191), (8203, 8231), (8234, 8238), (8240, 8286),
        (8288, 12287), (12289, 1114111)]⟩ := by
  have hRead :
      Unicode.whiteSpaceLines.flatMap
          CodepointSet.rangesOfLine =
        [(12288, 12288), (8287, 8287), (8239, 8239), (8232, 8233),
          (8192, 8202), (5760, 5760), (160, 160), (133, 133),
          (32, 32), (9, 13)] := by
    simp only [Unicode.whiteSpaceLines, CodepointSet.rangesOfLine,
      String.foldl_eq_foldl_toList, List.flatMap_cons,
      List.flatMap_nil]
    rfl
  rw [valueSet, Unicode.blanks, CodepointSet.ofText, hRead]
  simp [CodepointSet.ofRanges, CodepointSet.fuse,
    CodepointSet.complement, CodepointSet.gaps, CodepointSet.top,
    List.mergeSort]

/- Clauses as they are written in a pattern. -/
theorem compile?_pattern :
    Pattern.compile? "([A-Za-z0-9_]+):(\"[^\"]*\"|\\S+)" =
      some pattern := by
  have hParse :
      Pattern.parse?
          "([A-Za-z0-9_]+):(\"[^\"]*\"|\\S+)".toList =
        some pattern := by
    rfl
  have hSmall : pattern.isSmall = true := by
    rw [pattern, valuePattern, nameSet_eq, valueSet_eq]
    decide +kernel
  rw [Pattern.compile?, hParse, Option.bind_some, if_pos hSmall]

namespace Span

theorem contains_nameSet
    (c : Char) :
    nameSet.contains c.toNat = isNameChar c := by
  rw [Bool.eq_iff_iff, isNameChar_iff]
  have hUnderscore : c = '_' ↔ c.toNat = 95 := by
    rw [← Char.toNat_inj]
    rfl
  simp only [nameSet_eq, CodepointSet.contains,
    CodepointSet.rangesContain_cons_iff,
    CodepointSet.rangesContain_nil, Bool.false_eq_true, or_false,
    IsWordChar, hUnderscore, Char.le_def, UInt32.le_iff_toNat_le,
    Char.toNat_val, Char.reduceToNat]
  omega

theorem contains_valueSet
    (c : Char) :
    valueSet.contains c.toNat = isValueChar c := by
  have hTop := CodepointSet.toNat_le_top c
  simp only [CodepointSet.top] at hTop
  rw [Bool.eq_iff_iff]
  simp only [valueSet_eq, CodepointSet.contains,
    CodepointSet.rangesContain_cons_iff,
    CodepointSet.rangesContain_nil, isValueChar, Unicode.isBlank,
    Bool.not_eq_true', Bool.or_eq_false_iff,
    Bool.and_eq_false_iff, decide_eq_false_iff_not,
    Bool.false_eq_true, or_false]
  omega

variable {text s : List Char}

/- A run of other characters ends at a character it meets. -/
theorem head?_dropWhile_ne_iff
    (d : Char)
    (s : List Char) :
    (s.dropWhile (· ≠ d)).head? = some d ↔ d ∈ s := by
  induction s with
  | nil => simp
  | cons c s ih =>
      by_cases hSame : c = d
      · simp [hSame]
      · simp only [List.dropWhile_cons, ne_eq, hSame,
          not_false_eq_true, decide_true, if_true, List.mem_cons,
          Ne.symm hSame, false_or]
        exact ih

/- What is delimited is taken up to the next delimiter. -/
theorem ways_delimited_cons
    (d : Char)
    (hLength : s.length ≤ text.length) :
    (delimited d).ways text (d :: s) =
      if d ∈ s then
        [⟨[], (s.dropWhile (· ≠ d)).tail⟩]
      else
        [] := by
  have hRun :=
    Pattern.longestFirst_any
      (fun c => CodepointSet.contains_complement_char c d)
      hLength
  rw [delimited, Pattern.ways_single_cons, Pattern.ways,
    hRun.flatMap]
  · rw [Way.andThen_nil, Pattern.ways_single]
    simp only [head?_dropWhile_ne_iff]
  · intro w c t hRest hOther
    have hNot : c ≠ d := by
      simpa using hOther
    simp [Way.andThen, hRest, Pattern.ways_single, hNot]

/- A value without quotes is taken up to the next blank. -/
theorem head?_ways_run
    (hLength : s.length ≤ text.length) :
    ((Pattern.rep (.chars valueSet) 1 none).ways text s).head? =
      (takeRun? s).map fun (_, rest) => ⟨[], rest⟩ := by
  by_cases hSome : s.takeWhile isValueChar = []
  · simp [Pattern.ways_some_eq_nil contains_valueSet hSome,
      takeRun?, hSome]
  · rw [(Pattern.longestFirst_some contains_valueSet hLength
      hSome).head?_eq]
    simp [takeRun?, hSome]

/- A value is quoted rather than not. -/
theorem head?_ways_choice
    (hLength : s.length ≤ text.length) :
    ((delimited '"').ways text s ++
        (Pattern.rep (.chars valueSet) 1 none).ways text s).head? =
      (takeValue? s).map fun (_, rest) => ⟨[], rest⟩ := by
  rw [List.head?_append, head?_ways_run hLength]
  unfold takeValue?
  split
  · next t =>
      rw [ways_delimited_cons '"' (Nat.le_of_succ_le hLength)]
      by_cases hQuote : '"' ∈ t
      · simp [hQuote]
      · simp [hQuote]
  · next hOther =>
      rw [delimited, Pattern.ways_single_of_ne]
      · rfl
      · intro hHead
        rcases List.head?_eq_some_iff.mp hHead with ⟨t, hText⟩
        exact hOther t hText

/- A value is taken in the preferred way. -/
theorem head?_ways_value
    (hLength : s.length ≤ text.length) :
    (valuePattern.ways text s).head? =
      (takeValue? s).map fun (value, rest) => ⟨[value], rest⟩ := by
  rw [valuePattern, Pattern.ways, Pattern.ways, List.head?_map,
    head?_ways_choice hLength]
  cases hTake : takeValue? s with
  | none => rfl
  | some taken =>
      have hText :=
        ((takeValue?_eq_some_iff s _ _).mp hTake).eq_append
      simp [Pattern.take_length_sub_rest hText]

/- What the groups take of a clause. -/
def groups
    (span : Span) : List (List Char) :=
  [span.name, span.value]

/- And so is a clause. -/
theorem head?_ways_pattern
    (hLength : s.length ≤ text.length) :
    (pattern.ways text s).head? =
      (take? s).map fun (span, rest) => ⟨span.groups, rest⟩ := by
  rw [pattern,
    Pattern.ways_captured_some contains_nameSet hLength]
  · simp only [take?, List.isEmpty_iff]
    split
    · rfl
    · next hNonempty =>
        have hRest :=
          (List.dropWhile_suffix isNameChar (l := s)).length_le
        rw [Way.andThen, List.head?_map]
        split
        · next t hColon =>
            rw [hColon] at hRest
            rw [hColon, Pattern.ways_single_cons,
              head?_ways_value (by
                simp only [List.length_cons] at hRest
                omega),
              Option.map_map, Option.map_map]
            rfl
        · next hOther =>
            rw [Pattern.ways_single_of_ne]
            · rfl
            · intro hHead
              rcases List.head?_eq_some_iff.mp hHead with ⟨t, hText⟩
              exact hOther t hText
  · intro c t hName
    apply Pattern.ways_single_of_ne
    rintro ⟨⟩
    exact absurd hName (by decide)

/- A clause is taken where one starts. -/
theorem next?_pattern
    (hLength : s.length ≤ text.length)
    (fresh : Bool) :
    Pattern.next? text pattern fresh s =
      (take? s).map fun (span, rest) => ⟨span.groups, rest⟩ := by
  rw [Pattern.next?, head?_ways_pattern hLength]
  cases hTake : take? s with
  | none => rfl
  | some taken => simp [length_of_take? hTake]

/- The clauses of what is left of a text. -/
theorem all_pattern
    (hLength : s.length ≤ text.length)
    (fresh : Bool) :
    (Pattern.all text pattern fresh s).map Way.groups =
      (scan s).map groups := by
  fun_induction scan s generalizing fresh with
  | case1 =>
      have hNext : Pattern.next? text pattern fresh [] = none :=
        next?_pattern hLength fresh
      rw [Pattern.all_nil_of_next?_eq_none hNext]
      rfl
  | case2 c s span rest hTake ih =>
      have hLess := length_of_take? hTake
      have hNext :
          Pattern.next? text pattern fresh (c :: s) =
            some ⟨span.groups, rest⟩ := by
        rw [next?_pattern hLength, hTake]
        rfl
      rw [Pattern.all_of_next?_eq_some hNext hLess, List.map_cons,
        List.map_cons,
        ih (Nat.le_trans (Nat.le_of_lt hLess) hLength)]
  | case3 c s hNone ih =>
      have hNext :
          Pattern.next? text pattern fresh (c :: s) = none := by
        rw [next?_pattern hLength, hNone]
        rfl
      rw [Pattern.all_cons_of_next?_eq_none hNext,
        ih (Nat.le_of_succ_le hLength)]

/- The clauses of a query are what the groups take. -/
theorem allGroups_pattern
    (query : List Char) :
    pattern.allGroups query = (scan query).map groups :=
  all_pattern (Nat.le_refl _) true

end Span

end Clause

end EmojiQuery
