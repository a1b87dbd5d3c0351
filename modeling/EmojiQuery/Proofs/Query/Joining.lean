import EmojiQuery.Dataset.Basic
import EmojiQuery.Proofs.Query.Grammar

/-
  Texts that are joined by a blank. Nothing that is read on
  one side of the blank reaches over to the other, unless a
  quote that stands on each side closes over it.

  Main declarations:
    * `Clause.Apart`
    * `Clause.Span.take?_append`
    * `Clause.Span.scan_append`
    * `Clause.parse_append`
    * `Clause.parse_intercalate`
    * `Clause.parse_append_and_search_intercalate`
-/

------------------------------------------------------------
-- Blanks
------------------------------------------------------------

namespace EmojiQuery

namespace Clause

namespace Span

variable {c : Char}

/- A blank is no quote. -/
theorem ne_quote_of_isBlank
    (hBlank : Unicode.isBlank c = true) :
    c ≠ '"' := by
  rintro rfl
  revert hBlank
  decide

/- A blank stands in no name. -/
theorem isNameChar_of_isBlank
    (hBlank : Unicode.isBlank c = true) :
    isNameChar c = false := by
  rw [← Bool.not_eq_true, isNameChar_iff]
  intro hWord
  simp only [Unicode.isBlank, Bool.or_eq_true, Bool.and_eq_true,
    decide_eq_true_eq] at hBlank
  simp only [IsWordChar, Char.le_def, UInt32.le_iff_toNat_le,
    Char.reduceVal, UInt32.reduceToNat, Char.toNat_val] at hWord
  rcases hWord with hUpper | hLower | hDigit | rfl
  · omega
  · omega
  · omega
  · simp at hBlank

end Span

end Clause

end EmojiQuery

------------------------------------------------------------
-- Values and Clauses before a Blank
------------------------------------------------------------

namespace EmojiQuery

namespace Clause

/- Quotes stand in one of two texts at most. -/
def Apart
    (s t : List Char) : Prop :=
  '"' ∉ s ∨ '"' ∉ t

/- They stay apart when the first text loses its front. -/
theorem Apart.of_suffix
    {s t u : List Char}
    (hApart : Apart s t)
    (hSuffix : u <:+ s) :
    Apart u t :=
  hApart.imp_left (mt fun hMember => hSuffix.subset hMember)

namespace Span

variable {s t : List Char}
variable {c : Char}

/- A run ends before a blank. -/
theorem takeRun?_append
    (hBlank : Unicode.isBlank c = true) :
    takeRun? (s ++ c :: t) =
      (takeRun? s).map fun (value, rest) =>
        (value, rest ++ c :: t) := by
  have hStop : isValueChar c = false := by
    simp [isValueChar, hBlank]
  rcases takeWhile_dropWhile_append isValueChar
      (s := s) (t := c :: t) (by simp [hStop]) with
    ⟨hTake, hDrop⟩
  simp only [takeRun?, hTake, hDrop]
  split <;> rfl

/- Without a quote in front, a value is a run. -/
theorem takeValue?_of_unquoted
    (hUnquoted : s.head? ≠ some '"') :
    takeValue? s = takeRun? s := by
  unfold takeValue?
  split
  · exact absurd rfl hUnquoted
  · rfl

/- A value ends before a blank, or closes before it. -/
theorem takeValue?_append
    (hBlank : Unicode.isBlank c = true)
    (hApart : Apart s t) :
    takeValue? (s ++ c :: t) =
      (takeValue? s).map fun (value, rest) =>
        (value, rest ++ c :: t) := by
  have hNotQuote := ne_quote_of_isBlank hBlank
  by_cases hQuoted : s.head? = some '"'
  · rcases List.head?_eq_some_iff.mp hQuoted with ⟨u, rfl⟩
    have hLater : '"' ∉ t := by
      simpa [Apart] using hApart
    have hClosing :
        (u ++ c :: t).contains '"' = u.contains '"' := by
      simp [hLater, hNotQuote.symm]
    simp only [List.cons_append, takeValue?, hClosing]
    split
    · next hClosed =>
        have hInside : u.dropWhile (· ≠ '"') ≠ [] := by
          simpa using hClosed
        rcases takeWhile_dropWhile_append (· ≠ '"')
            (s := u) (t := c :: t)
            (fun hNil => absurd hNil hInside) with
          ⟨hTake, hDrop⟩
        rw [hTake, hDrop, List.tail_append_of_ne_nil hInside]
        rfl
    · exact takeRun?_append (s := '"' :: u) hBlank
  · have hUnquoted : (s ++ c :: t).head? ≠ some '"' := by
      cases s with
      | nil => simpa using hNotQuote
      | cons a s => exact hQuoted
    rw [takeValue?_of_unquoted hUnquoted,
      takeValue?_of_unquoted hQuoted, takeRun?_append hBlank]

/- A clause ends before a blank, and none starts at its name. -/
theorem take?_append
    (hBlank : Unicode.isBlank c = true)
    (hApart : Apart s t) :
    take? (s ++ c :: t) =
      (take? s).map fun (span, rest) =>
        (span, rest ++ c :: t) := by
  have hNotColon : c ≠ ':' := by
    rintro rfl
    revert hBlank
    decide
  rcases takeWhile_dropWhile_append isNameChar
      (s := s) (t := c :: t)
      (by simp [isNameChar_of_isBlank hBlank]) with
    ⟨hTake, hDrop⟩
  simp only [take?, hTake, hDrop]
  split
  · rfl
  · cases hRest : s.dropWhile isNameChar with
    | nil => simp [hNotColon]
    | cons a u =>
        have hSuffix : u <:+ s :=
          (List.suffix_cons a u).trans
            (hRest ▸ List.dropWhile_suffix isNameChar)
        by_cases hColon : a = ':'
        · subst hColon
          simp only [List.cons_append, Option.map_map,
            takeValue?_append hBlank (hApart.of_suffix hSuffix)]
          rfl
        · simp [hColon]

------------------------------------------------------------
-- Scans across a Blank
------------------------------------------------------------

/- The scan passes over a blank. -/
theorem scan_cons_of_isBlank
    (hBlank : Unicode.isBlank c = true) :
    scan (c :: t) = scan t := by
  apply scan_cons_of_take?_eq_none
  simp [take?, isNameChar_of_isBlank hBlank]

/- The clauses of two texts are found one after the other. -/
theorem scan_append
    (hBlank : Unicode.isBlank c = true)
    (hApart : Apart s t) :
    scan (s ++ c :: t) = scan s ++ scan t := by
  -- The scan of the first text goes on behind each clause.
  induction s using scan.induct with
  | case1 =>
      rw [List.nil_append, scan_cons_of_isBlank hBlank, scan,
        List.nil_append]
  | case2 a s span rest hTake ih =>
      have hSuffix : rest <:+ a :: s := by
        rw [((take?_eq_some_iff _ _ _).mp hTake).eq_append]
        exact List.suffix_append _ _
      have hSeam := take?_append hBlank hApart
      rw [hTake] at hSeam
      rw [scan_of_take?_eq_some hSeam,
        ih (hApart.of_suffix hSuffix),
        scan_of_take?_eq_some hTake, List.cons_append]
  | case3 a s hTake ih =>
      have hSeam := take?_append hBlank hApart
      rw [hTake, List.cons_append] at hSeam
      rw [List.cons_append, scan_cons_of_take?_eq_none hSeam,
        ih (hApart.of_suffix (List.suffix_cons a s)),
        scan_cons_of_take?_eq_none hTake]

end Span

end Clause

end EmojiQuery

------------------------------------------------------------
-- Joined Queries
------------------------------------------------------------

namespace EmojiQuery

namespace Clause

/- A quote stands in a text. -/
def hasQuote
    (text : String) : Bool :=
  text.toList.contains '"'

@[simp] theorem hasQuote_append
    (left right : String) :
    hasQuote (left ++ right) =
      (hasQuote left || hasQuote right) := by
  simp [hasQuote]

/- Joined words have the quotes of the words. -/
theorem hasQuote_intercalate
    (words : List String) :
    hasQuote (" ".intercalate words) = words.any hasQuote := by
  have hSpace : hasQuote " " = false := by
    decide
  induction words with
  | nil => rfl
  | cons word words ih =>
      cases words with
      | nil => simp
      | cons next words =>
          rw [String.intercalate_cons_cons, List.any_cons, ← ih]
          simp [hSpace]

/-
  Two texts joined by a blank are read one after the other.
  The first error is the error of both.
-/
theorem parse_append
    {left right : String}
    {c : Char}
    (hBlank : Unicode.isBlank c = true)
    (hQuotes :
      ¬ (hasQuote left = true ∧ hasQuote right = true)) :
    parse (left ++ String.singleton c ++ right) =
      (do
        let cs ← parse left
        let ds ← parse right
        pure (cs ++ ds)) := by
  have hApart : Apart left.toList right.toList := by
    rcases not_and_or.mp hQuotes with hLeft | hRight
    · exact .inl (by simpa [hasQuote] using hLeft)
    · exact .inr (by simpa [hasQuote] using hRight)
  simp only [parse, String.toList_append,
    String.toList_singleton, List.append_assoc,
    List.singleton_append, Span.scan_append hBlank hApart,
    List.mapM_append]

/- Joined words are read one after the other. -/
theorem parse_intercalate
    {words : List String}
    (hQuotes : words.countP hasQuote ≤ 1) :
    parse (" ".intercalate words) =
      (words.mapM parse).map List.flatten := by
  induction words with
  | nil =>
      simp [parse, Span.scan]
      rfl
  | cons word words ih =>
      rw [List.countP_cons] at hQuotes
      cases words with
      | nil =>
          rw [String.intercalate_singleton, List.mapM_cons]
          cases parse word with
          | error e => rfl
          | ok cs => exact congrArg _ (List.append_nil cs).symm
      | cons next words =>
          have hApart :
              ¬ (hasQuote word = true ∧
                hasQuote (" ".intercalate (next :: words)) =
                  true) := by
            rintro ⟨hWord, hRest⟩
            rw [hasQuote_intercalate, List.any_eq_true,
              ← List.countP_pos_iff] at hRest
            rw [if_pos hWord] at hQuotes
            omega
          have hBoth := parse_append (c := ' ') rfl hApart
          rw [String.intercalate_cons_cons, List.mapM_cons]
          refine hBoth.trans ?_
          rw [ih (by omega)]
          cases parse word with
          | error e => rfl
          | ok cs =>
              cases (next :: words).mapM parse <;> rfl

/-
  Two texts joined by a blank of any kind, not both of which
  have a quote, are read one after the other. So a search for
  words joined by spaces, of which one has a quote at most, is
  a search for the clauses of the words in their order.
-/
theorem parse_append_and_search_intercalate :
    (∀ left right c,
      Unicode.isBlank c = true →
        ¬ (hasQuote left = true ∧ hasQuote right = true) →
          parse (left ++ String.singleton c ++ right) =
            (do
              let cs ← parse left
              let ds ← parse right
              pure (cs ++ ds))) ∧
      ∀ words : List String,
        words.countP hasQuote ≤ 1 →
          Query.parse (" ".intercalate words) =
              (do
                let css ← words.mapM parse
                Query.ofClauses css.flatten) ∧
            ∀ dataset : Dataset,
              dataset.search (" ".intercalate words) =
                (do
                  let css ← words.mapM parse
                  dataset.evaluate css.flatten) := by
  refine ⟨fun _ _ _ => parse_append, ?_⟩
  intro words hQuotes
  have hQuery :
      Query.parse (" ".intercalate words) =
        (do
          let css ← words.mapM parse
          Query.ofClauses css.flatten) := by
    rw [Query.parse, parse_intercalate hQuotes]
    cases words.mapM parse <;> rfl
  refine ⟨hQuery, ?_⟩
  intro dataset
  rw [Dataset.search, hQuery]
  cases words.mapM parse <;> rfl

/- A word with a quoted value is read between two others. -/
theorem search_quoted_word_between_others :
    parse ("api:21" ++ String.singleton '\u2003' ++ "note:\"a b") =
        .ok [⟨.support, "21"⟩, ⟨.notes, "\"a"⟩] ∧
      Query.parse (" ".intercalate
          ["u:1F48D", "note:\"a b\"", "x diff:1"]) =
        Query.ofClauses
          [⟨.codepoints, "1F48D"⟩, ⟨.notes, "\"a b\""⟩,
            ⟨.scores, "1"⟩] := by
  constructor
  · rw [parse_append_and_search_intercalate.1 _ _ _
      (by decide) (by decide)]
    decide +kernel
  · have hWords :
        ["u:1F48D", "note:\"a b\"", "x diff:1"].mapM parse =
          .ok [[⟨.codepoints, "1F48D"⟩], [⟨.notes, "\"a b\""⟩],
            [⟨.scores, "1"⟩]] := by
      decide +kernel
    rw [(parse_append_and_search_intercalate.2 _
      (by decide)).1, hWords]
    rfl

end Clause

end EmojiQuery
