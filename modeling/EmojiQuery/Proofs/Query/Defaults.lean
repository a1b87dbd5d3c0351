import EmojiQuery.Proofs.Query.Endpoints
import EmojiQuery.Proofs.Query.Single
import EmojiQuery.Proofs.Query.Bounds

/-
  Ranges with two bounds, and ranges whose upper bound is
  assumed. A separator that follows a whole bound is the one at
  which a text is cut. To assume an upper bound then comes to
  the same as to write it, also where the range is refused.

  Main declarations:
    * `ReadAlike`
    * `BoundKind.isSplit_pair`
    * `BoundKind.readAlike_parseFrom`
    * `BoundKind.assumed_upper_is_written`
-/

------------------------------------------------------------
-- Texts Read Alike
------------------------------------------------------------

namespace EmojiQuery

/-
  Two texts are read as the same, or they are refused for the
  same fault, and each error shows its own text.
-/
inductive ReadAlike
    {α : Type}
    (raw raw' : String) :
    Except SearchError α → Except SearchError α → Prop where
| same
    (a : α) :
    ReadAlike raw raw' (.ok a) (.ok a)
| refused
    (fault : RangeFault) :
    ReadAlike raw raw' (.error (.malformedRange raw fault))
      (.error (.malformedRange raw' fault))

namespace ReadAlike

variable {α β : Type}
variable {raw raw' : String}

/- What goes on alike after texts that are read alike. -/
theorem bind
    {x x' : Except SearchError α}
    {f f' : α → Except SearchError β}
    (hFirst : ReadAlike raw raw' x x')
    (hRest : ∀ a, ReadAlike raw raw' (f a) (f' a)) :
    ReadAlike raw raw' (x >>= f) (x' >>= f') := by
  cases hFirst with
  | same a =>
      exact hRest a
  | refused fault =>
      exact .refused fault

theorem map
    {x x' : Except SearchError α}
    (f : α → β)
    (hRead : ReadAlike raw raw' x x') :
    ReadAlike raw raw' (x.map f) (x'.map f) := by
  cases hRead with
  | same a =>
      exact .same (f a)
  | refused fault =>
      exact .refused fault

/- A part is read alike in any range. -/
theorem readBound
    (read : List Char → Option α)
    (part : List Char) :
    ReadAlike raw raw' (Interval.readBound read raw part)
      (Interval.readBound read raw' part) := by
  unfold Interval.readBound
  split
  · exact .refused .missingBound
  · split
    · exact .same _
    · exact .refused _

/- Bounds are compared alike in any range. -/
theorem between
    [LT α]
    [DecidableLT α]
    (a b : α) :
    ReadAlike raw raw' (Interval.between raw a b)
      (Interval.between raw' a b) := by
  unfold Interval.between
  split
  · exact .refused .reversed
  · exact .same _

end ReadAlike

end EmojiQuery

------------------------------------------------------------
-- Bounds That Are Written
------------------------------------------------------------

namespace EmojiQuery

namespace BoundKind

variable {k : BoundKind}
variable {lower upper : String}

/- A text that ends in a whole bound is cut behind it. -/
theorem isSplit_pair
    (hUndivided : Undivided lower.toList)
    (upper : String) :
    Interval.IsSplit (lower ++ ".." ++ upper).toList
      lower.toList upper.toList := by
  rw [Interval.isSplit_iff]
  have hCut := Interval.bounds?_pair hUndivided upper
  rw [Interval.bounds?] at hCut
  rw [hCut]
  rfl

/- An upper bound is assumed as if it were written. -/
theorem readAlike_parseFrom
    {assumed : k.Value}
    (hUndivided : Undivided lower.toList)
    (hUpper : k.read upper.toList = some assumed) :
    ReadAlike lower (lower ++ ".." ++ upper)
      (Interval.parseFrom k.read assumed lower)
      (Interval.parse k.read (lower ++ ".." ++ upper)) := by
  have hSingle : ¬ ['.', '.'] <:+: lower.toList := by
    rw [← Interval.bounds?_eq_none_iff]
    exact Interval.bounds?_single hUndivided
  have hRead :
      Interval.readBound k.read (lower ++ ".." ++ upper)
          upper.toList = .ok assumed :=
    (Interval.readBound_eq_ok_iff k.read_eq_some_iff_ne_nil_and
      assumed).mpr hUpper
  rw [Interval.parseFrom_of_not_infix _ _ hSingle,
    Interval.parse_of_isSplit _ (isSplit_pair hUndivided upper),
    hRead]
  apply (ReadAlike.readBound _ _).bind
  intro a
  exact ReadAlike.between a assumed

end BoundKind

end EmojiQuery

------------------------------------------------------------
-- Clauses with Scores
------------------------------------------------------------

namespace EmojiQuery

variable {lower : String}

/- A text without blanks can be followed by more of the same. -/
theorem Clause.Span.IsPlain.append
    {s t : List Char}
    (hPlain : IsPlain s)
    (hBlank : ∀ c ∈ t, Unicode.isBlank c = false) :
    IsPlain (s ++ t) := by
  rcases hPlain with ⟨hNonempty, hRun, hUnquoted⟩
  refine ⟨List.append_ne_nil_of_left_ne_nil hNonempty t, ?_, ?_⟩
  · intro c hMember
    rcases List.mem_append.mp hMember with hLeft | hRight
    · exact hRun c hLeft
    · exact hBlank c hRight
  · rw [List.head?_append_of_ne_nil s hNonempty]
    exact hUnquoted

/- Clauses whose values are read alike are answered alike. -/
theorem Dataset.readAlike_search
    {raw raw' : String}
    (d : Dataset)
    (f : Field)
    (hPlain : Clause.Span.IsPlain raw.toList)
    (hPlain' : Clause.Span.IsPlain raw'.toList)
    (hRead :
      ReadAlike raw raw' (Predicate.ofClause ⟨f, raw⟩)
        (Predicate.ofClause ⟨f, raw'⟩)) :
    ReadAlike raw raw' (d.search (Clause.text ⟨f, raw⟩))
      (d.search (Clause.text ⟨f, raw'⟩)) := by
  rw [d.search_clause (.plain hPlain .nil),
    d.search_clause (.plain hPlain' .nil)]
  apply ReadAlike.map
  rw [Query.ofClauses, Query.ofClauses, List.mapM_cons,
    List.mapM_cons]
  apply ReadAlike.bind
  · apply hRead.bind
    intro p
    exact .same [p]
  · intro ps
    exact .same _

/- A test of scores with one bound has one as the upper bound. -/
theorem readAlike_scores
    (hUndivided : Undivided lower.toList) :
    ReadAlike lower (lower ++ ".." ++ "1.0")
      (Predicate.ofClause ⟨.scores, lower⟩)
      (Predicate.ofClause ⟨.scores, lower ++ ".." ++ "1.0"⟩) := by
  have hOne : readRealBound? "1.0".toList = some .one := by
    decide +kernel
  have hSeparator :
      ['.', '.'] <:+: (lower ++ ".." ++ "1.0").toList :=
    ⟨lower.toList, "1.0".toList, by simp⟩
  have hAlike :=
    BoundKind.readAlike_parseFrom (k := .real) hUndivided hOne
  apply ReadAlike.map
  rw [Interval.parseFrom_of_infix _ _ hSeparator]
  exact hAlike

/-
  Let the lower bound have no separator and not end in a point.
  Then, whatever follows, two bounds are a range just when both
  are read and in order, and the range has these bounds. To
  assume an upper bound is the same as to write it, in any of
  its forms, and texts that are refused are refused for the same
  fault. So a clause with one score has the range from this
  score to one.
-/
theorem BoundKind.assumed_upper_is_written
    (hSingle : ¬ ['.', '.'] <:+: lower.toList)
    (hEnd : lower.toList.getLast? ≠ some '.') :
    (∀ (k : BoundKind) (upper : String) (r : Interval k.Value),
      Interval.parse k.read (lower ++ ".." ++ upper) = .ok r ↔
        k.read lower.toList = some r.lower ∧
          k.read upper.toList = some r.upper ∧
            r.lower ≤ r.upper) ∧
      (∀ (k : BoundKind) (upper : String) (assumed : k.Value),
        k.read upper.toList = some assumed →
          ReadAlike lower (lower ++ ".." ++ upper)
            (Interval.parseFrom k.read assumed lower)
            (Interval.parse k.read (lower ++ ".." ++ upper))) ∧
      ReadAlike lower (lower ++ ".." ++ "1.0")
        (Predicate.ofClause ⟨.scores, lower⟩)
        (Predicate.ofClause ⟨.scores, lower ++ ".." ++ "1.0"⟩) ∧
      (Clause.Span.IsPlain lower.toList →
        ∀ d : Dataset,
          ReadAlike lower (lower ++ ".." ++ "1.0")
            (d.search ("diff:" ++ lower))
            (d.search ("diff:" ++ (lower ++ ".." ++ "1.0")))) := by
  have hUndivided := Undivided.of_not_infix hSingle hEnd
  refine ⟨?_, ?_, readAlike_scores hUndivided, ?_⟩
  · intro k upper r
    exact parse_eq_ok_iff (isSplit_pair hUndivided upper)
  · intro k upper assumed hUpper
    exact readAlike_parseFrom hUndivided hUpper
  · intro hPlain d
    have hPlain' :
        Clause.Span.IsPlain (lower ++ ".." ++ "1.0").toList := by
      rw [String.append_assoc, String.toList_append]
      exact hPlain.append (by simp [Unicode.isBlank])
    exact d.readAlike_search .scores hPlain hPlain'
      (readAlike_scores hUndivided)

/- Of three points the first two are the separator. -/
theorem assumed_upper_is_written_before_point :
    let lower := "0.5"
    let upper := ".9"
    let range : Interval Binary64 :=
      ⟨⟨0x3FE0000000000000⟩, ⟨0x3FECCCCCCCCCCCCD⟩⟩
    ¬ ['.', '.'] <:+: lower.toList ∧
      lower.toList.getLast? ≠ some '.' ∧
      Clause.Span.IsPlain lower.toList ∧
      readRealBound? upper.toList = some range.upper ∧
      Interval.parse readRealBound? (lower ++ ".." ++ upper) =
        .ok range ∧
      ReadAlike lower (lower ++ ".." ++ upper)
        (Interval.parseFrom readRealBound? range.upper lower)
        (.ok range) ∧
      ∀ d : Dataset,
        ReadAlike lower (lower ++ ".." ++ "1.0")
          (d.search ("diff:" ++ lower))
          (d.search ("diff:" ++ (lower ++ ".." ++ "1.0"))) := by
  intro lower upper range
  have hSingle : ¬ ['.', '.'] <:+: lower.toList := by
    decide
  have hEnd : lower.toList.getLast? ≠ some '.' := by
    decide
  have hPlain : Clause.Span.IsPlain lower.toList :=
    ⟨by decide, by simp [lower, Unicode.isBlank], by decide⟩
  have hLower : readRealBound? lower.toList = some range.lower := by
    decide +kernel
  have hUpper : readRealBound? upper.toList = some range.upper := by
    decide +kernel
  have hOrder : range.lower ≤ range.upper := by
    decide
  rcases BoundKind.assumed_upper_is_written hSingle hEnd with
    ⟨hPair, hAssumed, _, hSearch⟩
  have hParse :
      Interval.parse readRealBound? (lower ++ ".." ++ upper) =
        .ok range :=
    (hPair .real upper range).mpr ⟨hLower, hUpper, hOrder⟩
  have hAlike := hAssumed .real upper range.upper hUpper
  refine ⟨hSingle, hEnd, hPlain, hUpper, hParse, ?_, hSearch hPlain⟩
  rw [← hParse]
  exact hAlike

end EmojiQuery
