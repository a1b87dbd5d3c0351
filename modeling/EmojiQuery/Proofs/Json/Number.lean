import EmojiQuery.Proofs.Json.Digits

/-
  Number literals in JSON. A literal whose digits fit in 64
  bits is read as the nearest number to it if its digits are
  scaled with at most one rounding.

  Main declarations:
    * `Literal.Ends`
    * `Literal.Loads`
    * `Literal.RoundsOnce`
    * `Json.eq_nearest_of_binary64`
-/

------------------------------------------------------------
-- Powers
------------------------------------------------------------

namespace EmojiQuery

namespace Json

variable {negative : Bool}
variable {n : Nat}
variable {exp : Int}
variable {rest s : List UInt8}
variable {x : Binary64}

/- The bytes of an exponent give its size, or more than is read. -/
theorem readExponent_chars
    (p : Literal.Power)
    (hStop : Stops rest) :
    readExponent negative n exp
        ((p.sign.chars ++ p.digits.chars).map byte ++ rest) =
      if maxExponent < p.digits.value then
        if p.sign ≠ .minus ∧ n ≠ 0 then
          .error .grammar
        else
          .ok (signed negative .zero, rest)
      else
        (scaled negative n (exp + p.exponent)).map (·, rest) := by
  rcases takeWhile_dropWhile_digits p.digits.isDigit_of_mem
    hStop with ⟨hTake, hDrop⟩
  have hSize :
      (p.digits.chars.map byte).foldl
          (fun e b => 10 * e + (digit? b).getD 0) 0 =
        p.digits.value :=
    foldl_digits p.digits.isDigit_of_mem 0
  rcases p.digits.exists_eq_cons with ⟨c, cs, hChars, hDigit⟩
  have hBytes :
      p.digits.chars.map byte ++ rest =
        byte c :: (cs.map byte ++ rest) := by
    rw [hChars, List.map_cons, List.cons_append]
  have hFirst := isDigit_byte hDigit
  have hPlus : byte c ≠ byte '+' :=
    byte_ne_of_isDigit hDigit (by decide) (by decide)
  have hMinus : byte c ≠ byte '-' :=
    byte_ne_of_isDigit hDigit (by decide) (by decide)
  have hSigns : byte '-' ≠ byte '+' := by
    decide
  rw [hBytes] at hTake hDrop
  unfold Literal.Power.exponent
  cases p.sign with
  | none =>
      simp only [Literal.Sign.chars, List.nil_append, hBytes,
        readExponent, hPlus, hMinus, if_false, hFirst, if_true,
        hTake, hDrop, hSize]
      simp [bind, Except.bind, Except.map]
  | plus =>
      simp only [Literal.Sign.chars, List.map_cons,
        List.cons_append, List.nil_append, hBytes, readExponent,
        if_true, hFirst, hTake, hDrop, hSize]
      simp [bind, Except.bind, Except.map]
  | minus =>
      simp only [Literal.Sign.chars, List.map_cons,
        List.cons_append, List.nil_append, hBytes, readExponent,
        hSigns, if_false, if_true, hFirst, hTake, hDrop, hSize]
      simp [bind, Except.bind, Except.map]
      rfl

/- A number that is scaled with one rounding is the nearest one. -/
theorem eq_ofDecimal_of_scaled
    (hFits : n < UInt64.size)
    (hOnce : Binary64.RoundsOnce n exp)
    (hRead : scaled negative n exp = .ok x) :
    x = .ofDecimal negative n exp := by
  have hFinite : n.log2 ≤ 1022 := by
    rcases Nat.eq_zero_or_pos n with rfl | hPositive
    · decide
    · have hLength : n.log2 < 64 :=
        (Nat.log2_lt (Nat.ne_of_gt hPositive)).mpr hFits
      omega
  unfold scaled at hRead
  split at hRead
  · next y hScale =>
      rw [Except.ok.injEq] at hRead
      rw [← hRead, Binary64.eq_ofDecimal_of_scale? hFinite hOnce
        hScale]
      cases negative with
      | false =>
          rfl
      | true =>
          exact Binary64.neg_ofDecimal n exp
  · cases hRead

/- A zero has its sign, whatever the power. -/
theorem signed_zero
    (negative : Bool)
    (exp : Int) :
    signed negative .zero = .ofDecimal negative 0 exp := by
  rw [Binary64.ofDecimal_zero]
  cases negative with
  | false =>
      decide
  | true =>
      decide

/-
  An exponent that is too large to be read belongs to a zero,
  or to a power that is far too small to be scaled once.
-/
theorem eq_ofDecimal_of_readExponent
    (p : Literal.Power)
    (hStop : Stops rest)
    (hFits : n < UInt64.size)
    (hExp : exp ≤ 0)
    (hOnce : Binary64.RoundsOnce n (exp + p.exponent))
    (hRead :
      readExponent negative n exp
          ((p.sign.chars ++ p.digits.chars).map byte ++ rest) =
        .ok (x, s)) :
    x = .ofDecimal negative n (exp + p.exponent) := by
  rw [readExponent_chars p hStop] at hRead
  split at hRead
  · next hLarge =>
      split at hRead
      · cases hRead
      · next hReadable =>
          rw [Except.ok.injEq, Prod.mk.injEq] at hRead
          rw [not_and_or, not_not, not_not] at hReadable
          have hZero : n = 0 := by
            rcases hReadable with hMinus | hZero
            · have hPower : p.exponent = -(p.digits.value : Int) :=
                if_pos hMinus
              simp only [maxExponent] at hLarge
              rcases hOnce with hZero | hNone | ⟨_, hSmall⟩
              · exact hZero
              · omega
              · omega
            · exact hZero
          rw [← hRead.1, hZero]
          exact signed_zero negative _
  · rcases (map_eq_ok_iff _ _ _).mp hRead with
      ⟨y, hScaled, hPair⟩
    rw [Prod.mk.injEq] at hPair
    rw [← hPair.1]
    exact eq_ofDecimal_of_scaled hFits hOnce hScaled

end Json

end EmojiQuery

------------------------------------------------------------
-- Literals
------------------------------------------------------------

namespace EmojiQuery

/- What follows a literal does not continue it. -/
structure Literal.Ends
    (T : Literal)
    (rest : List UInt8) : Prop where
  stops : Json.Stops rest
  no_power :
    T.power = none →
      ∀ b, rest.head? = some b →
        b ≠ Json.byte 'e' ∧ b ≠ Json.byte 'E'
  no_point :
    T.fraction = none →
      T.power = none →
        ∀ b, rest.head? = some b → b ≠ Json.byte '.'

namespace Json

variable {T : Literal}
variable {negative : Bool}
variable {n : Nat}
variable {exp : Int}
variable {rest s : List UInt8}
variable {x : Binary64}

/- The value of a number, rounded if it is an integer. -/
def Number.toBinary64 :
    Number → Binary64
| .natural n => .ofNat n
| .negative i => .ofInt i
| .real x => x

/- Digits are followed by no further digit. -/
theorem stops_powerChars
    (hEnds : T.Ends rest) :
    Stops (T.powerChars.map byte ++ rest) := by
  apply hEnds.stops.append
  intro c hHead
  rcases T.head?_powerChars hHead with rfl | rfl
  all_goals decide

theorem stops_pointChars
    (hEnds : T.Ends rest) :
    Stops ((T.pointChars ++ T.powerChars).map byte ++ rest) := by
  apply hEnds.stops.append
  intro c hHead
  rcases T.head?_pointChars hHead with rfl | rfl | rfl
  all_goals decide

/- No point follows a literal without a fraction, nor its power. -/
theorem ne_point_of_head?_powerChars
    (hEnds : T.Ends rest)
    (hFraction : T.fraction = none)
    (b : UInt8)
    (hHead : (T.powerChars.map byte ++ rest).head? = some b) :
    b ≠ byte '.' := by
  cases hPower : T.power with
  | none =>
      rw [Literal.powerChars_of_none hPower] at hHead
      exact hEnds.no_point hFraction hPower b hHead
  | some p =>
      rw [Literal.powerChars_of_some hPower] at hHead
      obtain rfl : byte p.mark = b := Option.some.inj hHead
      rcases p.mark_eq with hMark | hMark
      all_goals
        rw [hMark]
        decide

/- A literal that is no integer goes on with a point or a power. -/
theorem any_continuesInteger
    (hReal : T.fraction = none → T.power ≠ none)
    (rest : List UInt8) :
    ((T.pointChars ++ T.powerChars).map byte ++
        rest).head?.any continuesInteger = true := by
  cases hFraction : T.fraction with
  | some ds =>
      rw [Literal.pointChars_of_some hFraction]
      rfl
  | none =>
      rcases Option.ne_none_iff_exists'.mp (hReal hFraction) with
        ⟨p, hPower⟩
      rw [Literal.pointChars_of_none hFraction,
        Literal.powerChars_of_some hPower, List.nil_append,
        List.map_cons, List.cons_append, List.head?_cons,
        Option.any_some]
      rcases p.mark_eq with hMark | hMark
      all_goals
        rw [hMark]
        decide

/- Without a power the digits are scaled as they are. -/
theorem readTail_of_no_power
    (hEnds : T.Ends rest)
    (hPower : T.power = none) :
    readTail negative n exp (T.powerChars.map byte ++ rest) =
      (scaled negative n exp).map (·, rest) := by
  rw [Literal.powerChars_of_none hPower]
  cases rest with
  | nil =>
      rfl
  | cons b rest =>
      have hNone := hEnds.no_power hPower b rfl
      simp [readTail, hNone.1, hNone.2]

/- The letter of a power lets its exponent be read. -/
theorem readTail_of_power
    {p : Literal.Power}
    (hPower : T.power = some p) :
    readTail negative n exp (T.powerChars.map byte ++ rest) =
      readExponent negative n exp
        ((p.sign.chars ++ p.digits.chars).map byte ++ rest) := by
  have hMark :
      (byte p.mark = byte 'e' || byte p.mark = byte 'E') =
        true := by
    rcases p.mark_eq with hCase | hCase
    all_goals
      rw [hCase]
      decide
  rw [Literal.powerChars_of_some hPower, List.map_cons,
    List.cons_append, readTail, if_pos hMark]

/- Behind the digits of a literal its power is read. -/
theorem eq_ofDecimal_of_readTail
    (hEnds : T.Ends rest)
    (hFits : n < UInt64.size)
    (hExp : exp ≤ 0)
    (hOnce :
      Binary64.RoundsOnce n
        (exp + T.power.elim 0 Literal.Power.exponent))
    (hRead :
      readTail negative n exp (T.powerChars.map byte ++ rest) =
        .ok (x, s)) :
    x =
      .ofDecimal negative n
        (exp + T.power.elim 0 Literal.Power.exponent) := by
  cases hPower : T.power with
  | none =>
      rw [hPower, Option.elim_none, Int.add_zero] at hOnce
      rw [readTail_of_no_power hEnds hPower] at hRead
      rcases (map_eq_ok_iff _ _ _).mp hRead with
        ⟨y, hValue, hPair⟩
      rw [Prod.mk.injEq] at hPair
      rw [← hPair.1, Option.elim_none, Int.add_zero]
      exact eq_ofDecimal_of_scaled hFits hOnce hValue
  | some p =>
      rw [hPower] at hOnce
      rw [readTail_of_power hPower] at hRead
      exact eq_ofDecimal_of_readExponent p hEnds.stops hFits hExp
        hOnce hRead

/- Without a point there is no fraction. -/
theorem readReal_of_head
    (hHead : ∀ b, s.head? = some b → b ≠ byte '.') :
    readReal negative n exp s = readTail negative n exp s := by
  cases s with
  | nil =>
      rfl
  | cons b s =>
      rw [readReal, if_neg (hHead b rfl)]

/- A fraction extends the digits, and moves the point. -/
theorem readFraction_append
    (ds : Digits)
    (hStop : Stops s)
    (hFits : Digits.extend n ds.chars < UInt64.size) :
    readFraction negative n exp (ds.chars.map byte ++ s) =
      readTail negative (Digits.extend n ds.chars)
        (exp - ds.chars.length) s := by
  have hTake :=
    takeDigits_append ds.isDigit_of_mem hStop hFits 0
  have hDrop : dropDigits s = s := by
    have hNone : ∀ c ∈ ([] : List Char), c.isDigit = true := by
      simp
    exact (takeWhile_dropWhile_digits hNone hStop).2
  rcases ds.exists_eq_cons with ⟨c, cs, hChars, hDigit⟩
  have hBytes :
      ds.chars.map byte ++ s = byte c :: (cs.map byte ++ s) := by
    rw [hChars, List.map_cons, List.cons_append]
  rw [hBytes, Nat.zero_add] at hTake
  rw [hBytes, readFraction, if_pos (isDigit_byte hDigit), hTake]
  simp only [hDrop]

/- Behind the whole digits a fraction is read, if there is one. -/
theorem readReal_pointChars
    (hEnds : T.Ends rest)
    (hFits : T.digits < UInt64.size) :
    readReal negative T.whole.value 0
        ((T.pointChars ++ T.powerChars).map byte ++ rest) =
      readTail negative T.digits (-(T.places.length : Int))
        (T.powerChars.map byte ++ rest) := by
  cases hFraction : T.fraction with
  | none =>
      rw [Literal.pointChars_of_none hFraction, List.nil_append,
        readReal_of_head
          (ne_point_of_head?_powerChars hEnds hFraction),
        Literal.digits, Literal.places_of_none hFraction,
        List.append_nil]
      rfl
  | some ds =>
      have hPlaces := Literal.places_of_some hFraction
      have hDigits :
          T.digits = Digits.extend T.whole.value ds.chars := by
        rw [Literal.digits, hPlaces, Digits.value,
          Digits.extend_valueOf]
      rw [hDigits] at hFits
      rw [Literal.pointChars_of_some hFraction, List.cons_append,
        List.map_cons, List.cons_append, readReal, if_pos rfl,
        List.map_append, List.append_assoc,
        readFraction_append ds (stops_powerChars hEnds) hFits,
        hDigits, hPlaces, Int.zero_sub]

/- The digits and the power of a literal are read as its value. -/
theorem eq_nearest_of_readReal
    (hEnds : T.Ends rest)
    (hFits : T.digits < UInt64.size)
    (hOnce : Binary64.RoundsOnce T.digits T.exponent)
    (hRead :
      readReal T.negative T.whole.value 0
          ((T.pointChars ++ T.powerChars).map byte ++ rest) =
        .ok (x, s)) :
    x = T.nearest := by
  have hExponent :
      T.exponent =
        -(T.places.length : Int) +
          T.power.elim 0 Literal.Power.exponent := by
    unfold Literal.exponent
    omega
  have hPlaces : -(T.places.length : Int) ≤ 0 := by
    omega
  rw [readReal_pointChars hEnds hFits] at hRead
  rw [hExponent] at hOnce
  rw [Literal.nearest, hExponent]
  exact eq_ofDecimal_of_readTail hEnds hFits hPlaces hOnce hRead

/- An integer is rounded like the decimal number that it is. -/
theorem toBinary64_integer
    (negative : Bool)
    (n : Nat) :
    (integer negative n).toBinary64 = .ofDecimal negative n 0 := by
  unfold integer
  cases negative with
  | false =>
      exact (Binary64.ofDecimal_zero_exponent n).symm
  | true =>
      split
      · next hFalse =>
          cases hFalse
      · split
        · rw [← Binary64.neg_ofDecimal,
            Binary64.ofDecimal_zero_exponent]
          rfl
        · next hNonzero =>
            have hNegative : -(n : Int) < 0 := by
              simp at hNonzero
              omega
            rw [Number.toBinary64, Binary64.ofInt,
              decide_eq_true hNegative, Binary64.ofDecimal,
              Binary64.decimalMagnitude_of_small n (by decide),
              Int.natAbs_neg, Int.natAbs_natCast]
            simp

/- A literal is an integer if neither a point nor a power follows. -/
theorem eq_nearest_of_readInteger
    (hEnds : T.Ends rest)
    (hFits : T.digits < UInt64.size)
    (hOnce : Binary64.RoundsOnce T.digits T.exponent)
    {v : Number}
    (hRead :
      readInteger T.negative T.whole.value
          ((T.pointChars ++ T.powerChars).map byte ++ rest) =
        .ok (v, s)) :
    v.toBinary64 = T.nearest := by
  unfold readInteger at hRead
  split at hRead
  · rcases (map_eq_ok_iff _ _ _).mp hRead with
      ⟨⟨x, s'⟩, hReal, hPair⟩
    rw [Prod.mk.injEq] at hPair
    rw [← hPair.1]
    exact eq_nearest_of_readReal hEnds hFits hOnce hReal
  · next hInteger =>
      rw [Except.ok.injEq, Prod.mk.injEq] at hRead
      have hWhole : T.fraction = none ∧ T.power = none := by
        by_contra hReal
        apply hInteger
        apply any_continuesInteger
        intro hFraction hPower
        exact hReal ⟨hFraction, hPower⟩
      rcases hWhole with ⟨hFraction, hPower⟩
      have hPlaces := Literal.places_of_none hFraction
      have hDigits : T.digits = T.whole.value := by
        rw [Literal.digits, hPlaces, List.append_nil]
        rfl
      have hExponent : T.exponent = 0 := by
        rw [Literal.exponent, hPlaces, hPower]
        rfl
      rw [← hRead.1, toBinary64_integer, Literal.nearest, hDigits,
        hExponent]

/- The whole digits of a literal are its integer part. -/
theorem readNumber_append
    (hStop : Stops s)
    (hFits : T.whole.value < UInt64.size) :
    readNumber negative (T.whole.chars.map byte ++ s) =
      readInteger negative T.whole.value s := by
  have hHead := stops_iff.mp hStop
  rcases T.whole.exists_eq_cons with ⟨c, cs, hChars, hDigit⟩
  rcases Decidable.em (c = '0') with rfl | hNotZero
  · have hAlone : T.whole.chars = ['0'] := by
      apply T.eq_zero_of_head
      rw [hChars, List.head?_cons]
    have hValue : T.whole.value = 0 := by
      rw [Digits.value, hAlone]
      rfl
    rw [hAlone, hValue, List.map_cons, List.map_nil,
      List.cons_append, List.nil_append, readNumber, if_pos rfl,
      if_neg hHead]
  · have hTake :=
      takeDigits_append T.whole.isDigit_of_mem hStop hFits 0
    have hByte : byte c ≠ byte '0' := by
      intro hEqual
      have hBound := (Digits.toNat_of_isDigit hDigit).2
      exact hNotZero (byte_inj (by omega) (by decide) hEqual)
    rw [hChars, List.map_cons, List.cons_append] at hTake ⊢
    rw [readNumber, if_neg hByte, if_pos (isDigit_byte hDigit),
      hTake]
    simp only [if_neg hHead]
    rw [← hChars]
    rfl

/- The sign of a literal is read first. -/
theorem number_chars
    (hEnds : T.Ends rest)
    (hFits : T.digits < UInt64.size) :
    number (T.chars.map byte ++ rest) =
      readInteger T.negative T.whole.value
        ((T.pointChars ++ T.powerChars).map byte ++ rest) := by
  have hWhole : T.whole.value < UInt64.size := by
    apply Nat.lt_of_le_of_lt (Digits.le_extend _ T.places)
    rw [Digits.value, Digits.extend_valueOf]
    exact hFits
  rw [← readNumber_append (stops_pointChars hEnds) hWhole,
    ← List.append_assoc, ← List.map_append]
  change _ = readNumber T.negative (T.body.map byte ++ rest)
  unfold Literal.chars
  cases T.negative with
  | true =>
      rfl
  | false =>
      rcases T.exists_body_eq_cons with ⟨c, cs, hBody, hDigit⟩
      have hMinus : byte c ≠ byte '-' :=
        byte_ne_of_isDigit hDigit (by decide) (by decide)
      rw [if_neg Bool.false_ne_true, hBody, List.map_cons,
        List.cons_append, number, if_neg hMinus]

/- A literal begins with a byte that starts a number. -/
theorem exists_chars_eq_cons
    (T : Literal) :
    ∃ c cs, T.chars = c :: cs ∧
      startsNumber (byte c) = true ∧
        isBlank (byte c) = false := by
  unfold Literal.chars
  cases T.negative with
  | true =>
      exact ⟨'-', T.body, rfl, by decide, by decide⟩
  | false =>
      rcases T.exists_body_eq_cons with ⟨c, cs, hBody, hDigit⟩
      refine ⟨c, cs, hBody, ?_, ?_⟩
      · rw [startsNumber, isDigit_byte hDigit, Bool.or_true]
      · exact isBlank_byte hDigit

/- A number is read as its value. -/
theorem binary64_of_startsNumber
    {b : UInt8}
    (hBlank : isBlank b = false)
    (hStarts : startsNumber b = true) :
    binary64 (b :: s) =
      (number (b :: s)).map fun (v, rest) =>
        (v.toBinary64, rest) := by
  have hNumber : anyNumber (b :: s) = number (b :: s) := by
    simp [anyNumber, dispatch, token, skipBlanks, hBlank, hStarts,
      bind, StateT.bind, Except.bind]
  unfold binary64
  simp only [bind, StateT.bind, hNumber]
  cases number (b :: s) with
  | error e =>
      rfl
  | ok r =>
      rcases r with ⟨v, rest⟩
      cases v with
      | natural n =>
          rfl
      | negative i =>
          rfl
      | real x =>
          rfl

/- Blanks before a number do not matter. -/
theorem binary64_append_of_blanks
    {blanks : List UInt8}
    (hBlanks : ∀ b ∈ blanks, isBlank b = true) :
    binary64 (blanks ++ s) = binary64 s := by
  have hSkip : skipBlanks (blanks ++ s) = skipBlanks s := by
    induction blanks with
    | nil =>
        rfl
    | cons b blanks ih =>
        rw [List.forall_mem_cons] at hBlanks
        rw [List.cons_append, skipBlanks, if_pos hBlanks.1,
          ih hBlanks.2]
  have hToken : token (blanks ++ s) = token s := by
    simp only [token, hSkip]
  simp only [binary64, anyNumber, dispatch, bind, StateT.bind,
    hToken]

/-
  A literal whose digits fit, and are scaled with at most one
  rounding, is read as the nearest number to it.
-/
theorem eq_nearest_of_binary64
    (hEnds : T.Ends rest)
    (hFits : T.digits < UInt64.size)
    (hOnce : Binary64.RoundsOnce T.digits T.exponent)
    (hRead : binary64 (T.chars.map byte ++ rest) = .ok (x, s)) :
    x = T.nearest := by
  rcases exists_chars_eq_cons T with
    ⟨c, cs, hChars, hStarts, hBlank⟩
  have hNumber := number_chars hEnds hFits
  rw [hChars, List.map_cons, List.cons_append] at hNumber hRead
  rw [binary64_of_startsNumber hBlank hStarts, hNumber] at hRead
  rcases (map_eq_ok_iff _ _ _).mp hRead with
    ⟨⟨v, s'⟩, hInteger, hPair⟩
  rw [Prod.mk.injEq] at hPair
  rw [← hPair.1]
  exact eq_nearest_of_readInteger hEnds hFits hOnce hInteger

end Json

end EmojiQuery

------------------------------------------------------------
-- Texts
------------------------------------------------------------

namespace EmojiQuery

/- Characters of ASCII are spelled by one byte each. -/
theorem utf8_ofList_of_ascii
    {cs : List Char}
    (hAscii : ∀ c ∈ cs, c.toNat < 128) :
    utf8 (String.ofList cs) = cs.map Json.byte := by
  rw [utf8, String.toList_ofList]
  induction cs with
  | nil =>
      rfl
  | cons c cs ih =>
      rw [List.forall_mem_cons] at hAscii
      have hSize : c.utf8Size = 1 := by
        rw [Char.utf8Size_eq_one_iff, UInt32.le_iff_toNat_le]
        exact Nat.le_of_lt_succ hAscii.1
      have hOne : String.utf8EncodeChar c = [Json.byte c] :=
        String.utf8EncodeChar_eq_singleton hSize
      rw [List.flatMap_cons, hOne, ih hAscii.2]
      rfl

namespace Literal

variable {T : Literal}
variable {x : Binary64}

/-
  The literal is read as a number: blanks may stand before it,
  and what follows does not continue it.
-/
def Loads
    (T : Literal)
    (x : Binary64) : Prop :=
  ∃ blanks rest,
    (∀ b ∈ blanks, Json.isBlank b = true) ∧ T.Ends rest ∧
      Json.binary64 (blanks ++ (utf8 T.text ++ rest)) =
        .ok (x, rest)

/- The digits of a literal fit, and are scaled with one rounding. -/
def RoundsOnce
    (T : Literal) : Prop :=
  T.digits < UInt64.size ∧
    Binary64.RoundsOnce T.digits T.exponent

/- Nothing follows a literal at the end of a text. -/
theorem ends_nil
    (T : Literal) :
    T.Ends [] := by
  constructor
  all_goals simp [Json.Stops]

theorem utf8_text
    (T : Literal) :
    utf8 T.text = T.chars.map Json.byte := by
  apply utf8_ofList_of_ascii
  intro c hMember
  have hBounds :=
    toNat_of_isLiteralChar (T.isLiteralChar_of_mem hMember)
  omega

/- A literal that rounds once is read as the nearest number to it. -/
theorem Loads.eq_nearest
    (hLoads : T.Loads x)
    (hOnce : T.RoundsOnce) :
    x = T.nearest := by
  rcases hLoads with ⟨blanks, rest, hBlanks, hEnds, hRead⟩
  rw [Json.binary64_append_of_blanks hBlanks, T.utf8_text]
    at hRead
  exact Json.eq_nearest_of_binary64 hEnds hOnce.1 hOnce.2 hRead

end Literal

end EmojiQuery
