import EmojiQuery.Proofs.Json.Literal
import EmojiQuery.Proofs.Json.Real
import EmojiQuery.Proofs.Number.Drift
import EmojiQuery.Proofs.Text.Utf8

/-
  Numbers and strings that were written as JSON are read back,
  whatever follows that may follow a value. Real numbers are
  read as what scaling makes of their texts.

  Main declarations:
    * `Json.Writes`
    * `Json.writes_natural`
    * `Json.writes_int64`
    * `Json.reread`
    * `Json.writes_binary64`
    * `Json.writes_text`
-/

------------------------------------------------------------
-- Written Values
------------------------------------------------------------

namespace EmojiQuery

namespace Json

variable {α β : Type}
variable {read : Reader α}
variable {cs : List Char}
variable {a : α}
variable {s t rest : List UInt8}

/- What stands after a value ends it. -/
def Closes
    (rest : List UInt8) : Prop :=
  ∀ b, rest.head? = some b →
    b = byte ',' ∨ b = byte ']' ∨ b = byte '\x7d'

/- Whether a byte starts a value other than a word. -/
def startsValue
    (b : UInt8) : Bool :=
  startsNumber b || b = byte '"' || b = byte '[' ||
    b = byte '\x7b'

/-
  A text writes a value for a reader, which takes the text and
  nothing more from the front of a document.
-/
structure Writes
    (read : Reader α)
    (cs : List Char)
    (a : α) : Prop where
  starts :
    ∃ b t, utf8 (String.ofList cs) = b :: t ∧
      startsValue b = true
  read_append :
    ∀ rest, Closes rest →
      read (utf8 (String.ofList cs) ++ rest) = .ok (a, rest)

/- No blank starts a value, nor does the end of a list or a word. -/
theorem ne_of_startsValue
    {b : UInt8}
    (hStarts : startsValue b = true) :
    isBlank b = false ∧ b ≠ byte ']' ∧ b ≠ byte 'n' := by
  have hAll :
      ∀ n ∈ List.range 256,
        startsValue (UInt8.ofNat n) = true →
          isBlank (UInt8.ofNat n) = false ∧
            UInt8.ofNat n ≠ byte ']' ∧
              UInt8.ofNat n ≠ byte 'n' := by
    decide +kernel
  have hByte := hAll b.toNat (List.mem_range.mpr b.toNat_lt)
  rw [UInt8.ofNat_toNat] at hByte
  exact hByte hStarts

theorem closes_nil :
    Closes [] := by
  intro b hHead
  cases hHead

theorem closes_cons
    {b : UInt8}
    (hByte : b = byte ',' ∨ b = byte ']' ∨ b = byte '\x7d')
    (s : List UInt8) :
    Closes (b :: s) := by
  intro c hHead
  obtain rfl := Option.some.inj hHead
  exact hByte

/- A reader that succeeds hands over to the next. -/
theorem andThen_of_ok
    (hRead : read s = .ok (a, t))
    (next : α → Reader β) :
    (read >>= next) s = next a t := by
  simp only [bind, StateT.bind, hRead, Except.bind]

theorem map_of_ok
    (hRead : read s = .ok (a, t))
    (f : α → β) :
    (f <$> read) s = .ok (f a, t) :=
  (map_eq_ok_iff_read _ _ _).mpr ⟨a, hRead, rfl⟩

/- Nothing is skipped before a byte that is no blank. -/
theorem token_cons
    {b : UInt8}
    (hBlank : isBlank b = false)
    (s : List UInt8) :
    token (b :: s) = .ok (some b, b :: s) := by
  simp [token, skipBlanks, hBlank]

theorem advance_cons
    (b : UInt8)
    (s : List UInt8) :
    advance (b :: s) = .ok ((), s) :=
  rfl

/- The first byte of a value chooses its reader. -/
theorem dispatch_cons
    {choose : UInt8 → Option (Reader α)}
    {b : UInt8}
    (hBlank : isBlank b = false)
    (hReader : choose b = some read)
    (s : List UInt8) :
    dispatch choose (b :: s) = read (b :: s) := by
  rw [dispatch, andThen_of_ok (token_cons hBlank s)]
  simp only [hReader, Option.getD_some]

theorem Writes.map
    (hWrites : Writes read cs a)
    (f : α → β) :
    Writes (f <$> read) cs (f a) :=
  ⟨hWrites.starts, fun rest hCloses =>
    map_of_ok (hWrites.read_append rest hCloses) f⟩

theorem Writes.andThen_pure
    (hWrites : Writes read cs a)
    (f : α → β) :
    Writes (read >>= fun a => pure (f a)) cs (f a) := by
  refine ⟨hWrites.starts, ?_⟩
  intro rest hCloses
  rw [andThen_of_ok (hWrites.read_append rest hCloses)]
  rfl

/- No word for the absence of a value is taken for a value. -/
theorem Writes.nullable
    (hWrites : Writes read cs a) :
    Writes (nullable read) cs (some a) := by
  refine ⟨hWrites.starts, ?_⟩
  intro rest hCloses
  have hRead := hWrites.read_append rest hCloses
  rcases hWrites.starts with ⟨b, t, hText, hStarts⟩
  rcases ne_of_startsValue hStarts with ⟨hBlank, _, hWord⟩
  have hOther : ¬ some b = some (byte 'n') := by
    intro hSame
    exact hWord (Option.some.inj hSame)
  rw [hText, List.cons_append] at hRead ⊢
  rw [Json.nullable, andThen_of_ok (token_cons hBlank _),
    if_neg hOther]
  exact map_of_ok hRead some

/- A value that was written is the whole of a document. -/
theorem Writes.whole
    (hWrites : Writes read cs a) :
    whole read (utf8 (String.ofList cs)) = .ok a := by
  have hRead := hWrites.read_append [] closes_nil
  rw [List.append_nil] at hRead
  rw [Json.whole, StateT.run, hRead]
  rfl

end Json

end EmojiQuery

------------------------------------------------------------
-- Integers
------------------------------------------------------------

namespace EmojiQuery

namespace Json

variable {T : Literal}
variable {n : Nat}
variable {rest : List UInt8}

/- What ends a value does not continue a number. -/
theorem Closes.ends
    (hCloses : Closes rest)
    (T : Literal) :
    T.Ends rest := by
  have hHead :
      ∀ b, rest.head? = some b →
        isDigit b = false ∧ b ≠ byte 'e' ∧ b ≠ byte 'E' ∧
          b ≠ byte '.' := by
    intro b hByte
    rcases hCloses b hByte with rfl | rfl | rfl
    all_goals decide
  constructor
  · intro b hByte
    exact (hHead b hByte).1
  · intro _ b hByte
    exact ⟨(hHead b hByte).2.1, (hHead b hByte).2.2.1⟩
  · intro _ _ b hByte
    exact (hHead b hByte).2.2.2

/- Whoever reads a literal finds a number at its front. -/
theorem exists_startsValue
    (T : Literal) :
    ∃ b t, utf8 (String.ofList T.chars) = b :: t ∧
      startsValue b = true := by
  rcases exists_chars_eq_cons T with ⟨c, cs, hChars, hStarts, _⟩
  have hText := T.utf8_text
  rw [Literal.text, hChars, List.map_cons] at hText
  refine ⟨byte c, cs.map byte, ?_, ?_⟩
  · rw [hChars, hText]
  · rw [startsValue, hStarts]
    rfl

/- The literal of an integer. -/
def integerLiteral
    (negative : Bool)
    (n : Nat) : Literal where
  negative := negative
  whole := Digits.ofNat n
  fraction := none
  power := none
  eq_zero_of_head := by
    intro hHead
    rcases Decidable.em (n = 0) with rfl | hNonzero
    · change Numeral.write 10 0 = ['0']
      rw [Numeral.write]
      rfl
    · exact absurd hHead (Digits.head?_ofNat hNonzero)

theorem chars_integerLiteral
    (negative : Bool)
    (n : Nat) :
    (integerLiteral negative n).chars =
      if negative then '-' :: writeNat n else writeNat n := by
  have hBody : (integerLiteral negative n).body = writeNat n :=
    List.append_nil _
  rw [Literal.chars, hBody]
  rfl

/- An integer of 64 bits is read with all of its digits. -/
theorem anyNumber_integerLiteral
    (negative : Bool)
    (hFits : n < UInt64.size)
    (hCloses : Closes rest) :
    anyNumber
        (utf8 (String.ofList (integerLiteral negative n).chars) ++
          rest) =
      .ok (integer negative n, rest) := by
  have hEnds := hCloses.ends (integerLiteral negative n)
  have hValue : (Digits.ofNat n).value = n :=
    Digits.value_ofNat n
  have hDigits : (integerLiteral negative n).digits = n := by
    rw [Literal.digits, Literal.places_of_none rfl,
      List.append_nil]
    exact hValue
  have hNumber :=
    number_chars hEnds (lt_of_eq_of_lt hDigits hFits)
  have hInteger :
      readInteger negative n rest =
        .ok (integer negative n, rest) := by
    have hNone : ¬ rest.head?.any continuesInteger = true := by
      intro hAny
      rcases (Option.any_eq_true _ _).mp hAny with ⟨b, hHead, hMark⟩
      rcases hCloses b hHead with rfl | rfl | rfl
      all_goals exact absurd hMark (by decide)
    rw [readInteger, if_neg hNone]
  change _ = readInteger negative (Digits.ofNat n).value rest
    at hNumber
  rw [hValue, hInteger] at hNumber
  have hText := (integerLiteral negative n).utf8_text
  rcases exists_chars_eq_cons (integerLiteral negative n) with
    ⟨c, cs, hChars, hStarts, hBlank⟩
  rw [Literal.text] at hText
  rw [hText]
  rw [hChars, List.map_cons, List.cons_append] at hNumber ⊢
  rw [anyNumber, dispatch_cons hBlank (if_pos hStarts), hNumber]

/- Natural numbers are read below any bound that they keep. -/
theorem writes_natural
    {bound : Nat}
    (hBound : n < bound)
    (hFits : n < UInt64.size) :
    Writes (naturalBelow bound) (writeNat n) n := by
  have hChars : (integerLiteral false n).chars = writeNat n :=
    chars_integerLiteral false n
  rw [← hChars]
  refine ⟨exists_startsValue _, ?_⟩
  intro rest hCloses
  rw [naturalBelow,
    andThen_of_ok (anyNumber_integerLiteral false hFits hCloses)]
  simp only [integer, Bool.not_false, if_true, if_pos hBound]
  rfl

/- Signed numbers of 64 bits are read. -/
theorem writes_int64
    (l : Level) :
    Writes int64 l.text l := by
  have hLower := l.minValue_le_toInt
  have hUpper := l.toInt_le
  have hLeast : Int64.minValue.toInt = -(2 ^ 63) := by
    decide
  have hGreatest : Int64.maxValue.toInt = 2 ^ 63 - 1 := by
    decide
  have hBack := Numeral.int64?_toInt l
  unfold Level.text
  cases hNumber : l.toInt with
  | ofNat n =>
      rw [hNumber, Int.ofNat_eq_natCast] at hUpper hBack
      have hFits : n < UInt64.size := by
        simp only [UInt64.size]
        omega
      have hChars :
          (integerLiteral false n).chars = Numeral.write 10 n :=
        chars_integerLiteral false n
      rw [Numeral.writeInt, ← hChars]
      refine ⟨exists_startsValue _, ?_⟩
      intro rest hCloses
      rw [int64,
        andThen_of_ok (anyNumber_integerLiteral false hFits hCloses)]
      have hInteger : integer false n = .natural n :=
        rfl
      simp only [hInteger, hBack]
      rfl
  | negSucc n =>
      rw [hNumber] at hLower hBack
      have hSmall : n < 2 ^ 63 := by
        omega
      have hFits : n + 1 < UInt64.size := by
        simp only [UInt64.size]
        omega
      have hChars :
          (integerLiteral true (n + 1)).chars =
            '-' :: Numeral.write 10 (n + 1) :=
        chars_integerLiteral true (n + 1)
      rw [Numeral.writeInt, ← hChars]
      refine ⟨exists_startsValue _, ?_⟩
      intro rest hCloses
      rw [int64,
        andThen_of_ok (anyNumber_integerLiteral true hFits hCloses)]
      have hInteger :
          integer true (n + 1) = .negative (Int.negSucc n) := by
        have hRange : ¬ 0x8000000000000000 < n + 1 := by
          omega
        simp only [integer, Bool.not_true, Bool.false_eq_true,
          if_false, Nat.succ_ne_zero, decide_false, Bool.false_or,
          decide_eq_true_eq, if_neg hRange]
        rfl
      simp only [hInteger, hBack]
      rfl

end Json

end EmojiQuery

------------------------------------------------------------
-- Real Numbers
------------------------------------------------------------

namespace EmojiQuery

namespace Json

variable {T : Literal}
variable {d : Decimal}
variable {x : Binary64}
variable {rest : List UInt8}

/- A power that can be read is added to the exponent. -/
theorem readTail_powerChars
    (hEnds : T.Ends rest)
    (hPower :
      ∀ p, T.power = some p → p.digits.value ≤ maxExponent)
    (negative : Bool)
    (n : Nat)
    (exp : Int) :
    readTail negative n exp (T.powerChars.map byte ++ rest) =
      (scaled negative n
        (exp + T.power.elim 0 Literal.Power.exponent)).map
          (·, rest) := by
  cases hCase : T.power with
  | none =>
      rw [readTail_of_no_power hEnds hCase, Option.elim_none,
        Int.add_zero]
  | some p =>
      rw [readTail_of_power hCase,
        readExponent_chars p hEnds.stops,
        if_neg (Nat.not_lt.mpr (hPower p hCase)),
        Option.elim_some]

/- The text of a number is scaled. -/
theorem binary64_of_isTextOf
    (hText : T.IsTextOf x)
    (hEnds : T.Ends rest) :
    binary64 (T.chars.map byte ++ rest) =
      (scaled T.negative T.digits T.exponent).map (·, rest) := by
  have hExponent :
      -(T.places.length : Int) +
          T.power.elim 0 Literal.Power.exponent =
        T.exponent := by
    unfold Literal.exponent
    omega
  have hNumber := number_chars hEnds hText.digits_lt
  rw [readInteger,
    if_pos (any_continuesInteger hText.is_real rest),
    readReal_pointChars hEnds hText.digits_lt,
    readTail_powerChars hEnds hText.power_le, hExponent]
    at hNumber
  rcases exists_chars_eq_cons T with
    ⟨c, cs, hChars, hStarts, hBlank⟩
  rw [hChars, List.map_cons, List.cons_append] at hNumber ⊢
  rw [binary64_of_startsNumber hBlank hStarts, hNumber]
  cases scaled T.negative T.digits T.exponent with
  | error e =>
      rfl
  | ok y =>
      rfl

/- What is read from the text of a number. -/
def reread
    (x : Binary64) : Binary64 :=
  match whole binary64 (utf8 (String.ofList (writeReal x))) with
  | .ok y => y
  | .error _ => x

/- It is what scaling makes of the digits in the text. -/
theorem reread_of_isTextOf
    (hText : T.IsTextOf x) :
    ∃ y, Binary64.scale? T.digits T.exponent = some y ∧
      reread x = signed T.negative y ∧
        ∀ rest, T.Ends rest →
          binary64 (utf8 T.text ++ rest) =
            .ok (signed T.negative y, rest) := by
  rcases hText.scales with ⟨y, hScale⟩
  have hRead :
      ∀ rest, T.Ends rest →
        binary64 (utf8 T.text ++ rest) =
          .ok (signed T.negative y, rest) := by
    intro rest hEnds
    rw [T.utf8_text, binary64_of_isTextOf hText hEnds, scaled,
      hScale]
    rfl
  refine ⟨y, hScale, ?_, hRead⟩
  have hAlone := hRead [] T.ends_nil
  rw [List.append_nil, Literal.text, hText.chars_eq] at hAlone
  rw [reread, whole, StateT.run, hAlone]
  rfl

/- So whatever has this text loads as the number read from it. -/
theorem loads_reread
    {S : Literal}
    (hText : S.IsTextOf x)
    (hChars : T.chars = S.chars) :
    T.Loads (reread x) := by
  rcases reread_of_isTextOf hText with ⟨y, _, hReread, hRead⟩
  have hAlone := hRead [] S.ends_nil
  rw [Literal.text, ← hChars] at hAlone
  rw [hReread]
  exact ⟨[], [], by simp, T.ends_nil, hAlone⟩

/- A text that is scaled with one rounding is read as its number. -/
theorem reread_eq_self
    (hFinite : x.isFinite = true)
    (hChars : T.chars = writeReal x)
    (hOnce : T.RoundsOnce) :
    reread x = x := by
  rcases exists_literal_of_writeReal hFinite with ⟨S, hText⟩
  have hSame : T.chars = S.chars := by
    rw [hChars, hText.chars_eq]
  have hNearest : T.nearest = x := by
    have hBound := T.readRealBound?_chars
    rw [hSame, S.readRealBound?_chars, hText.nearest_eq] at hBound
    exact (Option.some.inj hBound).symm
  rw [(loads_reread hText hSame).eq_nearest hOnce, hNearest]

/- A sign is put before a number that has none. -/
theorem signed_parts
    (negative : Bool)
    {y : Binary64}
    (hNonneg : y.isNegative = false) :
    (signed negative y).isNegative = negative ∧
      (signed negative y).magnitude = y.magnitude := by
  have hSmall : y.magnitude < Binary64.signUnit :=
    Nat.mod_lt _ (by decide)
  cases negative with
  | false =>
      exact ⟨hNonneg, rfl⟩
  | true =>
      rw [signed, if_pos rfl, Binary64.neg, hNonneg]
      exact ⟨Binary64.isNegative_ofMagnitude true hSmall,
        Binary64.magnitude_ofMagnitude true hSmall⟩

/- The parts of a number are those of the literal that is its text. -/
theorem parts_of_isTextOf
    (hText : T.IsTextOf x) :
    x.isNegative = T.negative ∧
      x.magnitude =
        Binary64.decimalMagnitude T.digits T.exponent := by
  have hSmall :
      Binary64.decimalMagnitude T.digits T.exponent <
        Binary64.signUnit :=
    Binary64.lt_signUnit_of_le_infinite
      (Binary64.decimalMagnitude_le _ _)
  rw [← hText.nearest_eq]
  exact ⟨Binary64.isNegative_ofMagnitude T.negative hSmall,
    Binary64.magnitude_ofMagnitude T.negative hSmall⟩

/-
  A number keeps its sign when it is read again, and it is
  within five numbers of what it was.
-/
theorem reread_near
    (hFinite : x.isFinite = true) :
    (reread x).isNegative = x.isNegative ∧
      Binary64.WithinFive (reread x) x.magnitude := by
  rcases exists_literal_of_writeReal hFinite with ⟨T, hText⟩
  rcases parts_of_isTextOf hText with ⟨hSign, hMagnitude⟩
  -- No factor comes near a zero, but a zero is read exactly.
  rcases Nat.eq_zero_or_pos T.digits with hZero | hPositive
  · have hOnce : T.RoundsOnce :=
      ⟨hText.digits_lt, .inl hZero⟩
    rw [reread_eq_self hFinite hText.chars_eq hOnce]
    exact ⟨rfl, hFinite, Nat.le_add_right _ _,
      Nat.le_add_right _ _⟩
  · rcases reread_of_isTextOf hText with ⟨y, hScale, hReread, _⟩
    rcases signed_parts T.negative
      (Binary64.isNegative_of_scale? hScale) with
      ⟨hNegative, hSize⟩
    rw [Binary64.decimalMagnitude_of_small _ hText.exponent_le]
      at hMagnitude
    have hRange := hFinite
    rw [Binary64.isFinite, decide_eq_true_eq, hMagnitude] at hRange
    have hWithin := Binary64.withinFive_of_scale? hPositive
      hText.digits_lt hText.exponent_le hScale hRange
    rw [hReread, hSign, hMagnitude]
    refine ⟨hNegative, ?_⟩
    rwa [Binary64.WithinFive, Binary64.isFinite, hSize]

/- Finite numbers are read as what scaling makes of them. -/
theorem writes_binary64
    (hFinite : x.isFinite = true) :
    Writes binary64 (writeReal x) (reread x) := by
  rcases exists_literal_of_writeReal hFinite with ⟨T, hText⟩
  rcases reread_of_isTextOf hText with ⟨y, _, hReread, hRead⟩
  rw [hReread, ← hText.chars_eq]
  exact ⟨exists_startsValue T, fun rest hCloses =>
    hRead rest (hCloses.ends T)⟩

end Json

end EmojiQuery
