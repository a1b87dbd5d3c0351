import EmojiQuery.Proofs.Lists
import EmojiQuery.Proofs.Number.Scaling
import EmojiQuery.Query.Interval

/-
  Number literals as JSON writes them, and the bound of a range
  that is written as one: the nearest number to the literal.

  Main declarations:
    * `Literal`
    * `Literal.exponent`
    * `Literal.nearest`
    * `Literal.readRealBound?_chars`
-/

------------------------------------------------------------
-- Digits
------------------------------------------------------------

namespace EmojiQuery

/- One or more decimal digits. -/
structure Digits where
  chars : List Char
  all_isDigit : chars.all Char.isDigit = true
  ne_nil : chars ≠ []
deriving DecidableEq

namespace Digits

variable {c : Char}

theorem isDigit_of_mem
    (ds : Digits) :
    ∀ c ∈ ds.chars, c.isDigit = true :=
  List.all_eq_true.mp ds.all_isDigit

theorem toNat_of_isDigit
    (hDigit : c.isDigit = true) :
    48 ≤ c.toNat ∧ c.toNat ≤ 57 := by
  simp only [Char.isDigit, Bool.and_eq_true, decide_eq_true_eq,
    UInt32.le_iff_toNat_le] at hDigit
  exact hDigit

/- A digit is admitted in base ten. -/
theorem digitIn?_ten
    (hDigit : c.isDigit = true) :
    Numeral.digitIn? 10 c = some (c.toNat - '0'.toNat) := by
  have hSmall : c.toNat - 48 < 10 := by
    have := toNat_of_isDigit hDigit
    omega
  simp [Numeral.digitIn?, Numeral.digitValue?, hDigit, hSmall]

/- Continue a number with more digits. -/
def extend
    (n : Nat)
    (ds : List Char) : Nat :=
  ds.foldl (fun n c => 10 * n + (c.toNat - '0'.toNat)) n

theorem extend_valueOf
    (ds es : List Char) :
    extend (Decimal.valueOf ds) es =
      Decimal.valueOf (ds ++ es) :=
  List.foldl_append.symm

/- More digits make no number less. -/
theorem le_extend
    (n : Nat)
    (ds : List Char) :
    n ≤ extend n ds := by
  induction ds generalizing n with
  | nil =>
      exact Nat.le_refl n
  | cons c ds ih =>
      have hStep : n ≤ 10 * n + (c.toNat - '0'.toNat) := by
        omega
      exact Nat.le_trans hStep (ih _)

theorem readFrom?_eq_extend
    {ds : List Char}
    (hDigits : ∀ c ∈ ds, c.isDigit = true)
    (n : Nat) :
    Numeral.readFrom? 10 n ds = some (extend n ds) := by
  induction ds generalizing n with
  | nil =>
      rfl
  | cons c ds ih =>
      rw [List.forall_mem_cons] at hDigits
      rw [Numeral.readFrom?, digitIn?_ten hDigits.1,
        Option.bind_some, ih hDigits.2]
      rfl

/- The number that the digits write. -/
def value
    (ds : Digits) : Nat :=
  Decimal.valueOf ds.chars

/- Digits are read as their number. -/
theorem read?_chars
    (ds : Digits) :
    Numeral.read? 10 ds.chars = some ds.value := by
  rw [Numeral.read?, if_neg (by simpa using ds.ne_nil),
    readFrom?_eq_extend ds.isDigit_of_mem]
  rfl

/- The first of the digits. -/
theorem exists_eq_cons
    (ds : Digits) :
    ∃ c cs, ds.chars = c :: cs ∧ c.isDigit = true := by
  rcases List.exists_cons_of_ne_nil ds.ne_nil with ⟨c, cs, hChars⟩
  refine ⟨c, cs, hChars, ds.isDigit_of_mem c ?_⟩
  rw [hChars]
  exact List.mem_cons_self

/- Digits are taken as far as they reach. -/
theorem span_append
    (ds : Digits)
    {s : List Char}
    (hStop : ∀ c, s.head? = some c → c.isDigit = false) :
    (ds.chars ++ s).span Char.isDigit = (ds.chars, s) := by
  have hRun :=
    (takeWhile_dropWhile_iff Char.isDigit (ds.chars ++ s) _ _).mpr
      ⟨rfl, ds.isDigit_of_mem, hStop⟩
  rw [List.span_eq_takeWhile_dropWhile, hRun.1, hRun.2]

end Digits

end EmojiQuery

------------------------------------------------------------
-- Literals
------------------------------------------------------------

namespace EmojiQuery

/- What may stand before the digits of a power. -/
inductive Literal.Sign where
| none
| plus
| minus
deriving DecidableEq

/- A power of ten: a letter of either case, a sign and digits. -/
structure Literal.Power where
  upper : Bool
  sign : Literal.Sign
  digits : Digits
deriving DecidableEq

/-
  A number literal: perhaps a minus, digits without a needless
  zero in front, and perhaps a fraction and a power of ten.
-/
structure Literal where
  negative : Bool
  whole : Digits
  fraction : Option Digits
  power : Option Literal.Power
  eq_zero_of_head :
    whole.chars.head? = some '0' → whole.chars = ['0']
deriving DecidableEq

namespace Literal

------------------------------------------------------------
-- Texts of literals
------------------------------------------------------------

def Sign.chars :
    Sign → List Char
| .none => []
| .plus => ['+']
| .minus => ['-']

/- The letter that announces a power. -/
def Power.mark
    (p : Power) : Char :=
  if p.upper then 'E' else 'e'

def Power.chars
    (p : Power) : List Char :=
  p.mark :: (p.sign.chars ++ p.digits.chars)

/- The digits after the point. -/
def places
    (T : Literal) : List Char :=
  T.fraction.elim [] Digits.chars

/- The point and the digits after it. -/
def pointChars
    (T : Literal) : List Char :=
  T.fraction.elim [] fun ds => '.' :: ds.chars

def powerChars
    (T : Literal) : List Char :=
  T.power.elim [] Power.chars

/- The text of the literal after its sign. -/
def body
    (T : Literal) : List Char :=
  T.whole.chars ++ (T.pointChars ++ T.powerChars)

def chars
    (T : Literal) : List Char :=
  if T.negative then '-' :: T.body else T.body

/- The text of the literal. -/
def text
    (T : Literal) : String :=
  String.ofList T.chars

------------------------------------------------------------
-- Values of literals
------------------------------------------------------------

/- The exponent that is written out. -/
def Power.exponent
    (p : Power) : Int :=
  if p.sign = .minus then -(p.digits.value : Int)
  else p.digits.value

/- All digits of the literal as one integer, without the point. -/
def digits
    (T : Literal) : Nat :=
  Decimal.valueOf (T.whole.chars ++ T.places)

/- The power of ten that the digits are to be multiplied with. -/
def exponent
    (T : Literal) : Int :=
  T.power.elim 0 Power.exponent - T.places.length

/- The double precision number nearest to the literal. -/
def nearest
    (T : Literal) : Binary64 :=
  .ofDecimal T.negative T.digits T.exponent

------------------------------------------------------------
-- Parts of literals
------------------------------------------------------------

theorem Power.mark_eq
    (p : Power) :
    p.mark = 'e' ∨ p.mark = 'E' := by
  unfold Power.mark
  cases p.upper with
  | false =>
      exact .inl rfl
  | true =>
      exact .inr rfl

variable {T : Literal}

theorem places_of_none
    (hNone : T.fraction = none) :
    T.places = [] := by
  rw [places, hNone, Option.elim_none]

theorem places_of_some
    {ds : Digits}
    (hSome : T.fraction = some ds) :
    T.places = ds.chars := by
  rw [places, hSome, Option.elim_some]

theorem pointChars_of_none
    (hNone : T.fraction = none) :
    T.pointChars = [] := by
  rw [pointChars, hNone, Option.elim_none]

theorem pointChars_of_some
    {ds : Digits}
    (hSome : T.fraction = some ds) :
    T.pointChars = '.' :: ds.chars := by
  rw [pointChars, hSome, Option.elim_some]

theorem powerChars_of_none
    (hNone : T.power = none) :
    T.powerChars = [] := by
  rw [powerChars, hNone, Option.elim_none]

theorem powerChars_of_some
    {p : Power}
    (hSome : T.power = some p) :
    T.powerChars = p.mark :: (p.sign.chars ++ p.digits.chars) := by
  rw [powerChars, hSome, Option.elim_some, Power.chars]

end Literal

end EmojiQuery

------------------------------------------------------------
-- Literals as Bounds
------------------------------------------------------------

namespace EmojiQuery

namespace Literal

/- A power begins with its letter. -/
theorem head?_powerChars
    (T : Literal)
    {c : Char}
    (hHead : T.powerChars.head? = some c) :
    c = 'e' ∨ c = 'E' := by
  cases hPower : T.power with
  | none =>
      rw [powerChars_of_none hPower] at hHead
      cases hHead
  | some p =>
      rw [powerChars_of_some hPower] at hHead
      rw [← Option.some.inj hHead]
      exact p.mark_eq

/- What follows the whole digits begins with a point or a letter. -/
theorem head?_pointChars
    (T : Literal)
    {c : Char}
    (hHead : (T.pointChars ++ T.powerChars).head? = some c) :
    c = '.' ∨ c = 'e' ∨ c = 'E' := by
  cases hFraction : T.fraction with
  | none =>
      rw [pointChars_of_none hFraction] at hHead
      exact .inr (T.head?_powerChars hHead)
  | some ds =>
      rw [pointChars_of_some hFraction] at hHead
      exact .inl (Option.some.inj hHead).symm

/- The exponent is read as it is written. -/
theorem Power.readExponent?_chars
    (p : Power) :
    Decimal.readExponent? (p.sign.chars ++ p.digits.chars) =
      some p.exponent := by
  unfold Power.exponent
  cases p.sign with
  | none =>
      rcases p.digits.exists_eq_cons with ⟨c, cs, hChars, hDigit⟩
      rw [Sign.chars, List.nil_append]
      unfold Decimal.readExponent?
      split
      · next hMinus =>
          rw [hMinus, List.cons.injEq] at hChars
          rw [← hChars.1] at hDigit
          exact absurd hDigit (by decide)
      · next hPlus =>
          rw [hPlus, List.cons.injEq] at hChars
          rw [← hChars.1] at hDigit
          exact absurd hDigit (by decide)
      · rw [p.digits.read?_chars]
        rfl
  | plus | minus =>
      rw [Sign.chars, List.singleton_append,
        Decimal.readExponent?, p.digits.read?_chars]
      rfl

/- The exponent of what follows the digits of a number. -/
def readPower? :
    List Char → Option Int
| [] => some 0
| c :: t =>
    if c.toLower = 'e' then Decimal.readExponent? t else none

theorem readPower?_powerChars
    (T : Literal) :
    readPower? T.powerChars =
      some (T.power.elim 0 Power.exponent) := by
  cases hPower : T.power with
  | none =>
      rw [powerChars_of_none hPower]
      rfl
  | some p =>
      have hMark : p.mark.toLower = 'e' := by
        rcases p.mark_eq with hSmall | hLarge
        · rw [hSmall]
          decide
        · rw [hLarge]
          decide
      rw [powerChars_of_some hPower, readPower?, if_pos hMark,
        p.readExponent?_chars, Option.elim_some]

/- A literal is read as its digits and its power of ten. -/
theorem read?_body
    (T : Literal) :
    Decimal.read? T.body = some ⟨T.digits, T.exponent⟩ := by
  have hNonempty : T.whole.chars.isEmpty = false := by
    simpa using T.whole.ne_nil
  have hWhole :
      (T.whole.chars ++ (T.pointChars ++ T.powerChars)).span
          Char.isDigit =
        (T.whole.chars, T.pointChars ++ T.powerChars) := by
    apply T.whole.span_append
    intro c hHead
    rcases T.head?_pointChars hHead with rfl | rfl | rfl
    all_goals decide
  have hPower :
      (readPower? T.powerChars).map
          (fun exp =>
            (⟨T.digits, exp - T.places.length⟩ : Decimal)) =
        some ⟨T.digits, T.exponent⟩ := by
    rw [T.readPower?_powerChars]
    rfl
  unfold Decimal.read? body
  simp only [hWhole, hNonempty, Bool.false_and,
    Bool.false_eq_true, if_false]
  rw [← hPower, digits]
  cases hFraction : T.fraction with
  | none =>
      rw [pointChars_of_none hFraction,
        places_of_none hFraction, List.nil_append]
      split
      · next hPoint =>
          have hMark := T.head?_powerChars
            (congrArg List.head? hPoint)
          simp at hMark
      · rfl
  | some ds =>
      have hPlaces :
          (ds.chars ++ T.powerChars).span Char.isDigit =
            (ds.chars, T.powerChars) := by
        apply ds.span_append
        intro c hHead
        rcases T.head?_powerChars hHead with rfl | rfl
        all_goals decide
      rw [pointChars_of_some hFraction,
        places_of_some hFraction, List.cons_append]
      simp only [hPlaces]
      rfl

theorem readMagnitude?_body
    (T : Literal) :
    Binary64.readMagnitude? T.body =
      some (Binary64.decimalMagnitude T.digits T.exponent) := by
  unfold Binary64.readMagnitude?
  rw [T.read?_body]

/- A literal without a minus begins with a digit. -/
theorem exists_body_eq_cons
    (T : Literal) :
    ∃ c cs, T.body = c :: cs ∧ c.isDigit = true := by
  rcases T.whole.exists_eq_cons with ⟨c, cs, hChars, hDigit⟩
  refine ⟨c, cs ++ (T.pointChars ++ T.powerChars), ?_, hDigit⟩
  rw [body, hChars, List.cons_append]

theorem read?_chars
    (T : Literal) :
    Binary64.read? T.chars = some T.nearest := by
  unfold chars nearest
  cases T.negative with
  | true =>
      rw [if_pos rfl, Binary64.read?, T.readMagnitude?_body]
      rfl
  | false =>
      rw [if_neg Bool.false_ne_true]
      rcases T.exists_body_eq_cons with ⟨c, cs, hBody, hDigit⟩
      unfold Binary64.read?
      split
      · next hMinus =>
          rw [hMinus, List.cons.injEq] at hBody
          rw [← hBody.1] at hDigit
          exact absurd hDigit (by decide)
      · next hPlus =>
          rw [hPlus, List.cons.injEq] at hBody
          rw [← hBody.1] at hDigit
          exact absurd hDigit (by decide)
      · rw [T.readMagnitude?_body]
        rfl

theorem isNaN_nearest
    (T : Literal) :
    T.nearest.isNaN = false :=
  Binary64.isNaN_ofDecimal _ _ _

/- A bound that is a literal is the nearest number to it. -/
theorem readRealBound?_chars
    (T : Literal) :
    readRealBound? T.chars = some T.nearest := by
  rw [readRealBound?, T.read?_chars, Option.filter_some,
    T.isNaN_nearest]
  rfl

end Literal

end EmojiQuery

------------------------------------------------------------
-- Characters of Literals
------------------------------------------------------------

namespace EmojiQuery

namespace Literal

/- Whether a character may stand in a literal. -/
def isLiteralChar
    (c : Char) : Bool :=
  c.isDigit || ['-', '+', '.', 'E', 'e'].contains c

theorem Digits.isLiteralChar_of_mem
    (ds : Digits)
    {c : Char}
    (hMember : c ∈ ds.chars) :
    isLiteralChar c = true := by
  rw [isLiteralChar, ds.isDigit_of_mem c hMember, Bool.true_or]

theorem Power.isLiteralChar_of_mem
    (p : Power)
    {c : Char}
    (hMember : c ∈ p.chars) :
    isLiteralChar c = true := by
  rw [Power.chars, List.mem_cons, List.mem_append] at hMember
  rcases hMember with rfl | hSign | hDigit
  · rcases p.mark_eq with hSmall | hLarge
    · rw [hSmall]
      decide
    · rw [hLarge]
      decide
  · unfold Sign.chars at hSign
    cases hCase : p.sign with
    | none =>
        simp [hCase] at hSign
    | plus | minus =>
        rw [hCase] at hSign
        rw [List.mem_singleton.mp hSign]
        decide
  · exact Digits.isLiteralChar_of_mem _ hDigit

theorem isLiteralChar_of_mem
    (T : Literal)
    {c : Char}
    (hMember : c ∈ T.chars) :
    isLiteralChar c = true := by
  have hBody : c ∈ T.body → isLiteralChar c = true := by
    rw [body, List.mem_append, List.mem_append]
    rintro (hWhole | hPoint | hPower)
    · exact Digits.isLiteralChar_of_mem _ hWhole
    · cases hFraction : T.fraction with
      | none =>
          rw [pointChars_of_none hFraction] at hPoint
          cases hPoint
      | some ds =>
          rw [pointChars_of_some hFraction, List.mem_cons]
            at hPoint
          rcases hPoint with rfl | hDigit
          · decide
          · exact Digits.isLiteralChar_of_mem _ hDigit
    · cases hCase : T.power with
      | none =>
          rw [powerChars_of_none hCase] at hPower
          cases hPower
      | some p =>
          rw [powerChars_of_some hCase] at hPower
          exact p.isLiteralChar_of_mem hPower
  unfold chars at hMember
  split at hMember
  · rcases List.mem_cons.mp hMember with rfl | hRest
    · decide
    · exact hBody hRest
  · exact hBody hMember

/- The characters of literals, by their numbers. -/
theorem toNat_of_isLiteralChar
    {c : Char}
    (hChar : isLiteralChar c = true) :
    43 ≤ c.toNat ∧ c.toNat ≤ 101 := by
  simp only [isLiteralChar, Bool.or_eq_true,
    List.contains_eq_mem, decide_eq_true_eq, List.mem_cons,
    List.not_mem_nil, or_false] at hChar
  rcases hChar with hDigit | rfl | rfl | rfl | rfl | rfl
  · have := Digits.toNat_of_isDigit hDigit
    omega
  all_goals decide

end Literal

end EmojiQuery
