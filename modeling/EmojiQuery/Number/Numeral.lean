/-
  This file writes and reads natural numbers and signed 64-bit
  numbers in any base up to 16.

  Key definitions include:
    * `Numeral.write`
    * `Numeral.digitValue?`
    * `Numeral.read?`
    * `Numeral.writeInt`
    * `Numeral.readInt64?`

  The main lemma is `Numeral.read?_write`.
-/

namespace EmojiQuery.Numeral

------------------------------------------------------------
-- Natural numbers
------------------------------------------------------------

/- The digits of a number, most significant first, lower case. -/
def write
    (base n : Nat) : List Char :=
  if _h : n < base ∨ base < 2 then
    [n.digitChar]
  else
    write base (n / base) ++ [(n % base).digitChar]
termination_by n
decreasing_by
  have hb : 2 ≤ base := by omega
  have hn : 0 < n := by omega
  exact Nat.div_lt_self hn hb

/- The value of a digit of either case. -/
def digitValue?
    (c : Char) : Option Nat :=
  if c.isDigit then
    some (c.toNat - '0'.toNat)
  else if 'a' ≤ c && c ≤ 'f' then
    some (c.toNat - 'a'.toNat + 10)
  else if 'A' ≤ c && c ≤ 'F' then
    some (c.toNat - 'A'.toNat + 10)
  else
    none

/- The value of a digit that the base admits. -/
def digitIn?
    (base : Nat)
    (c : Char) : Option Nat :=
  (digitValue? c).filter (· < base)

/- Continue a number with more digits. -/
def readFrom?
    (base : Nat) :
    Nat → List Char → Option Nat
| n, [] => some n
| n, c :: cs =>
    (digitIn? base c).bind fun d => readFrom? base (base * n + d) cs

/- The number that one or more digits write. -/
def read?
    (base : Nat)
    (cs : List Char) : Option Nat :=
  if cs.isEmpty then none else readFrom? base 0 cs

/- A written digit has its value. -/
theorem digitValue?_digitChar
    {d : Nat}
    (h : d < 16) :
    digitValue? d.digitChar = some d := by
  have key : ∀ d : Fin 16,
      digitValue? d.val.digitChar = some d.val := by
    decide
  exact key ⟨d, h⟩

/- A written digit is admitted by its base. -/
theorem digitIn?_digitChar
    {base d : Nat}
    (hb : base ≤ 16)
    (h : d < base) :
    digitIn? base d.digitChar = some d := by
  simp [digitIn?, digitValue?_digitChar (Nat.lt_of_lt_of_le h hb), h]

theorem readFrom?_append
    (base n : Nat)
    (cs ds : List Char) :
    readFrom? base n (cs ++ ds) =
      (readFrom? base n cs).bind fun m => readFrom? base m ds := by
  induction cs generalizing n with
  | nil =>
      simp [readFrom?]
  | cons c cs ih =>
      cases h : digitIn? base c with
      | none =>
          simp [readFrom?, h]
      | some d =>
          simp [readFrom?, h, ih]

/- Writing never gives the empty text. -/
theorem write_ne_nil
    (base n : Nat) :
    write base n ≠ [] := by
  rw [write]
  split <;> simp

/- Reading what was written gives the number back. -/
theorem readFrom?_write
    {base : Nat}
    (hb : 2 ≤ base)
    (hb' : base ≤ 16)
    (n : Nat) :
    readFrom? base 0 (write base n) = some n := by
  induction n using Nat.strongRecOn with
  | ind n ih =>
      rw [write]
      split
      · next h =>
          have hn : n < base := by omega
          simp [readFrom?, digitIn?_digitChar hb' hn]
      · next h =>
          have hd : n / base < n :=
            Nat.div_lt_self (by omega) (by omega)
          have hm : n % base < base :=
            Nat.mod_lt n (by omega)
          rw [readFrom?_append, ih _ hd]
          simp [readFrom?, digitIn?_digitChar hb' hm,
            Nat.div_add_mod n base]

theorem read?_write
    {base : Nat}
    (hb : 2 ≤ base)
    (hb' : base ≤ 16)
    (n : Nat) :
    read? base (write base n) = some n := by
  have h : (write base n).isEmpty = false := by
    simpa using write_ne_nil base n
  simp [read?, h, readFrom?_write hb hb']

------------------------------------------------------------
-- Integers
------------------------------------------------------------

/- The text of an integer in base 10. -/
def writeInt :
    Int → List Char
| .ofNat n => write 10 n
| .negSucc n => '-' :: write 10 (n + 1)

/- The integer, if it fits in 64 bits. -/
def int64?
    (i : Int) : Option Int64 :=
  if Int64.minValue.toInt ≤ i ∧ i ≤ Int64.maxValue.toInt then
    some (.ofInt i)
  else
    none

/-
  The signed 64-bit number that a text writes: at most one
  sign and then one or more digits.
-/
def readInt64?
    (base : Nat) :
    List Char → Option Int64
| '-' :: cs => (read? base cs).bind fun n => int64? (-(n : Int))
| '+' :: cs => (read? base cs).bind fun n => int64? n
| cs => (read? base cs).bind fun n => int64? n

end EmojiQuery.Numeral
