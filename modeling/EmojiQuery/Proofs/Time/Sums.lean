import EmojiQuery.Time.Clock

/-
  Sums of times near the limits of their words: which duration
  is a sum, when there is none, and what a clock shows that was
  moved forward.

  Main declarations:
    * `Duration.longest`
    * `Duration.exists_add?_of_lt`
    * `Duration.add?_eq_some_iff`
    * `Duration.add?_eq_none_iff_longest_lt`
    * `Duration.addWords?`
    * `Duration.addWords?_eq_add?`
    * `Duration.wholeMillis`
    * `Clock.toNat_millis_advance`
-/

------------------------------------------------------------
-- Sums of Durations
------------------------------------------------------------

namespace EmojiQuery

namespace Duration

/- No duration is longer. -/
def longest : Duration :=
  ⟨.ofNat (UInt64.size - 1), 999999999, by decide⟩

/- A duration is shorter than 2^64 seconds. -/
theorem toNanos_lt
    (d : Duration) :
    d.toNanos < UInt64.size * 1000000000 := by
  have hSeconds := d.seconds.toNat_lt
  have hNanos := d.nanos_lt
  unfold toNanos UInt64.size
  omega

/- One more nanosecond would make 2^64 seconds. -/
theorem toNanos_longest :
    longest.toNanos + 1 = UInt64.size * 1000000000 := by
  decide

/- There is a sum if it is shorter than that. -/
theorem exists_add?_of_lt
    {a b : Duration}
    (hShort :
      a.toNanos + b.toNanos < UInt64.size * 1000000000) :
    ∃ c, a.add? b = some c := by
  rw [← Option.isSome_iff_exists, Option.isSome_iff_ne_none]
  intro hNone
  rw [add?_eq_none_iff] at hNone
  exact Nat.not_le_of_lt hShort hNone

/- A sum is the duration that is as long as its parts. -/
theorem add?_eq_some_iff
    (a b c : Duration) :
    a.add? b = some c ↔
      c.toNanos = a.toNanos + b.toNanos := by
  constructor
  · exact toNanos_of_add?
  · intro hLength
    have hShort := c.toNanos_lt
    rw [hLength] at hShort
    rcases exists_add?_of_lt hShort with ⟨s, hSum⟩
    have hSame := toNanos_of_add? hSum
    rw [← hLength, toNanos_inj] at hSame
    rw [hSum, hSame]

/- A sum is missing if it would be longer than any duration. -/
theorem add?_eq_none_iff_longest_lt
    (a b : Duration) :
    a.add? b = none ↔
      longest.toNanos < a.toNanos + b.toNanos := by
  rw [add?_eq_none_iff, ← toNanos_longest, Nat.succ_le_iff]

/- It then has 2^64 seconds, with those made up of nanoseconds. -/
theorem longest_lt_iff_seconds
    (a b : Duration) :
    longest.toNanos < a.toNanos + b.toNanos ↔
      UInt64.size ≤
        a.seconds.toNat + b.seconds.toNat +
          (a.nanos + b.nanos) / 1000000000 := by
  rw [← Nat.succ_le_iff, Nat.succ_eq_add_one, toNanos_longest]
  unfold toNanos UInt64.size
  omega

------------------------------------------------------------
-- Sums Word by Word
------------------------------------------------------------

/- The sum of two words, unless it takes more than 64 bits. -/
def sumWord?
    (m n : UInt64) : Option UInt64 :=
  if m.toNat + n.toNat < UInt64.size then
    some (m + n)
  else
    none

/- A sum of words is the word of that number. -/
theorem sumWord?_eq_some_iff
    (m n s : UInt64) :
    sumWord? m n = some s ↔ s.toNat = m.toNat + n.toNat := by
  have hWord := s.toNat_lt
  rw [sumWord?, Option.ite_none_right_eq_some,
    Option.some.injEq, ← UInt64.toNat_inj, UInt64.toNat_add]
  unfold UInt64.size
  omega

/-
  The sum of two durations by sums of words: first of the
  seconds, and then the carry from the nanoseconds. Both sums
  may take more than 64 bits.
-/
def addWords?
    (a b : Duration) : Option Duration := do
  let s ← sumWord? a.seconds b.seconds
  if hCarry : a.nanos + b.nanos < 1000000000 then
    pure ⟨s, a.nanos + b.nanos, hCarry⟩
  else
    let t ← sumWord? s 1
    have hLeft := a.nanos_lt
    have hRight := b.nanos_lt
    pure ⟨t, a.nanos + b.nanos - 1000000000, by omega⟩

/- Sums of words give the duration that is as long. -/
theorem addWords?_eq_some_iff
    (a b c : Duration) :
    a.addWords? b = some c ↔
      c.toNanos = a.toNanos + b.toNanos := by
  have hNanos := c.nanos_lt
  have hLeft := a.nanos_lt
  have hRight := b.nanos_lt
  unfold addWords?
  by_cases hCarry : a.nanos + b.nanos < 1000000000
  · simp only [hCarry, dif_pos, Option.bind_eq_bind,
      Option.bind_eq_some_iff, sumWord?_eq_some_iff,
      Option.pure_def, Option.some.injEq]
    constructor
    · rintro ⟨s, hSeconds, rfl⟩
      simp only [toNanos]
      omega
    · intro hLength
      unfold toNanos at hLength
      refine ⟨c.seconds, by omega, ?_⟩
      rw [← toNanos_inj]
      simp only [toNanos]
      omega
  · simp only [hCarry, dif_neg, Option.bind_eq_bind,
      Option.bind_eq_some_iff, sumWord?_eq_some_iff,
      Option.pure_def, Option.some.injEq, not_false_eq_true]
    constructor
    · rintro ⟨s, hSeconds, t, hCarried, rfl⟩
      rw [UInt64.toNat_one] at hCarried
      simp only [toNanos]
      omega
    · intro hLength
      unfold toNanos at hLength
      -- The sum before the carry is one less than the last.
      have hBefore :
          (c.seconds - 1).toNat = c.seconds.toNat - 1 := by
        rw [UInt64.toNat_sub_of_le, UInt64.toNat_one]
        rw [UInt64.le_iff_toNat_le, UInt64.toNat_one]
        omega
      refine ⟨c.seconds - 1, by omega, c.seconds, ?_, ?_⟩
      · rw [hBefore, UInt64.toNat_one]
        omega
      · rw [← toNanos_inj]
        simp only [toNanos]
        omega

/- The order of the sums makes no difference. -/
theorem addWords?_eq_add?
    (a b : Duration) :
    a.addWords? b = a.add? b := by
  ext c
  rw [addWords?_eq_some_iff, add?_eq_some_iff]

/- The whole milliseconds of a duration. -/
def wholeMillis
    (d : Duration) : Nat :=
  d.toNanos / 1000000

@[simp] theorem wholeMillis_ofMillis
    (ms : UInt64) :
    (ofMillis ms).wholeMillis = ms.toNat := by
  rw [wholeMillis, toNanos_ofMillis]
  exact Nat.mul_div_cancel _ (by decide)

end Duration

end EmojiQuery

------------------------------------------------------------
-- Clocks
------------------------------------------------------------

namespace EmojiQuery

namespace Clock

/- A clock shows milliseconds of 64 bits. -/
theorem toNanos_now_lt
    (c : Clock) :
    c.now.toNanos < UInt64.size * 1000000 := by
  have hReading := c.millis.toNat_lt
  rw [now, Duration.toNanos_ofMillis, UInt64.size]
  omega

/- A clock has come to a time once it shows as many milliseconds. -/
theorem le_now_iff
    (c : Clock)
    (t : Duration) :
    t ≤ c.now ↔ t.toNanos ≤ c.millis.toNat * 1000000 := by
  rw [← Duration.toNanos_ofMillis]
  exact Iff.rfl

/-
  A clock that is not moved past its end goes on by the whole
  milliseconds of the step.
-/
theorem toNat_millis_advance
    {c : Clock}
    {step : Duration}
    (hEnd : c.millis.toNat + step.wholeMillis < UInt64.size) :
    (c.advance step).millis.toNat =
      c.millis.toNat + step.wholeMillis := by
  have hStep :
      step.toMillis.toNat = step.wholeMillis := by
    unfold Duration.wholeMillis UInt64.size at hEnd
    unfold Duration.toMillis Duration.wholeMillis UInt64.size
    rw [UInt64.toNat_ofNat']
    omega
  rw [advance, UInt64.toNat_add, hStep]
  exact Nat.mod_eq_of_lt hEnd

end Clock

end EmojiQuery
