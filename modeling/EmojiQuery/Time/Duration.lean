/-
  This file defines durations, which are also used as times
  since an origin: whole seconds below 2^64, and nanoseconds
  below one second.

  Key definitions include:
    * `Duration`
    * `Duration.toNanos`
    * `Duration.add?`
    * `Duration.ofMillis`
    * `Duration.toMillis`

  The main lemmas are `Duration.toNanos_inj`,
  `Duration.toNanos_of_add?` and `Duration.add?_eq_none_iff`.
-/

namespace EmojiQuery

/- A duration. -/
structure Duration where
  seconds : UInt64
  nanos : Nat
  nanos_lt : nanos < 1000000000
deriving DecidableEq, Repr

namespace Duration

/- No time at all. -/
def zero : Duration :=
  ⟨0, 0, by decide⟩

/- The duration in nanoseconds. -/
def toNanos
    (d : Duration) : Nat :=
  d.seconds.toNat * 1000000000 + d.nanos

instance : LE Duration where
  le a b := a.toNanos ≤ b.toNanos

instance : DecidableLE Duration :=
  fun a b => inferInstanceAs (Decidable (a.toNanos ≤ b.toNanos))

instance : Max Duration :=
  maxOfLe

/- Durations of the same length are equal. -/
theorem toNanos_inj
    {a b : Duration} :
    a.toNanos = b.toNanos ↔ a = b := by
  constructor
  · intro h
    obtain ⟨s, n, hn⟩ := a
    obtain ⟨s', n', hn'⟩ := b
    simp only [toNanos] at h
    have hs : s = s' := by
      apply UInt64.toNat_inj.1
      omega
    subst hs
    have : n = n' := by omega
    subst this
    rfl
  · rintro rfl
    rfl

------------------------------------------------------------
-- Addition
------------------------------------------------------------

/-
  The sum of two durations. The nanoseconds are carried into
  the seconds, which must stay below 2^64.
-/
def add?
    (a b : Duration) : Option Duration :=
  let n := a.nanos + b.nanos
  let s := a.seconds.toNat + b.seconds.toNat + n / 1000000000
  if s < UInt64.size then
    some ⟨.ofNat s, n % 1000000000, Nat.mod_lt _ (by decide)⟩
  else
    none

/- A sum is as long as its parts. -/
theorem toNanos_of_add?
    {a b c : Duration}
    (h : a.add? b = some c) :
    c.toNanos = a.toNanos + b.toNanos := by
  simp only [add?, UInt64.size] at h
  split at h
  · next hs =>
      simp only [Option.some.injEq] at h
      subst h
      simp only [toNanos, UInt64.toNat_ofNat']
      omega
  · cases h

/- A sum is missing if it needs 2^64 seconds or more. -/
theorem add?_eq_none_iff
    {a b : Duration} :
    a.add? b = none ↔
      UInt64.size * 1000000000 ≤ a.toNanos + b.toNanos := by
  simp only [add?, toNanos, UInt64.size]
  split
  · simp only [reduceCtorEq, false_iff]
    omega
  · simp only [true_iff]
    omega

------------------------------------------------------------
-- Milliseconds
------------------------------------------------------------

/- The duration of a number of milliseconds. -/
def ofMillis
    (ms : UInt64) : Duration :=
  ⟨ms / 1000, ms.toNat % 1000 * 1000000, by omega⟩

/- The whole milliseconds of a duration, up to 2^64 - 1 of them. -/
def toMillis
    (d : Duration) : UInt64 :=
  .ofNat (min (d.toNanos / 1000000) (UInt64.size - 1))

@[simp] theorem toNanos_ofMillis
    (ms : UInt64) :
    (ofMillis ms).toNanos = ms.toNat * 1000000 := by
  have h : (1000 : UInt64).toNat = 1000 := rfl
  simp only [ofMillis, toNanos, UInt64.toNat_div, h]
  omega

end Duration

end EmojiQuery
