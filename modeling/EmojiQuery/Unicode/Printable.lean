import EmojiQuery.Unicode.Property

/-
  This file defines which characters are printed as they are
  inside quotes.

  Key definitions include:
    * `unprintable`
    * `graphemeExtend`
    * `isPrintable`
-/

namespace EmojiQuery.Unicode

/-
  The code points without a visible form: controls, formats,
  private use, separators, surrogates and unassigned ones.
-/
def unprintable : CodepointSet :=
  .unions
    [categoriesNamed ["cc", "cf", "co", "zl", "zp", "zs"],
      surrogates, unassigned]

/- The code points that join the character before them. -/
def graphemeExtend : CodepointSet :=
  .ofText graphemeExtendLines

/-
  Whether a character is printed as it is. The space is the
  only separator that is.
-/
def isPrintable
    (c : Char) : Bool :=
  if c.toNat < 0x7F then
    0x20 ≤ c.toNat
  else
    !graphemeExtend.contains c.toNat &&
      !unprintable.contains c.toNat

end EmojiQuery.Unicode
