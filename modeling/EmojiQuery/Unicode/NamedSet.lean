import EmojiQuery.Unicode.CodepointSet

/-
  This file defines sets of code points that are found by
  loosely written names.

  Key definitions include:
    * `looseName`
    * `NamedSet`
    * `NamedSet.find?`
-/

namespace EmojiQuery.Unicode

------------------------------------------------------------
-- Loose names
------------------------------------------------------------

/- Drop a leading `is`, in any case, and say whether there was one. -/
def dropIs :
    List Char → Bool × List Char
| a :: b :: rest =>
    if a.toLower = 'i' && b.toLower = 's' then
      (true, rest)
    else
      (false, a :: b :: rest)
| cs => (false, cs)

/-
  The form under which a name of a property or a value is
  looked up: no leading `is`, no spaces, underscores, hyphens
  or characters outside ASCII, and lower case throughout. A
  name that shrinks to `c` in this way keeps its `is`.
-/
def looseName
    (name : List Char) : String :=
  let (hadIs, body) := dropIs name
  let kept :=
    (body.filter fun c =>
      c ≠ ' ' && c ≠ '_' && c ≠ '-' && c.toNat < 0x80).map
        Char.toLower
  if hadIs && kept = ['c'] then
    "isc"
  else
    String.ofList kept

------------------------------------------------------------
-- Tables of named sets
------------------------------------------------------------

/- A set with its loose names, its ranges kept as text. -/
structure NamedSet where
  names : List String
  lines : List String

/- The set itself. -/
def NamedSet.toSet
    (s : NamedSet) : CodepointSet :=
  .ofText s.lines

/- The first entry of a table with a given loose name. -/
def NamedSet.find?
    (table : List NamedSet)
    (name : String) :
    Option CodepointSet :=
  (table.find? fun s => s.names.contains name).map
    NamedSet.toSet

end EmojiQuery.Unicode
