import EmojiQuery.Unicode.AgeTable
import EmojiQuery.Unicode.BinaryTable
import EmojiQuery.Unicode.BreakTable
import EmojiQuery.Unicode.CategoryTable
import EmojiQuery.Unicode.ScriptExtensionTable
import EmojiQuery.Unicode.ScriptTable

/-
  This file finds the set of code points that a Unicode
  property names. A property is written as a single name
  (a binary property, a general category or a script) or as
  a name with a value.

  Key definitions include:
    * `category?`
    * `property?`
    * `propertyValue?`
    * `digits`
    * `blanks`
    * `wordCharacters`
-/

namespace EmojiQuery.Unicode

------------------------------------------------------------
-- General categories
------------------------------------------------------------

/- The groups of general categories, with their names and members. -/
def categoryGroups : List (List String × List String) :=
[
  (["l", "letter"], ["lu", "ll", "lt", "lm", "lo"]),
  (["lc", "casedletter"], ["lu", "ll", "lt"]),
  (["m", "mark", "combiningmark"], ["mn", "mc", "me"]),
  (["n", "number"], ["nd", "nl", "no"]),
  (["p", "punctuation", "punct"],
    ["pc", "pd", "ps", "pe", "pi", "pf", "po"]),
  (["s", "symbol"], ["sm", "sc", "sk", "so"]),
  (["z", "separator"], ["zs", "zl", "zp"])
]

/- The union of the named general categories. -/
def categoriesNamed
    (names : List String) : CodepointSet :=
  .unions (names.filterMap (NamedSet.find? categoryTable))

/- The surrogate code points. -/
def surrogates : CodepointSet :=
  .range 0xD800 0xDFFF

/- The code points that no version of Unicode has assigned. -/
def unassigned : CodepointSet :=
  ((CodepointSet.unions
    (categoryTable.map NamedSet.toSet)).union
      surrogates).complement

/- The set of a general category or of a group of them. -/
def category?
    (name : String) : Option CodepointSet :=
  if name = "any" then
    some .full
  else if name = "assigned" then
    some unassigned.complement
  else if name = "ascii" then
    some (.range 0 0x7F)
  else if name = "cn" || name = "unassigned" then
    some unassigned
  else if name = "c" || name = "other" then
    some (unassigned.union
      (categoriesNamed ["cc", "cf", "co"]))
  else
    match categoryGroups.find? fun g => g.1.contains name with
    | some g => some (categoriesNamed g.2)
    | none => NamedSet.find? categoryTable name

------------------------------------------------------------
-- Properties with values
------------------------------------------------------------

/- The script extension with a given name. -/
def scriptExtension?
    (name : String) : Option CodepointSet :=
  (NamedSet.find? scriptExtensionTable name).orElse fun _ =>
    NamedSet.find? scriptTable name

/- The code points assigned up to and including a version. -/
def age?
    (name : String) : Option CodepointSet :=
  let older := ageTable.takeWhile fun s => !s.names.contains name
  let newer := ageTable.drop older.length
  newer.head?.map fun last =>
    .unions ((older ++ [last]).map NamedSet.toSet)

/- The Hangul syllables without a final consonant. -/
def hangulOpen : CodepointSet :=
  .ofRanges ((List.range 399).map fun i =>
    (0xAC00 + 28 * i, 0xAC00 + 28 * i))

/- The values of Grapheme_Cluster_Break. -/
def graphemeBreak?
    (name : String) : Option CodepointSet :=
  let named :=
    CodepointSet.unions (graphemeBreakTable.map NamedSet.toSet)
  let syllables := CodepointSet.range 0xAC00 0xD7A3
  if name = "lv" then
    some hangulOpen
  else if name = "lvt" then
    some (syllables.diff hangulOpen)
  else if name = "xx" || name = "other" then
    some (named.union syllables).complement
  else
    NamedSet.find? graphemeBreakTable name

/- A value of a break property whose other values are in a table. -/
def breakValue?
    (table : List NamedSet)
    (name : String) : Option CodepointSet :=
  if name = "xx" || name = "other" then
    some (CodepointSet.unions
      (table.map NamedSet.toSet)).complement
  else
    NamedSet.find? table name

/- The set of a property and a value, both written loosely. -/
def propertyValue?
    (name value : List Char) : Option CodepointSet :=
  let v := looseName value
  match looseName name with
  | "gc" | "generalcategory" => category? v
  | "sc" | "script" => NamedSet.find? scriptTable v
  | "scx" | "scriptextensions" => scriptExtension? v
  | "age" => age? v
  | "gcb" | "graphemeclusterbreak" => graphemeBreak? v
  | "wb" | "wordbreak" => breakValue? wordBreakTable v
  | "sb" | "sentencebreak" => breakValue? sentenceBreakTable v
  | _ => none

/-
  The set of a property written as a single name. Binary
  properties come before general categories, and those before
  scripts.
-/
def property?
    (name : List Char) : Option CodepointSet :=
  let n := looseName name
  ((NamedSet.find? binaryTable n).orElse fun _ =>
    category? n).orElse fun _ =>
      NamedSet.find? scriptTable n

------------------------------------------------------------
-- Character classes
------------------------------------------------------------

/- The decimal digits. -/
def digits : CodepointSet :=
  categoriesNamed ["nd"]

/- The white space. -/
def blanks : CodepointSet :=
  .ofText whiteSpaceLines

/- The letters and what forms words with them. -/
def alphabetic : CodepointSet :=
  .ofText alphabeticLines

/- The characters that words are made of. -/
def wordCharacters : CodepointSet :=
  .unions
    [alphabetic,
      categoriesNamed ["mn", "mc", "me", "nd", "pc"],
      .ofText joinControlLines]

/- The letters and numbers. -/
def alphanumeric : CodepointSet :=
  alphabetic.union (categoriesNamed ["nd", "nl", "no"])

end EmojiQuery.Unicode
