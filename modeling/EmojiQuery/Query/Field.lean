/-
  This file defines the fields that a query may name, and sets
  of them.

  Key definitions include:
    * `Field`
    * `Field.name`
    * `Field.ofName?`
    * `FieldSet`
    * `FieldSet.ofList`

  The main lemmas are `Field.ofName?_name` and
  `FieldSet.mem_ofList`.
-/

namespace EmojiQuery

------------------------------------------------------------
-- Fields
------------------------------------------------------------

/- A field of a record that a query may name. -/
inductive Field where
| codepoints
| version
| support
| introduced
| notes
| scores
deriving DecidableEq, Repr

namespace Field

/- All fields, in the order of their bits. -/
def all : List Field :=
  [codepoints, version, support, introduced, notes, scores]

/- The name of the field in queries. -/
def name :
    Field → String
| .codepoints => "u"
| .version => "emoji"
| .support => "api"
| .introduced => "api_added"
| .notes => "note"
| .scores => "diff"

/- The field with a given name. -/
def ofName?
    (s : String) : Option Field :=
  all.find? fun f => f.name = s

@[simp] theorem ofName?_name
    (f : Field) :
    ofName? f.name = some f := by
  cases f <;> decide

/- A field is found by its own name only. -/
theorem name_of_ofName?
    {s : String}
    {f : Field}
    (h : ofName? s = some f) :
    f.name = s := by
  simpa using List.find?_some h

/- The place of the field among the bits of a set. -/
def index :
    Field → Nat
| .codepoints => 0
| .version => 1
| .support => 2
| .introduced => 3
| .notes => 4
| .scores => 5

/- The bit of the field. -/
def bit
    (f : Field) : UInt8 :=
  1 <<< UInt8.ofNat f.index

end Field

------------------------------------------------------------
-- Sets of fields
------------------------------------------------------------

/- A set of fields, one bit for each. -/
structure FieldSet where
  bits : UInt8
deriving DecidableEq, Repr

namespace FieldSet

/- The set without fields. -/
def empty : FieldSet :=
  ⟨0⟩

/- Add a field. -/
def insert
    (s : FieldSet)
    (f : Field) : FieldSet :=
  ⟨s.bits ||| f.bit⟩

/- Whether the set has a field. -/
def contains
    (s : FieldSet)
    (f : Field) : Bool :=
  s.bits &&& f.bit ≠ 0

/- The set of the fields in a list. -/
def ofList
    (fs : List Field) : FieldSet :=
  fs.foldl insert empty

/- The fields of the set, in the order of their bits. -/
def toList
    (s : FieldSet) : List Field :=
  Field.all.filter s.contains

@[simp] theorem contains_empty
    (f : Field) :
    empty.contains f = false := by
  cases f <;> decide

/- Bits of different fields do not meet. -/
theorem bit_and_bit
    (f g : Field) :
    f.bit &&& g.bit = if f = g then f.bit else 0 := by
  cases f <;> cases g <;> decide

/- Meeting a union is the union of the meetings. -/
theorem or_and_bits
    (a b c : UInt8) :
    (a ||| b) &&& c = (a &&& c) ||| (b &&& c) := by
  apply UInt8.toBitVec_inj.1
  simp [BitVec.and_or_distrib_right]

/- No field has an empty bit. -/
theorem bit_ne_zero
    (f : Field) :
    f.bit ≠ 0 := by
  cases f <;> decide

theorem contains_insert
    (s : FieldSet)
    (f g : Field) :
    (s.insert f).contains g = true ↔
      s.contains g = true ∨ f = g := by
  simp only [contains, insert, decide_eq_true_eq, ne_eq,
    or_and_bits, UInt8.or_eq_zero_iff, bit_and_bit]
  by_cases h : f = g
  · simp [h, bit_ne_zero]
  · simp [h]

theorem mem_ofList
    (fs : List Field)
    (f : Field) :
    (ofList fs).contains f = true ↔ f ∈ fs := by
  have key : ∀ (fs : List Field) (s : FieldSet),
      (fs.foldl insert s).contains f = true ↔
        s.contains f = true ∨ f ∈ fs := by
    intro fs
    induction fs with
    | nil =>
        simp
    | cons g fs ih =>
        intro s
        rw [List.foldl_cons, ih, contains_insert]
        grind
  simpa [ofList] using key fs empty

end FieldSet

end EmojiQuery
