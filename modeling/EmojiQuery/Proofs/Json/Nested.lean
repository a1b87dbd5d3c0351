import EmojiQuery.Proofs.Json.Escapes

/-
  Lists, maps and structures that were written as JSON are read
  back if what they hold is.

  Main declarations:
    * `Json.joined`
    * `Json.writes_list`
    * `Json.writes_entries`
    * `Json.Fills`
    * `Json.writes_fields`
-/

------------------------------------------------------------
-- Joined Values
------------------------------------------------------------

namespace EmojiQuery

namespace Json

variable {α : Type}
variable {read : Reader α}
variable {cs : List Char}
variable {css : List (List Char)}
variable {s rest : List UInt8}

/-
  Values separated by commas. Unless the first of them is the
  first of all, a comma stands before it too.
-/
def joined :
    Bool → List (List Char) → List Char
| _, [] => []
| true, cs :: css => cs ++ joined false css
| false, cs :: css => ',' :: (cs ++ joined false css)

theorem joined_eq_intercalate
    (css : List (List Char)) :
    joined true css = [','].intercalate css := by
  cases css with
  | nil =>
      rfl
  | cons cs css =>
      rw [joined]
      induction css generalizing cs with
      | nil =>
          rw [joined, List.append_nil, List.intercalate_singleton]
      | cons next css ih =>
          rw [joined, ih next, List.intercalate_cons_cons,
            List.append_assoc, List.singleton_append]

/- The bytes of values separated by commas. -/
def joinedBytes
    (first : Bool)
    (css : List (List Char)) : List UInt8 :=
  utf8 (String.ofList (joined first css))

theorem joinedBytes_nil
    (first : Bool) :
    joinedBytes first [] = [] := by
  cases first with
  | true =>
      rfl
  | false =>
      rfl

theorem joinedBytes_cons
    (first : Bool)
    (cs : List Char)
    (css : List (List Char)) :
    joinedBytes first (cs :: css) =
      (if first then [] else [byte ',']) ++
        (utf8 (String.ofList cs) ++ joinedBytes false css) := by
  unfold joinedBytes
  cases first with
  | true =>
      rw [joined, utf8_ofList_append]
      rfl
  | false =>
      rw [joined, utf8_ofList_cons, utf8_ofList_append]
      rfl

/- Each value takes a byte at least. -/
theorem length_le_joinedBytes
    (hNonempty : ∀ cs ∈ css, utf8 (String.ofList cs) ≠ [])
    (first : Bool) :
    css.length ≤ (joinedBytes first css).length := by
  induction css generalizing first with
  | nil =>
      exact Nat.zero_le _
  | cons cs css ih =>
      rw [List.forall_mem_cons] at hNonempty
      have hOne := List.length_pos_iff.mpr hNonempty.1
      have hRest := ih hNonempty.2 false
      rw [joinedBytes_cons]
      simp only [List.length_append, List.length_cons]
      omega

/- Behind each value stands a comma or the end. -/
theorem closes_joinedBytes
    (css : List (List Char))
    {b : UInt8}
    (hEnd : b = byte ']' ∨ b = byte '\x7d')
    (rest : List UInt8) :
    Closes (joinedBytes false css ++ b :: rest) := by
  cases css with
  | nil =>
      exact closes_cons (.inr hEnd) rest
  | cons cs css =>
      rw [joinedBytes_cons]
      exact closes_cons (.inl rfl) _

end Json

end EmojiQuery

------------------------------------------------------------
-- Written Lists
------------------------------------------------------------

namespace EmojiQuery

namespace Json

variable {α β : Type}
variable {read : Reader α}
variable {write : β → List Char}
variable {value : β → α}
variable {xs : List β}
variable {s t rest : List UInt8}

/- A list goes on where a value starts. -/
theorem nextItem_of_starts
    {b : UInt8}
    (hStarts : startsValue b = true)
    (first : Bool)
    (s : List UInt8) :
    nextItem first ((if first then [] else [byte ',']) ++ b :: s) =
      .ok (true, b :: s) := by
  rcases ne_of_startsValue hStarts with ⟨hBlank, hEnd, _⟩
  cases first with
  | true =>
      change nextItem true (b :: s) = _
      rw [nextItem, andThen_of_ok (token_cons hBlank s)]
      simp only [if_neg hEnd, if_true]
      rfl
  | false =>
      change nextItem false (byte ',' :: b :: s) = _
      have hComma : isBlank (byte ',') = false := by
        decide
      have hNoEnd : byte ',' ≠ byte ']' := by
        decide
      rw [nextItem, andThen_of_ok (token_cons hComma _)]
      simp only [if_neg hNoEnd, Bool.false_eq_true, if_false,
        if_true]
      rw [andThen_of_ok (advance_cons _ _),
        andThen_of_ok (token_cons hBlank s)]
      simp only [if_neg hEnd]
      rfl

theorem nextItem_of_end
    (first : Bool)
    (rest : List UInt8) :
    nextItem first (byte ']' :: rest) =
      .ok (false, byte ']' :: rest) := by
  have hEnd : isBlank (byte ']') = false := by
    decide
  rw [nextItem, andThen_of_ok (token_cons hEnd rest)]
  rfl

/- Values separated by commas are read one after the other. -/
theorem items_joinedBytes
    (hWrites : ∀ x ∈ xs, Writes read (write x) (value x))
    {rounds : List UInt8}
    (hRounds : xs.length < rounds.length)
    (first : Bool) :
    items read rounds first
        (joinedBytes first (xs.map write) ++ byte ']' :: rest) =
      .ok (xs.map value, byte ']' :: rest) := by
  induction xs generalizing rounds first with
  | nil =>
      cases rounds with
      | nil =>
          cases hRounds
      | cons _ rounds =>
          rw [List.map_nil, joinedBytes_nil, List.nil_append,
            items, andThen_of_ok (nextItem_of_end first rest)]
          rfl
  | cons x xs ih =>
      cases rounds with
      | nil =>
          cases hRounds
      | cons _ rounds =>
          rw [List.forall_mem_cons] at hWrites
          have hFewer : xs.length < rounds.length :=
            Nat.lt_of_succ_lt_succ hRounds
          have hValue :=
            hWrites.1.read_append _
              (closes_joinedBytes (xs.map write) (.inl rfl) rest)
          rcases hWrites.1.starts with ⟨b, t, hText, hStarts⟩
          rw [hText, List.cons_append] at hValue
          rw [List.map_cons, joinedBytes_cons, hText,
            List.append_assoc, List.append_assoc,
            List.cons_append, items,
            andThen_of_ok (nextItem_of_starts hStarts first _),
            if_pos rfl, andThen_of_ok hValue,
            andThen_of_ok (ih hWrites.2 hFewer false)]
          rfl

/- What stands between brackets is read up to the second of them. -/
theorem bracketed_of_ok
    {body : List UInt8 → Reader α}
    {closing : Reader Unit}
    {a : α}
    (hBody : body s s = .ok (a, t))
    (hClosing : closing t = .ok ((), rest))
    (b : UInt8) :
    (do
      advance
      let a ← body (← get)
      closing
      pure a : Reader α) (b :: s) = .ok (a, rest) := by
  have hGet : (get : Reader (List UInt8)) s = .ok (s, s) :=
    rfl
  rw [andThen_of_ok (advance_cons b s), andThen_of_ok hGet,
    andThen_of_ok hBody, andThen_of_ok hClosing]
  rfl

/- Lists are read back if their values are. -/
theorem writes_list
    (hWrites : ∀ x ∈ xs, Writes read (write x) (value x)) :
    Writes (list read) (writeList (xs.map write))
      (xs.map value) := by
  have hText :
      utf8 (String.ofList (writeList (xs.map write))) =
        byte '[' ::
          (joinedBytes true (xs.map write) ++ [byte ']']) := by
    rw [writeList, ← joined_eq_intercalate, List.cons_append,
      utf8_ofList_cons, utf8_ofList_append]
    rfl
  refine ⟨⟨_, _, hText, by decide⟩, ?_⟩
  intro rest _
  have hOpen : isBlank (byte '[') = false := by
    decide
  have hEnd : endList (byte ']' :: rest) = .ok ((), rest) :=
    rfl
  have hNonempty :
      ∀ cs ∈ xs.map write, utf8 (String.ofList cs) ≠ [] := by
    rw [List.forall_mem_map]
    intro x hMember
    rcases (hWrites x hMember).starts with ⟨b, t, hBytes, _⟩
    rw [hBytes]
    exact List.cons_ne_nil b t
  have hLength := length_le_joinedBytes hNonempty true
  rw [List.length_map] at hLength
  rw [hText, List.cons_append, List.append_assoc, list,
    dispatch_cons hOpen (if_pos rfl)]
  apply bracketed_of_ok _ hEnd
  apply items_joinedBytes hWrites
  rw [List.length_append, List.length_append,
    List.length_singleton]
  omega

end Json

end EmojiQuery

------------------------------------------------------------
-- Written Members
------------------------------------------------------------

namespace EmojiQuery

namespace Json

variable {α β : Type}
variable {read : Reader α}
variable {write : β → List Char}
variable {value : β → α}
variable {es : List (String × β)}
variable {rest : List UInt8}

/- A key and its value. -/
def member
    (kv : String × List Char) : List Char :=
  writeString kv.1 ++ ':' :: kv.2

/- The bytes of a key and its value behind the quote of the key. -/
def memberTail
    (kv : String × List Char) : List UInt8 :=
  stringBody kv.1.toList ++
    byte '"' :: byte ':' :: utf8 (String.ofList kv.2)

theorem utf8_member
    (kv : String × List Char) :
    utf8 (String.ofList (member kv)) =
      byte '"' :: memberTail kv := by
  rw [member, utf8_ofList_append, utf8_writeString,
    utf8_ofList_cons, memberTail, List.cons_append,
    List.append_assoc]
  rfl

/- An object is written as its members between braces. -/
theorem utf8_writeObject
    (kvs : List (String × List Char)) :
    utf8 (String.ofList (writeObject kvs)) =
      byte '\x7b' ::
        (joinedBytes true (kvs.map member) ++ [byte '\x7d']) := by
  have hMembers :
      writeObject kvs =
        '\x7b' :: [','].intercalate (kvs.map member) ++
          ['\x7d'] :=
    rfl
  rw [hMembers, ← joined_eq_intercalate, List.cons_append,
    utf8_ofList_cons, utf8_ofList_append]
  rfl

/- There is a byte for each member, and one for the end. -/
theorem length_lt_members
    (kvs : List (String × List Char))
    (rest : List UInt8) :
    kvs.length <
      (joinedBytes true (kvs.map member) ++
        byte '\x7d' :: rest).length := by
  have hNonempty :
      ∀ cs ∈ kvs.map member, utf8 (String.ofList cs) ≠ [] := by
    rw [List.forall_mem_map]
    intro kv _
    rw [utf8_member]
    exact List.cons_ne_nil _ _
  have hLength := length_le_joinedBytes hNonempty true
  rw [List.length_map] at hLength
  rw [List.length_append, List.length_cons]
  omega

/- An object goes on where a key stands. -/
theorem nextKey_of_quote
    (first : Bool)
    (s : List UInt8) :
    nextKey first
        ((if first then [] else [byte ',']) ++ byte '"' :: s) =
      .ok (true, byte '"' :: s) := by
  have hQuote : isBlank (byte '"') = false := by
    decide
  cases first with
  | true =>
      change nextKey true (byte '"' :: s) = _
      rw [nextKey, andThen_of_ok (token_cons hQuote s)]
      rfl
  | false =>
      change nextKey false (byte ',' :: byte '"' :: s) = _
      have hComma : isBlank (byte ',') = false := by
        decide
      have hOther :
          byte ',' ≠ byte '\x7d' := by
        decide
      rw [nextKey, andThen_of_ok (token_cons hComma _)]
      simp only [if_neg hOther, Bool.false_eq_true, if_false,
        if_true]
      rw [andThen_of_ok (advance_cons _ _),
        andThen_of_ok (token_cons hQuote s)]
      rfl

theorem nextKey_of_end
    (first : Bool)
    (rest : List UInt8) :
    nextKey first (byte '\x7d' :: rest) =
      .ok (false, byte '\x7d' :: rest) := by
  have hEnd : isBlank (byte '\x7d') = false := by
    decide
  rw [nextKey, andThen_of_ok (token_cons hEnd rest)]
  rfl

/- A key is read up to its colon. -/
theorem key_memberTail
    (kv : String × List Char)
    (s : List UInt8) :
    key (byte '"' :: (memberTail kv ++ s)) =
      .ok (kv.1, byte ':' :: (utf8 (String.ofList kv.2) ++ s)) := by
  rw [key, andThen_of_ok (advance_cons _ _), memberTail,
    List.append_assoc]
  exact string_of_written kv.1 _

theorem colon_cons
    (s : List UInt8) :
    colon (byte ':' :: s) = .ok ((), s) :=
  rfl

/- Members separated by commas are read one after the other. -/
theorem pairs_joinedBytes
    (hWrites : ∀ e ∈ es, Writes read (write e.2) (value e.2))
    {rounds : List UInt8}
    (hRounds : es.length < rounds.length)
    (first : Bool) :
    pairs read rounds first
        (joinedBytes first
            ((es.map fun e => (e.1, write e.2)).map member) ++
          byte '\x7d' :: rest) =
      .ok (es.map fun e => (e.1, value e.2),
        byte '\x7d' :: rest) := by
  induction es generalizing rounds first with
  | nil =>
      cases rounds with
      | nil =>
          cases hRounds
      | cons _ rounds =>
          rw [List.map_nil, List.map_nil, joinedBytes_nil,
            List.nil_append, pairs,
            andThen_of_ok (nextKey_of_end first rest)]
          rfl
  | cons e es ih =>
      cases rounds with
      | nil =>
          cases hRounds
      | cons _ rounds =>
          rw [List.forall_mem_cons] at hWrites
          have hFewer : es.length < rounds.length :=
            Nat.lt_of_succ_lt_succ hRounds
          have hValue :=
            hWrites.1.read_append _
              (closes_joinedBytes
                ((es.map fun e => (e.1, write e.2)).map member)
                (.inr rfl) rest)
          rw [List.map_cons, List.map_cons, joinedBytes_cons,
            utf8_member, List.append_assoc, List.append_assoc,
            List.cons_append, pairs,
            andThen_of_ok (nextKey_of_quote first _), if_pos rfl,
            andThen_of_ok (key_memberTail _ _),
            andThen_of_ok (colon_cons _), andThen_of_ok hValue,
            andThen_of_ok (ih hWrites.2 hFewer false)]
          rfl

/- Maps are read back if their values are. -/
theorem writes_entries
    (hWrites : ∀ e ∈ es, Writes read (write e.2) (value e.2)) :
    Writes (entries read)
      (writeObject (es.map fun e => (e.1, write e.2)))
      (es.map fun e => (e.1, value e.2)) := by
  refine ⟨⟨_, _, utf8_writeObject _, by decide⟩, ?_⟩
  intro rest _
  have hOpen : isBlank (byte '\x7b') = false := by
    decide
  have hEnd : endObject (byte '\x7d' :: rest) = .ok ((), rest) :=
    rfl
  have hLength :=
    length_lt_members (es.map fun e => (e.1, write e.2)) rest
  rw [List.length_map] at hLength
  rw [utf8_writeObject, List.cons_append, List.append_assoc,
    entries, dispatch_cons hOpen (if_pos rfl)]
  apply bracketed_of_ok _ hEnd
  exact pairs_joinedBytes hWrites hLength true

end Json

end EmojiQuery

------------------------------------------------------------
-- Written Structures
------------------------------------------------------------

namespace EmojiQuery

namespace Json

variable {σ α : Type}
variable {fs : List (Field σ)}
variable {d d' : σ}
variable {kvs : List (String × List Char)}
variable {rest : List UInt8}

/-
  Written fields fill a draft: each of them is a field that the
  draft does not have yet, and writes its value.
-/
inductive Fills
    (fs : List (Field σ)) :
    σ → List (String × List Char) → σ → Prop
| nil (d : σ) : Fills fs d [] d
| cons
    {d next d' : σ}
    {f : Field σ}
    {kv : String × List Char}
    {kvs : List (String × List Char)}
    (hField : (fs.find? fun f => f.name = kv.1) = some f)
    (hNew : f.isSet d = false)
    (hWrites : Writes (f.read d) kv.2 next)
    (hRest : Fills fs next kvs d') :
    Fills fs d (kv :: kvs) d'

/- Fields separated by commas are read into the draft. -/
theorem objectFields_joinedBytes
    (hFills : Fills fs d kvs d')
    {rounds : List UInt8}
    (hRounds : kvs.length < rounds.length)
    (first : Bool) :
    objectFields fs rounds first d
        (joinedBytes first (kvs.map member) ++
          byte '\x7d' :: rest) =
      .ok (d', byte '\x7d' :: rest) := by
  induction hFills generalizing rounds first with
  | nil d =>
      cases rounds with
      | nil =>
          cases hRounds
      | cons _ rounds =>
          rw [List.map_nil, joinedBytes_nil, List.nil_append,
            objectFields,
            andThen_of_ok (nextKey_of_end first rest)]
          rfl
  | @cons d next d' f kv kvs hField hNew hWrites hRest ih =>
      cases rounds with
      | nil =>
          cases hRounds
      | cons _ rounds =>
          have hFewer : kvs.length < rounds.length :=
            Nat.lt_of_succ_lt_succ hRounds
          have hValue :=
            hWrites.read_append _
              (closes_joinedBytes (kvs.map member) (.inr rfl) rest)
          rw [List.map_cons, joinedBytes_cons, utf8_member,
            List.append_assoc, List.append_assoc,
            List.cons_append, objectFields,
            andThen_of_ok (nextKey_of_quote first _), if_pos rfl,
            andThen_of_ok (key_memberTail _ _)]
          simp only [hField, hNew, Bool.false_eq_true, if_false]
          rw [andThen_of_ok (colon_cons _), andThen_of_ok hValue]
          exact ih hFewer false

/- Structures are read back if their fields fill a whole draft. -/
theorem writes_fields
    (hFills : Fills fs d kvs d')
    {finish : σ → Option α}
    {a : α}
    (hFinish : finish d' = some a) :
    Writes (fields fs d finish) (writeObject kvs) a := by
  refine ⟨⟨_, _, utf8_writeObject _, by decide⟩, ?_⟩
  intro rest _
  have hOpen : isBlank (byte '\x7b') = false := by
    decide
  have hOther : byte '\x7b' ≠ byte '[' := by
    decide
  have hEnd : endObject (byte '\x7d' :: rest) = .ok ((), rest) :=
    rfl
  have hObject :
      ∀ rounds : List UInt8, kvs.length < rounds.length →
        objectFields fs rounds true d
            (joinedBytes true (kvs.map member) ++
              byte '\x7d' :: rest) =
          .ok (d', byte '\x7d' :: rest) :=
    fun _ hRounds => objectFields_joinedBytes hFills hRounds true
  have hGet :
      ∀ s, (get : Reader (List UInt8)) s = .ok (s, s) :=
    fun _ => rfl
  rw [utf8_writeObject, List.cons_append, List.append_assoc,
    fields]
  simp only
  rw [dispatch_cons hOpen
      ((if_neg hOther).trans (if_pos rfl)),
    andThen_of_ok (advance_cons _ _), andThen_of_ok (hGet _),
    List.singleton_append,
    andThen_of_ok (hObject _ (length_lt_members kvs rest))]
  simp only [hFinish]
  rfl

end Json

end EmojiQuery
