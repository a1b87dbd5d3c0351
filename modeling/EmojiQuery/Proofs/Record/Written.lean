import EmojiQuery.Proofs.Json.Nested
import EmojiQuery.Record.Json

/-
  Records that were written as JSON are read back: all but
  their numbers as they were, and their numbers as what is read
  from the texts of these.

  Main declarations:
    * `Scores.mapValues`
    * `Scores.ofList_entries`
    * `Record.numbers`
    * `Record.mapNumbers`
    * `Record.writes_reader`
-/

------------------------------------------------------------
-- Scores
------------------------------------------------------------

namespace EmojiQuery

namespace Scores

variable {es : List (String × Binary64)}

/- Change every score, under the same keys in the same order. -/
def mapValues
    (f : Binary64 → Binary64)
    (s : Scores) : Scores where
  entries := s.entries.map fun e => (e.1, f e.2)
  nodup_keys := by
    rw [List.map_map]
    exact s.nodup_keys

/- A score under a new key comes last. -/
theorem put_of_not_mem
    {key : String}
    (hNew : key ∉ es.map Prod.fst)
    (score : Binary64) :
    put key score es = es ++ [(key, score)] := by
  induction es with
  | nil =>
      rfl
  | cons e es ih =>
      rw [List.map_cons, List.mem_cons, not_or] at hNew
      rw [put, if_neg (Ne.symm hNew.1), ih hNew.2,
        List.cons_append]

/- Entries with different keys are all kept, in their order. -/
theorem entries_ofList
    (hNodup : (es.map Prod.fst).Nodup) :
    (ofList es).entries = es := by
  -- The keys put in so far are carried along, each new to them.
  have hFold :
      ∀ (es : List (String × Binary64)) (s : Scores),
        ((s.entries ++ es).map Prod.fst).Nodup →
          (es.foldl (fun s e => s.insert e.1 e.2) s).entries =
            s.entries ++ es := by
    intro es
    induction es with
    | nil =>
        intro s _
        exact (List.append_nil _).symm
    | cons e es ih =>
        intro s hKeys
        have hNew : e.1 ∉ s.entries.map Prod.fst := by
          rw [List.map_append, List.map_cons] at hKeys
          intro hOld
          exact (List.nodup_append.mp hKeys).2.2 _ hOld _
            List.mem_cons_self rfl
        have hInsert :
            (s.insert e.1 e.2).entries = s.entries ++ [e] :=
          put_of_not_mem hNew e.2
        have hSplit :
            s.entries ++ [e] ++ es = s.entries ++ e :: es := by
          rw [List.append_assoc, List.singleton_append]
        rw [List.foldl_cons, ih, hInsert, hSplit]
        rwa [hInsert, hSplit]
  exact hFold es empty hNodup

/- A map is made of its own entries. -/
theorem ofList_entries
    (s : Scores) :
    ofList s.entries = s := by
  have hEntries := entries_ofList s.nodup_keys
  cases h : ofList s.entries with
  | mk es hNodup =>
      cases s with
      | mk es' hNodup' =>
          rw [h] at hEntries
          simp only at hEntries
          subst hEntries
          rfl

end Scores

end EmojiQuery

------------------------------------------------------------
-- Records
------------------------------------------------------------

namespace EmojiQuery

namespace Record

variable {r : Record}

/- The version of a record and its scores. -/
def numbers
    (r : Record) : List Binary64 :=
  r.version ::
    r.scores.elim [] fun s => s.entries.map Prod.snd

/- Change the version and every score. -/
def mapNumbers
    (f : Binary64 → Binary64)
    (r : Record) : Record :=
  { r with
    version := f r.version
    scores := r.scores.map (Scores.mapValues f) }

/- Scores are read back, under the same keys. -/
theorem writes_scoresReader
    {s : Scores}
    (hFinite : ∀ e ∈ s.entries, e.2.isFinite = true) :
    Json.Writes scoresReader (scoresJson s)
      (s.mapValues Json.reread) := by
  have hEntries :
      Json.Writes (Json.entries Json.binary64) (scoresJson s)
        (s.mapValues Json.reread).entries :=
    Json.writes_entries fun e hMember =>
      Json.writes_binary64 (hFinite e hMember)
  have hScores := hEntries.map Scores.ofList
  rwa [Scores.ofList_entries] at hScores

/- Code points and levels are read back. -/
theorem writes_codepoints
    (cs : List UInt32) :
    Json.Writes (Json.list codepointReader)
      (Json.writeList (cs.map fun c => Json.writeNat c.toNat))
      cs := by
  have hOne :
      ∀ c ∈ cs, Json.Writes codepointReader
        (Json.writeNat c.toNat) (id c) := by
    intro c _
    have hBound : c.toNat < UInt32.size :=
      c.toNat_lt
    have hFits : c.toNat < UInt64.size :=
      Nat.lt_trans hBound (by decide)
    have hNatural :=
      (Json.writes_natural hBound hFits).map
        fun n => UInt32.ofNat n
    rwa [UInt32.ofNat_toNat] at hNatural
  have hList := Json.writes_list hOne
  rwa [List.map_id] at hList

theorem writes_levels
    (ls : List Level) :
    Json.Writes (Json.list Json.int64)
      (Json.writeList (ls.map Level.text)) ls := by
  have hOne :
      ∀ l ∈ ls, Json.Writes Json.int64 (Level.text l) (id l) :=
    fun l _ => Json.writes_int64 l
  have hList := Json.writes_list hOne
  rwa [List.map_id] at hList

/-
  The fields that every record has are read into a draft, to
  which only the scores are still to be added.
-/
theorem fills_written
    (r : Record)
    (hFinite : r.version.isFinite = true)
    {kvs : List (String × List Char)}
    {d : Draft}
    (hScores :
      Json.Fills fields
        ⟨some r.codepoints, some r.levels,
          some (Json.reread r.version), some r.notes, none⟩ kvs d) :
    Json.Fills fields Draft.empty
      ([("codepoints",
          Json.writeList
            (r.codepoints.map fun c => Json.writeNat c.toNat)),
        ("api_support", Json.writeList (r.levels.map Level.text)),
        ("emoji_level", Json.writeReal r.version),
        ("notes", Json.writeString r.notes)] ++ kvs) d := by
  apply Json.Fills.cons rfl rfl
    ((writes_codepoints r.codepoints).andThen_pure _)
  apply Json.Fills.cons rfl rfl
    ((writes_levels r.levels).andThen_pure _)
  apply Json.Fills.cons rfl rfl
    ((Json.writes_binary64 hFinite).andThen_pure _)
  exact Json.Fills.cons rfl rfl
    ((Json.writes_text r.notes).andThen_pure _) hScores

/- Records are read back, with their numbers as these are read. -/
theorem writes_reader
    (hFinite : ∀ x ∈ r.numbers, x.isFinite = true) :
    Json.Writes reader r.json (r.mapNumbers Json.reread) := by
  rw [numbers, List.forall_mem_cons] at hFinite
  unfold json
  cases hCase : r.scores with
  | none =>
      apply Json.writes_fields
        (fills_written r hFinite.1 (Json.Fills.nil _))
      simp [Draft.finish, mapNumbers, hCase]
  | some s =>
      have hValues : ∀ e ∈ s.entries, e.2.isFinite = true := by
        intro e hMember
        apply hFinite.2
        rw [hCase]
        exact List.mem_map_of_mem hMember
      have hScores :
          Json.Fills fields
            ⟨some r.codepoints, some r.levels,
              some (Json.reread r.version), some r.notes, none⟩
            [("diffs", scoresJson s)]
            ⟨some r.codepoints, some r.levels,
              some (Json.reread r.version), some r.notes,
              some (some (s.mapValues Json.reread))⟩ :=
        .cons rfl rfl
          ((writes_scoresReader hValues).nullable.andThen_pure _)
          (.nil _)
      apply Json.writes_fields (fills_written r hFinite.1 hScores)
      simp [Draft.finish, mapNumbers, hCase]

end Record

end EmojiQuery
