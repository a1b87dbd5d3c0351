import EmojiQuery.Number.Binary64

/-
  This file defines maps from keys to scores. The entries keep
  the order in which their keys came first, and no key stands
  twice.

  Key definitions include:
    * `Scores`
    * `Scores.get?`
    * `Scores.insert`
    * `Scores.ofList`

  The main lemmas are `Scores.get?_eq_some_iff`,
  `Scores.get?_insert_self` and `Scores.get?_insert_of_ne`.
-/

namespace EmojiQuery

/- A map from keys to scores. -/
structure Scores where
  entries : List (String × Binary64)
  nodup_keys : (entries.map Prod.fst).Nodup
deriving DecidableEq

namespace Scores

/- The map without keys. -/
def empty : Scores :=
  ⟨[], by simp⟩

/- The score under a key. -/
def get?
    (s : Scores)
    (key : String) : Option Binary64 :=
  s.entries.lookup key

/- Put a score under a key, in place of an older one. -/
def put
    (key : String)
    (score : Binary64) :
    List (String × Binary64) → List (String × Binary64)
| [] => [(key, score)]
| (k, v) :: rest =>
    if k = key then
      (key, score) :: rest
    else
      (k, v) :: put key score rest

theorem mem_keys_put
    {key k : String}
    {score : Binary64}
    {es : List (String × Binary64)} :
    k ∈ (put key score es).map Prod.fst ↔
      k = key ∨ k ∈ es.map Prod.fst := by
  induction es with
  | nil =>
      simp [put]
  | cons e es ih =>
      obtain ⟨k', v⟩ := e
      by_cases h : k' = key
      · subst h
        simp [put]
      · simp only [put, if_neg h, List.map_cons, List.mem_cons, ih]
        grind

theorem nodup_keys_put
    {key : String}
    {score : Binary64}
    {es : List (String × Binary64)}
    (h : (es.map Prod.fst).Nodup) :
    ((put key score es).map Prod.fst).Nodup := by
  induction es with
  | nil =>
      simp [put]
  | cons e es ih =>
      obtain ⟨k, v⟩ := e
      simp only [List.map_cons, List.nodup_cons] at h
      by_cases hk : k = key
      · subst hk
        simpa [put] using h
      · simp only [put, if_neg hk, List.map_cons, List.nodup_cons]
        refine ⟨?_, ih h.2⟩
        rw [mem_keys_put]
        rintro (hc | hc)
        · exact hk hc
        · exact h.1 hc

/- Put a score under a key, in place of an older one. -/
def insert
    (s : Scores)
    (key : String)
    (score : Binary64) : Scores :=
  ⟨put key score s.entries, nodup_keys_put s.nodup_keys⟩

/- The map of a list of entries; later ones replace earlier ones. -/
def ofList
    (es : List (String × Binary64)) : Scores :=
  es.foldl (fun s e => s.insert e.1 e.2) empty

/- A key finds the entry that it stands in. -/
theorem get?_eq_some_iff
    (s : Scores)
    (key : String)
    (score : Binary64) :
    s.get? key = some score ↔ (key, score) ∈ s.entries := by
  obtain ⟨es, hNodup⟩ := s
  simp only [get?]
  induction es with
  | nil =>
      simp
  | cons e es ih =>
      obtain ⟨k, v⟩ := e
      simp only [List.map_cons, List.nodup_cons] at hNodup
      rw [List.lookup_cons, List.mem_cons, Prod.mk.injEq]
      cases hKey : key == k with
      | true =>
          obtain rfl : key = k := by simpa using hKey
          have hOther : (key, score) ∉ es := fun hMember =>
            hNodup.1 (List.mem_map_of_mem hMember)
          simp [hOther, eq_comm]
      | false =>
          have hOther : key ≠ k := by simpa using hKey
          simp [ih hNodup.2, hOther]

@[simp] theorem get?_insert_self
    (s : Scores)
    (key : String)
    (score : Binary64) :
    (s.insert key score).get? key = some score := by
  obtain ⟨es, hes⟩ := s
  simp only [insert, get?]
  clear hes
  induction es with
  | nil =>
      simp [put]
  | cons e es ih =>
      obtain ⟨k, v⟩ := e
      by_cases h : k = key
      · subst h
        simp [put]
      · have h' : (key == k) = false := by
          simpa using fun hk => h hk.symm
        simp [put, List.lookup_cons, h, h', ih]

@[simp] theorem get?_insert_of_ne
    {s : Scores}
    {key k : String}
    {score : Binary64}
    (h : k ≠ key) :
    (s.insert key score).get? k = s.get? k := by
  obtain ⟨es, hes⟩ := s
  simp only [insert, get?]
  clear hes
  induction es with
  | nil =>
      have h' : (k == key) = false := by
        simpa using h
      simp [put, List.lookup_cons, h']
  | cons e es ih =>
      obtain ⟨k', v⟩ := e
      have h' : (k == key) = false := by
        simpa using h
      by_cases hk : k' = key
      · subst hk
        simp [put, List.lookup_cons, h']
      · simp only [put, if_neg hk, List.lookup_cons, ih]

end Scores

end EmojiQuery
