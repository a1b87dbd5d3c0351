import EmojiQuery.Query.Columns

/-
  This file evaluates queries over lists of records.

  Key definitions include:
    * `Query`
    * `Query.ofClauses`
    * `Query.parse`
    * `Results`
    * `Query.evaluate`
    * `evaluate`
-/

namespace EmojiQuery

/- A query: its predicates, all of which must hold, and its fields. -/
structure Query where
  predicates : List Predicate
  fields : FieldSet
deriving Repr

/- A record that was found, with its place among those searched. -/
structure Match where
  position : Nat
  record : Record
deriving DecidableEq

/- What a query finds: the levels shown and the records. -/
structure Results where
  levels : List Level
  found : List Match
  count : Nat
deriving DecidableEq

namespace Query

/- The query without clauses. -/
def empty : Query :=
  ⟨[], .empty⟩

/- The query of a list of clauses. -/
def ofClauses
    (cs : List Clause) :
    Except SearchError Query := do
  let ps ← cs.mapM Predicate.ofClause
  pure ⟨ps, .ofList (ps.map Predicate.field)⟩

/- The query that a text describes. -/
def parse
    (text : String) :
    Except SearchError Query := do
  ofClauses (← Clause.parse text)

/- Whether the query has no clauses. -/
def isEmpty
    (q : Query) : Bool :=
  q.predicates.isEmpty

/- Whether a record passes all predicates. -/
def accepts
    (q : Query)
    (keys : List String)
    (r : Record) : Bool :=
  q.predicates.all (Predicate.accepts keys r)

/- The records with their places. -/
def candidates
    (rs : List Record) : List Match :=
  rs.zipIdx.map fun (r, i) => ⟨i, r⟩

/-
  Evaluate the query over records, keeping their order. The
  query without clauses finds all of them.
-/
def evaluate
    (q : Query)
    (rs : List Record)
    (range : LevelRange) : Results :=
  let levels := shownLevels range q.predicates
  let found :=
    if q.isEmpty then
      candidates rs
    else
      let keys := scoreKeys levels
      (candidates rs).filter fun m => q.accepts keys m.record
  ⟨levels, found, found.length⟩

end Query

/- Evaluate a list of clauses over records. -/
def evaluate
    (rs : List Record)
    (cs : List Clause)
    (range : LevelRange) :
    Except SearchError Results :=
  (Query.ofClauses cs).map fun q => q.evaluate rs range

end EmojiQuery
