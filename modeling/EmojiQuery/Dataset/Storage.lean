/-
  This file describes what can be found under a path, and a
  directory of files held in memory.

  Key definitions include:
    * `Entry`
    * `Folder`
    * `Folder.find`
-/

namespace EmojiQuery

/- What is found under a path. -/
inductive Entry where
| absent
| directory
| file (bytes : List UInt8)
deriving DecidableEq, Repr

/-
  A directory in memory: the files below it, by the parts of
  their paths.
-/
structure Folder where
  files : List (List String × List UInt8)
deriving Repr

namespace Folder

/- The parts of a path between its slashes. -/
def parts
    (path : String) : List String :=
  (path.toList.splitOn '/').map String.ofList

/- The directory with files given by their paths. -/
def ofList
    (files : List (String × List UInt8)) : Folder :=
  ⟨files.map fun (path, bytes) => (parts path, bytes)⟩

/- What is found at a place below the directory. -/
def entryAt
    (f : Folder)
    (place : List String) : Entry :=
  match f.files.lookup place with
  | some bytes => .file bytes
  | none =>
      if place.isEmpty ||
          f.files.any fun e => place.isPrefixOf e.1 then
        .directory
      else
        .absent

/-
  Follow the parts of a path from a place, which is stored
  innermost first. Only directories can be entered, and
  nothing is known outside of the whole directory.
-/
def follow
    (f : Folder) :
    List String → List String → Entry
| place, [] => f.entryAt place.reverse
| place, p :: ps =>
    match f.entryAt place.reverse with
    | .directory =>
        if p = "" || p = "." then
          follow f place ps
        else if p = ".." then
          match place with
          | [] => if ps.isEmpty then .directory else .absent
          | _ :: above => follow f above ps
        else
          follow f (p :: place) ps
    | _ => .absent

/- What is found under a path. -/
def find
    (f : Folder)
    (path : String) : Entry :=
  if path.isEmpty then
    .absent
  else if path.startsWith "/" then
    if (parts path).all String.isEmpty then .directory else .absent
  else
    f.follow [] (parts path)

end Folder

end EmojiQuery
