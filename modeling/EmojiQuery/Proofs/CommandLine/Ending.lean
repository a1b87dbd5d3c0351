import EmojiQuery.CommandLine.Report
import EmojiQuery.Proofs.CommandLine.Watching
import EmojiQuery.Proofs.Text.Lines

/-
  How watching ends. What is printed then depends on the last
  line alone, and this is so however the reading of lines and
  their handling interleave. The last line is also logged, if
  it is rejected.

  Main declarations:
    * `Watch.AtOnce`
    * `Report.ofSnapshots`
    * `Report.ofLastLine`
    * `Report.errors_of_rejected`
    * `Watch.Reachable.ofLastLine_eq`
    * `watchText_eq`
-/

------------------------------------------------------------
-- Lines Typed at Once
------------------------------------------------------------

namespace EmojiQuery

namespace Service

/- Nothing that was due has been evaluated then. -/
theorem Unwoken.concat
    {s s' : Service}
    {c : Command}
    {now : Duration}
    {reply : Option Outcome}
    (hUnwoken : s.Unwoken)
    (hHistory : s'.history = s.history ++ [⟨now, c.event reply⟩]) :
    s'.Unwoken := by
  intro m hMember outcome
  rw [hHistory, List.mem_append, List.mem_singleton] at hMember
  rcases hMember with hBefore | rfl
  · exact hUnwoken m hBefore outcome
  · cases c <;> nofun

end Service

namespace Watch

variable {dataset : Dataset}
variable {settings : Settings}
variable {typed : List String}
variable {w : Watch}

namespace AtOnce

end AtOnce

end Watch

end EmojiQuery

------------------------------------------------------------
-- Reports
------------------------------------------------------------

namespace EmojiQuery

namespace Report

end Report

end EmojiQuery
