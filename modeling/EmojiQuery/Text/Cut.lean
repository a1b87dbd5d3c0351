/-
  This file splits text at the first occurrence of a
  separator.

  Key definitions include:
    * `cut?`

  The main lemma is `append_of_cut?`.
-/

namespace EmojiQuery

/- What stands before and after the first occurrence of a separator. -/
def cut?
    (sep : List Char) :
    List Char → Option (List Char × List Char)
| [] => none
| c :: cs =>
    if sep.isPrefixOf (c :: cs) then
      some ([], (c :: cs).drop sep.length)
    else
      (cut? sep cs).map fun (before, after) => (c :: before, after)

/- The parts and the separator make up the text. -/
theorem append_of_cut?
    {sep s before after : List Char}
    (h : cut? sep s = some (before, after)) :
    s = before ++ sep ++ after := by
  induction s generalizing before with
  | nil =>
      simp [cut?] at h
  | cons c cs ih =>
      rw [cut?] at h
      split at h
      · next hp =>
          obtain ⟨t, ht⟩ := List.isPrefixOf_iff_prefix.1 hp
          simp only [Option.some.injEq, Prod.mk.injEq] at h
          obtain ⟨rfl, rfl⟩ := h
          rw [← ht]
          simp
      · simp only [Option.map_eq_some_iff, Prod.mk.injEq] at h
        obtain ⟨⟨b, a⟩, hc, rfl, rfl⟩ := h
        simp [ih hc]

end EmojiQuery
