import Mathlib.Data.List.Induction
import Mathlib.Data.List.Nodup

namespace ScriptArena

variable {α : Type} [BEq α] [LawfulBEq α]

theorem eraseDups_concat (items : List α) (x : α) : (items ++ [x]).eraseDups =
    if x ∈ items then items.eraseDups else items.eraseDups ++ [x] := by
  rw [List.eraseDups_append]
  split
  · rename_i known
    simp [List.removeAll, known]
  · rename_i new
    simp [List.removeAll, List.eraseDups_cons, new]

-- Each item stays where it has come first.
theorem ordered_eraseDups (items : List α) :
    items.eraseDups.Pairwise fun a b => items.idxOf a < items.idxOf b := by
  induction items using List.reverseRecOn with
  | nil => exact .nil
  | append_singleton items x ih =>
    have still : ∀ a ∈ items.eraseDups, (items ++ [x]).idxOf a = items.idxOf a :=
      fun a inside => List.idxOf_append_of_mem (List.mem_eraseDups.mp inside)
    have old : items.eraseDups.Pairwise fun a b =>
        (items ++ [x]).idxOf a < (items ++ [x]).idxOf b := by
      refine ih.imp_of_mem fun first second before => ?_
      rwa [still _ first, still _ second]
    rw [eraseDups_concat]
    split
    · exact old
    · rename_i new
      refine List.pairwise_append.mpr ⟨old, List.pairwise_singleton _ _, fun a inside b last => ?_⟩
      cases List.mem_singleton.mp last
      rw [still a inside, List.idxOf_append_of_notMem new]
      have below := List.idxOf_lt_length_of_mem (List.mem_eraseDups.mp inside)
      omega

theorem nodup_eraseDups (items : List α) : items.eraseDups.Nodup := by
  refine (ordered_eraseDups items).imp fun before same => ?_
  rw [same] at before
  exact Nat.lt_irrefl _ before

end ScriptArena
