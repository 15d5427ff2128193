import Mathlib.Data.List.Perm.Basic
import ScriptArena.Proofs.Progress.Copies
import ScriptArena.Proofs.Progress.HighScores
import ScriptArena.Proofs.Value.Distinct

namespace ScriptArena.Progress

def Store.perform (c : Call) (s : Store) : Store :=
  match c with
  | .write (.highScore user score) => s.setHighScore user score
  | .write (.challenge user id) => s.addCompleted user id
  | .get _ | .edit _ => s

theorem Store.get_perform (c : Call) (user : String) (s : Store) :
    (s.perform c).get user = c.apply (s.get user) := by
  cases c with
  | get | edit => rfl
  | write w =>
    have put : s.perform (.write w) = s.put (w.apply (s.get w.user)) := by cases w <;> rfl
    rw [put, get_put_apply, Call.apply, get_user]
    simp only [eq_comm]

def Store.run (calls : List Call) : Store := calls.foldl (fun s c => s.perform c) {}

def Call.write? : Call → Option Write
  | .write w => some w
  | .get _ | .edit _ => none

def Write.id? (user : String) : Write → Option String
  | .challenge name id => if name = user then some id else none
  | .highScore .. => none

def scoresOf (user : String) (calls : List Call) : List Int :=
  (calls.filterMap Call.write?).filterMap (Write.score? user)

def idsOf (user : String) (calls : List Call) : List String :=
  (calls.filterMap Call.write?).filterMap (Write.id? user)

def told (user : String) (calls : List Call) : Record :=
  ⟨user, (scoresOf user calls).foldl max 0, (idsOf user calls).eraseDups⟩

variable {calls : List Call} {c : Call} {w : Write} {user : String}

theorem scoresOf_write (user : String) (calls : List Call) (w : Write) :
    scoresOf user (calls ++ [.write w]) = scoresOf user calls ++ (w.score? user).toList := by
  cases found : w.score? user <;> simp [scoresOf, Call.write?, found]

theorem idsOf_write (user : String) (calls : List Call) (w : Write) :
    idsOf user (calls ++ [.write w]) = idsOf user calls ++ (w.id? user).toList := by
  cases found : w.id? user <;> simp [idsOf, Call.write?, found]

theorem told_write (user : String) (calls : List Call) (w : Write) :
    told user (calls ++ [.write w]) =
      if user = w.user then w.apply (told user calls) else told user calls := by
  rw [told, scoresOf_write, idsOf_write]
  cases w with
  | highScore name score =>
    simp only [Write.score?, Write.id?, Write.user, Write.apply, Option.toList_none, List.append_nil]
    by_cases same : name = user
    · simp [same, told, Record.raise, List.foldl_append]
    · simp [same, Ne.symm same, told]
  | challenge name id =>
    simp only [Write.score?, Write.id?, Write.user, Write.apply, Option.toList_none, List.append_nil]
    by_cases same : name = user
    · simp only [same, if_true, Option.toList_some, eraseDups_concat]
      split
      · rename_i known
        exact (Record.complete_of_mem (List.mem_eraseDups.mpr known)).symm
      · rename_i new
        simp [told, Record.complete, new]
    · simp [same, Ne.symm same, told]

theorem told_quiet (user : String) (calls : List Call) (quiet : c.write? = none) :
    told user (calls ++ [c]) = told user calls := by
  have same : (calls ++ [c]).filterMap Call.write? = calls.filterMap Call.write? := by simp [quiet]
  simp only [told, scoresOf, idsOf, same]

theorem told_concat (user : String) (calls : List Call) (c : Call) :
    told user (calls ++ [c]) = c.apply (told user calls) := by
  cases c with
  | get | edit => exact told_quiet user calls rfl
  | write w => exact told_write user calls w

-- A write that has been made has nothing left to do.
theorem apply_told (made : .write w ∈ calls) : w.apply (told w.user calls) = told w.user calls := by
  have inside : w ∈ calls.filterMap Call.write? := List.mem_filterMap.mpr ⟨_, made, rfl⟩
  cases w with
  | highScore user score =>
    have given : score ∈ scoresOf user calls := List.mem_filterMap.mpr ⟨_, inside, if_pos rfl⟩
    have below := mem_le_foldl_max given 0
    simp only [Write.apply, Write.user, Record.raise, told, Int.max_eq_left below]
  | challenge user id =>
    have given : id ∈ idsOf user calls := List.mem_filterMap.mpr ⟨_, inside, if_pos rfl⟩
    exact Record.complete_of_mem (List.mem_eraseDups.mpr given)

theorem Call.apply_other {r : Record} (other : c.user? ≠ some r.user) : c.apply r = r := by
  cases c with
  | get | edit => rfl
  | write w =>
    have differs : r.user ≠ w.user := fun same => other (congrArg some same.symm)
    exact if_neg differs

theorem Call.apply_user (c : Call) (r : Record) : (c.apply r).user = r.user := by
  cases c with
  | get | edit => rfl
  | write w =>
    rw [apply]
    split
    · exact w.apply_user r
    · rfl

theorem Call.apply_comm {v w : Write} (other : v.user ≠ w.user) (r : Record) :
    (write v).apply ((write w).apply r) = (write w).apply ((write v).apply r) := by
  by_cases same : r.user = w.user
  · have differs {q : Record} (user : q.user = r.user) : (write v).user? ≠ some q.user :=
      fun hit => other ((Option.some.inj hit).trans (user.trans same))
    rw [apply_other (differs (apply_user _ r)), apply_other (differs rfl)]
  · have differs {q : Record} (user : q.user = r.user) : (write w).user? ≠ some q.user :=
      fun hit => same (user.symm.trans (Option.some.inj hit).symm)
    rw [apply_other (differs rfl), apply_other (differs (apply_user _ r))]

-- Calls that do not name the player tell nothing.
theorem told_named (user : String) (calls : List Call) :
    told user (calls.filter fun c => c.user? = some user) = told user calls := by
  induction calls using List.reverseRecOn with
  | nil => rfl
  | append_singleton calls c ih =>
    rw [List.filter_append, told_concat, ← ih]
    by_cases named : c.user? = some user
    · rw [List.filter_cons_of_pos (by simpa using named), List.filter_nil, told_concat]
    · rw [List.filter_cons_of_neg (by simpa using named), List.filter_nil, List.append_nil]
      exact (Call.apply_other named).symm

namespace Memory

theorem run_stored (calls : List Call) (user : String) : (run calls).stored user = told user calls := by
  induction calls using List.reverseRecOn with
  | nil => rfl
  | append_singleton calls c ih =>
    rw [run_concat, (performs (run_apart calls) c).stored, ih, told_concat]

-- Callers can do no more than the store that runs lets them.
theorem run_store (calls : List Call) (user : String) :
    (Store.run calls).get user = (run calls).stored user := by
  induction calls using List.reverseRecOn with
  | nil => rfl
  | append_singleton calls c ih =>
    rw [run_concat, (performs (run_apart calls) c).stored, ← ih, Store.run, List.foldl_concat,
      Store.get_perform]
    rfl

theorem run_entries (calls : List Call) (user : String) :
    ((run calls).shelf.lookup user).isSome = true ↔ ∃ c ∈ calls, c.user? = some user := by
  induction calls using List.reverseRecOn with
  | nil => simp [run]
  | append_singleton calls c ih =>
    rw [run_concat, (performs (run_apart calls) c).entries, Bool.or_eq_true, ih]
    simp [or_and_right, exists_or]

theorem run_repeat (made : .write w ∈ calls) : (run calls).perform (.write w) = run calls := by
  refine perform_same (run_apart calls) ((run_entries calls w.user).mpr ⟨_, made, rfl⟩) ?_
  rw [run_stored, apply_told made]

theorem told_swap {v w : Write} (other : v.user ≠ w.user) (calls after : List Call) (user : String) :
    told user (calls ++ .write v :: .write w :: after) =
      told user (calls ++ .write w :: .write v :: after) := by
  induction after using List.reverseRecOn with
  | nil =>
    have split (v w : Write) : calls ++ [.write v, .write w] = calls ++ [.write v] ++ [.write w] := by
      simp
    rw [split, split, told_concat, told_concat, told_concat, told_concat, Call.apply_comm other.symm]
  | append_singleton after c ih =>
    have split (v w : Write) : calls ++ .write v :: .write w :: (after ++ [c]) =
        calls ++ .write v :: .write w :: after ++ [c] := by simp
    rw [split, split, told_concat, told_concat, ih]

-- What a sequence of calls leaves.
structure Exact (calls : List Call) : Prop where
  records : ∀ user, (run calls).stored user = told user calls
  store : ∀ user, (Store.run calls).get user = (run calls).stored user
  answers : ∀ user, ((run calls).get user).2.recordAt ((run calls).get user).1 = told user calls
  entries : ∀ user, ((run calls).shelf.lookup user).isSome = true ↔ ∃ c ∈ calls, c.user? = some user
  alone : ∀ user, (run calls).stored user =
    (run (calls.filter fun c => c.user? = some user)).stored user
  once : ∀ user, ((run calls).stored user).completed.Nodup ∧
    ∀ id, id ∈ ((run calls).stored user).completed ↔ id ∈ idsOf user calls
  ordered : ∀ user, ((run calls).stored user).completed.Pairwise fun a b =>
    (idsOf user calls).idxOf a < (idsOf user calls).idxOf b
  repeats : ∀ w, .write w ∈ calls → run (calls ++ [.write w]) = run calls
  commutes : ∀ v w, v.user ≠ w.user → ∀ after user,
    (run (calls ++ .write v :: .write w :: after)).stored user =
      (run (calls ++ .write w :: .write v :: after)).stored user
  unordered : ∀ others user, (scoresOf user calls).Perm (scoresOf user others) →
    ((run calls).stored user).highScore = ((run others).stored user).highScore

theorem calls_exact (calls : List Call) : Exact calls where
  records := run_stored calls
  store := run_store calls
  answers user := (recordAt_get (run_apart calls) user).trans (run_stored calls user)
  entries := run_entries calls
  alone user := by rw [run_stored, run_stored, told_named]
  once user := by
    rw [run_stored]
    exact ⟨nodup_eraseDups (idsOf user calls), fun id => List.mem_eraseDups⟩
  ordered user := by
    rw [run_stored]
    exact ordered_eraseDups (idsOf user calls)
  repeats w made := (run_concat calls (.write w)).trans (run_repeat made)
  commutes v w other after user := by rw [run_stored, run_stored, told_swap other]
  unordered others user same := by
    rw [run_stored, run_stored]
    exact same.foldl_eq 0

-- A caller empties the list that it was given and gives itself a score. The stored record stays.
example :
    let m := run [.write (.challenge "ada" "two-sum"), .get "ada", .edit (.rewrite 0 []),
      .edit (.rescore 0 99)]
    m.recordAt 1 = ⟨"ada", 99, []⟩ ∧ m.stored "ada" = ⟨"ada", 0, ["two-sum"]⟩ := by
  decide +kernel

end Memory
end ScriptArena.Progress
