import ScriptArena.Proofs.Arena.Changes

namespace ScriptArena.Arena

-- Commands to an engine, one at a time.
def Command.isSingle : Command → Bool
  | .ticks _ | .set _ => false
  | _ => true

namespace Engine
open State

-- The notices about a state that all listeners get.
def noticesOf (e : Engine) : List Notice := e.listeners.map (⟨·, e.version, e.state.mode⟩)

-- The game loop stops listening by itself only.
inductive Told (e f : Engine) : Prop where
  | nothing (state : f.state = e.state) (version : f.version = e.version) (epoch : f.epoch = e.epoch)
      (listens : .loop ∈ e.listeners → .loop ∈ f.listeners) (notices : f.notices = e.notices)
  | change (listeners : f.listeners = e.listeners) (version : f.version = e.version + 1)
      (epoch : f.epoch = e.epoch ∧ countsDown f.state = countsDown e.state ∨ e.epoch < f.epoch)
      (notices : f.notices = e.notices ++ f.noticesOf)

variable {e f : Engine} {s : State}

theorem Told.unchanged (e : Engine) : Told e e := .nothing rfl rfl rfl id rfl

theorem Told.epoch_le (told : Told e f) : e.epoch ≤ f.epoch := by
  cases told with
  | nothing _ _ epoch => exact Nat.le_of_eq epoch.symm
  | change _ _ epoch =>
    rcases epoch with ⟨same, -⟩ | later
    · exact Nat.le_of_eq same.symm
    · exact Nat.le_of_lt later

-- A countdown cannot begin or end unnoticed.
theorem Told.countsDown (told : Told e f) (epoch : f.epoch = e.epoch) :
    countsDown f.state = countsDown e.state := by
  cases told with
  | nothing state => rw [state]
  | change _ _ step =>
    rcases step with ⟨-, same⟩ | later
    · exact same
    · omega

theorem Told.state (told : Told e f) (version : f.version = e.version) : f.state = e.state := by
  cases told with
  | nothing state => exact state
  | change _ more => omega

theorem Told.listens (told : Told e f) (listens : .loop ∈ e.listeners) : .loop ∈ f.listeners := by
  cases told with
  | nothing _ _ _ still => exact still listens
  | change same => exact same ▸ listens

theorem enter_epoch (e : Engine) (s : State) (peak : Option Int) :
    (e.enter s peak).epoch = if countsDown s = countsDown e.state then e.epoch else e.epoch + 1 := by
  unfold enter
  dsimp only
  split
  · rfl
  · rfl

theorem enter_notices (e : Engine) (s : State) (peak : Option Int) :
    (e.enter s peak).state = s ∧ (e.enter s peak).listeners = e.listeners ∧
      (e.enter s peak).version = e.version + 1 ∧
      (e.enter s peak).notices = e.notices ++ (e.enter s peak).noticesOf := by
  unfold enter
  dsimp only
  split
  · exact ⟨rfl, rfl, rfl, rfl⟩
  · exact ⟨rfl, rfl, rfl, rfl⟩

-- What else has been noted down before the state is entered is of no account.
theorem told_enter (state : f.state = e.state) (version : f.version = e.version)
    (epoch : e.epoch ≤ f.epoch) (listeners : f.listeners = e.listeners)
    (notices : f.notices = e.notices) (s : State) (peak : Option Int) :
    Told e (f.enter s peak) := by
  obtain ⟨now, heard, later, added⟩ := enter_notices f s peak
  refine .change (heard.trans listeners) (later.trans (by rw [version])) ?_ (notices ▸ added)
  rw [now, enter_epoch, state]
  split
  · rename_i same
    rcases Nat.lt_or_eq_of_le epoch with grown | still
    · exact .inr grown
    · exact .inl ⟨still.symm, same⟩
  · exact .inr (Nat.lt_succ_of_le epoch)

theorem told_commit (e : Engine) (change : Option State) : Told e (e.commit change) := by
  cases change with
  | none => exact .unchanged e
  | some s => exact told_enter rfl rfl (Nat.le_refl _) rfl rfl s none

theorem told_tick (e : Engine) : Told e e.tick.2 := by
  obtain same | ⟨s, event, source, -, entered⟩ := tick_enters e
  · rw [same]
    exact .unchanged e
  · rw [entered]
    exact told_enter (by rfl) (by rfl) (by exact Nat.le_refl _) (by rfl) (by rfl) _ _

theorem told_judged (ch : Challenge) (verdicts : List Verdict) (e : Engine) :
    Told e (e.judged ch verdicts) := by
  by_cases solved : isSolvedBy verdicts = true
  · rw [judged_solved ch e solved]
    exact told_enter (by rfl) (by rfl) (by exact Nat.le_refl _) (by rfl) (by rfl) _ _
  · rw [judged_failed ch e solved]
    exact told_enter (by rfl) (by rfl) (by exact Nat.le_refl _) (by rfl) (by rfl) _ _

theorem told_submit (source : String) (e : Engine) : Told e (e.submit source).2 := by
  obtain same | ⟨ch, verdicts, -, judged⟩ := submit_judges source e
  · rw [same]
    exact .unchanged e
  · rw [judged]
    exact told_judged ch verdicts e

theorem told_skip (e : Engine) : Told e e.skip.2 := by
  obtain ⟨change, commits, -⟩ := skip_commits e
  rw [commits]
  exact told_commit e change

theorem told_hint (e : Engine) : Told e e.hint.2 := by
  obtain ⟨change, commits, -⟩ := hint_commits e
  rw [commits]
  exact told_commit e change

theorem told_turn (d : Datum) (e : Engine) : Told e (e.turn d).2 := by
  obtain ⟨change, commits, -⟩ := turn_commits d e
  rw [commits]
  exact told_commit e change

-- A countdown that is under way is left for good, even if none is.
theorem told_reset (e : Engine) : Told e e.reset :=
  told_enter (e := e) (f := { e with epoch := e.epoch + 1 }) rfl rfl (Nat.le_succ _) rfl rfl _ none

theorem told_touch (state : f.state = e.state) (version : f.version = e.version)
    (epoch : f.epoch = e.epoch) (listeners : f.listeners = e.listeners)
    (notices : f.notices = e.notices) : Told e f.touch := by
  refine .change listeners ?_ (.inl ⟨epoch, ?_⟩) ?_
  · exact congrArg (· + 1) version
  · exact congrArg Engine.countsDown state
  · exact congrArg (· ++ _) notices

theorem told_signIn (user : String) (e : Engine) : Told e (e.signIn user).2 := by
  unfold signIn
  split
  · exact told_touch (by rfl) (by rfl) (by rfl) (by rfl) (by rfl)
  · exact .nothing rfl rfl rfl id rfl

theorem listens_dismiss {name : String} (listens : .loop ∈ e.listeners) :
    .loop ∈ (e.dismiss name).listeners := by
  have other : Listener.loop ≠ .named name := nofun
  have stays : .loop ∈ e.listeners.reverse.erase (.named name) :=
    (List.mem_erase_of_ne other).mpr (List.mem_reverse.mpr listens)
  exact List.mem_reverse.mpr stays

theorem told_perform {command : Command} (single : command.isSingle) (e : Engine) :
    Told e (e.perform command).2 := by
  cases command with
  | tick => exact replied_engine _ e.tick ▸ told_tick e
  | countdownTick => exact told_commit e _
  | toggle => exact told_commit e _
  | direction d => exact replied_engine _ (e.turn d) ▸ told_turn d e
  | submit source => exact replied_engine _ (e.submit source) ▸ told_submit source e
  | solve => exact replied_engine _ (e.submit _) ▸ told_submit _ e
  | skip => exact replied_engine _ e.skip ▸ told_skip e
  | hint => exact replied_engine _ e.hint ▸ told_hint e
  | reset => exact told_reset e
  | signIn user => exact entered_signIn user e ▸ told_signIn user e
  | signOut => exact told_touch rfl rfl rfl rfl rfl
  | flush | snapshot | look | reach | await => exact .nothing rfl rfl rfl id rfl
  | subscribe name => exact .nothing rfl rfl rfl (List.mem_append_left _) rfl
  | unsubscribe name => exact .nothing rfl rfl rfl listens_dismiss rfl
  | ticks | set => cases single

end Engine
end ScriptArena.Arena
