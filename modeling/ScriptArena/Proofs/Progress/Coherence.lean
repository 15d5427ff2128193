import ScriptArena.Proofs.Progress.Records

namespace ScriptArena.Progress
namespace Tracker

-- Only a player's record is ever read.
def Attended (t : Tracker) : Prop := t.loaded = true → t.progress.isSome

-- What is known of the player is what is stored.
def Current (t : Tracker) : Prop :=
  t.loaded = true → ∃ user, t.user? = some user ∧ t.progress = some (t.link.store.get user)

variable {t u : Tracker}

theorem Attended.frame (attended : t.Attended) (progress : u.progress.isSome = t.progress.isSome)
    (loaded : u.loaded = t.loaded) : u.Attended := by
  intro known
  rw [progress]
  exact attended (loaded ▸ known)

theorem Attended.queues (attended : t.Attended) (queues : t.Queues u) : u.Attended := by
  cases queues with
  | nothing | highScore | challenge => exact attended.frame rfl rfl

theorem Attended.arrive (attended : t.Attended) (w : Write) : (t.wrote w true).Attended :=
  attended.frame (by simp [wrote, serve, confirm]) rfl

theorem attended_kept : Traffic.Kept fun _ t => t.Attended where
  enter _ _ := nofun
  leave _ := nofun
  queue attended queues := attended.queues queues
  ask _ attended := attended.frame rfl rfl
  post attended _ := attended.frame rfl rfl
  miss _ _ attended := attended
  learn _ _ := fun _ => rfl
  lose _ attended := attended
  arrive w attended := attended.arrive w
  equip _ _ _ attended := attended.frame rfl rfl

theorem Coherent.current (coherent : t.Coherent) (attended : t.Attended) : t.Current := by
  intro known
  obtain ⟨r, signed⟩ := Option.isSome_iff_exists.mp (attended known)
  have same := coherent known r signed
  refine ⟨r.user, by simp [user?, signed], ?_⟩
  rw [signed, ← same]

end Tracker

namespace Traffic

theorem attended_run (l : Link) {moves : List Move} (own : ∀ m ∈ moves, m.isOwn) :
    (run moves (.ofLink l)).1.tracker.Attended :=
  @holds_run (fun _ t => t.Attended) l moves nofun fun m inside =>
    Tracker.attended_kept.keeps_step (own m inside)

-- At every moment, while requests are on their way and between any two orders.
theorem current_always (l : Link) :
    (∀ moves, (∀ m ∈ moves, m.isOwn) → (run moves (.ofLink l)).1.tracker.Current) ∧
      ∀ orders : List Order, (orders.foldl Tracker.obey { link := l }).Current := by
  have moving : ∀ moves, (∀ m ∈ moves, m.isOwn) → (run moves (.ofLink l)).1.tracker.Current :=
    fun _ own => (Beating.run l own).coherent.current (attended_run l own)
  refine ⟨moving, fun orders => ?_⟩
  obtain ⟨moves, own, ended⟩ := Tracker.orders_reach orders { link := l } []
  have current := moving moves own
  rwa [ofLink, ended] at current

-- The player signs in once more while a high score is on its way; a challenge is never sent, and the
-- next one does not arrive.
def secondEntry : List Order :=
  [.signIn "ada", .offer 50, .award { id := "sum" } .initial,
    .equip true true [(.set, [.signIn "ada"]), (.add, [.reach true false])], .flush,
    .award { id := "loop" } .initial, .flush]

theorem secondEntry_current :
    (secondEntry.foldl Tracker.obey {}).loaded = true ∧
      (secondEntry.foldl Tracker.obey {}).link.requests =
        [.get "ada", .set "ada" 50, .get "ada", .add "ada" "loop"] ∧
      ∃ user, (secondEntry.foldl Tracker.obey {}).user? = some user ∧
        (secondEntry.foldl Tracker.obey {}).progress =
          some ((secondEntry.foldl Tracker.obey {}).link.store.get user) ∧
        (secondEntry.foldl Tracker.obey {}).progress = some { user, highScore := 50 } := by
  have known : (secondEntry.foldl Tracker.obey {}).loaded = true := by decide +kernel
  have signed : (secondEntry.foldl Tracker.obey {}).user? = some "ada" := by decide +kernel
  obtain ⟨user, named, same⟩ := (current_always {}).2 secondEntry known
  refine ⟨known, by decide +kernel, user, named, same, ?_⟩
  rw [signed] at named
  cases named
  decide +kernel

end Traffic
end ScriptArena.Progress
