import ScriptArena.Proofs.Arena.Notices
import ScriptArena.Proofs.Progress.Traffic
import ScriptArena.Service.Chat
import ScriptArena.Service.Connections
import ScriptArena.Service.Loop

namespace ScriptArena.Service
open Arena

-- Until something has changed, until the outbox has been sent, or until the sockets that are left
-- have been sent what the game was like then.
inductive Publisher where
  | waiting
  | flushing
  | sending (shot : Snapshot) (rest : List Nat)

structure Stage where
  loop : GameLoop
  publisher : Publisher := .waiting
  flights : List Progress.Flight := []
  connections : Connections := {}

inductive Turn where
  | elapse (span : Time)
  | arena
  -- The countdown timer: from waiting, and from sleeping.
  | arm
  | wake
  -- The publisher: from waiting, from flushing, and from one socket to the next.
  | collect
  | snap
  | send
  -- Somebody calls the engine.
  | order (c : Command) (single : c.isSingle)
  -- A request begins, is answered, or fails. Of a sign-in that has been answered listeners are told.
  | mail (m : Progress.Move)
  | touch
  | connect (s : Socket)
  | disconnect (id : Nat)

def Turn.toggle : Turn := .order .toggle rfl

namespace GameLoop

-- Is the countdown that the timer has slept on still under way?
def Steps (l : GameLoop) : Prop :=
  ∃ epoch due, l.countdown = .sleeping epoch due ∧ due ≤ l.now ∧ l.engine.epoch = epoch

def wake (l : GameLoop) : GameLoop :=
  match l.countdown with
  | .waiting => l
  | .sleeping epoch due =>
    if l.now < due then l
    else if l.engine.epoch = epoch then
      let l := (l.act fun e => ((), e.countdownTick)).2
      if l.countsDown then l.sleep epoch else { l with countdown := .waiting }
    else { l with countdown := .waiting }

end GameLoop

namespace Stage

def mail (m : Progress.Move) (s : Stage) : Stage :=
  let traffic := (Progress.Traffic.step m ⟨s.loop.engine.tracker, s.flights⟩).1
  { s with loop.engine.tracker := traffic.tracker, flights := traffic.flights }

def collect (s : Stage) : Stage :=
  match s.publisher, s.loop.changed with
  | .waiting, true => { s with loop.changed := false, publisher := .flushing }.mail .flush
  | _, _ => s

def snap (s : Stage) : Stage :=
  match s.publisher with
  | .flushing =>
    { s with
      loop.broadcasts := s.loop.broadcasts ++ [s.loop.engine.snapshot]
      publisher := .sending s.loop.engine.snapshot s.connections.connected }
  | _ => s

def send (s : Stage) : Stage :=
  match s.publisher with
  | .sending shot (id :: rest) =>
    { s with
      connections := (s.connections.send id (Message.gameState shot).document).2
      publisher := .sending shot rest }
  | .sending _ [] => { s with publisher := .waiting }
  | _ => s

def step (t : Turn) (s : Stage) : Stage :=
  match t with
  | .elapse span => { s with loop.now := s.loop.now + span }
  | .arena =>
    { s with
      loop := { (s.loop.act Engine.tick).2 with arenaDue := s.loop.arenaDue + s.loop.tickSpan } }
  | .arm => { s with loop := s.loop.arm }
  | .wake => { s with loop := s.loop.wake }
  | .collect => s.collect
  | .snap => s.snap
  | .send => s.send
  | .order c _ => { s with loop := (s.loop.act (Engine.perform c)).2 }
  | .mail m => s.mail m
  | .touch => { s with loop := (s.loop.act fun e => ((), e.touch)).2 }
  | .connect socket => { s with connections := (s.connections.connect socket).2 }
  | .disconnect id => { s with connections := s.connections.disconnect id }

def run (turns : List Turn) (s : Stage) : Stage := turns.foldl (fun s t => s.step t) s

-- The loop has been started, and nobody has taken a turn.
def launched (s : Stage) : Stage := { s with loop := s.loop.start, publisher := .waiting }

theorem run_append (first second : List Turn) (s : Stage) :
    s.run (first ++ second) = (s.run first).run second := List.foldl_append

theorem run_concat (turns : List Turn) (t : Turn) (s : Stage) :
    s.run (turns ++ [t]) = (s.run turns).step t := run_append turns [t] s

end Stage

-- A loop that listens cannot miss a change.
structure Seen (l m : GameLoop) : Prop where
  running : m.running = l.running
  span : m.countdownSpan = l.countdownSpan
  listens : .loop ∈ l.engine.listeners → .loop ∈ m.engine.listeners
  epoch : l.engine.epoch ≤ m.engine.epoch
  counts : m.engine.epoch = l.engine.epoch → m.countsDown = l.countsDown
  still : m.engine.version = l.engine.version →
    m.engine.state = l.engine.state ∧ m.engine.epoch = l.engine.epoch
  heard : .loop ∈ l.engine.listeners → m.engine.version ≠ l.engine.version →
    m.changed = true ∧ (m.countsDown = true → m.armed = true)

namespace Seen

variable {l m n : GameLoop}

-- Nothing that the engine has to do with.
theorem aside (running : m.running = l.running) (span : m.countdownSpan = l.countdownSpan)
    (listeners : m.engine.listeners = l.engine.listeners) (epoch : m.engine.epoch = l.engine.epoch)
    (state : m.engine.state = l.engine.state) (version : m.engine.version = l.engine.version) :
    Seen l m where
  running := running
  span := span
  listens := by rw [listeners]; exact id
  epoch := Nat.le_of_eq epoch.symm
  counts _ := congrArg Engine.countsDown state
  still _ := ⟨state, epoch⟩
  heard _ other := absurd version other

theorem refl (l : GameLoop) : Seen l l := aside rfl rfl rfl rfl rfl rfl

end Seen

namespace GameLoop

variable {α : Type} {l : GameLoop}

theorem act_loop (action : Engine → α × Engine) (l : GameLoop) :
    (l.act action).2 =
      { l with
        engine := { (action l.engine).2 with
          notices := (action l.engine).2.notices.filter (!isOwn ·) }
        changed := l.changed || !((action l.engine).2.notices.filter isOwn).isEmpty
        armed := l.armed || ((action l.engine).2.notices.filter isOwn).any (·.mode = .countdown) } := by
  simp only [act, notice, List.partition_eq_filter_filter]
  rfl

theorem seen_act (action : Engine → α × Engine) (told : l.engine.Told (action l.engine).2) :
    Seen l (l.act action).2 := by
  rw [act_loop]
  refine ⟨rfl, rfl, told.listens, told.epoch_le, told.countsDown, fun version => ⟨told.state version, ?_⟩,
    fun listens other => ?_⟩
  · cases told with
    | nothing _ _ epoch => exact epoch
    | change _ more =>
      have same : (action l.engine).2.version = l.engine.version := version
      omega
  · cases told with
    | nothing _ version => exact absurd version other
    | change listeners _ _ notices =>
      let own : Notice := ⟨.loop, (action l.engine).2.version, (action l.engine).2.state.mode⟩
      have here : own ∈ (action l.engine).2.notices.filter isOwn := by
        have sent : own ∈ (action l.engine).2.noticesOf :=
          List.mem_map_of_mem (listeners ▸ listens)
        rw [notices]
        exact List.mem_filter.mpr ⟨List.mem_append_right _ sent, rfl⟩
      refine ⟨?_, fun counting => ?_⟩
      · have some : ((action l.engine).2.notices.filter isOwn).isEmpty = false :=
          List.isEmpty_eq_false_iff_exists_mem.mpr ⟨own, here⟩
        simp [some]
      · refine Bool.or_eq_true_iff.mpr (.inr (List.any_eq_true.mpr ⟨own, here, ?_⟩))
        exact counting

theorem seen_arm (l : GameLoop) : Seen l l.arm := by
  unfold arm
  split
  · dsimp only
    split
    · exact .aside rfl rfl rfl rfl rfl rfl
    · exact .aside rfl rfl rfl rfl rfl rfl
  · exact .refl l

-- The four ways in which the timer wakes up.
inductive Wakes (l : GameLoop) : GameLoop → Prop where
  | idle (early : ∀ epoch due, l.countdown = .sleeping epoch due → l.now < due) : Wakes l l
  | drop {epoch : Nat} {due : Time} (slept : l.countdown = .sleeping epoch due)
      (left : l.engine.epoch ≠ epoch) : Wakes l { l with countdown := .waiting }
  | stop (steps : l.Steps) (ended : (l.act fun e => ((), e.countdownTick)).2.countsDown = false) :
      Wakes l { (l.act fun e => ((), e.countdownTick)).2 with countdown := .waiting }
  | again (steps : l.Steps) (counting : (l.act fun e => ((), e.countdownTick)).2.countsDown = true) :
      Wakes l ((l.act fun e => ((), e.countdownTick)).2.sleep l.engine.epoch)

theorem wakes_wake (l : GameLoop) : l.Wakes l.wake := by
  unfold wake
  split
  · rename_i waiting
    refine .idle fun _ _ sleeping => ?_
    rw [waiting] at sleeping
    cases sleeping
  · rename_i epoch due sleeping
    split
    · rename_i early
      refine .idle fun _ _ slept => ?_
      rw [sleeping] at slept
      cases slept
      exact early
    · rename_i late
      split
      · rename_i same
        have steps : l.Steps := ⟨epoch, due, sleeping, Nat.not_lt.mp late, same⟩
        dsimp only
        split
        · rename_i counting
          exact same ▸ .again steps counting
        · rename_i ended
          exact .stop steps (Bool.eq_false_iff.mpr ended)
      · rename_i left
        exact .drop sleeping left

theorem seen_wake (l : GameLoop) : Seen l l.wake := by
  have stepped : Seen l (l.act fun e => ((), e.countdownTick)).2 :=
    seen_act _ (Engine.told_commit l.engine l.engine.state.countdownTick)
  have wakes := wakes_wake l
  generalize l.wake = m at wakes
  cases wakes with
  | idle => exact .refl l
  | drop => exact .aside rfl rfl rfl rfl rfl rfl
  | stop | again => exact ⟨stepped.running, stepped.span, stepped.listens, stepped.epoch,
      stepped.counts, stepped.still, stepped.heard⟩

end GameLoop

namespace Stage

variable {t : Turn} {s : Stage}

theorem seen_collect (s : Stage) : Seen s.loop s.collect.loop := by
  unfold collect
  split
  · exact .aside rfl rfl rfl rfl rfl rfl
  · exact .refl _

theorem seen_snap (s : Stage) : Seen s.loop s.snap.loop := by
  unfold snap
  split
  · exact .aside rfl rfl rfl rfl rfl rfl
  · exact .refl _

theorem send_loop (s : Stage) : s.send.loop = s.loop := by
  unfold send
  split
  · rfl
  · rfl
  · rfl

theorem seen_step (t : Turn) (s : Stage) : Seen s.loop (s.step t).loop := by
  cases t with
  | elapse => exact .aside rfl rfl rfl rfl rfl rfl
  | arena =>
    have seen := GameLoop.seen_act Engine.tick (Engine.told_tick s.loop.engine)
    exact ⟨seen.running, seen.span, seen.listens, seen.epoch, seen.counts, seen.still, seen.heard⟩
  | arm => exact s.loop.seen_arm
  | wake => exact s.loop.seen_wake
  | collect => exact s.seen_collect
  | snap => exact s.seen_snap
  | send => exact s.send_loop.symm ▸ .refl _
  | order c single => exact GameLoop.seen_act _ (Engine.told_perform single s.loop.engine)
  | mail => exact .aside rfl rfl rfl rfl rfl rfl
  | touch =>
    exact GameLoop.seen_act (fun e => ((), e.touch)) (Engine.told_touch rfl rfl rfl rfl rfl)
  | connect | disconnect => exact .refl _

-- A loop that runs goes on listening.
structure Watched (s : Stage) : Prop where
  running : s.loop.running = true
  listens : .loop ∈ s.loop.engine.listeners

theorem Watched.step (watched : s.Watched) (t : Turn) : (s.step t).Watched :=
  have seen := s.seen_step t
  ⟨seen.running.trans watched.running, seen.listens watched.listens⟩

theorem start_idle (idle : s.loop.running = false) :
    s.loop.start =
      { s.loop with
        engine := s.loop.engine.subscribe .loop
        running := true
        arenaDue := s.loop.now + s.loop.tickSpan
        countdown := .waiting
        changed := false
        armed := s.loop.countsDown } := by
  simp [GameLoop.start, idle]

theorem watched_launched (idle : s.loop.running = false) : s.launched.Watched := by
  refine ⟨congrArg GameLoop.running (start_idle idle), ?_⟩
  have listeners := congrArg (·.engine.listeners) (start_idle idle)
  exact listeners ▸ List.mem_append_right _ List.mem_cons_self

theorem Watched.run (watched : s.Watched) (turns : List Turn) : (s.run turns).Watched := by
  induction turns using List.reverseRecOn with
  | nil => exact watched
  | append_singleton turns t ih => exact run_concat turns t s ▸ ih.step t

theorem span_run (turns : List Turn) (s : Stage) :
    (s.run turns).loop.countdownSpan = s.loop.countdownSpan := by
  induction turns using List.reverseRecOn with
  | nil => rfl
  | append_singleton turns t ih => rw [run_concat, (seen_step t _).span, ih]

end Stage
end ScriptArena.Service
