import ScriptArena.Proofs.Arena.Ledger
import ScriptArena.Proofs.Arena.Modes
import ScriptArena.Proofs.Arena.Notices

namespace ScriptArena.Arena
namespace State

variable {k : Catalog} {c : Config} {s s' : State} {target : Position}

-- An active challenge is the one that a tile is bound to, and every tile is there once.
structure Posed (k : Catalog) (s : State) : Prop extends Tallied s where
  tile : s.mode = .challengeActive →
    ∃ slot ∈ s.slots, s.activeSlot = some slot ∧ s.active = some (k.atIndex slot.index)

theorem Tallied.slots_nodup (tallied : Tallied s) : s.slots.Nodup :=
  .sublist tallied.slots (by decide)

-- Only these three matter.
theorem Tallied.frame (tallied : Tallied s) (solved : s'.solved = s.solved)
    (level : s'.level = s.level) (slots : s'.slots = s.slots) : Tallied s' where
  distinct := solved ▸ tallied.distinct
  level := by rw [level, solved, tallied.level]
  slots := slots ▸ tallied.slots

theorem posed_elsewhere (tallied : Tallied s) (elsewhere : s.mode ≠ .challengeActive) : Posed k s :=
  ⟨tallied, fun active => absurd active elsewhere⟩

theorem posed_initial : Posed k .initial :=
  posed_elsewhere ⟨List.nodup_nil, rfl, .refl _⟩ nofun

theorem posed_enters (posed : Posed k s) (running : s.mode = .running)
    (enters : Enters k c s target s') : Posed k s' := by
  have tallied := posed.toTallied
  cases enters with
  | tile noFood found =>
    refine ⟨tallied.frame rfl rfl rfl, fun _ => ?_⟩
    exact ⟨_, List.mem_of_find?_eq_some found, rfl, rfl⟩
  | crash => exact posed_elsewhere (tallied.frame rfl rfl rfl) nofun
  | food | bug | spawn | move =>
    exact posed_elsewhere (tallied.frame rfl rfl rfl) (by simp [running])

theorem posed_solved (posed : Posed k s) (ch : Challenge) (verdicts : List Verdict) :
    Posed k (({ s with results := verdicts } : State).credit ch).resume := by
  have judged : Tallied { s with results := verdicts } := posed.toTallied.frame rfl rfl rfl
  have tallied := judged.credit ch
  refine posed_elsewhere ⟨tallied.distinct, tallied.level, ?_⟩ nofun
  exact List.filter_sublist.trans tallied.slots

theorem posed_changes (posed : Posed k s) (changes : Changes k c s s') : Posed k s' := by
  have tallied := posed.toTallied
  cases changes with
  | enter running _ _ _ enters =>
    exact posed_enters (s := s.turned) ⟨tallied.frame rfl rfl rfl, posed.tile⟩ running enters
  | wall | itself | begin | pause | start | skip =>
    exact posed_elsewhere (tallied.frame rfl rfl rfl) nofun
  | count counting =>
    exact posed_elsewhere (tallied.frame rfl rfl rfl) (by simp [counting])
  | turn | reveal | judge => exact ⟨tallied.frame rfl rfl rfl, posed.tile⟩
  | solve current verdicts => exact posed_solved posed _ verdicts
  | reset => exact posed_initial

structure Credited (ch : Challenge) (slot : Slot) (verdicts : List Verdict) (s s' : State) : Prop where
  results : s'.results = verdicts
  score : s'.score = s.score + ch.points
  solved : ∀ id, id ∈ s'.solved ↔ id ∈ s.solved ∨ id = ch.id
  distinct : s'.solved.Nodup
  level : s'.level = 1 + s'.solved.length
  slots : ∃ first last, s.slots = first ++ slot :: last ∧ s'.slots = first ++ last
  mode : s'.mode = .running
  active : s'.active = none
  activeSlot : s'.activeSlot = none
  hints : s'.hints = 0
  others : s' = { s with
    results := s'.results, score := s'.score, solved := s'.solved, level := s'.level
    slots := s'.slots, mode := s'.mode, active := s'.active, activeSlot := s'.activeSlot
    hints := s'.hints }

theorem mem_credit (ch : Challenge) (s : State) (name : String) :
    name ∈ (s.credit ch).solved ↔ name ∈ s.solved ∨ name = ch.id := by
  unfold credit
  dsimp only
  split
  · rename_i known
    have known : ch.id ∈ s.solved := by simpa using known
    exact ⟨.inl, fun either => either.elim id fun same => same ▸ known⟩
  · simp

-- A tile that is there once is taken out of its place.
theorem others_split {slots : List Slot} {slot : Slot} (distinct : slots.Nodup) (stands : slot ∈ slots) :
    ∃ first last, slots = first ++ slot :: last ∧
      slots.filter (some · != some slot) = first ++ last := by
  obtain ⟨first, last, -, shape, erased⟩ := List.exists_erase_eq stands
  exact ⟨first, last, shape, (others_eq_erase distinct slot).trans erased⟩

theorem credited_solved (posed : Posed k s) {slot : Slot} (stands : slot ∈ s.slots)
    (focused : s.activeSlot = some slot) (ch : Challenge) (verdicts : List Verdict) :
    Credited ch slot verdicts s (({ s with results := verdicts } : State).credit ch).resume := by
  have tallied := (posed_solved posed ch verdicts).toTallied
  obtain ⟨first, last, shape, left⟩ := others_split posed.slots_nodup stands
  constructor
  · rfl
  · rfl
  · exact mem_credit ch { s with results := verdicts }
  · exact tallied.distinct
  · exact tallied.level
  · refine ⟨first, last, shape, ?_⟩
    rw [← left, ← focused]
    rfl
  · rfl
  · rfl
  · rfl
  · rfl
  · rfl

end State

namespace Engine
open State

-- Where all verdicts are favourable, and there are some.
def Passes (verdicts : List Verdict) : Prop := verdicts ≠ [] ∧ ∀ v ∈ verdicts, v.passed = true

theorem isSolvedBy_iff (verdicts : List Verdict) : isSolvedBy verdicts = true ↔ Passes verdicts := by
  simp [isSolvedBy, Passes]

-- The completion waits in the outbox if the record of the player lacks it.
inductive Noted (id : String) (t : Progress.Tracker) : Progress.Tracker → Prop where
  | queued {r : Progress.Record} (signed : t.progress = some r) (lacking : id ∉ r.completed) :
      Noted id t { t with outbox := t.outbox ++ [.challenge r.user id] }
  | anonymous (nobody : t.progress = none) : Noted id t t
  | recorded {r : Progress.Record} (signed : t.progress = some r) (known : id ∈ r.completed) : Noted id t t

theorem noted_queue (id : String) (t : Progress.Tracker) : Noted id t (t.queueChallenge id) := by
  unfold Progress.Tracker.queueChallenge
  split
  · rename_i nobody
    exact .anonymous nobody
  · rename_i r signed
    split
    · rename_i known
      exact .recorded signed (by simpa using known)
    · rename_i lacking
      exact .queued signed (by simpa using lacking)

-- What has become of an engine that has judged a submission for the challenge of a tile.
structure Judged (ch : Challenge) (slot : Slot) (verdicts : List Verdict) (e f : Engine) : Prop where
  passed : Passes verdicts → Credited ch slot verdicts e.state f.state ∧ Noted ch.id e.tracker f.tracker
  failed : ¬ Passes verdicts → f.state = { e.state with results := verdicts } ∧ f.tracker = e.tracker
  version : f.version = e.version + 1
  told : f.notices = e.notices ++ f.noticesOf
  others : f = { e with
    state := f.state, tracker := f.tracker, version := f.version, notices := f.notices
    counts := f.counts }

variable {e : Engine}

-- A change that neither ends a game nor begins or leaves a countdown.
theorem enter_open (e : Engine) {s : State} (on : s.mode ≠ .gameOver)
    (still : countsDown s = countsDown e.state) :
    e.enter s none = ({ e with state := s, version := e.version + 1 } : Engine).notify := by
  have going : ¬ (s.mode = .gameOver ∧ e.state.mode ≠ .gameOver) := fun ended => on ended.1
  simp only [Engine.enter, if_pos still, if_neg going]

theorem judged_submission (posed : Posed e.catalog e.state) {slot : Slot} (stands : slot ∈ e.state.slots)
    (active : e.state.mode = .challengeActive) (focused : e.state.activeSlot = some slot)
    (ch : Challenge) (verdicts : List Verdict) :
    Judged ch slot verdicts e (e.judged ch verdicts) := by
  have rests : countsDown e.state = false := by simp [countsDown, active]
  have on : e.state.mode ≠ .gameOver := by simp [active]
  by_cases solved : isSolvedBy verdicts = true
  · have passes := (isSolvedBy_iff verdicts).mp solved
    rw [judged_solved ch e solved, enter_open _ (by exact nofun) (by exact rests.symm)]
    refine ⟨fun _ => ⟨?_, ?_⟩, fun fails => absurd passes fails, rfl, rfl, rfl⟩
    · exact credited_solved posed stands focused ch verdicts
    · exact noted_queue ch.id e.tracker
  · have fails := mt (isSolvedBy_iff verdicts).mpr solved
    rw [judged_failed ch e solved, enter_open _ (by exact on) (by rfl)]
    exact ⟨fun passes => absurd passes fails, fun _ => ⟨rfl, rfl⟩, rfl, rfl, rfl⟩

-- Whatever the catalog, the rules, the draws, the store and the listeners are. The challenge is that
-- of a tile, and the tile is there once.
theorem submit_exact (e : Engine) (fresh : e.state = .initial) {commands : List Command}
    (play : ∀ command ∈ commands, command.isPlay)
    (active : (e.performAll commands).state.mode = .challengeActive) (source : String) :
    let now := e.performAll commands
    ∃ ch slot, now.state.active = some ch ∧ now.state.activeSlot = some slot ∧
      now.state.slots.count slot = 1 ∧
      let verdicts := Judge.evaluate ch now.limits source ch.testCases
      (now.submit source).1 = .ok verdicts ∧ Judged ch slot verdicts now (now.submit source).2 := by
  have posed : Posed e.catalog (e.performAll commands).state :=
    kept_performAll e fresh posed_initial (fun _ _ posed changes => posed_changes posed changes) play
  have catalog := (leads_performAll play e).catalog
  generalize e.performAll commands = now at *
  obtain ⟨slot, stands, focused, asked⟩ := posed.tile active
  have current : now.state.current? = .ok (e.catalog.atIndex slot.index) := by
    simp only [current?, active, asked]
  refine ⟨_, slot, asked, focused, List.count_eq_one_of_mem posed.slots_nodup stands, ?_⟩
  unfold submit
  rw [current]
  exact ⟨rfl, judged_submission (catalog ▸ posed) stands active focused _ _⟩

-- A player who is known reaches a tile and hands in what its challenge asks for.
def firstTile : List Command :=
  [.signIn "ada", .toggle, .countdownTick, .countdownTick, .countdownTick, .countdownTick,
    .direction (.str "up"), .ticks 4, .direction (.str "left"), .ticks 4]

def shortSum : String := "def array_sum(numbers):\n    return sum(numbers)"

theorem firstTile_submitted :
    bundledGame.state = .initial ∧ (∀ command ∈ firstTile, command.isPlay) ∧
      (bundledGame.performAll firstTile).state.mode = .challengeActive ∧
      let f := ((bundledGame.performAll firstTile).submit shortSum).2
      (f.state.slots, f.tracker.outbox) =
        ([⟨⟨11, 5⟩, 1⟩, ⟨⟨6, 12⟩, 2⟩], [.challenge "ada" "array-sum"]) ∧
      ∃ ch slot verdicts, (bundledGame.performAll firstTile).state.active = some ch ∧
        Judged ch slot verdicts (bundledGame.performAll firstTile) f := by
  have play : ∀ command ∈ firstTile, command.isPlay := by decide
  have active : (bundledGame.performAll firstTile).state.mode = .challengeActive := by decide +kernel
  obtain ⟨ch, slot, asked, -, -, -, judged⟩ := submit_exact bundledGame rfl play active shortSum
  exact ⟨rfl, play, active, by decide +kernel, ch, slot, _, asked, judged⟩

end Engine
end ScriptArena.Arena
