import ScriptArena.Proofs.Arena.Changes

namespace ScriptArena.Arena
namespace State

variable {k : Catalog} {c : Config} {s s' : State} {target : Position}

structure Tallied (s : State) : Prop where
  distinct : s.solved.Nodup
  level : s.level = 1 + s.solved.length
  slots : s.slots.Sublist State.initial.slots

structure Consistent (k : Catalog) (c : Config) (s : State) : Prop extends Tallied s where
  countdown : s.mode = .countdown ↔ s.countdown.isSome
  counted : ∀ n, s.countdown = some n → 0 ≤ n ∧ n ≤ c.countdownStart
  reason : s.mode = .gameOver ↔ s.reason.isSome
  active : s.mode = .challengeActive ↔ s.active.isSome
  focused : s.active.isSome ↔ s.activeSlot.isSome
  tile : ∀ slot, s.activeSlot = some slot → slot ∈ s.slots ∧ s.snake.head? = some slot.position ∧
    s.active = some (k.atIndex slot.index)
  hinted : ∀ ch, s.active = some ch → 0 ≤ s.hints ∧ s.hints ≤ ch.hints.length
  unhinted : s.active = none → s.hints = 0

structure Unfocused (s : State) : Prop where
  active : s.active = none
  slot : s.activeSlot = none
  hints : s.hints = 0

theorem Consistent.unfocused (consistent : Consistent k c s) (mode : s.mode ≠ .challengeActive) :
    Unfocused s := by
  have inactive : s.active = none :=
    Option.not_isSome_iff_eq_none.mp fun active => mode (consistent.active.mpr active)
  have untiled : s.activeSlot = none := by
    refine Option.not_isSome_iff_eq_none.mp fun tiled => ?_
    exact mode (consistent.active.mpr (consistent.focused.mpr tiled))
  exact ⟨inactive, untiled, consistent.unhinted inactive⟩

theorem Consistent.uncounted (consistent : Consistent k c s) (mode : s.mode ≠ .countdown) :
    s.countdown = none :=
  Option.not_isSome_iff_eq_none.mp fun counts => mode (consistent.countdown.mpr counts)

theorem Consistent.unended (consistent : Consistent k c s) (mode : s.mode ≠ .gameOver) :
    s.reason = none :=
  Option.not_isSome_iff_eq_none.mp fun ended => mode (consistent.reason.mpr ended)

theorem consistent_unfocused (tallied : Tallied s) (unfocused : Unfocused s)
    (mode : s.mode ≠ .challengeActive) (countdown : s.mode = .countdown ↔ s.countdown.isSome)
    (counted : ∀ n, s.countdown = some n → 0 ≤ n ∧ n ≤ c.countdownStart)
    (reason : s.mode = .gameOver ↔ s.reason.isSome) : Consistent k c s where
  toTallied := tallied
  countdown := countdown
  counted := counted
  reason := reason
  active := by simp [mode, unfocused.active]
  focused := by simp [unfocused.active, unfocused.slot]
  tile := by simp [unfocused.slot]
  hinted := by simp [unfocused.active]
  unhinted := fun _ => unfocused.hints

theorem consistent_plain (tallied : Tallied s) (unfocused : Unfocused s)
    (mode : s.mode = .running ∨ s.mode = .idle) (countdown : s.countdown = none)
    (reason : s.reason = none) : Consistent k c s := by
  refine consistent_unfocused tallied unfocused ?_ ?_ ?_ ?_
  · rcases mode with mode | mode <;> simp [mode]
  · rcases mode with mode | mode <;> simp [mode, countdown]
  · simp [countdown]
  · rcases mode with mode | mode <;> simp [mode, reason]

theorem consistent_over (tallied : Tallied s) (unfocused : Unfocused s) (mode : s.mode = .gameOver)
    (countdown : s.countdown = none) (reason : s.reason.isSome) : Consistent k c s := by
  refine consistent_unfocused tallied unfocused ?_ ?_ ?_ ?_
  · simp [mode]
  · simp [mode, countdown]
  · simp [countdown]
  · simp [mode, reason]

theorem consistent_counting (tallied : Tallied s) (unfocused : Unfocused s) {n : Int}
    (mode : s.mode = .countdown) (countdown : s.countdown = some n) (low : 0 ≤ n)
    (high : n ≤ c.countdownStart) (reason : s.reason = none) : Consistent k c s := by
  refine consistent_unfocused tallied unfocused ?_ ?_ ?_ ?_
  · simp [mode]
  · simp [mode, countdown]
  · intro m same
    rw [countdown] at same
    cases same
    exact ⟨low, high⟩
  · simp [mode, reason]

theorem consistent_initial : Consistent k c .initial :=
  consistent_plain ⟨List.nodup_nil, rfl, .refl _⟩ ⟨rfl, rfl, rfl⟩ (.inr rfl) rfl rfl

-- Only these matter.
theorem Consistent.frame (consistent : Consistent k c s) (results : List Verdict) (d : Direction) :
    Consistent k c { s with results, nextDirection := d } :=
  { consistent with }

theorem Tallied.credit (tallied : Tallied s) (ch : Challenge) : Tallied (s.credit ch) := by
  refine ⟨?_, rfl, tallied.slots⟩
  unfold State.credit
  dsimp only
  split
  · exact tallied.distinct
  · rename_i fresh
    refine List.nodup_append.mpr ⟨tallied.distinct, List.pairwise_singleton _ _, ?_⟩
    rintro id old _ new rfl
    exact fresh (by simpa [List.mem_singleton.mp new] using old)

theorem consistent_solved (consistent : Consistent k c s) {ch : Challenge}
    (mode : s.mode = .challengeActive) (verdicts : List Verdict) :
    Consistent k c (({ s with results := verdicts } : State).credit ch).resume := by
  have tallied := Tallied.credit (consistent.frame verdicts s.nextDirection).toTallied ch
  refine consistent_plain ?_ ⟨rfl, rfl, rfl⟩ (.inl rfl) ?_ ?_
  · exact ⟨tallied.distinct, tallied.level, List.filter_sublist.trans tallied.slots⟩
  · exact consistent.uncounted (by simp [mode])
  · exact consistent.unended (by simp [mode])

theorem consistent_tile (consistent : Consistent k c s) (running : s.mode = .running)
    (alive : s.snake ≠ []) {slot : Slot} (found : s.slotAt? target = some slot) :
    Consistent k c (s.openChallenge k target slot) where
  toTallied := ⟨consistent.distinct, consistent.level, consistent.slots⟩
  countdown := by simp [openChallenge, consistent.uncounted (by simp [running])]
  counted := consistent.counted
  reason := by simp [openChallenge, consistent.unended (by simp [running])]
  active := by simp [openChallenge]
  focused := by simp [openChallenge]
  tile := by
    intro slot' same
    cases same
    have there : slot.position = target := by simpa using List.find?_some found
    obtain ⟨head, body, shape⟩ := List.exists_cons_of_ne_nil alive
    refine ⟨List.mem_of_find?_eq_some found, ?_, rfl⟩
    simp [openChallenge, crept, grown, shape, there]
  hinted := by simp [openChallenge]
  unhinted := fun _ => rfl

theorem consistent_enters (consistent : Consistent k c s) (running : s.mode = .running)
    (alive : s.snake ≠ []) (enters : Enters k c s target s') : Consistent k c s' := by
  have unfocused := consistent.unfocused (by simp [running])
  have ⟨inactive, untiled, unhinted⟩ := unfocused
  have uncounted := consistent.uncounted (by simp [running])
  have unended := consistent.unended (by simp [running])
  have ⟨distinct, level, slots⟩ := consistent.toTallied
  cases enters with
  | tile noFood found => exact consistent_tile consistent running alive found
  | crash => exact consistent_over ⟨distinct, level, slots⟩ ⟨inactive, untiled, unhinted⟩ rfl uncounted rfl
  | food | bug | spawn | move =>
    exact consistent_plain ⟨distinct, level, slots⟩ ⟨inactive, untiled, unhinted⟩ (.inl running)
      uncounted unended

theorem consistent_reveal (consistent : Consistent k c s) {ch : Challenge}
    (current : s.current? = .ok ch) (more : s.hints < ch.hints.length) :
    Consistent k c { s with hints := s.hints + 1 } := by
  have active := (current?_ok current).2
  have ⟨low, _⟩ := consistent.hinted ch active
  refine { consistent with hinted := ?_, unhinted := ?_ }
  · intro other same
    rw [active] at same
    cases same
    dsimp only
    omega
  · intro inactive
    rw [active] at inactive
    cases inactive

theorem consistent_changes (ahead : 0 ≤ c.countdownStart) (consistent : Consistent k c s)
    (changes : Changes k c s s') : Consistent k c s' := by
  have ⟨distinct, level, slots⟩ := consistent.toTallied
  have tallied : ∀ t : State, t.solved = s.solved → t.level = s.level → t.slots = s.slots →
      Tallied t := by
    intro t solved sameLevel sameSlots
    exact ⟨solved ▸ distinct, by rw [sameLevel, solved, level], sameSlots ▸ slots⟩
  have unfocused (mode : s.mode ≠ .challengeActive) := consistent.unfocused mode
  cases changes with
  | wall running | itself running =>
    have ⟨inactive, untiled, unhinted⟩ := unfocused (by simp [running])
    exact consistent_over (tallied _ rfl rfl rfl) ⟨inactive, untiled, unhinted⟩ rfl
      (consistent.uncounted (by simp [running])) rfl
  | enter running ahead inside off enters =>
    refine consistent_enters (s := s.turned) ?_ running ?_ enters
    · exact { consistent with }
    · simp [turned, ahead]
  | begin idle =>
    have ⟨inactive, untiled, unhinted⟩ := unfocused (by simp [idle])
    exact consistent_counting (tallied _ rfl rfl rfl) ⟨inactive, untiled, unhinted⟩ rfl rfl ahead
      (Int.le_refl _) (consistent.unended (by simp [idle]))
  | pause on =>
    have ⟨inactive, untiled, unhinted⟩ := unfocused (by rcases on with on | on <;> simp [on])
    exact consistent_plain (tallied _ rfl rfl rfl) ⟨inactive, untiled, unhinted⟩ (.inr rfl) rfl
      (consistent.unended (by rcases on with on | on <;> simp [on]))
  | count counting left more =>
    have ⟨inactive, untiled, unhinted⟩ := unfocused (by simp [counting])
    have ⟨_, high⟩ := consistent.counted _ left
    exact consistent_counting (tallied _ rfl rfl rfl) ⟨inactive, untiled, unhinted⟩ counting rfl
      (by omega) (by omega) (consistent.unended (by simp [counting]))
  | start counting =>
    have ⟨inactive, untiled, unhinted⟩ := unfocused (by simp [counting])
    exact consistent_plain (tallied _ rfl rfl rfl) ⟨inactive, untiled, unhinted⟩ (.inl rfl) rfl
      (consistent.unended (by simp [counting]))
  | turn d => exact consistent.frame s.results d
  | skip active =>
    exact consistent_plain (tallied _ rfl rfl rfl) ⟨rfl, rfl, rfl⟩ (.inl rfl)
      (consistent.uncounted (by simp [active])) (consistent.unended (by simp [active]))
  | reveal current more => exact consistent_reveal consistent current more
  | judge current verdicts => exact consistent.frame verdicts s.nextDirection
  | solve current verdicts => exact consistent_solved consistent (current?_ok current).1 verdicts
  | reset => exact consistent_initial

end State

namespace Engine

-- Whatever the catalog, the grid, the draws, the store and the listeners are.
theorem consistent_always (e : Engine) (fresh : e.state = .initial)
    (counts : 0 ≤ e.config.countdownStart) {commands : List Command}
    (play : ∀ command ∈ commands, command.isPlay) :
    (e.performAll commands).state.Consistent e.catalog e.config :=
  kept_performAll e fresh State.consistent_initial
    (fun _ _ consistent changes => State.consistent_changes counts consistent changes) play

-- A game in which a tile is reached and a hint is asked for.
def bundledGame : Engine := { source := .scripted [] }

def firstHint : List Command :=
  [.toggle, .countdownTick, .countdownTick, .countdownTick, .countdownTick, .ticks 4,
    .direction (.str "up"), .ticks 2, .hint]

theorem firstHint_consistent :
    bundledGame.state = .initial ∧ 0 ≤ bundledGame.config.countdownStart ∧
      (∀ command ∈ firstHint, command.isPlay) ∧
      (bundledGame.performAll firstHint).state.activeSlot = some ⟨⟨11, 5⟩, 1⟩ ∧
      (bundledGame.performAll firstHint).state.hints = 1 ∧
      (bundledGame.performAll firstHint).state.Consistent bundledGame.catalog bundledGame.config :=
  ⟨rfl, by decide, by decide, by decide +kernel, by decide +kernel,
    consistent_always bundledGame rfl (by decide) (by decide)⟩

end Engine
end ScriptArena.Arena
