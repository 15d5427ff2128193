import ScriptArena.Proofs.Arena.Layout

namespace ScriptArena.Arena

theorem Direction.opposite_ne (d : Direction) : d.opposite ≠ d := by
  cases d <;> decide

theorem Position.moved_inj {p : Position} {d e : Direction} (same : p.moved d = p.moved e) : d = e := by
  have sameX := congrArg Position.x same
  have sameY := congrArg Position.y same
  cases d <;> cases e <;> simp only [moved, Direction.dx, Direction.dy] at sameX sameY <;>
    first | rfl | omega

-- A path of two steps that begins at the same cell never ends where one step leads to.
theorem Position.moved_ne_second {p q r : Position} (one : p.Adjacent q) (two : q.Adjacent r)
    (d : Direction) : p.moved d ≠ r := by
  intro same
  have sameX := congrArg Position.x same
  have sameY := congrArg Position.y same
  unfold Adjacent at one two
  cases d <;> simp only [moved, Direction.dx, Direction.dy] at sameX sameY <;> omega

-- The cell behind the head is where the head was before it moved.
def Follows (d : Direction) (cells : List Position) : Prop :=
  ∀ head neck rest, cells = head :: neck :: rest → neck = head.moved d.opposite

theorem Follows.shorter {d : Direction} {cells part : List Position} (follows : Follows d cells)
    (first : part <+: cells) : Follows d part := by
  rintro head neck rest rfl
  obtain ⟨others, whole⟩ := first
  exact follows head neck (rest ++ others) whole.symm

theorem follows_moved (head : Position) (d : Direction) (body : List Position) :
    Follows d (head.moved d :: head :: body) := by
  intro first second rest same
  cases same
  exact (head.moved_opposite d).symm

namespace State

variable {k : Catalog} {c : Config} {s s' : State} {d : Direction} {head : Position}
  {body : List Position}

theorem crept_begins (s : State) (target : Position) : s.crept target <+: s.grown target :=
  List.dropLast_prefix _

theorem trimmed_begins (s : State) (target : Position) : s.trimmed target <+: s.grown target := by
  unfold trimmed
  split
  · have shorter := List.dropLast_prefix (s.crept target)
    exact shorter.trans (crept_begins s target)
  · exact crept_begins s target

-- The game has ended at a cell that the snake did not enter.
def Halted (s : State) : Prop :=
  s.mode = .gameOver ∧ (s.reason = some .wall ∨ s.reason = some .itself)

-- The snake made its last move in the given direction.
structure Heads (d : Direction) (s : State) : Prop where
  chain : s.snake.IsChain Position.Adjacent
  follows : Follows d s.snake
  onward : 1 < s.snake.length → s.nextDirection ≠ d.opposite
  current : d = s.direction ∨ Halted s
  turned : Halted s → s.direction = s.nextDirection
  ended : s.reason.isSome → s.mode = .gameOver
  coiled : s.reason = some .itself → 4 ≤ s.snake.length

namespace Heads

theorem goes (heads : Heads d s) (playing : s.mode ≠ .gameOver) : d = s.direction :=
  heads.current.resolve_right fun halted => playing halted.1

theorem unended (heads : Heads d s) (playing : s.mode ≠ .gameOver) : s.reason = none :=
  Option.not_isSome_iff_eq_none.mp fun ended => playing (heads.ended ended)

-- Only these matter, as long as the game is not over.
theorem frame (heads : Heads d s) (playing : s.mode ≠ .gameOver) (snake : s'.snake = s.snake)
    (direction : s'.direction = s.direction) (next : s'.nextDirection = s.nextDirection)
    (reason : s'.reason = s.reason) : Heads d s' where
  chain := snake ▸ heads.chain
  follows := snake ▸ heads.follows
  onward := snake ▸ next ▸ heads.onward
  current := .inl (direction ▸ heads.goes playing)
  turned := by simp [Halted, reason, heads.unended playing]
  ended := by simp [reason, heads.unended playing]
  coiled := by simp [reason, heads.unended playing]

-- The cell ahead is not the one behind the head.
theorem off_neck (heads : Heads d s) {neck : Position} {rest : List Position}
    (shape : s.snake = head :: neck :: rest) : head.moved s.nextDirection ≠ neck := by
  rw [heads.follows head neck rest shape]
  intro same
  have long : 1 < s.snake.length := by simp [shape]
  exact heads.onward long (Position.moved_inj same)

-- Nor is it the one behind that.
theorem coils (heads : Heads d s) (shape : s.snake = head :: body)
    (hit : head.moved s.nextDirection ∈ body) : 4 ≤ s.snake.length := by
  have chain := heads.chain
  rw [shape] at chain
  match body with
  | [] => cases hit
  | [neck] => exact absurd (List.mem_singleton.mp hit) (heads.off_neck shape)
  | [neck, third] =>
    obtain ⟨one, rest⟩ := List.isChain_cons_cons.mp chain
    obtain ⟨two, -⟩ := List.isChain_cons_cons.mp rest
    rcases List.mem_cons.mp hit with same | last
    · exact absurd same (heads.off_neck shape)
    · exact absurd (List.mem_singleton.mp last) (Position.moved_ne_second one two _)
  | _ :: _ :: _ :: _ =>
    rw [shape]
    simp only [List.length_cons]
    omega

end Heads

theorem heads_initial : Heads .right .initial where
  chain := .singleton _
  follows := nofun
  onward := by decide
  current := .inl rfl
  turned := fun _ => rfl
  ended := nofun
  coiled := nofun

-- Whatever a snake loses, it is the first part of the one that it would have become.
theorem heads_moved (ahead : s.snake = head :: body) (chain : s.snake.IsChain Position.Adjacent)
    (snake : s'.snake <+: head.moved s.nextDirection :: head :: body)
    (direction : s'.direction = s.nextDirection) (next : s'.nextDirection = s.nextDirection)
    (ended : s'.reason.isSome → s'.mode = .gameOver) (other : s'.reason ≠ some .itself) :
    Heads s.nextDirection s' where
  chain := by
    rw [ahead] at chain
    obtain ⟨lost, whole⟩ := snake
    have longer := List.IsChain.cons_cons (head.adjacent_moved s.nextDirection) chain
    exact (whole ▸ longer).left_of_append
  follows := (follows_moved head s.nextDirection body).shorter snake
  onward := fun _ same => (Direction.opposite_ne _ (next ▸ same).symm)
  current := .inl direction.symm
  turned := fun _ => direction.trans next.symm
  ended := ended
  coiled := fun same => absurd same other

theorem heads_enters (heads : Heads d s) (running : s.mode = .running) (ahead : s.snake = head :: body)
    (enters : Enters k c s.turned (head.moved s.nextDirection) s') : Heads s.nextDirection s' := by
  have playing : s.mode ≠ .gameOver := by simp [running]
  have unended : s.turned.reason = none := heads.unended playing
  have longer : s.turned.grown (head.moved s.nextDirection) =
      head.moved s.nextDirection :: head :: body := by rw [grown, turned, ahead]
  have crept := longer ▸ crept_begins s.turned (head.moved s.nextDirection)
  have trimmed := longer ▸ trimmed_begins s.turned (head.moved s.nextDirection)
  cases enters with
  | food =>
    exact heads_moved ahead heads.chain (longer ▸ List.prefix_rfl) rfl rfl (by simp [unended])
      (by simp [unended])
  | crash => exact heads_moved ahead heads.chain trimmed rfl rfl (fun _ => rfl) (by simp)
  | bug => exact heads_moved ahead heads.chain trimmed rfl rfl (by simp [unended]) (by simp [unended])
  | tile =>
    exact heads_moved ahead heads.chain crept rfl rfl (by simp [openChallenge, unended])
      (by simp [openChallenge, unended])
  | spawn | move =>
    exact heads_moved ahead heads.chain crept rfl rfl (by simp [unended]) (by simp [unended])

-- The rule looks at the direction of the last move, so no later one can be turned back either.
theorem heads_turn (guarded : c.blockReverse = true) (heads : Heads d s) {turn : Direction}
    (heard : s.takesDirection = true) (free : s.isBlocked c turn = false) :
    Heads d { s with nextDirection := turn } := by
  have playing : s.mode ≠ .gameOver := by
    intro finished
    simp [takesDirection, finished] at heard
  refine { heads with
    onward := fun long back => ?_
    current := .inl (heads.goes playing)
    turned := fun halted => absurd halted.1 playing }
  have opposite : turn.isOpposite s.direction = true := by
    rw [Direction.isOpposite, beq_iff_eq, ← heads.goes playing]
    exact (congrArg Direction.opposite back).trans (Direction.opposite_opposite d)
  have short : ¬ 1 < s.snake.length := by simpa [isBlocked, guarded, opposite] using free
  exact short long

theorem heads_changes (guarded : c.blockReverse = true) (heads : Heads d s)
    (changes : Changes k c s s') : ∃ d, Heads d s' := by
  cases changes with
  | wall running =>
    exact ⟨d, { heads with
      current := .inr ⟨rfl, .inl rfl⟩
      turned := fun _ => rfl
      ended := fun _ => rfl
      coiled := nofun }⟩
  | itself running ahead hit =>
    exact ⟨d, { heads with
      current := .inr ⟨rfl, .inr rfl⟩
      turned := fun _ => rfl
      ended := fun _ => rfl
      coiled := fun _ => heads.coils ahead hit }⟩
  | enter running ahead _ _ enters => exact ⟨_, heads_enters heads running ahead enters⟩
  | turn _ heard free => exact ⟨d, heads_turn guarded heads heard free⟩
  | begin mode | count mode | start mode | skip mode =>
    exact ⟨d, heads.frame (by simp [mode]) rfl rfl rfl rfl⟩
  | pause on =>
    have playing : s.mode ≠ .gameOver := by rcases on with mode | mode <;> simp [mode]
    exact ⟨d, heads.frame playing rfl rfl rfl rfl⟩
  | reveal current | judge current | solve current =>
    exact ⟨d, heads.frame (by simp [(current?_ok current).1]) rfl rfl rfl rfl⟩
  | reset => exact ⟨.right, heads_initial⟩

end State

namespace Engine
open State

-- With the rule against turning back, the cell behind the head is where the snake has come from, unless
-- the game has ended at a wall or at the snake itself; there it is where the snake came from before its
-- last turn. The snake never goes on into that cell, and it takes four cells to run into itself.
theorem never_turns_back (e : Engine) (fresh : e.state = .initial)
    (guarded : e.config.blockReverse = true) {commands : List Command}
    (play : ∀ command ∈ commands, command.isPlay) :
    let s := (e.performAll commands).state
    (∀ head neck rest, s.snake = head :: neck :: rest →
      (¬ Halted s → neck = head.moved s.direction.opposite) ∧
        (Halted s → s.direction = s.nextDirection ∧
          ∃ d : Direction, neck = head.moved d.opposite ∧ s.direction ≠ d.opposite) ∧
        s.nextDirection ≠ s.direction.opposite ∧ head.moved s.nextDirection ≠ neck) ∧
      (s.reason = some .itself → 4 ≤ s.snake.length) ∧
      ∀ head body, s.snake = head :: body → head.moved s.nextDirection ∈ body →
        4 ≤ s.snake.length := by
  intro s
  obtain ⟨d, heads⟩ : ∃ d, Heads d s := @kept_performAll (fun s => ∃ d, Heads d s) e fresh
    ⟨_, heads_initial⟩ (fun _ _ ⟨_, heads⟩ changes => heads_changes guarded heads changes) _ play
  refine ⟨fun head neck rest shape => ?_, heads.coiled, fun _ _ => heads.coils⟩
  have behind := heads.follows head neck rest shape
  have onward := heads.onward (by simp [shape])
  refine ⟨fun moving => ?_, fun halted => ?_, ?_, heads.off_neck shape⟩
  · exact heads.current.resolve_right moving ▸ behind
  · exact ⟨heads.turned halted, d, behind, heads.turned halted ▸ onward⟩
  · rcases heads.current with same | halted
    · exact same ▸ onward
    · rw [heads.turned halted]
      exact (Direction.opposite_ne _).symm

-- A game in which turning back is forbidden, and food is close to food.
def oneWay : Engine where
  config := { blockReverse := true }
  source := .scripted [12, 11, 12, 12, 0, 0]

def toFood : List Command :=
  .toggle :: List.replicate 4 .countdownTick ++ [.ticks 5, .direction (.str "down"), .ticks 3]

-- The snake is as long as it must be to meet its tail.
def coil : List Command :=
  toFood ++ [.ticks 2, .direction (.str "right"), .tick, .direction (.str "up"), .tick,
    .direction (.str "left"), .tick]

theorem coil_never_turns_back :
    (oneWay.performAll toFood).state.snake = [⟨12, 10⟩, ⟨12, 9⟩] ∧
      (⟨12, 9⟩ : Position) = Position.moved ⟨12, 10⟩ Direction.down.opposite ∧
      (oneWay.performAll coil).state.reason = some .itself ∧
      4 ≤ (oneWay.performAll coil).state.snake.length ∧
      ∃ d, (⟨13, 12⟩ : Position) = Position.moved ⟨13, 11⟩ (Direction.opposite d) ∧
        Direction.left ≠ d.opposite := by
  have playFood : ∀ command ∈ toFood, command.isPlay := by decide
  have playCoil : ∀ command ∈ coil, command.isPlay := by decide
  obtain ⟨moving, -, -⟩ := never_turns_back oneWay rfl rfl playFood
  obtain ⟨halted, ended, -⟩ := never_turns_back oneWay rfl rfl playCoil
  have fed : (oneWay.performAll toFood).state.snake = [⟨12, 10⟩, ⟨12, 9⟩] := by decide +kernel
  have down : (oneWay.performAll toFood).state.direction = .down := by decide +kernel
  have on : (oneWay.performAll toFood).state.mode = .running := by decide +kernel
  have coiled : (oneWay.performAll coil).state.snake =
      [⟨13, 11⟩, ⟨13, 12⟩, ⟨12, 12⟩, ⟨12, 11⟩] := by decide +kernel
  have left : (oneWay.performAll coil).state.direction = .left := by decide +kernel
  have met : (oneWay.performAll coil).state.reason = some .itself := by decide +kernel
  have finished : (oneWay.performAll coil).state.mode = .gameOver := by decide +kernel
  have behind := (moving _ _ _ fed).1 fun stopped => by simp [Halted, on] at stopped
  have turned := ((halted _ _ _ coiled).2.1 ⟨finished, .inr met⟩).2
  rw [down] at behind
  rw [left] at turned
  exact ⟨fed, behind, met, ended met, turned⟩

-- The snake goes down along a wall, turns towards it, and does not move any more.
def lastTurn : List Command :=
  toFood ++ [.direction (.str "right"), .ticks 2, .direction (.str "down"), .tick,
    .direction (.str "right"), .tick]

theorem lastTurn_unfollowed :
    oneWay.state = .initial ∧ oneWay.config.blockReverse = true ∧
      (∀ command ∈ lastTurn, command.isPlay) ∧
      (oneWay.performAll lastTurn).state.snake = [⟨14, 11⟩, ⟨14, 10⟩] ∧
      (oneWay.performAll lastTurn).state.direction = .right ∧
      (⟨14, 10⟩ : Position) ≠ Position.moved ⟨14, 11⟩ Direction.right.opposite :=
  ⟨rfl, rfl, by decide, by decide +kernel, by decide +kernel, by decide⟩

end Engine
end ScriptArena.Arena
