import Mathlib.Data.List.Chain
import ScriptArena.Proofs.Arena.Changes

namespace ScriptArena.Arena

-- The cells have a side in common.
def Position.Adjacent (p q : Position) : Prop := (p.x - q.x).natAbs + (p.y - q.y).natAbs = 1

theorem Position.adjacent_moved (p : Position) (d : Direction) : (p.moved d).Adjacent p := by
  cases d <;> simp only [Adjacent, moved, Direction.dx, Direction.dy] <;> omega

theorem Position.inBounds_wider {small size : Int} {p : Position} (wide : small ≤ size)
    (inside : p.inBounds small = true) : p.inBounds size = true := by
  simp only [inBounds, Bool.and_eq_true, decide_eq_true_eq] at inside ⊢
  omega

structure Trail (size : Int) (cells : List Position) : Prop where
  nonempty : cells ≠ []
  nodup : cells.Nodup
  chain : cells.IsChain Position.Adjacent
  inside : ∀ p ∈ cells, p.inBounds size = true

namespace Trail

variable {size : Int} {head : Position} {body cells : List Position} {d : Direction}

theorem longer (trail : Trail size (head :: body)) (inside : (head.moved d).inBounds size = true)
    (off : head.moved d ∉ body) : Trail size (head.moved d :: head :: body) where
  nonempty := List.cons_ne_nil _ _
  nodup := List.nodup_cons.mpr ⟨List.not_mem_cons_of_ne_of_not_mem (head.moved_ne d) off, trail.nodup⟩
  chain := .cons_cons (head.adjacent_moved d) trail.chain
  inside := List.forall_mem_cons.mpr ⟨inside, trail.inside⟩

theorem shorter (trail : Trail size cells) (long : 1 < cells.length) : Trail size cells.dropLast where
  nonempty := List.ne_nil_of_length_pos (by rw [List.length_dropLast]; omega)
  nodup := trail.nodup.sublist (List.dropLast_sublist cells)
  chain := trail.chain.dropLast
  inside := fun p member => trail.inside p ((List.dropLast_sublist _).subset member)

end Trail

namespace State

variable {k : Catalog} {c : Config} {s s' : State} {target p : Position}

theorem mem_crept (member : p ∈ s.crept target) : p ∈ s.grown target :=
  (List.dropLast_sublist _).subset member

theorem mem_trimmed (member : p ∈ s.trimmed target) : p ∈ s.grown target := by
  unfold trimmed at member
  split at member
  · exact mem_crept ((List.dropLast_sublist _).subset member)
  · exact mem_crept member

theorem trail_crept (alive : s.snake ≠ []) (trail : Trail c.gridSize (s.grown target)) :
    Trail c.gridSize (s.crept target) := by
  refine trail.shorter ?_
  have longer := List.length_pos_iff.mpr alive
  simp only [grown, List.length_cons]
  omega

theorem trail_trimmed (alive : s.snake ≠ []) (trail : Trail c.gridSize (s.grown target)) :
    Trail c.gridSize (s.trimmed target) := by
  have crept := trail_crept alive trail
  unfold trimmed
  split
  · refine crept.shorter ?_
    simp only [State.crept, List.length_dropLast]
    omega
  · exact crept

-- The cells of food, bugs and tiles.
def entities (s : State) : List Position := s.food ++ s.bugs ++ s.slots.map Slot.position

structure Placed (c : Config) (s : State) : Prop where
  snake : Trail c.gridSize s.snake
  food : s.food.length = 1
  inside : ∀ p ∈ s.entities, p.inBounds c.gridSize = true
  apart : s.entities.Nodup
  free : ∀ p ∈ s.food ++ s.bugs, p ∉ s.snake
  bugs : (s.bugs.length : Int) ≤ max 3 c.bugFloor

theorem placed_initial (wide : 14 ≤ c.gridSize) : Placed c .initial := by
  have within : ∀ p ∈ initial.snake ++ initial.entities, p.inBounds 14 = true := by decide
  have inside := fun p member => Position.inBounds_wider wide (within p member)
  have ⟨snake, entities⟩ := List.forall_mem_append.mp inside
  constructor
  · exact ⟨by decide, by decide, .singleton _, snake⟩
  · rfl
  · exact entities
  · decide
  · decide
  · simp only [initial, List.length_cons, List.length_nil]
    omega

namespace Placed

-- Only these four matter.
theorem frame (placed : Placed c s) (snake : s'.snake = s.snake) (food : s'.food = s.food)
    (bugs : s'.bugs = s.bugs) (slots : s'.slots = s.slots) : Placed c s' := by
  have entities : s'.entities = s.entities := by rw [State.entities, food, bugs, slots, State.entities]
  constructor
  · exact snake ▸ placed.snake
  · exact food ▸ placed.food
  · exact entities ▸ placed.inside
  · exact entities ▸ placed.apart
  · exact food ▸ bugs ▸ snake ▸ placed.free
  · exact bugs ▸ placed.bugs

theorem food_eq (placed : Placed c s) (eaten : target ∈ s.food) : s.food = [target] := by
  obtain ⟨only, same⟩ := List.length_eq_one_iff.mp placed.food
  rw [same, List.mem_singleton] at eaten
  rw [same, eaten]

theorem food_off_bugs (placed : Placed c s) (eaten : target ∈ s.food) : target ∉ s.bugs := by
  have apart := List.nodup_append.mp (List.nodup_append.mp placed.apart).1
  exact fun hit => apart.2.2 target eaten target hit rfl

theorem tile_off_bugs (placed : Placed c s) {slot : Slot} (found : s.slotAt? target = some slot) :
    target ∉ s.bugs := by
  intro hit
  have there : slot.position = target := by simpa using List.find?_some found
  have tile := List.mem_map_of_mem (f := Slot.position) (List.mem_of_find?_eq_some found)
  have apart := List.nodup_append.mp placed.apart
  exact apart.2.2 target (List.mem_append_right _ hit) _ tile there.symm

-- What is neither ahead nor on the snake is not on the snake after its step.
theorem free_grown (placed : Placed c s) (noFood : target ∉ s.food) (noBug : target ∉ s.bugs) :
    ∀ p ∈ s.food ++ s.bugs, p ∉ s.grown target := by
  intro p thing member
  rcases List.mem_cons.mp member with rfl | own
  · exact (List.mem_append.mp thing).elim noFood noBug
  · exact placed.free p thing own

end Placed

theorem off_entities {cell : Position} (free : cell ∉ target :: s.occupied) : cell ∉ s.entities := by
  intro member
  refine free (List.mem_cons_of_mem _ ?_)
  simp only [occupied, entities, List.mem_append] at member ⊢
  tauto

theorem off_grown {cell : Position} (free : cell ∉ target :: s.occupied) : cell ∉ s.grown target := by
  intro member
  refine free ((List.mem_cons.mp member).elim (fun same => same ▸ List.mem_cons_self) ?_)
  intro own
  simp only [occupied, List.mem_cons, List.mem_append]
  exact .inr (.inl (.inl (.inl own)))

-- Food that is eaten turns up somewhere else.
theorem placed_food {cell : Position} {score : Int} (placed : Placed c s)
    (trail : Trail c.gridSize (s.grown target)) (eaten : target ∈ s.food)
    (free : cell ∉ target :: s.occupied) (inside : cell.inBounds c.gridSize = true) :
    Placed c { s with
      snake := s.grown target, food := s.food.filter (· != target) ++ [cell], score } := by
  have noBug := placed.food_off_bugs eaten
  have onlyFood := placed.food_eq eaten
  have swapped : s.food.filter (· != target) ++ [cell] = [cell] := by simp [onlyFood]
  rw [swapped]
  have others : ∀ p, p ∈ s.bugs ++ s.slots.map Slot.position → p ∈ s.entities := by
    intro p member
    rw [entities, List.append_assoc]
    exact List.mem_append_right _ member
  constructor
  · exact trail
  · rfl
  · intro p member
    rcases List.mem_cons.mp member with rfl | other
    · exact inside
    · exact placed.inside p (others p other)
  · have apart := placed.apart
    rw [entities, List.append_assoc] at apart
    refine List.nodup_cons.mpr ⟨fun member => off_entities free (others cell member), ?_⟩
    exact (List.nodup_append.mp apart).2.1
  · intro p thing member
    rcases List.mem_cons.mp thing with rfl | bug
    · exact off_grown free member
    · rcases List.mem_cons.mp member with rfl | own
      · exact noBug bug
      · exact placed.free p (List.mem_append_right _ bug) own
  · exact placed.bugs

-- A bug that is hit is gone.
theorem placed_hit {mode : Mode} {reason : Option EndReason} {score : Int} (placed : Placed c s)
    (trail : Trail c.gridSize (s.grown target)) (noFood : target ∉ s.food) :
    Placed c { s with
      snake := s.trimmed target, bugs := s.bugs.filter (· != target), mode, reason, score } := by
  have fewer := List.filter_sublist (p := (· != target)) (l := s.bugs)
  have entities := ((List.Sublist.refl s.food).append fewer).append
    (.refl (s.slots.map Slot.position))
  have alive : s.snake ≠ [] := placed.snake.nonempty
  constructor
  · exact trail_trimmed alive trail
  · exact placed.food
  · exact fun p member => placed.inside p (entities.subset member)
  · exact placed.apart.sublist entities
  · intro p thing member
    rcases List.mem_cons.mp (mem_trimmed member) with rfl | own
    · simp [noFood] at thing
    · exact placed.free p (((List.Sublist.refl s.food).append fewer).subset thing) own
  · have shorter := fewer.length_le
    have few := placed.bugs
    dsimp only
    omega

-- A bug comes back as long as there are too few.
theorem placed_spawn {cell : Position} (placed : Placed c s)
    (trail : Trail c.gridSize (s.grown target)) (noFood : target ∉ s.food) (noBug : target ∉ s.bugs)
    (few : (s.bugs.length : Int) < c.bugFloor) (free : cell ∉ target :: s.occupied)
    (inside : cell.inBounds c.gridSize = true) :
    Placed c { s with snake := s.crept target, bugs := s.bugs ++ [cell] } := by
  have moved : (s.food ++ (s.bugs ++ [cell]) ++ s.slots.map Slot.position).Perm
      (cell :: s.entities) := by
    rw [entities, ← List.append_assoc, List.append_assoc _ [cell], List.singleton_append]
    exact List.perm_middle
  constructor
  · exact trail_crept placed.snake.nonempty trail
  · exact placed.food
  · intro p member
    rcases List.mem_cons.mp (moved.subset member) with rfl | other
    · exact inside
    · exact placed.inside p other
  · exact moved.nodup_iff.mpr (List.nodup_cons.mpr ⟨off_entities free, placed.apart⟩)
  · intro p thing member
    rw [← List.append_assoc, List.mem_append, List.mem_singleton] at thing
    rcases thing with old | rfl
    · exact placed.free_grown noFood noBug p old (mem_crept member)
    · exact off_grown free (mem_crept member)
  · rw [List.length_append, List.length_singleton]
    omega

theorem placed_crept (placed : Placed c s) (trail : Trail c.gridSize (s.grown target))
    (noFood : target ∉ s.food) (noBug : target ∉ s.bugs) :
    Placed c { s with snake := s.crept target } where
  snake := trail_crept placed.snake.nonempty trail
  food := placed.food
  inside := placed.inside
  apart := placed.apart
  free := fun p thing member => placed.free_grown noFood noBug p thing (mem_crept member)
  bugs := placed.bugs

theorem placed_enters (placed : Placed c s) (trail : Trail c.gridSize (s.grown target))
    (enters : Enters k c s target s') : Placed c s' := by
  cases enters with
  | food eaten free inside => exact placed_food placed trail eaten free inside
  | tile noFood found =>
    exact (placed_crept placed trail noFood (placed.tile_off_bugs found)).frame rfl rfl rfl rfl
  | crash noFood => exact placed_hit placed trail noFood
  | bug noFood => exact placed_hit placed trail noFood
  | spawn noFood noBug few free inside => exact placed_spawn placed trail noFood noBug few free inside
  | move noFood noBug => exact placed_crept placed trail noFood noBug

-- The tile of a solved challenge is gone.
theorem placed_resume (placed : Placed c s) : Placed c s.resume := by
  have fewer := List.filter_sublist (p := (some · != s.activeSlot)) (l := s.slots)
  have entities := (List.Sublist.refl (s.food ++ s.bugs)).append (fewer.map Slot.position)
  constructor
  · exact placed.snake
  · exact placed.food
  · exact fun p member => placed.inside p (entities.subset member)
  · exact placed.apart.sublist entities
  · exact placed.free
  · exact placed.bugs

theorem placed_changes (wide : 14 ≤ c.gridSize) (placed : Placed c s) (changes : Changes k c s s') :
    Placed c s' := by
  cases changes with
  | enter running ahead inside off enters =>
    refine placed_enters (s := s.turned) (placed.frame rfl rfl rfl rfl) ?_ enters
    have trail := placed.snake
    rw [ahead] at trail
    rw [grown, turned, ahead]
    exact trail.longer inside off
  | solve current verdicts => exact placed_resume (placed.frame rfl rfl rfl rfl)
  | reset => exact placed_initial wide
  | wall | itself | begin | pause | count | start | turn | skip | reveal | judge =>
    exact placed.frame rfl rfl rfl rfl

end State

namespace Engine

-- Whatever the catalog, the rules, the draws, the store and the listeners are.
theorem placed_always (e : Engine) (fresh : e.state = .initial) (wide : 14 ≤ e.config.gridSize)
    {commands : List Command} (play : ∀ command ∈ commands, command.isPlay) :
    (e.performAll commands).state.Placed e.config :=
  kept_performAll e fresh (State.placed_initial wide)
    (fun _ _ placed changes => State.placed_changes wide placed changes) play

-- The smallest grid that has room for a new game, and a snake that eats and grows on it.
def smallGame : Engine := { config := { gridSize := 14 }, source := .scripted [0, 0] }

def firstMeal : List Command :=
  [.toggle, .countdownTick, .countdownTick, .countdownTick, .countdownTick, .ticks 5,
    .direction (.str "down"), .ticks 3]

theorem firstMeal_placed :
    smallGame.state = .initial ∧ 14 ≤ smallGame.config.gridSize ∧
      (∀ command ∈ firstMeal, command.isPlay) ∧
      (smallGame.performAll firstMeal).state.snake = [⟨12, 10⟩, ⟨12, 9⟩] ∧
      (smallGame.performAll firstMeal).state.food = [⟨0, 0⟩] ∧
      (smallGame.performAll firstMeal).state.Placed smallGame.config :=
  ⟨rfl, by decide, by decide, by decide +kernel, by decide +kernel,
    placed_always smallGame rfl (by decide) (by decide)⟩

end Engine
end ScriptArena.Arena
