import Mathlib.Data.List.Nodup
import Mathlib.Data.List.Perm.Subperm
import Mathlib.Data.List.ProdSigma
import ScriptArena.Proofs.Arena.Layout
import ScriptArena.Proofs.Arena.Lifecycle
import ScriptArena.Proofs.Value.Distinct

namespace ScriptArena.Arena

def gridCells (size : Int) : List Position :=
  (List.range size.toNat ×ˢ List.range size.toNat).map fun (x, y) => ⟨x, y⟩

theorem mem_gridCells {size : Int} {p : Position} :
    p ∈ gridCells size ↔ p.inBounds size = true := by
  simp only [gridCells, List.mem_map, Prod.exists, List.mem_product, List.mem_range,
    Position.inBounds, Bool.and_eq_true, decide_eq_true_eq]
  constructor
  · rintro ⟨x, y, inside, rfl⟩
    dsimp only
    omega
  · intro inside
    refine ⟨p.x.toNat, p.y.toNat, by omega, ?_⟩
    rw [Int.toNat_of_nonneg (by omega), Int.toNat_of_nonneg (by omega)]

theorem nodup_gridCells (size : Int) : (gridCells size).Nodup := by
  refine List.Nodup.map ?_ (List.Nodup.product List.nodup_range List.nodup_range)
  rintro ⟨x, y⟩ ⟨x', y'⟩ same
  simp only [Position.mk.injEq, Int.natCast_inj] at same
  rw [same.1, same.2]

theorem length_gridCells {size : Int} (proper : 0 ≤ size) :
    ((gridCells size).length : Int) = size * size := by
  rw [gridCells, List.length_map, List.length_product, List.length_range, Int.natCast_mul,
    Int.toNat_of_nonneg proper]

-- As long as nothing is off the grid, there is no room left when every cell is occupied.
theorem hasRoom_full {occupied : List Position} {size : Int} (proper : 0 ≤ size)
    (inside : ∀ p ∈ occupied, p.inBounds size = true) :
    hasRoom occupied size = false ↔ ∀ p : Position, p.inBounds size = true → p ∈ occupied := by
  have within : occupied.eraseDups ⊆ gridCells size := fun p member =>
    mem_gridCells.mpr (inside p (List.mem_eraseDups.mp member))
  have all := List.subperm_of_subset (nodup_eraseDups occupied) within
  rw [hasRoom, decide_eq_false_iff_not, ← length_gridCells proper, Int.not_lt, Int.ofNat_le]
  constructor
  · intro many p cell
    have same := all.perm_of_length_le many
    exact List.mem_eraseDups.mp (same.mem_iff.mpr (mem_gridCells.mpr cell))
  · intro full
    refine (List.subperm_of_subset (nodup_gridCells size) fun p cell => ?_).length_le
    exact List.mem_eraseDups.mpr (full p (mem_gridCells.mp cell))

-- A list that has all cells of the grid is as long as the grid is large.
theorem full_length {cells : List Position} {size : Int} (proper : 0 ≤ size)
    (full : ∀ p : Position, p.inBounds size = true → p ∈ cells) : size * size ≤ cells.length := by
  rw [← length_gridCells proper, Int.ofNat_le]
  refine (List.subperm_of_subset (nodup_gridCells size) ?_).length_le
  exact fun p member => full p (mem_gridCells.mp member)

-- The cells that a source draws, as long as it can.
def drawnCells (size : Int) : Nat → Draw.Source → List Position
  | 0, _ => []
  | fuel + 1, source =>
    match drawCell size source with
    | .ok (cell, source) => cell :: drawnCells size fuel source
    | .error _ => []

theorem belowFrom_fails {n fuel : Nat} {t : Draw.Twister} {why : Draw.Failure}
    (failed : Draw.belowFrom n fuel t = .error why) : why = .exhausted := by
  induction fuel generalizing t with
  | zero =>
    cases failed
    rfl
  | succ fuel ih =>
    simp only [Draw.belowFrom] at failed
    split at failed
    · cases failed
    · exact ih failed

theorem below_fails {n : Int} {source : Draw.Source} {why : Draw.Failure} (positive : 0 < n)
    (failed : source.below n = .error why) : why = .exhausted := by
  have proper : ¬ n ≤ 0 := by omega
  cases source with
  | seeded t =>
    simp only [Draw.Source.below, if_neg proper] at failed
    cases drawn : Draw.belowFrom n.toNat (Draw.patience t) t with
    | error e =>
      rw [drawn] at failed
      cases failed
      exact belowFrom_fails drawn
    | ok pair =>
      rw [drawn] at failed
      cases failed
  | scripted numbers =>
    simp only [Draw.Source.below, if_neg proper] at failed
    cases numbers with
    | nil =>
      cases failed
      rfl
    | cons => cases failed

theorem drawCell_fails {size : Int} {source : Draw.Source} {why : Draw.Failure} (positive : 0 < size)
    (failed : drawCell size source = .error why) : why = .exhausted := by
  simp only [drawCell, bind, Except.bind] at failed
  cases first : source.below size with
  | error e =>
    rw [first] at failed
    cases failed
    exact below_fails positive first
  | ok pair =>
    obtain ⟨x, between⟩ := pair
    cases second : between.below size with
    | error e =>
      simp only [first, second] at failed
      cases failed
      exact below_fails positive second
    | ok pair =>
      simp only [first, second] at failed
      cases failed

-- A search ends with the first free cell that is drawn, and fails if there is none.
theorem searchCell_fails {occupied : List Position} {size : Int} {fuel : Nat} {source : Draw.Source}
    {why : Draw.Failure} (positive : 0 < size)
    (failed : searchCell occupied size fuel source = .error why) :
    why = .exhausted ∧ ∀ cell ∈ drawnCells size fuel source, cell ∈ occupied := by
  induction fuel generalizing source with
  | zero =>
    cases failed
    exact ⟨rfl, List.forall_mem_nil _⟩
  | succ fuel ih =>
    simp only [searchCell, bind, Except.bind] at failed
    cases drawn : drawCell size source with
    | error e =>
      rw [drawn] at failed
      cases failed
      refine ⟨drawCell_fails positive drawn, ?_⟩
      rw [drawnCells, drawn]
      exact List.forall_mem_nil _
    | ok pair =>
      obtain ⟨cell, next⟩ := pair
      simp only [drawn] at failed
      split at failed
      · rename_i taken
        obtain ⟨same, later⟩ := ih failed
        refine ⟨same, ?_⟩
        rw [drawnCells, drawn]
        exact List.forall_mem_cons.mpr ⟨by simpa using taken, later⟩
      · cases failed

theorem emptyCell_full {occupied : List Position} {size : Int} {source : Draw.Source} :
    emptyCell occupied size source = .error .noEmptyCell ↔ hasRoom occupied size = false := by
  unfold emptyCell
  split
  · rename_i room
    rw [room]
    split
    · simp
    · simp
  · rename_i full
    simpa using full

theorem emptyCell_fails {occupied : List Position} {size : Int} {source : Draw.Source} {why : Refusal}
    (positive : 0 < size) (failed : emptyCell occupied size source = .error why) :
    why = .noEmptyCell ∨
      why = .draw .exhausted ∧ ∀ cell ∈ drawnCells size source.tries source, cell ∈ occupied := by
  unfold emptyCell at failed
  split at failed
  · cases searched : searchCell occupied size source.tries source with
    | ok pair =>
      rw [searched] at failed
      cases failed
    | error e =>
      rw [searched] at failed
      cases failed
      obtain ⟨rfl, taken⟩ := searchCell_fails positive searched
      exact .inr ⟨rfl, taken⟩
  · cases failed
    exact .inl rfl

namespace State

variable {k : Catalog} {c : Config} {s s' : State} {target : Position} {source : Draw.Source}
  {why : Refusal}

-- A running snake is about to enter the cell.
structure StepsOn (c : Config) (s : State) (target : Position) : Prop where
  running : s.mode = .running
  ahead : ∃ head body, s.snake = head :: body ∧ target = head.moved s.nextDirection ∧ target ∉ body
  inside : target.inBounds c.gridSize = true

-- The step onto a cell puts something on the grid: food instead of what is eaten, or a missing bug.
inductive Spawns (c : Config) (s : State) (target : Position) : Prop where
  | food (eaten : target ∈ s.food)
  | bug (noFood : target ∉ s.food) (noTile : s.slotAt? target = none) (noBug : target ∉ s.bugs)
      (few : (s.bugs.length : Int) < c.bugFloor)

-- What a step puts on the grid does not depend on where the snake comes from.
theorem spawns_turned (spawns : Spawns c s.turned target) : Spawns c s target := by
  cases spawns with
  | food eaten => exact .food eaten
  | bug noFood noTile noBug few => exact .bug noFood noTile noBug few

theorem turned_spawns (spawns : Spawns c s target) : Spawns c s.turned target := by
  cases spawns with
  | food eaten => exact .food eaten
  | bug noFood noTile noBug few => exact .bug noFood noTile noBug few

theorem eatFood_error :
    s.eatFood c source target = .error why ↔
      emptyCell (target :: s.occupied) c.gridSize source = .error why := by
  unfold eatFood
  cases emptyCell (target :: s.occupied) c.gridSize source with
  | error => simp [bind, Except.bind]
  | ok => exact ⟨nofun, nofun⟩

theorem spawnBug_error :
    s.spawnBug c source target = .error why ↔
      emptyCell (target :: s.occupied) c.gridSize source = .error why := by
  unfold spawnBug
  cases emptyCell (target :: s.occupied) c.gridSize source with
  | error => simp [bind, Except.bind]
  | ok => exact ⟨nofun, nofun⟩

theorem enter_error :
    s.enter k c source target = .error why ↔
      Spawns c s target ∧ emptyCell (target :: s.occupied) c.gridSize source = .error why := by
  unfold enter
  by_cases eaten : target ∈ s.food
  · rw [if_pos (by simpa using eaten), eatFood_error]
    exact ⟨fun failed => ⟨.food eaten, failed⟩, And.right⟩
  rw [if_neg (by simpa using eaten)]
  cases found : s.slotAt? target with
  | some slot =>
    refine ⟨nofun, ?_⟩
    rintro ⟨spawns, -⟩
    cases spawns with
    | food eaten' => exact absurd eaten' eaten
    | bug noFood noTile => cases found.symm.trans noTile
  | none =>
    dsimp only
    by_cases hit : target ∈ s.bugs
    · rw [if_pos (by simpa using hit)]
      refine ⟨nofun, ?_⟩
      rintro ⟨spawns, -⟩
      cases spawns with
      | food eaten' => exact absurd eaten' eaten
      | bug noFood noTile noBug => exact absurd hit noBug
    rw [if_neg (by simpa using hit)]
    by_cases few : (s.bugs.length : Int) < c.bugFloor
    · rw [if_pos few, spawnBug_error]
      exact ⟨fun failed => ⟨.bug eaten found hit few, failed⟩, And.right⟩
    · rw [if_neg few]
      refine ⟨nofun, ?_⟩
      rintro ⟨spawns, -⟩
      cases spawns with
      | food eaten' => exact absurd eaten' eaten
      | bug noFood noTile noBug few' => exact absurd few' few

theorem step_error (running : s.mode = .running) (alive : s.snake ≠ []) :
    s.step k c source = .error why ↔
      ∃ target, StepsOn c s target ∧ Spawns c s target ∧
        emptyCell (target :: s.occupied) c.gridSize source = .error why := by
  unfold step
  cases ahead : s.snake with
  | nil => exact absurd ahead alive
  | cons head body =>
    dsimp only
    have only : ∀ target, StepsOn c s target → target = head.moved s.nextDirection ∧ target ∉ body := by
      rintro target ⟨-, ⟨head', body', shape, same, off⟩, -⟩
      cases ahead.symm.trans shape
      exact ⟨same, off⟩
    split
    · rename_i outside
      refine ⟨nofun, ?_⟩
      rintro ⟨target, on, -⟩
      obtain ⟨rfl, -⟩ := only target on
      simp [on.inside] at outside
    rename_i inside
    split
    · rename_i hit
      refine ⟨nofun, ?_⟩
      rintro ⟨target, on, -⟩
      obtain ⟨rfl, off⟩ := only target on
      exact absurd (by simpa using hit) off
    rename_i off
    have on : StepsOn c s (head.moved s.nextDirection) :=
      ⟨running, ⟨head, body, ahead, rfl, by simpa using off⟩, by simpa using inside⟩
    rw [enter_error]
    constructor
    · rintro ⟨spawns, failed⟩
      exact ⟨_, on, spawns_turned spawns, failed⟩
    · rintro ⟨target, there, spawns, failed⟩
      obtain ⟨rfl, -⟩ := only target there
      exact ⟨turned_spawns spawns, failed⟩

theorem advance_error (alive : s.snake ≠ []) :
    s.advance k c source = .error why ↔
      ∃ target, StepsOn c s target ∧ Spawns c s target ∧
        emptyCell (target :: s.occupied) c.gridSize source = .error why := by
  by_cases running : s.mode = .running
  · rw [← step_error running alive, advance, if_neg (by simp [running]), if_pos running]
  · refine ⟨?_, fun ⟨_, on, _⟩ => absurd on.running running⟩
    intro failed
    unfold advance at failed
    rw [if_neg running] at failed
    split at failed
    · cases failed
    · cases failed

structure Supplied (s : State) : Prop where
  hints : 0 ≤ s.hints
  slots : s.slots.length ≤ 3

theorem supplied_initial : Supplied .initial := ⟨by decide, by decide⟩

theorem supplied_enters (supplied : Supplied s) (enters : Enters k c s target s') : Supplied s' := by
  cases enters with
  | tile => exact ⟨Int.le_refl 0, supplied.slots⟩
  | food | crash | bug | spawn | move => exact ⟨supplied.hints, supplied.slots⟩

theorem supplied_changes (supplied : Supplied s) (changes : Changes k c s s') : Supplied s' := by
  cases changes with
  | enter running ahead inside off enters =>
    exact supplied_enters (s := s.turned) ⟨supplied.hints, supplied.slots⟩ enters
  | skip => exact ⟨Int.le_refl 0, supplied.slots⟩
  | reveal => exact ⟨Int.add_nonneg supplied.hints (by decide), supplied.slots⟩
  | solve =>
    refine ⟨Int.le_refl 0, ?_⟩
    exact Nat.le_trans (List.length_filter_le _ _) supplied.slots
  | reset => exact supplied_initial
  | wall | itself | begin | pause | count | start | turn | judge =>
    exact ⟨supplied.hints, supplied.slots⟩

theorem Placed.occupied_inside (placed : Placed c s) (inside : target.inBounds c.gridSize = true) :
    ∀ p ∈ target :: s.occupied, p.inBounds c.gridSize = true := by
  refine List.forall_mem_cons.mpr ⟨inside, fun p member => ?_⟩
  simp only [occupied, List.append_assoc, List.mem_append] at member
  rcases member with own | thing
  · exact placed.snake.inside p own
  · exact placed.inside p (by simpa only [entities, List.append_assoc, List.mem_append] using thing)

-- A grid on which a step has to put something is filled by the snake, one piece of food, the bugs and the
-- tiles, and by the cell that the snake enters.
theorem full_snake (wide : 14 ≤ c.gridSize) (placed : Placed c s) (supplied : Supplied s)
    (spawns : Spawns c s target)
    (full : ∀ p : Position, p.inBounds c.gridSize = true → p ∈ target :: s.occupied) :
    c.gridSize * c.gridSize ≤ s.snake.length + 4 + max 3 c.bugFloor := by
  have food := placed.food
  have bugs := placed.bugs
  have slots := supplied.slots
  have total : s.occupied.length = s.snake.length + 1 + s.bugs.length + s.slots.length := by
    simp only [occupied, List.length_append, List.length_map, food]
  cases spawns with
  | food eaten =>
    have there : target ∈ s.occupied := by simp [occupied, eaten]
    have most := full_length (by omega) fun p inside =>
      (List.mem_cons.mp (full p inside)).elim (fun same => same ▸ there) id
    omega
  | bug noFood noTile noBug few =>
    have most := full_length (by omega) full
    rw [List.length_cons] at most
    omega

end State

namespace Engine
open State

variable {e : Engine} {why : Refusal}

theorem tick_error :
    e.tick.1 = .error why ↔ e.state.advance e.catalog e.config e.source = .error why := by
  unfold tick
  split
  · rename_i failed
    rw [failed]
    simp
  · rename_i still
    rw [still]
    simp
  · rename_i moved
    rw [moved]
    simp

theorem tick_refused (failed : e.tick.1 = .error why) : e.tick.2 = e := by
  have advance := tick_error.mp failed
  unfold tick
  rw [advance]

theorem turn_refused {d : Datum} (failed : (e.turn d).1 = .error why) : (e.turn d).2 = e := by
  unfold turn at failed ⊢
  cases read : Direction.ofDatum d with
  | ok d =>
    rw [read] at failed
    cases failed
  | error r => rfl

theorem submit_refused {source : String} (failed : (e.submit source).1 = .error why) :
    (e.submit source).2 = e := by
  unfold submit at failed ⊢
  cases current : e.state.current? with
  | error r => rfl
  | ok ch =>
    rw [current] at failed
    cases failed

theorem skip_refused (failed : e.skip.1 = .error why) : e.skip.2 = e := by
  unfold skip at failed ⊢
  cases skipped : e.state.skipChallenge with
  | error r => rfl
  | ok s =>
    rw [skipped] at failed
    cases failed

-- There is a text for every hint that is revealed.
theorem hintAt_ok {hints : List String} {n : Int} (low : 0 ≤ n) (high : n < hints.length) :
    ∃ hint, hintAt hints n = .ok hint := by
  have bound : n.toNat < hints.length := by omega
  have there : hints[n.toNat]? = some hints[n.toNat] := List.getElem?_eq_getElem bound
  refine ⟨hints[n.toNat], ?_⟩
  simp only [hintAt, if_neg (Int.not_lt.mpr low), there]

theorem hint_refused (supplied : e.state.Supplied) (failed : e.hint.1 = .error why) :
    e.hint.2 = e := by
  unfold hint at failed ⊢
  cases current : e.state.current? with
  | error r => rfl
  | ok ch =>
    have revealed : e.state.revealHint =
        .ok (if e.state.hints ≥ ch.hints.length then none
          else some { e.state with hints := e.state.hints + 1 }) := by
      rw [revealHint, current]
      rfl
    rw [current, revealed] at failed
    rw [revealed]
    by_cases all : e.state.hints ≥ ch.hints.length
    · rw [if_pos all]
    · have low := supplied.hints
      have ⟨hint, found⟩ : ∃ hint, hintAt ch.hints (e.state.hints + 1 - 1) = .ok hint :=
        hintAt_ok (by omega) (by omega)
      rw [if_neg all] at failed
      simp only [found] at failed
      cases failed

theorem replied_refused {α : Type} (reply : α → Reply) {result : Except Refusal α × Engine}
    (accepts : ∀ a, reply a ≠ .refused why) (kept : result.1 = .error why → result.2 = e)
    (refused : (replied reply result).1 = .refused why) : (replied reply result).2 = e := by
  obtain ⟨answer, f⟩ := result
  cases answer with
  | ok a => exact absurd refused (accepts a)
  | error r =>
    cases refused
    exact kept rfl

-- Not even the source of draws has changed, and no listener was told anything.
theorem perform_refused {command : Command} (supplied : e.state.Supplied) (single : command.isSingle)
    (refused : (e.perform command).1 = .refused why) : (e.perform command).2 = e := by
  cases command with
  | tick => exact replied_refused .event (fun _ => nofun) tick_refused refused
  | direction d => exact replied_refused (fun _ => .done) (fun _ => nofun) turn_refused refused
  | submit source => exact replied_refused .verdicts (fun _ => nofun) submit_refused refused
  | solve =>
    exact replied_refused (fun vs : List Verdict => .passed (vs.map (·.passed))) (fun _ => nofun)
      submit_refused refused
  | skip => exact replied_refused (fun _ => .done) (fun _ => nofun) skip_refused refused
  | hint => exact replied_refused .hint (fun _ => nofun) (hint_refused supplied) refused
  | signIn user =>
    simp only [perform] at refused
    split at refused
    · cases refused
    · cases refused
  | ticks | set => cases single
  | countdownTick | toggle | reset | signOut | flush | snapshot | look | reach | await | subscribe
  | unsubscribe => cases refused

theorem supplied_always (e : Engine) (fresh : e.state = .initial) {commands : List Command}
    (play : ∀ command ∈ commands, command.isPlay) : (e.performAll commands).state.Supplied :=
  kept_performAll e fresh supplied_initial (fun _ _ supplied changes => supplied_changes supplied changes)
    play

theorem refused_exactly (e : Engine) (fresh : e.state = .initial) (wide : 14 ≤ e.config.gridSize)
    {commands : List Command} (play : ∀ command ∈ commands, command.isPlay) {f : Engine}
    (played : e.performAll commands = f) :
    (∀ (command : Command) (why : Refusal), command.isSingle →
      (f.perform command).1 = .refused why → (f.perform command).2 = f) ∧
    (f.tick.1 = .error .noEmptyCell ↔
      ∃ target, StepsOn e.config f.state target ∧ Spawns e.config f.state target ∧
        ∀ p : Position, p.inBounds e.config.gridSize = true → p ∈ target :: f.state.occupied) ∧
    (f.state.snake.length + 4 + max 3 e.config.bugFloor < e.config.gridSize * e.config.gridSize →
      f.tick.1 ≠ .error .noEmptyCell) ∧
    ∀ why, f.tick.1 = .error why → why ≠ .noEmptyCell →
      why = .draw .exhausted ∧
        ∃ target, StepsOn e.config f.state target ∧ Spawns e.config f.state target ∧
          ∀ cell ∈ drawnCells e.config.gridSize f.source.tries f.source,
            cell ∈ target :: f.state.occupied := by
  have placed := placed_always e fresh wide play
  have supplied := supplied_always e fresh play
  have rules := (leads_performAll play e).config
  rw [played] at placed supplied rules
  have fails : ∀ why, f.tick.1 = .error why ↔ ∃ target, StepsOn e.config f.state target ∧
      Spawns e.config f.state target ∧
        emptyCell (target :: f.state.occupied) e.config.gridSize f.source = .error why := by
    intro why
    rw [tick_error, advance_error placed.snake.nonempty, rules]
  have full : f.tick.1 = .error .noEmptyCell ↔ ∃ target, StepsOn e.config f.state target ∧
      Spawns e.config f.state target ∧
        ∀ p : Position, p.inBounds e.config.gridSize = true → p ∈ target :: f.state.occupied := by
    rw [fails]
    refine exists_congr fun target => and_congr_right fun on => and_congr_right fun _ => ?_
    rw [emptyCell_full, hasRoom_full (by omega) (placed.occupied_inside on.inside)]
  refine ⟨fun _ _ single refused => perform_refused supplied single refused, full, ?_, ?_⟩
  · intro room failed
    obtain ⟨target, -, spawns, all⟩ := full.mp failed
    have long := full_snake wide placed supplied spawns all
    omega
  · intro why failed other
    obtain ⟨target, on, spawns, none⟩ := (fails why).mp failed
    obtain ⟨same, drawn⟩ := (emptyCell_fails (by omega) none).resolve_left other
    exact ⟨same, target, on, spawns, drawn⟩

-- After a meal, there is nothing to skip and plenty of room.
theorem firstMeal_refused :
    smallGame.state = .initial ∧ 14 ≤ smallGame.config.gridSize ∧
      (∀ command ∈ firstMeal, command.isPlay) ∧
      ((smallGame.performAll firstMeal).perform .skip).1 = .refused .nothingToSkip ∧
      ((smallGame.performAll firstMeal).perform .skip).2 = smallGame.performAll firstMeal ∧
      (smallGame.performAll firstMeal).tick.1 ≠ .error .noEmptyCell := by
  have play : ∀ command ∈ firstMeal, command.isPlay := by decide
  have inactive : (smallGame.performAll firstMeal).state.mode ≠ .challengeActive := by decide +kernel
  have refused : ((smallGame.performAll firstMeal).perform .skip).1 = .refused .nothingToSkip := by
    rw [perform, skip_inactive inactive]
    rfl
  have short : (smallGame.performAll firstMeal).state.snake.length = 2 := by decide +kernel
  obtain ⟨unchanged, -, room, -⟩ := refused_exactly smallGame rfl (by decide) play rfl
  exact ⟨rfl, by decide, play, refused, unchanged .skip _ rfl refused, room (by rw [short]; decide)⟩

end Engine
end ScriptArena.Arena
