import ScriptArena.Proofs.Arena.Refusals
import ScriptArena.Proofs.Draw.Periods

namespace ScriptArena.Arena

variable {size : Int} {occupied cells misses : List Position} {source next last : Draw.Source}
  {cell : Position}

-- The cells that a source draws one after the other, and what is left of it.
inductive Draws (size : Int) : Draw.Source → List Position → Draw.Source → Prop where
  | none (source : Draw.Source) : Draws size source [] source
  | next {source between last : Draw.Source} {cell : Position} {cells : List Position}
      (drawn : drawCell size source = .ok (cell, between)) (rest : Draws size between cells last) :
      Draws size source (cell :: cells) last

theorem drawCell_scripted (positive : 0 < size) (x y : Int) (rest : List Int) :
    drawCell size (.scripted (x :: y :: rest)) = .ok (⟨x % size, y % size⟩, .scripted rest) := by
  have proper : ¬ size ≤ 0 := by omega
  simp [drawCell, Draw.Source.below, proper, bind, Except.bind, pure, Except.pure]

theorem draws_scripted (positive : 0 < size) (pairs : List (Int × Int)) (rest : List Int) :
    Draws size (.scripted (pairs.flatMap (fun pair => [pair.1, pair.2]) ++ rest))
      (pairs.map fun pair => ⟨pair.1 % size, pair.2 % size⟩) (.scripted rest) := by
  induction pairs with
  | nil => exact .none _
  | cons pair pairs ih => exact .next (drawCell_scripted positive _ _ _) ih

-- What is drawn first and what is drawn then.
theorem draws_split {before after : List Position} (drawn : Draws size source (before ++ after) last) :
    ∃ between, Draws size source before between ∧ Draws size between after last := by
  induction before generalizing source with
  | nil => exact ⟨source, .none _, drawn⟩
  | cons cell before ih =>
    cases drawn with
    | next first rest =>
      rcases ih rest with ⟨between, one, two⟩
      exact ⟨between, .next first one, two⟩

-- A list of numbers has at most as many cells as numbers.
theorem draws_few {numbers : List Int} (drawn : Draws size (.scripted numbers) cells next) :
    cells.length ≤ numbers.length := by
  induction cells generalizing numbers with
  | nil => exact Nat.zero_le _
  | cons cell cells ih =>
    cases drawn with
    | next first rest =>
      have positive : ¬ size ≤ 0 := by
        intro empty
        simp [drawCell, Draw.Source.below, empty, bind, Except.bind] at first
      rcases numbers with _ | ⟨x, _ | ⟨y, numbers⟩⟩
      · simp [drawCell, Draw.Source.below, positive, bind, Except.bind] at first
      · simp [drawCell, Draw.Source.below, positive, bind, Except.bind] at first
      · rw [drawCell_scripted (Int.not_le.mp positive)] at first
        cases first
        have few := ih rest
        simp only [List.length_cons]
        omega

-- A source that draws a cell draws that one first.
theorem draws_first {p : Position} {between : Draw.Source}
    (first : drawCell size source = .ok (p, between)) :
    Draws size source (cell :: cells) last ↔ cell = p ∧ Draws size between cells last := by
  constructor
  · rintro (_ | ⟨drawn, rest⟩)
    cases first.symm.trans drawn
    exact ⟨rfl, rest⟩
  · rintro ⟨rfl, rest⟩
    exact .next first rest

theorem not_draws {why : Draw.Failure} (first : drawCell size source = .error why) :
    ¬ Draws size source (cell :: cells) last := by
  rintro (_ | ⟨drawn, -⟩)
  cases first.symm.trans drawn

theorem searchCell_exact {fuel : Nat} : searchCell occupied size fuel source = .ok (cell, next) ↔
    ∃ misses, misses.length < fuel ∧ Draws size source (misses ++ [cell]) next ∧
      (∀ p ∈ misses, p ∈ occupied) ∧ cell ∉ occupied := by
  induction fuel generalizing source with
  | zero => simp [searchCell]
  | succ fuel ih =>
    simp only [searchCell, bind, Except.bind]
    cases first : drawCell size source with
    | error why =>
      simp only [reduceCtorEq, false_iff]
      rintro ⟨_ | ⟨miss, misses⟩, -, drawn, -⟩
      · exact not_draws first drawn
      · exact not_draws first drawn
    | ok pair =>
      rcases pair with ⟨p, between⟩
      dsimp only
      split
      · rename_i taken
        rw [List.contains_iff_mem] at taken
        rw [ih]
        constructor
        · rintro ⟨misses, few, drawn, all, free⟩
          exact ⟨p :: misses, Nat.succ_lt_succ few, .next first drawn,
            List.forall_mem_cons.mpr ⟨taken, all⟩, free⟩
        · rintro ⟨_ | ⟨miss, misses⟩, few, drawn, all, free⟩
          · obtain ⟨rfl, -⟩ := (draws_first first).mp drawn
            exact absurd taken free
          · obtain ⟨rfl, rest⟩ := (draws_first first).mp drawn
            exact ⟨misses, Nat.lt_of_succ_lt_succ few, rest, (List.forall_mem_cons.mp all).2, free⟩
      · rename_i free
        rw [List.contains_iff_mem] at free
        constructor
        · intro found
          cases found
          exact ⟨[], Nat.succ_pos _, .next first (.none _), List.forall_mem_nil _, free⟩
        · rintro ⟨_ | ⟨miss, misses⟩, -, drawn, all, -⟩
          · obtain ⟨rfl, rest⟩ := (draws_first first).mp drawn
            cases rest
            rfl
          · obtain ⟨rfl, -⟩ := (draws_first first).mp drawn
            exact absurd (all _ List.mem_cons_self) free

-- What is left after one cell, if one can be drawn.
def afterCell (size : Int) (source : Draw.Source) : Draw.Source :=
  match drawCell size source with
  | .ok (_, next) => next
  | .error _ => source

-- The next cell that is drawn is taken.
def Misses (occupied : List Position) (size : Int) (source : Draw.Source) : Prop :=
  ∃ cell next, drawCell size source = .ok (cell, next) ∧ cell ∈ occupied

theorem draws_misses (drawn : Draws size source (misses ++ cells) next)
    (taken : ∀ p ∈ misses, p ∈ occupied) :
    (∀ k < misses.length, Misses occupied size ((afterCell size)^[k] source)) ∧
      Draws size ((afterCell size)^[misses.length] source) cells next := by
  induction misses generalizing source with
  | nil => exact ⟨fun k few => absurd few (Nat.not_lt_zero k), drawn⟩
  | cons miss misses ih =>
    rcases List.forall_mem_cons.mp taken with ⟨missed, others⟩
    cases drawn with
    | @next _ between _ _ _ first rest =>
      have after : afterCell size source = between := by simp [afterCell, first]
      rcases ih rest others with ⟨all, left⟩
      rw [← after] at all left
      refine ⟨fun k few => ?_, left⟩
      cases k with
      | zero => exact ⟨miss, between, first, missed⟩
      | succ k => exact all k (Nat.lt_of_succ_lt_succ few)

-- A generator with so many words, in a state it comes to.
def Turning (width : Nat) (source : Draw.Source) : Prop :=
  ∃ t : Draw.Twister, source = .seeded t ∧ t.Settled width

def codeOf (width : Nat) : Draw.Source → (Fin width → Fin (2 ^ 32)) × Fin (Draw.wordCount + 1)
  | .seeded t => t.code width
  | .scripted _ => (fun _ => ⟨0, Nat.two_pow_pos 32⟩, ⟨0, Nat.succ_pos _⟩)

theorem codeOf_faithful {width : Nat} {a b : Draw.Source} (turningA : Turning width a)
    (turningB : Turning width b) (same : codeOf width a = codeOf width b) : a = b := by
  rcases turningA with ⟨t, rfl, settled⟩
  rcases turningB with ⟨u, rfl, settled'⟩
  rw [Draw.Twister.code_faithful settled settled' same]

theorem drawCell_turning {t : Draw.Twister} (drawn : drawCell size (.seeded t) = .ok (cell, next)) :
    Turning t.words.size next := by
  simp only [drawCell, bind, Except.bind] at drawn
  cases first : (Draw.Source.seeded t).below size with
  | error why => simp [first] at drawn
  | ok pair =>
    rcases Draw.below_settled first with ⟨between, same, settled⟩
    simp only [first, same] at drawn
    cases second : (Draw.Source.seeded between).below size with
    | error why => simp [second] at drawn
    | ok pair =>
      rcases Draw.below_settled second with ⟨t', same, settled'⟩
      simp only [second, same, pure, Except.pure, Except.ok.injEq, Prod.mk.injEq] at drawn
      exact ⟨t', drawn.2.symm, settled.words ▸ settled'⟩

theorem afterCell_turning {width : Nat} (turning : Turning width source) :
    Turning width (afterCell size source) := by
  rcases turning with ⟨t, rfl, settled⟩
  unfold afterCell
  split
  · rename_i drawn
    exact settled.words ▸ drawCell_turning drawn
  · exact ⟨t, rfl, settled⟩

-- No search is given up that would have come to a free cell: a list of numbers ends before, and a
-- generator that has missed so often never hits.
theorem misses_few (drawn : Draws size source (misses ++ [cell]) next)
    (taken : ∀ p ∈ misses, p ∈ occupied) (free : cell ∉ occupied) : misses.length < source.tries := by
  cases source with
  | scripted numbers =>
    have few := draws_few drawn
    simp only [List.length_append, List.length_singleton] at few
    exact Nat.lt_succ_of_lt few
  | seeded t =>
    rcases draws_misses drawn taken with ⟨missed, left⟩
    have hit : ¬ Misses occupied size ((afterCell size)^[misses.length] (.seeded t)) := by
      rintro ⟨p, between, again, known⟩
      rcases left with _ | ⟨once, -⟩
      cases once.symm.trans again
      exact free known
    by_contra many
    rw [Nat.not_lt] at many
    refine hit ?_
    obtain ⟨later, counted⟩ : ∃ later, misses.length = later + 1 :=
      Nat.exists_eq_succ_of_ne_zero (Nat.ne_of_gt (Nat.lt_of_lt_of_le (Nat.succ_pos _) many))
    have first : Turning t.words.size (afterCell size (.seeded t)) := by
      rcases missed 0 (by omega) with ⟨p, between, once, -⟩
      rw [Function.iterate_zero_apply] at once
      have after : afterCell size (.seeded t) = between := by simp [afterCell, once]
      exact after ▸ drawCell_turning once
    rw [counted, Function.iterate_succ_apply]
    refine Draw.forever_kept (codeOf t.words.size) (Turning t.words.size) (Misses occupied size) ?_
      (fun a b => codeOf_faithful) ?_ later
    · intro k
      induction k with
      | zero => exact first
      | succ k ih =>
        rw [Function.iterate_succ_apply']
        exact afterCell_turning ih
    · intro k few
      rw [← Function.iterate_succ_apply]
      refine missed (k + 1) (Nat.lt_of_lt_of_le ?_ many)
      rw [Draw.Twister.card_code] at few
      rw [Draw.Source.tries, Draw.patience_states]
      exact Nat.succ_lt_succ few

theorem emptyCell_exact (room : hasRoom occupied size = true) :
    emptyCell occupied size source = .ok (cell, next) ↔
      ∃ misses, Draws size source (misses ++ [cell]) next ∧ (∀ p ∈ misses, p ∈ occupied) ∧
        cell ∉ occupied := by
  have searched : emptyCell occupied size source = .ok (cell, next) ↔
      searchCell occupied size source.tries source = .ok (cell, next) := by
    unfold emptyCell
    rw [if_pos room]
    split
    · rename_i result
      rw [result, Except.ok.injEq, Except.ok.injEq]
    · rename_i result
      simp [result]
  rw [searched, searchCell_exact]
  constructor
  · rintro ⟨misses, -, found⟩
    exact ⟨misses, found⟩
  · rintro ⟨misses, drawn, taken, free⟩
    exact ⟨misses, misses_few drawn taken free, drawn, taken, free⟩

theorem emptyCell_error_full (proper : 0 ≤ size) (inside : ∀ p ∈ occupied, p.inBounds size = true) :
    emptyCell occupied size source = .error .noEmptyCell ↔
      ∀ p : Position, p.inBounds size = true → p ∈ occupied :=
  emptyCell_full.trans (hasRoom_full proper inside)

-- The first free one of some cells.
theorem first_free {p : Position} (drawn : p ∈ cells) (free : p ∉ occupied) :
    ∃ misses cell rest, cells = misses ++ cell :: rest ∧ (∀ m ∈ misses, m ∈ occupied) ∧
      cell ∉ occupied := by
  induction cells with
  | nil => exact absurd drawn List.not_mem_nil
  | cons cell cells ih =>
    by_cases taken : cell ∈ occupied
    · have later : p ∈ cells := by
        rcases List.mem_cons.mp drawn with rfl | later
        · exact absurd taken free
        · exact later
      rcases ih later with ⟨misses, found, rest, rfl, all, last⟩
      exact ⟨cell :: misses, found, rest, rfl, List.forall_mem_cons.mpr ⟨taken, all⟩, last⟩
    · exact ⟨[], cell, cells, rfl, List.forall_mem_nil _, taken⟩

def freeCells (size : Int) (occupied : List Position) : List Position :=
  (gridCells size).filter fun p => decide (p ∉ occupied)

theorem mem_freeCells {p : Position} :
    p ∈ freeCells size occupied ↔ p.inBounds size = true ∧ p ∉ occupied := by
  simp [freeCells, mem_gridCells]

theorem emptyCells_distinct {n : Nat} (filled : emptyCells true size n occupied source = .ok cells) :
    cells.length = n ∧ cells.Nodup ∧ ∀ p ∈ cells, p ∈ freeCells size occupied := by
  induction n generalizing occupied source cells with
  | zero =>
    cases filled
    exact ⟨rfl, .nil, List.forall_mem_nil _⟩
  | succ n ih =>
    simp only [emptyCells, bind, Except.bind, if_true] at filled
    split at filled
    · cases filled
    · rename_i found
      split at filled
      · cases filled
      · rename_i others
        cases filled
        rcases ih others with ⟨count, distinct, free⟩
        rcases emptyCell_free found with ⟨apart, inside⟩
        refine ⟨congrArg (· + 1) count, List.nodup_cons.mpr ⟨?_, distinct⟩, ?_⟩
        · intro again
          exact (mem_freeCells.mp (free _ again)).2 List.mem_cons_self
        · refine List.forall_mem_cons.mpr ⟨mem_freeCells.mpr ⟨inside, apart⟩, fun p later => ?_⟩
          rcases mem_freeCells.mp (free p later) with ⟨within, out⟩
          exact mem_freeCells.mpr ⟨within, fun old => out (List.mem_cons_of_mem _ old)⟩

-- As many cells as were free leave none of them.
theorem freeCells_used (distinct : cells.Nodup) (free : ∀ p ∈ cells, p ∈ freeCells size occupied)
    (all : cells.length = (freeCells size occupied).length) {p : Position}
    (inside : p.inBounds size = true) : p ∈ cells ∨ p ∈ occupied := by
  by_cases known : p ∈ occupied
  · exact .inr known
  · have same := (List.subperm_of_subset distinct free).perm_of_length_le (Nat.le_of_eq all.symm)
    exact .inl (same.mem_iff.mpr (mem_freeCells.mpr ⟨inside, known⟩))

-- The search is refused, whatever the source, exactly if no cell is free. Otherwise a free cell can be
-- drawn; from cells that are drawn the first free one is found, and nothing is drawn after it; and what
-- is found is such a cell. Cells that are filled one by one are distinct, and once all that were free
-- are filled the search is refused.
theorem emptyCell_draws (size : Int) (occupied : List Position) (proper : 0 ≤ size)
    (inside : ∀ p ∈ occupied, p.inBounds size = true) :
    (∀ source, emptyCell occupied size source = .error .noEmptyCell ↔
      ∀ p : Position, p.inBounds size = true → p ∈ occupied) ∧
    ((∃ p : Position, p.inBounds size = true ∧ p ∉ occupied) →
      (∃ x y, drawCell size (.scripted [x, y]) = .ok (⟨x, y⟩, .scripted []) ∧ ⟨x, y⟩ ∉ occupied) ∧
      (∀ source cells last, Draws size source cells last → (∃ p ∈ cells, p ∉ occupied) →
        ∃ misses cell rest next, cells = misses ++ cell :: rest ∧ (∀ m ∈ misses, m ∈ occupied) ∧
          cell ∉ occupied ∧ Draws size source (misses ++ [cell]) next ∧ Draws size next rest last ∧
          emptyCell occupied size source = .ok (cell, next)) ∧
      (∀ source cell next, emptyCell occupied size source = .ok (cell, next) →
        cell.inBounds size = true ∧ cell ∉ occupied ∧
          ∃ misses, Draws size source (misses ++ [cell]) next ∧ ∀ m ∈ misses, m ∈ occupied) ∧
      (∀ (misses : List (Int × Int)) (x y : Int) (rest : List Int),
        (∀ m ∈ misses, ⟨m.1 % size, m.2 % size⟩ ∈ occupied) → ⟨x % size, y % size⟩ ∉ occupied →
        emptyCell occupied size
            (.scripted (misses.flatMap (fun m => [m.1, m.2]) ++ x :: y :: rest)) =
          .ok (⟨x % size, y % size⟩, .scripted rest))) ∧
    (∀ n source cells, emptyCells true size n occupied source = .ok cells →
      cells.length = n ∧ cells.Nodup ∧ (∀ p ∈ cells, p.inBounds size = true ∧ p ∉ occupied) ∧
      (n = (freeCells size occupied).length → ∀ other,
        emptyCell (cells.reverse ++ occupied) size other = .error .noEmptyCell)) := by
  refine ⟨fun source => emptyCell_error_full proper inside, ?_, ?_⟩
  · rintro ⟨p, within, free⟩
    have room : hasRoom occupied size = true := by
      by_contra full
      exact free ((hasRoom_full proper inside).mp (Bool.eq_false_iff.mpr full) p within)
    simp only [Position.inBounds, Bool.and_eq_true, decide_eq_true_eq] at within
    have positive : 0 < size := by omega
    refine ⟨⟨p.x, p.y, ?_, free⟩, ?_, ?_, ?_⟩
    · rw [drawCell_scripted positive, Int.emod_eq_of_lt (by omega) (by omega),
        Int.emod_eq_of_lt (by omega) (by omega)]
    · rintro source cells last drawn ⟨p, listed, free⟩
      rcases first_free listed free with ⟨misses, cell, rest, rfl, taken, found⟩
      rw [List.append_cons] at drawn
      rcases draws_split drawn with ⟨next, before, after⟩
      exact ⟨misses, cell, rest, next, rfl, taken, found, before, after,
        (emptyCell_exact room).mpr ⟨misses, before, taken, found⟩⟩
    · intro source cell next found
      rcases (emptyCell_exact room).mp found with ⟨misses, drawn, taken, out⟩
      exact ⟨(emptyCell_free found).2, out, misses, drawn, taken⟩
    · intro misses x y rest taken out
      refine (emptyCell_exact room).mpr ⟨misses.map fun m => ⟨m.1 % size, m.2 % size⟩, ?_, ?_, out⟩
      · have drawn := draws_scripted positive (misses ++ [(x, y)]) rest
        simpa using drawn
      · intro p listed
        rcases List.mem_map.mp listed with ⟨m, missed, rfl⟩
        exact taken m missed
  · intro n source cells filled
    rcases emptyCells_distinct filled with ⟨count, distinct, free⟩
    refine ⟨count, distinct, fun p listed => mem_freeCells.mp (free p listed), fun all other => ?_⟩
    have still : ∀ p ∈ cells.reverse ++ occupied, p.inBounds size = true := by
      intro p listed
      rcases List.mem_append.mp listed with new | old
      · exact (mem_freeCells.mp (free p (List.mem_reverse.mp new))).1
      · exact inside p old
    refine (emptyCell_error_full proper still).mpr fun p within => ?_
    rcases freeCells_used distinct free (count.trans all) within with new | old
    · exact List.mem_append_left _ (List.mem_reverse.mpr new)
    · exact List.mem_append_right _ old

-- A grid of two by two with one cell taken: the first draw misses, and the last number is left.
theorem emptyCell_draws_second :
    emptyCell [⟨1, 0⟩] 2 (.scripted [3, 4, 5, 1, 9]) = .ok (⟨1, 1⟩, .scripted [9]) ∧
      emptyCell [⟨0, 1⟩, ⟨0, 0⟩, ⟨1, 1⟩, ⟨1, 0⟩] 2 (.scripted []) = .error .noEmptyCell := by
  have proper : (0 : Int) ≤ 2 := by decide
  have inside : ∀ p ∈ [(⟨1, 0⟩ : Position)], p.inBounds 2 = true := by decide
  have free : ∃ p : Position, p.inBounds 2 = true ∧ p ∉ [(⟨1, 0⟩ : Position)] := ⟨⟨1, 1⟩, by decide⟩
  have draws := emptyCell_draws 2 [⟨1, 0⟩] proper inside
  have filled : emptyCells true 2 3 [⟨1, 0⟩] (.scripted [1, 1, 0, 0, 0, 1]) =
      .ok [⟨1, 1⟩, ⟨0, 0⟩, ⟨0, 1⟩] := rfl
  rcases draws.2.2 3 (.scripted [1, 1, 0, 0, 0, 1]) _ filled with ⟨-, -, -, full⟩
  exact ⟨(draws.2.1 free).2.2.2 [(3, 4)] 5 1 [9] (by decide) (by decide), full (by decide) _⟩

end ScriptArena.Arena
