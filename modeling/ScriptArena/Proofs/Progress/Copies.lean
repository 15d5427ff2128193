import Mathlib.Data.List.Induction
import ScriptArena.Progress.Tracker

namespace ScriptArena.Progress

structure Cell where
  user : String
  highScore : Int := 0
  -- The place of the list of ids.
  list : Nat
deriving Repr, DecidableEq

-- Nothing is ever taken out of the tables of objects.
structure Memory where
  lists : List (List String) := []
  cells : List Cell := []
  shelf : List (String × Nat) := []
  -- The objects that callers know.
  knownCells : List Nat := []
  knownLists : List Nat := []
deriving Repr, DecidableEq

-- What a caller does with the objects that it knows, told by their numbers.
inductive Edit where
  | rename (cell : Nat) (user : String)
  | rescore (cell : Nat) (score : Int)
  | rewrite (list : Nat) (ids : List String)
  | build (ids : List String)
  | assign (cell list : Nat)
deriving Repr, DecidableEq

inductive Call where
  | get (user : String)
  | write (w : Write)
  | edit (e : Edit)
deriving Repr, DecidableEq

-- The player whom a call of the store names.
def Call.user? : Call → Option String
  | .get user => some user
  | .write w => some w.user
  | .edit _ => none

-- What a call does to a record.
def Call.apply (c : Call) (r : Record) : Record :=
  match c with
  | .write w => if r.user = w.user then w.apply r else r
  | .get _ | .edit _ => r

namespace Memory

def cellAt (m : Memory) (place : Nat) : Cell := (m.cells[place]?).getD { user := "", list := 0 }

def listAt (m : Memory) (place : Nat) : List String := (m.lists[place]?).getD []

def recordAt (m : Memory) (place : Nat) : Record :=
  let cell := m.cellAt place
  ⟨cell.user, cell.highScore, m.listAt cell.list⟩

def changeCell (place : Nat) (f : Cell → Cell) (m : Memory) : Memory :=
  { m with cells := m.cells.modify place f }

def changeList (place : Nat) (f : List String → List String) (m : Memory) : Memory :=
  { m with lists := m.lists.modify place f }

-- A player who comes for the first time gets an empty record.
def enroll (user : String) (m : Memory) : Memory :=
  { m with
    lists := m.lists ++ [[]]
    cells := m.cells ++ [{ user, list := m.lists.length }]
    shelf := (user, m.cells.length) :: m.shelf }

-- The place of the record of a player.
def reach (user : String) (m : Memory) : Nat × Memory :=
  match m.shelf.lookup user with
  | some place => (place, m)
  | none => (m.cells.length, m.enroll user)

-- A record for a caller, with a list of its own.
def handOut (r : Record) (m : Memory) : Nat × Memory :=
  (m.cells.length, { m with
    lists := m.lists ++ [r.completed]
    cells := m.cells ++ [⟨r.user, r.highScore, m.lists.length⟩]
    knownCells := m.knownCells ++ [m.cells.length]
    knownLists := m.knownLists ++ [m.lists.length] })

def get (user : String) (m : Memory) : Nat × Memory :=
  let (place, m) := m.reach user
  m.handOut (m.recordAt place)

def rescore (place : Nat) (score : Int) (m : Memory) : Memory :=
  m.changeCell place ({ · with highScore := score })

def setHighScore (user : String) (score : Int) (m : Memory) : Memory :=
  let (place, m) := m.reach user
  if (m.cellAt place).highScore < score then m.rescore place score else m

def extend (list : Nat) (id : String) (m : Memory) : Memory := m.changeList list (· ++ [id])

def addCompleted (user id : String) (m : Memory) : Memory :=
  let (place, m) := m.reach user
  let list := (m.cellAt place).list
  if (m.listAt list).contains id then m else m.extend list id

def changeKnownCell (cell : Nat) (f : Cell → Cell) (m : Memory) : Memory :=
  match m.knownCells[cell]? with
  | some place => m.changeCell place f
  | none => m

def edit (e : Edit) (m : Memory) : Memory :=
  match e with
  | .rename cell user => m.changeKnownCell cell ({ · with user })
  | .rescore cell highScore => m.changeKnownCell cell ({ · with highScore })
  | .rewrite list ids => match m.knownLists[list]? with
    | some place => m.changeList place fun _ => ids
    | none => m
  | .build ids =>
    { m with
      lists := m.lists ++ [ids]
      knownLists := m.knownLists ++ [m.lists.length] }
  | .assign cell list => match m.knownLists[list]? with
    | some list => m.changeKnownCell cell ({ · with list })
    | none => m

def perform (c : Call) (m : Memory) : Memory :=
  match c with
  | .get user => (m.get user).2
  | .write (.highScore user score) => m.setHighScore user score
  | .write (.challenge user id) => m.addCompleted user id
  | .edit e => m.edit e

def run (calls : List Call) : Memory := calls.foldl (fun m c => m.perform c) {}

-- The record of a player; without one it would be made empty.
def stored (m : Memory) (user : String) : Record :=
  match m.shelf.lookup user with
  | some place => m.recordAt place
  | none => { user }

-- The record of a player as an object.
def Shelved (m : Memory) (user : String) (place : Nat) (cell : Cell) : Prop :=
  m.shelf.lookup user = some place ∧ m.cells[place]? = some cell

-- Every player has a record and a list that no other player has and that no caller knows.
structure Apart (m : Memory) : Prop where
  there : ∀ user place, m.shelf.lookup user = some place → ∃ cell, m.Shelved user place cell
  named : ∀ user place cell, m.Shelved user place cell →
    cell.user = user ∧ cell.list < m.lists.length
  alone : ∀ u v i j c d, m.Shelved u i c → m.Shelved v j d → c.list = d.list → u = v
  cells : ∀ place ∈ m.knownCells, place < m.cells.length ∧
    ∀ user, m.shelf.lookup user ≠ some place
  lists : ∀ place ∈ m.knownLists, place < m.lists.length ∧
    ∀ user i cell, m.Shelved user i cell → cell.list ≠ place

variable {m n : Memory} {user : String} {place : Nat} {cell : Cell}

theorem apart_empty : Apart {} where
  there := nofun
  named := nofun
  alone := nofun
  cells := nofun
  lists := nofun

theorem Shelved.stored (shelved : m.Shelved user place cell) :
    m.stored user = ⟨cell.user, cell.highScore, m.listAt cell.list⟩ := by
  simp [Memory.stored, recordAt, cellAt, shelved.1, shelved.2]

theorem Shelved.cellAt (shelved : m.Shelved user place cell) : m.cellAt place = cell := by
  simp [Memory.cellAt, shelved.2]

theorem stored_none (absent : m.shelf.lookup user = none) : m.stored user = { user } := by
  simp [stored, absent]

theorem Shelved.unique {i : Nat} {c : Cell} (shelved : m.Shelved user place cell)
    (other : m.Shelved user i c) : i = place ∧ c = cell := by
  have same : i = place := Option.some.inj (other.1.symm.trans shelved.1)
  subst same
  exact ⟨rfl, Option.some.inj (other.2.symm.trans shelved.2)⟩

-- Nothing that is on the shelf has changed. Whatever callers have come to know is new.
structure Spares (m n : Memory) : Prop where
  shelf : n.shelf = m.shelf
  cells : ∀ user place cell, m.Shelved user place cell → n.cells[place]? = some cell
  lists : ∀ user place cell, m.Shelved user place cell → n.lists[cell.list]? = m.lists[cell.list]?
  size : m.cells.length ≤ n.cells.length ∧ m.lists.length ≤ n.lists.length
  knownCells : ∀ place ∈ n.knownCells, place ∈ m.knownCells ∨
    m.cells.length ≤ place ∧ place < n.cells.length
  knownLists : ∀ place ∈ n.knownLists, place ∈ m.knownLists ∨
    m.lists.length ≤ place ∧ place < n.lists.length

namespace Spares

theorem shelved (apart : Apart m) (spares : Spares m n) {user : String} {place : Nat} {cell : Cell} :
    n.Shelved user place cell ↔ m.Shelved user place cell := by
  constructor
  · intro ⟨entry, found⟩
    rw [spares.shelf] at entry
    obtain ⟨was, shelved⟩ := apart.there user place entry
    have same := (spares.cells user place was shelved).symm.trans found
    exact Option.some.inj same ▸ shelved
  · intro shelved
    exact ⟨spares.shelf ▸ shelved.1, spares.cells user place cell shelved⟩

theorem stored (apart : Apart m) (spares : Spares m n) (user : String) :
    n.stored user = m.stored user := by
  cases entry : m.shelf.lookup user with
  | none => rw [stored_none entry, stored_none (spares.shelf ▸ entry)]
  | some place =>
    obtain ⟨cell, shelved⟩ := apart.there user place entry
    rw [shelved.stored, ((spares.shelved apart).mpr shelved).stored, listAt, listAt,
      spares.lists user place cell shelved]

theorem apart (apart : Apart m) (spares : Spares m n) : Apart n where
  there user place entry := by
    obtain ⟨cell, shelved⟩ := apart.there user place (spares.shelf ▸ entry)
    exact ⟨cell, (spares.shelved apart).mpr shelved⟩
  named user place cell shelved := by
    obtain ⟨own, inside⟩ := apart.named user place cell ((spares.shelved apart).mp shelved)
    exact ⟨own, Nat.lt_of_lt_of_le inside spares.size.2⟩
  alone u v i j c d first second :=
    apart.alone u v i j c d ((spares.shelved apart).mp first) ((spares.shelved apart).mp second)
  cells place known := by
    rcases spares.knownCells place known with before | ⟨new, inside⟩
    · obtain ⟨inside, free⟩ := apart.cells place before
      exact ⟨Nat.lt_of_lt_of_le inside spares.size.1, spares.shelf ▸ free⟩
    · refine ⟨inside, fun user entry => ?_⟩
      obtain ⟨cell, shelved⟩ := apart.there user place (spares.shelf ▸ entry)
      exact Nat.not_lt_of_le new (List.getElem?_eq_some_iff.mp shelved.2).1
  lists place known := by
    rcases spares.knownLists place known with before | ⟨new, inside⟩
    · obtain ⟨inside, free⟩ := apart.lists place before
      exact ⟨Nat.lt_of_lt_of_le inside spares.size.2,
        fun user i cell shelved => free user i cell ((spares.shelved apart).mp shelved)⟩
    · refine ⟨inside, fun user i cell shelved same => ?_⟩
      have below := (apart.named user i cell ((spares.shelved apart).mp shelved)).2
      omega

end Spares

theorem spares_changeCell (apart : Apart m) (known : place ∈ m.knownCells) (f : Cell → Cell) :
    Spares m (m.changeCell place f) where
  shelf := rfl
  cells user i cell shelved := by
    have other : place ≠ i := fun same => (apart.cells place known).2 user (same ▸ shelved.1)
    simp [changeCell, other, shelved.2]
  lists _ _ _ _ := rfl
  size := ⟨by simp [changeCell], Nat.le_refl _⟩
  knownCells _ known := .inl known
  knownLists _ known := .inl known

theorem spares_changeList (apart : Apart m) (known : place ∈ m.knownLists)
    (f : List String → List String) : Spares m (m.changeList place f) where
  shelf := rfl
  cells _ _ _ shelved := shelved.2
  lists user i cell shelved := by
    have other : place ≠ cell.list := ((apart.lists place known).2 user i cell shelved).symm
    simp [changeList, other]
  size := ⟨Nat.le_refl _, by simp [changeList]⟩
  knownCells _ known := .inl known
  knownLists _ known := .inl known

theorem spares_refl (m : Memory) : Spares m m where
  shelf := rfl
  cells _ _ _ shelved := shelved.2
  lists _ _ _ _ := rfl
  size := ⟨Nat.le_refl _, Nat.le_refl _⟩
  knownCells _ known := .inl known
  knownLists _ known := .inl known

theorem spares_changeKnownCell (apart : Apart m) (number : Nat) (f : Cell → Cell) :
    Spares m (m.changeKnownCell number f) := by
  unfold changeKnownCell
  split
  · rename_i known
    exact spares_changeCell apart (List.mem_of_getElem? known) f
  · exact spares_refl m

theorem spares_build (apart : Apart m) (ids : List String) : Spares m (m.edit (.build ids)) where
  shelf := rfl
  cells _ _ _ shelved := shelved.2
  lists user i cell shelved := by
    have inside := (apart.named user i cell shelved).2
    simp [edit, List.getElem?_append_left inside]
  size := ⟨Nat.le_refl _, by simp [edit]⟩
  knownCells _ known := .inl known
  knownLists place known := by
    rcases List.mem_append.mp known with before | new
    · exact .inl before
    · cases List.mem_singleton.mp new
      exact .inr ⟨Nat.le_refl _, by simp [edit]⟩

-- Whatever callers do to what they know, no record of the store changes.
theorem spares_edit (apart : Apart m) (e : Edit) : Spares m (m.edit e) := by
  cases e with
  | rename number user => exact spares_changeKnownCell apart number _
  | rescore number score => exact spares_changeKnownCell apart number _
  | rewrite number ids =>
    unfold edit
    dsimp only
    split
    · rename_i known
      exact spares_changeList apart (List.mem_of_getElem? known) _
    · exact spares_refl m
  | build ids => exact spares_build apart ids
  | assign number list =>
    unfold edit
    dsimp only
    split
    · exact spares_changeKnownCell apart number _
    · exact spares_refl m

theorem reach_some (entry : m.shelf.lookup user = some place) : m.reach user = (place, m) := by
  simp [reach, entry]

theorem reach_none (absent : m.shelf.lookup user = none) :
    m.reach user = (m.cells.length, m.enroll user) := by
  simp [reach, absent]

theorem lookup_enroll (user u : String) (m : Memory) : (m.enroll user).shelf.lookup u =
    if u = user then some m.cells.length else m.shelf.lookup u := by
  by_cases same : u = user
  · simp [enroll, same]
  · simp [enroll, List.lookup_cons, beq_eq_false_iff_ne.mpr same, same]

theorem shelved_enroll (apart : Apart m) (absent : m.shelf.lookup user = none) {u : String} :
    (m.enroll user).Shelved u place cell ↔ m.Shelved u place cell ∨
      u = user ∧ place = m.cells.length ∧ cell = { user, list := m.lists.length } := by
  unfold Shelved
  rw [lookup_enroll]
  by_cases same : u = user
  · subst same
    have new : (m.enroll u).cells[m.cells.length]? = some { user := u, list := m.lists.length } := by
      simp [enroll]
    simp only [if_pos, absent, true_and, Option.some.injEq]
    constructor
    · rintro ⟨rfl, found⟩
      exact .inr ⟨rfl, Option.some.inj (found.symm.trans new)⟩
    · rintro (⟨none, -⟩ | ⟨rfl, rfl⟩)
      · cases none
      · exact ⟨rfl, new⟩
  · simp only [same, if_false, false_and, or_false]
    refine and_congr_right fun was => ?_
    obtain ⟨c, -, found⟩ := apart.there u place was
    have inside := (List.getElem?_eq_some_iff.mp found).1
    simp [enroll, List.getElem?_append_left inside]

theorem enroll_apart (apart : Apart m) (absent : m.shelf.lookup user = none) :
    Apart (m.enroll user) := by
  have longer : (m.enroll user).lists.length = m.lists.length + 1 := by simp [enroll]
  have more : (m.enroll user).cells.length = m.cells.length + 1 := by simp [enroll]
  have shelves {u i c} : (m.enroll user).Shelved u i c ↔ m.Shelved u i c ∨
      u = user ∧ i = m.cells.length ∧ c = { user, list := m.lists.length } :=
    shelved_enroll apart absent
  constructor
  · intro u place entry
    by_cases same : u = user
    · rw [lookup_enroll, if_pos same] at entry
      exact ⟨_, shelves.mpr (.inr ⟨same, (Option.some.inj entry).symm, rfl⟩)⟩
    · rw [lookup_enroll, if_neg same] at entry
      obtain ⟨cell, shelved⟩ := apart.there u place entry
      exact ⟨cell, shelves.mpr (.inl shelved)⟩
  · intro u place cell shelved
    rcases shelves.mp shelved with old | ⟨rfl, -, rfl⟩
    · have ⟨own, inside⟩ := apart.named u place cell old
      exact ⟨own, by omega⟩
    · exact ⟨rfl, by simp [longer]⟩
  · intro u v i j c d first second same
    rcases shelves.mp first with old | ⟨rfl, -, rfl⟩
    · have below := (apart.named u i c old).2
      rcases shelves.mp second with old' | ⟨rfl, -, rfl⟩
      · exact apart.alone u v i j c d old old' same
      · exact absurd same (Nat.ne_of_lt below)
    · rcases shelves.mp second with old' | ⟨rfl, -, rfl⟩
      · exact absurd same (Nat.ne_of_gt (apart.named v j d old').2)
      · rfl
  · intro place known
    have ⟨inside, free⟩ := apart.cells place known
    refine ⟨by omega, fun u entry => ?_⟩
    rw [lookup_enroll] at entry
    split at entry
    · exact Nat.ne_of_gt inside (Option.some.inj entry)
    · exact free u entry
  · intro place known
    have ⟨inside, free⟩ := apart.lists place known
    refine ⟨by omega, fun u i c shelved => ?_⟩
    rcases shelves.mp shelved with old | ⟨-, -, rfl⟩
    · exact free u i c old
    · exact Nat.ne_of_gt inside

-- A player who has no record is treated as if there were an empty one.
theorem enroll_stored (apart : Apart m) (absent : m.shelf.lookup user = none) (u : String) :
    (m.enroll user).stored u = m.stored u := by
  by_cases same : u = user
  · subst same
    have shelved := (shelved_enroll apart absent).mpr (.inr ⟨rfl, rfl, rfl⟩)
    rw [shelved.stored, stored_none absent]
    simp [listAt, enroll]
  · cases entry : m.shelf.lookup u with
    | none => rw [stored_none entry, stored_none (by rw [lookup_enroll, if_neg same, entry])]
    | some place =>
      obtain ⟨cell, shelved⟩ := apart.there u place entry
      have inside := (apart.named u place cell shelved).2
      rw [shelved.stored, ((shelved_enroll apart absent).mpr (.inl shelved)).stored, listAt, listAt]
      simp [enroll, List.getElem?_append_left inside]

-- The record of a player has been reached, and nothing else has happened.
structure Reached (user : String) (m n : Memory) (place : Nat) : Prop where
  apart : Apart n
  shelved : ∃ cell, n.Shelved user place cell
  same : ∀ u, n.stored u = m.stored u
  entries : ∀ u, (n.shelf.lookup u).isSome = ((m.shelf.lookup u).isSome || some user == some u)

theorem reached (apart : Apart m) (user : String) :
    Reached user m (m.reach user).2 (m.reach user).1 := by
  cases entry : m.shelf.lookup user with
  | some place =>
    rw [reach_some entry]
    refine ⟨apart, apart.there user place entry, fun _ => rfl, fun u => ?_⟩
    by_cases same : user = u
    · simp [← same, entry]
    · simp [same]
  | none =>
    rw [reach_none entry]
    refine ⟨enroll_apart apart entry,
      ⟨_, (shelved_enroll apart entry).mpr (.inr ⟨rfl, rfl, rfl⟩)⟩, enroll_stored apart entry,
      fun u => ?_⟩
    rw [lookup_enroll]
    by_cases same : user = u
    · simp [same]
    · simp [same, Ne.symm same]

theorem stored_user (apart : Apart m) (user : String) : (m.stored user).user = user := by
  cases entry : m.shelf.lookup user with
  | none => rw [stored_none entry]
  | some place =>
    obtain ⟨cell, shelved⟩ := apart.there user place entry
    rw [shelved.stored]
    exact (apart.named user place cell shelved).1

theorem spares_handOut (apart : Apart m) (r : Record) : Spares m (m.handOut r).2 where
  shelf := rfl
  cells user i cell shelved :=
    (List.getElem?_append_left (List.getElem?_eq_some_iff.mp shelved.2).1).trans shelved.2
  lists user i cell shelved := List.getElem?_append_left (apart.named user i cell shelved).2
  size := by simp [handOut]
  knownCells place known := by
    rcases List.mem_append.mp known with before | new
    · exact .inl before
    · exact .inr (by simp [handOut, List.mem_singleton.mp new])
  knownLists place known := by
    rcases List.mem_append.mp known with before | new
    · exact .inl before
    · exact .inr (by simp [handOut, List.mem_singleton.mp new])

theorem recordAt_handOut (r : Record) (m : Memory) : (m.handOut r).2.recordAt (m.handOut r).1 = r := by
  simp [handOut, recordAt, cellAt, listAt]

theorem Shelved.other {u : String} (shelved : m.Shelved user place cell)
    (absent : m.shelf.lookup u = none) : u ≠ user := by
  rintro rfl
  rw [shelved.1] at absent
  cases absent

theorem shelved_rescore (apart : Apart m) (shelved : m.Shelved user place cell) (score : Int)
    {u : String} {i : Nat} {c : Cell} : (m.rescore place score).Shelved u i c ↔
      ∃ d, m.Shelved u i d ∧ c = if u = user then { d with highScore := score } else d := by
  have only : m.shelf.lookup u = some i → (place = i ↔ u = user) := by
    intro entry
    constructor
    · rintro rfl
      obtain ⟨d, here⟩ := apart.there u place entry
      have same : d = cell := Option.some.inj (here.2.symm.trans shelved.2)
      rw [← (apart.named u place d here).1, same, (apart.named user place cell shelved).1]
    · rintro rfl
      exact Option.some.inj (shelved.1.symm.trans entry)
  simp only [Shelved, rescore, changeCell, List.getElem?_modify, Option.map_eq_map,
    Option.map_eq_some_iff]
  constructor
  · rintro ⟨entry, d, found, rfl⟩
    exact ⟨d, ⟨entry, found⟩, by simp only [only entry]⟩
  · rintro ⟨d, ⟨entry, found⟩, rfl⟩
    exact ⟨entry, d, found, by simp only [only entry]⟩

theorem rescore_apart (apart : Apart m) (shelved : m.Shelved user place cell) (score : Int) :
    Apart (m.rescore place score) := by
  have shelves {u i c} := shelved_rescore apart shelved score (u := u) (i := i) (c := c)
  have alike : ∀ u i c, (m.rescore place score).Shelved u i c →
      ∃ d, m.Shelved u i d ∧ c.user = d.user ∧ c.list = d.list := by
    intro u i c here
    obtain ⟨d, old, rfl⟩ := shelves.mp here
    refine ⟨d, old, ?_⟩
    split
    · exact ⟨rfl, rfl⟩
    · exact ⟨rfl, rfl⟩
  constructor
  · intro u i entry
    obtain ⟨d, old⟩ := apart.there u i entry
    exact ⟨_, shelves.mpr ⟨d, old, rfl⟩⟩
  · intro u i c here
    obtain ⟨d, old, name, list⟩ := alike u i c here
    rw [name, list]
    exact apart.named u i d old
  · intro u v i j c d first second same
    obtain ⟨c', old, -, list⟩ := alike u i c first
    obtain ⟨d', old', -, list'⟩ := alike v j d second
    exact apart.alone u v i j c' d' old old' (list ▸ list' ▸ same)
  · intro i known
    have ⟨inside, free⟩ := apart.cells i known
    exact ⟨by simpa [rescore, changeCell] using inside, free⟩
  · intro i known
    have ⟨inside, free⟩ := apart.lists i known
    refine ⟨inside, fun u i c here => ?_⟩
    obtain ⟨d, old, -, list⟩ := alike u i c here
    exact list ▸ free u i d old

theorem rescore_stored (apart : Apart m) (shelved : m.Shelved user place cell) (score : Int)
    (u : String) : (m.rescore place score).stored u =
      if u = user then { m.stored u with highScore := score } else m.stored u := by
  cases entry : m.shelf.lookup u with
  | none =>
    rw [if_neg (shelved.other entry), stored_none entry,
      stored_none (m := m.rescore place score) entry]
  | some i =>
    obtain ⟨d, old⟩ := apart.there u i entry
    rw [old.stored, ((shelved_rescore apart shelved score).mpr ⟨d, old, rfl⟩).stored]
    split
    · rfl
    · rfl

theorem extend_apart (apart : Apart m) (list : Nat) (id : String) : Apart (m.extend list id) where
  there := apart.there
  named u i c here := by simpa [extend, changeList] using apart.named u i c here
  alone := apart.alone
  cells := apart.cells
  lists i known := by
    have ⟨inside, free⟩ := apart.lists i known
    exact ⟨by simpa [extend, changeList] using inside, free⟩

theorem extend_stored (apart : Apart m) (shelved : m.Shelved user place cell) (id : String)
    (u : String) : (m.extend cell.list id).stored u =
      if u = user then { m.stored u with completed := (m.stored u).completed ++ [id] }
      else m.stored u := by
  cases entry : m.shelf.lookup u with
  | none =>
    rw [if_neg (shelved.other entry), stored_none entry,
      stored_none (m := m.extend cell.list id) entry]
  | some i =>
    obtain ⟨d, old⟩ := apart.there u i entry
    have kept : (m.extend cell.list id).Shelved u i d := old
    rw [old.stored, kept.stored]
    split
    · rename_i same
      subst same
      obtain ⟨rfl, rfl⟩ := shelved.unique old
      have inside := (apart.named u i d old).2
      simp [extend, changeList, listAt, inside]
    · rename_i other
      have differs : cell.list ≠ d.list := fun same =>
        other (apart.alone u user i place d cell old shelved same.symm)
      simp [extend, changeList, listAt, differs]

structure Performs (c : Call) (m n : Memory) : Prop where
  apart : Apart n
  stored : ∀ u, n.stored u = c.apply (m.stored u)
  entries : ∀ u, (n.shelf.lookup u).isSome = ((m.shelf.lookup u).isSome || c.user? == some u)

theorem performs_get (apart : Apart m) (user : String) :
    Performs (.get user) m (m.get user).2 := by
  have reached := reached apart user
  have spares := spares_handOut reached.apart ((m.reach user).2.recordAt (m.reach user).1)
  refine ⟨spares.apart reached.apart, fun u => ?_, fun u => ?_⟩
  · exact (spares.stored reached.apart u).trans (reached.same u)
  · exact (congrArg (fun shelf => (shelf.lookup u).isSome) spares.shelf).trans (reached.entries u)

theorem Reached.performs {w : Write} {o : Memory} (reached : Reached user m n place)
    (name : w.user = user) (before : Apart m) (apart : Apart o) (shelf : o.shelf = n.shelf)
    (own : o.stored user = w.apply (m.stored user))
    (others : ∀ u, u ≠ user → o.stored u = m.stored u) : Performs (.write w) m o where
  apart := apart
  stored u := by
    simp only [Call.apply, stored_user before, name]
    split
    · rename_i same
      rw [same, own]
    · rename_i other
      exact others u other
  entries u := by
    rw [shelf, reached.entries, ← name]
    rfl

theorem performs_setHighScore (apart : Apart m) (user : String) (score : Int) :
    Performs (.write (.highScore user score)) m (m.setHighScore user score) := by
  have reached := reached apart user
  obtain ⟨cell, shelved⟩ := reached.shelved
  have before : (m.stored user).highScore = cell.highScore := by
    rw [← reached.same, shelved.stored]
  unfold setHighScore
  simp only [shelved.cellAt, ← before]
  split
  · rename_i higher
    have changed := rescore_stored reached.apart shelved score
    refine reached.performs rfl apart (rescore_apart reached.apart shelved score) rfl ?_ fun u other => ?_
    · rw [changed, if_pos rfl, reached.same, Write.apply, Record.raise,
        Int.max_eq_right (Int.le_of_lt higher)]
    · rw [changed, if_neg other, reached.same]
  · rename_i lower
    refine reached.performs rfl apart reached.apart rfl ?_ fun u _ => reached.same u
    rw [reached.same, Write.apply, Record.raise, Int.max_eq_left (Int.not_lt.mp lower)]

theorem performs_addCompleted (apart : Apart m) (user id : String) :
    Performs (.write (.challenge user id)) m (m.addCompleted user id) := by
  have reached := reached apart user
  obtain ⟨cell, shelved⟩ := reached.shelved
  have before : (m.stored user).completed = (m.reach user).2.listAt cell.list := by
    rw [← reached.same, shelved.stored]
  unfold addCompleted
  simp only [shelved.cellAt, ← before]
  split
  · rename_i present
    refine reached.performs rfl apart reached.apart rfl ?_ fun u _ => reached.same u
    rw [reached.same]
    exact (Record.complete_of_mem (by simpa using present)).symm
  · rename_i new
    have changed := extend_stored reached.apart shelved id
    refine reached.performs rfl apart (extend_apart reached.apart cell.list id) rfl ?_ fun u other => ?_
    · rw [changed, if_pos rfl, reached.same, Write.apply, Record.complete, if_neg new]
    · rw [changed, if_neg other, reached.same]

-- Every call does to the records what it says, and callers do nothing to them.
theorem performs (apart : Apart m) (c : Call) : Performs c m (m.perform c) := by
  cases c with
  | get user => exact performs_get apart user
  | write w => cases w with
    | highScore user score => exact performs_setHighScore apart user score
    | challenge user id => exact performs_addCompleted apart user id
  | edit e =>
    have spares := spares_edit apart e
    exact ⟨spares.apart apart, spares.stored apart,
      fun u => by rw [perform, spares.shelf]; simp [Call.user?]⟩

theorem recordAt_get (apart : Apart m) (user : String) :
    (m.get user).2.recordAt (m.get user).1 = m.stored user := by
  have reached := reached apart user
  obtain ⟨cell, shelved⟩ := reached.shelved
  calc (m.get user).2.recordAt (m.get user).1
    _ = (m.reach user).2.recordAt (m.reach user).1 := recordAt_handOut _ _
    _ = (m.reach user).2.stored user := by rw [shelved.stored, recordAt, shelved.cellAt]
    _ = m.stored user := reached.same user

-- A write that would change nothing in the record of its player changes nothing at all.
theorem perform_same (apart : Apart m) {w : Write} (known : (m.shelf.lookup w.user).isSome = true)
    (same : w.apply (m.stored w.user) = m.stored w.user) : m.perform (.write w) = m := by
  obtain ⟨place, entry⟩ := Option.isSome_iff_exists.mp known
  obtain ⟨cell, shelved⟩ := apart.there w.user place entry
  rw [shelved.stored] at same
  cases w with
  | highScore user score =>
    have reaches : max cell.highScore score = cell.highScore := congrArg Record.highScore same
    have low : ¬ cell.highScore < score := by omega
    have reached : m.reach user = (place, m) := reach_some entry
    simp only [perform, setHighScore, reached, shelved.cellAt, if_neg low]
  | challenge user id =>
    have inside : id ∈ m.listAt cell.list := by
      have all : (Record.complete id ⟨cell.user, cell.highScore, m.listAt cell.list⟩).completed =
        m.listAt cell.list := congrArg Record.completed same
      exact all ▸ Record.mem_complete id _
    have present : (m.listAt cell.list).contains id = true := by simpa using inside
    have reached : m.reach user = (place, m) := reach_some entry
    simp only [perform, addCompleted, reached, shelved.cellAt, if_pos present]

theorem run_concat (calls : List Call) (c : Call) : run (calls ++ [c]) = (run calls).perform c := by
  simp [run]

theorem run_apart (calls : List Call) : Apart (run calls) := by
  induction calls using List.reverseRecOn with
  | nil => exact apart_empty
  | append_singleton calls c ih =>
    rw [run_concat]
    exact (performs ih c).apart

end Memory
end ScriptArena.Progress
