import ScriptArena.Proofs.Run.Akin

namespace ScriptArena

-- A variable that a scope has before all others.
structure Aside where
  place : Nat
  name : String
  value : Value

namespace Frame

variable {f : Frame} {name key : String} {v w : Value}

def beginning (name : String) (v : Value) (f : Frame) : Frame :=
  { f with vars := ((name, v) :: f.vars.toList).toArray }

theorem find_beginning : (f.beginning name v).find? name = some v := by
  simp [beginning, find?]

theorem find_other (other : key ≠ name) : (f.beginning name v).find? key = f.find? key := by
  have skips : (name == key) = false := beq_eq_false_iff_ne.mpr (Ne.symm other)
  simp [beginning, find?, skips]

theorem bind_other (other : key ≠ name) :
    (f.beginning name v).bind key w = (f.bind key w).beginning name v := by
  have skips : (name == key) = false := beq_eq_false_iff_ne.mpr (Ne.symm other)
  obtain ⟨⟨vars⟩, parent⟩ := f
  simp only [beginning, bind, List.findIdx?_toArray, List.findIdx?_cons, skips, Bool.false_eq_true,
    if_false]
  cases vars.findIdx? (·.1 == key) with
  | none => simp
  | some i => simp

end Frame

namespace Heap

variable {a : Option Aside} {p : Aside} {h h' h'' : Heap} {i : Nat} {name : String}

-- The scopes with the variable put aside.
def putAside (a : Option Aside) (frames : Array Frame) : Array Frame :=
  match a with
  | none => frames
  | some p => frames.modify p.place (·.beginning p.name p.value)

def beside (a : Option Aside) (h : Heap) : Heap := { h with frames := putAside a h.frames }

theorem beside_size : (h.beside a).frames.size = h.frames.size := by
  cases a with
  | none => rfl
  | some p => exact Array.size_modify

theorem frameAt_beside (elsewhere : ∀ p ∈ a, p.place ≠ i) : (h.beside a).frameAt i = h.frameAt i := by
  cases a with
  | none => rfl
  | some p => simp [beside, putAside, frameAt, Array.getElem?_modify, elsewhere p rfl]

theorem frameAt_aside (inside : p.place < h.frames.size) :
    (h.beside (some p)).frameAt p.place = (h.frameAt p.place).beginning p.name p.value := by
  simp [beside, putAside, frameAt, Array.getElem?_modify, Array.getElem?_eq_getElem inside]

theorem parent_beside (i : Nat) : ((h.beside a).frameAt i).parent = (h.frameAt i).parent := by
  cases a with
  | none => rfl
  | some p =>
    by_cases here : p.place = i
    · subst here
      by_cases inside : p.place < h.frames.size
      · rw [frameAt_aside inside]
        rfl
      · simp [beside, putAside, frameAt, Array.getElem?_modify, Array.getElem?_eq_none (Nat.le_of_not_lt inside)]
    · rw [frameAt_beside fun q same => by cases same; exact here]

theorem find_beside (other : ∀ p ∈ a, name ≠ p.name) (i : Nat) :
    ((h.beside a).frameAt i).find? name = (h.frameAt i).find? name := by
  cases a with
  | none => rfl
  | some p =>
    by_cases here : p.place = i
    · subst here
      by_cases inside : p.place < h.frames.size
      · rw [frameAt_aside inside, Frame.find_other (other p rfl)]
      · simp [beside, putAside, frameAt, Array.getElem?_modify, Array.getElem?_eq_none (Nat.le_of_not_lt inside)]
    · rw [frameAt_beside fun q same => by cases same; exact here]

-- Outwards from the scope, one comes to a scope that has none around it, and not past the variable.
inductive Clear (a : Option Aside) (h : Heap) : Nat → Prop where
  | mk {i : Nat} (inside : i < h.frames.size) (elsewhere : ∀ p ∈ a, p.place ≠ i)
      (inner : ∀ q, (h.frameAt i).parent = some q → q < i)
      (around : ∀ q, (h.frameAt i).parent = some q → Clear a h q) : Clear a h i

theorem Clear.inside (clear : Clear a h i) : i < h.frames.size := by
  cases clear with
  | mk inside => exact inside

theorem Clear.scopes (clear : Clear a h i) (fuel : Nat) : (h.beside a).scopes fuel i = h.scopes fuel i := by
  induction clear generalizing fuel with
  | @mk i inside elsewhere inner around ih =>
    cases fuel with
    | zero => rfl
    | succ fuel =>
      simp only [Heap.scopes, frameAt_beside elsewhere]
      cases up : (h.frameAt i).parent with
      | none => rfl
      | some q => simp only [ih q up]

theorem Clear.lookupFrom (clear : Clear a h i) (name : String) (fuel : Nat) :
    (h.beside a).lookupFrom name fuel i = h.lookupFrom name fuel i := by
  induction clear generalizing fuel with
  | @mk i inside elsewhere inner around ih =>
    cases fuel with
    | zero => rfl
    | succ fuel =>
      simp only [Heap.lookupFrom, frameAt_beside elsewhere]
      cases up : (h.frameAt i).parent with
      | none => rfl
      | some q => simp only [ih q up]

theorem lookupFrom_other (other : ∀ p ∈ a, name ≠ p.name) (fuel i : Nat) :
    (h.beside a).lookupFrom name fuel i = h.lookupFrom name fuel i := by
  induction fuel generalizing i with
  | zero => rfl
  | succ fuel ih => simp only [lookupFrom, find_beside other, parent_beside, ih]

-- The name may be used in the scope: it is another one, or it is not found from there.
def Hidden (a : Option Aside) (h : Heap) (scope : Nat) (name : String) : Prop :=
  Clear a h scope ∨ ∀ p ∈ a, name ≠ p.name

theorem lookup_beside (hidden : Hidden a h i name) : (h.beside a).lookup? i name = h.lookup? i name := by
  have same : (h.beside a).lookupFrom name (i + 1) i = h.lookupFrom name (i + 1) i := by
    rcases hidden with clear | other
    · exact clear.lookupFrom name _
    · exact lookupFrom_other other _ i
  rw [lookup?, same, lookup?]

theorem lookup_aside (inside : p.place < h.frames.size) :
    (h.beside (some p)).lookup? p.place p.name = some p.value := by
  simp only [lookup?, lookupFrom, frameAt_aside inside, Frame.find_beginning]

theorem bind_beside {scope : Nat} (hidden : Hidden a h scope name) (v : Value) :
    (h.bind scope name v).beside a = (h.beside a).bind scope name v := by
  cases a with
  | none => rfl
  | some p =>
    simp only [beside, putAside, bind, Heap.mk.injEq, true_and, and_true]
    apply Array.ext
    · simp
    · intro i one two
      by_cases here : p.place = i
      · by_cases target : scope = i
        · have other : name ≠ p.name := by
            rcases hidden with ⟨-, elsewhere, -, -⟩ | other
            · exact absurd (here.trans target.symm) (elsewhere p rfl)
            · exact other p rfl
          simp [Array.getElem_modify, here, target, Frame.bind_other other]
        · simp [Array.getElem_modify, here, target]
      · by_cases target : scope = i
        · simp [Array.getElem_modify, here, target]
        · simp [Array.getElem_modify, here, target]

theorem newFrame_beside (inside : ∀ p ∈ a, p.place < h.frames.size) (f : Frame) :
    (h.newFrame f).2.beside a = ((h.beside a).newFrame f).2 := by
  cases a with
  | none => rfl
  | some p =>
    have before : p.place < h.frames.size := inside p rfl
    simp only [beside, putAside, newFrame, Heap.mk.injEq, true_and, and_true]
    apply Array.ext
    · simp
    · intro i one two
      simp only [Array.getElem_modify, Array.getElem_push, Array.size_modify]
      by_cases old : i < h.frames.size
      · simp [old]
      · have other : p.place ≠ i := by omega
        simp [old, other]

-- All scopes are there still, each within the one that it was in.
structure Widens (h h' : Heap) : Prop where
  frames : h.frames.size ≤ h'.frames.size
  parents : ∀ i < h.frames.size, (h'.frameAt i).parent = (h.frameAt i).parent

theorem widens_same (same : h'.frames = h.frames) : h.Widens h' :=
  ⟨Nat.le_of_eq (congrArg Array.size same.symm), fun i _ => by rw [frameAt, same, frameAt]⟩

theorem Widens.refl (h : Heap) : h.Widens h := widens_same rfl

theorem Widens.trans (one : h.Widens h') (two : h'.Widens h'') : h.Widens h'' :=
  ⟨Nat.le_trans one.frames two.frames, fun i inside =>
    (two.parents i (Nat.lt_of_lt_of_le inside one.frames)).trans (one.parents i inside)⟩

theorem widens_newFrame (f : Frame) : h.Widens (h.newFrame f).2 := by
  refine ⟨?_, fun i inside => ?_⟩
  · simp only [newFrame, Array.size_push]
    exact Nat.le_succ _
  · have other : i ≠ h.frames.size := Nat.ne_of_lt inside
    simp only [newFrame, frameAt, Array.getElem?_push, other, if_false]

theorem widens_bind (scope : Nat) (name : String) (v : Value) : h.Widens (h.bind scope name v) := by
  refine ⟨?_, fun i inside => ?_⟩
  · simp only [bind, Array.size_modify]
    exact Nat.le_refl _
  · simp only [bind, frameAt, Array.getElem?_modify, Array.getElem?_eq_getElem inside]
    split
    · simp only [Option.map_some, Option.getD_some, Frame.bind]
      split
      · rfl
      · rfl
    · rfl

theorem Clear.widens (clear : Clear a h i) (widens : h.Widens h') : Clear a h' i := by
  induction clear with
  | @mk i inside elsewhere inner around ih =>
    have same := widens.parents i inside
    exact .mk (Nat.lt_of_lt_of_le inside widens.frames) elsewhere (fun q up => inner q (same ▸ up))
      fun q up => ih q (same ▸ up)

theorem Hidden.widens {scope : Nat} (hidden : Hidden a h scope name) (widens : h.Widens h') :
    Hidden a h' scope name :=
  hidden.imp (·.widens widens) id

theorem frameAt_newFrame (f : Frame) : (h.newFrame f).2.frameAt h.frames.size = f := by
  simp [newFrame, frameAt]

theorem clear_newFrame {f : Frame} (inside : ∀ p ∈ a, p.place < h.frames.size)
    (around : ∀ q, f.parent = some q → Clear a h q) : Clear a (h.newFrame f).2 h.frames.size := by
  refine .mk (by simp [newFrame]) (fun p put => Nat.ne_of_lt (inside p put)) ?_ ?_
  · rw [frameAt_newFrame]
    exact fun q up => (around q up).inside
  · rw [frameAt_newFrame]
    exact fun q up => (around q up).widens (widens_newFrame f)

-- No function sees the variable.
def Sits (a : Option Aside) (h : Heap) : Prop := ∀ at_, Clear a h (h.closureAt at_).scope

-- The scopes of all functions are there, and so are those around them.
def Rooted (h : Heap) : Prop := h.Sits none

theorem Sits.widens (sits : h.Sits a) (closures : h'.closures = h.closures) (widens : h.Widens h') :
    h'.Sits a := by
  intro at_
  rw [closureAt, closures]
  exact (sits at_).widens widens

theorem Sits.newClosure {c : Closure} (sits : h.Sits a) (clear : Clear a h c.scope) :
    (h.newClosure c).2.Sits a := by
  have widens : h.Widens (h.newClosure c).2 := widens_same rfl
  intro at_
  have old := (sits at_).widens widens
  simp only [Heap.newClosure, closureAt, Array.getElem?_push] at old ⊢
  split
  · exact clear.widens widens
  · exact old

theorem Clear.aside (clear : Clear none h i) (beyond : h.frames.size ≤ p.place) : Clear (some p) h i := by
  induction clear with
  | mk inside _ inner _ ih =>
    refine .mk inside (fun q put => ?_) inner ih
    cases put
    exact Nat.ne_of_gt (Nat.lt_of_lt_of_le inside beyond)

-- What is put into a scope that is still to be made, no function sees.
theorem Rooted.aside (rooted : h.Rooted) (beyond : h.frames.size ≤ p.place) : h.Sits (some p) :=
  fun at_ => (rooted at_).aside beyond

theorem Sits.akin (sits : h.Sits a) : h.Akin (h.beside a) := by
  refine ⟨rfl, rfl, rfl, rfl, fun at_ => ?_⟩
  unfold Value.visible
  rw [(sits at_).scopes]

end Heap
end ScriptArena
