import Mathlib.Data.List.Basic
import Mathlib.Data.List.TakeDrop
import Mathlib.Logic.Basic
import Mathlib.Tactic.Tauto
import ScriptArena.Proofs.Run.Printing

namespace ScriptArena

namespace Lines

variable {as bs cs : List Char}

-- Either the open line goes on, or it ends and the last piece is open instead of it.
theorem append_cases (as bs : List Char) :
    (pieces bs = [bs] ∧ closed (as ++ bs) = closed as ∧ opened (as ++ bs) = opened as ++ bs) ∨
      (closed as).length < (closed (as ++ bs)).length := by
  obtain ⟨front, last⟩ := parts_append as bs
  obtain ⟨p, ps, split⟩ := pieces_some bs
  have parts : behind as bs = (opened as ++ p) :: ps := by
    rw [behind, split]
    rfl
  rw [parts] at front last
  cases ps with
  | nil =>
    have same : p = bs := by
      have whole : ['\n'].intercalate (pieces bs) = bs := List.intercalate_splitOn '\n'
      rw [split] at whole
      simpa using whole
    rw [same] at split last
    rw [List.dropLast_singleton, List.append_nil] at front
    exact .inl ⟨split, front, last⟩
  | cons q qs =>
    right
    rw [front, List.length_append, List.length_dropLast, List.length_cons, List.length_cons]
    omega

end Lines

namespace Transcript
open Lines

variable {l : Limits} {t : Transcript} {T : String}

-- Some of what was printed is not among what is kept.
def Loses (l : Limits) (T : String) : Prop := firstLines l T ≠ (closed T.toList).map String.ofList

def Long (l : Limits) (line : List Char) : Prop := l.maxLineLength < line.length

theorem cut_whole (positive : 0 ≤ l.maxLineLength) (line : List Char) :
    cut l line = String.ofList line ↔ ¬ Long l line := by
  rw [cut, String.ofList_inj, List.take_eq_self_iff, Long]
  omega

theorem loses_iff (positive : 0 ≤ l.maxLineLength) (T : String) :
    Loses l T ↔ l.maxOutputLines.toNat < (closed T.toList).length ∨
      ∃ line ∈ closed T.toList, Long l line := by
  rw [← not_iff_not, Loses, not_not, not_or, Nat.not_lt, firstLines]
  constructor
  · intro same
    have within : (closed T.toList).length ≤ l.maxOutputLines.toNat := by
      have lengths := congrArg List.length same
      rw [List.length_map, List.length_map, List.length_take] at lengths
      omega
    rw [List.take_of_length_le within, List.map_inj_left] at same
    refine ⟨within, ?_⟩
    rintro ⟨line, member, long⟩
    exact (cut_whole positive line).mp (same line member) long
  · rintro ⟨within, short⟩
    rw [List.take_of_length_le within, List.map_inj_left]
    exact fun line member => (cut_whole positive line).mpr fun long => short ⟨line, member, long⟩

-- The lines of a text, with the open one if there is something in it.
theorem ended_closed (T : String) :
    (opened T.toList = [] ∧ closed (ended T).toList = closed T.toList) ∨
      (opened T.toList ≠ [] ∧ closed (ended T).toList = pieces T.toList) := by
  by_cases none : opened T.toList = []
  · exact .inl ⟨none, by rw [ended, if_pos none]⟩
  · exact .inr ⟨none, by rw [(ended_parts none).1, ← pieces_split]⟩

theorem pieces_length (cs : List Char) : (pieces cs).length = (closed cs).length + 1 := by
  rw [pieces_split, List.length_append, List.length_singleton]

theorem closed_ended (T : String) :
    (closed T.toList).length ≤ (closed (ended T).toList).length := by
  have count := pieces_length T.toList
  obtain ⟨-, lines⟩ | ⟨-, lines⟩ := ended_closed T
  · exact Nat.le_of_eq (congrArg List.length lines.symm)
  · rw [lines]
    omega

theorem long_ended (positive : 0 ≤ l.maxLineLength) (T : String) :
    (∃ line ∈ closed (ended T).toList, Long l line) ↔ ∃ line ∈ pieces T.toList, Long l line := by
  obtain ⟨none, lines⟩ | ⟨-, lines⟩ := ended_closed T
  · have short : ¬ Long l [] := Int.not_lt.mpr positive
    simp [lines, pieces_split, none, or_and_right, exists_or, short]
  · rw [lines]

-- A text that goes on has a line more, unless nothing is put behind it.
theorem closed_more (T : String) {text : String} (some : text ≠ "") :
    (closed T.toList).length < (closed (ended (T ++ text)).toList).length := by
  have after := closed_ended (T ++ text)
  rw [String.toList_append] at after
  obtain ⟨-, front, last⟩ | more := append_cases T.toList text.toList
  · obtain ⟨none, -⟩ | ⟨-, lines⟩ := ended_closed (T ++ text)
    · rw [String.toList_append, last] at none
      exact absurd (String.toList_eq_nil_iff.mp (List.append_eq_nil_iff.mp none).2) some
    · rw [lines, pieces_length, String.toList_append, front]
      omega
  · omega

-- What is lost stays lost.
theorem loses_append (positive : 0 ≤ l.maxLineLength) (loses : Loses l (ended T)) (text : String) :
    Loses l (ended (T ++ text)) := by
  rw [loses_iff positive, long_ended positive] at loses ⊢
  obtain more | ⟨line, member, long⟩ := loses
  · left
    by_cases none : text = ""
    · rwa [none, String.append_empty]
    · have later := closed_more T none
      obtain ⟨-, lines⟩ | ⟨-, lines⟩ := ended_closed T
      · rw [lines] at more
        omega
      · rw [lines, pieces_length] at more
        omega
  · right
    rw [String.toList_append, pieces_append]
    rw [pieces_split, List.mem_append, List.mem_singleton] at member
    obtain inside | rfl := member
    · exact ⟨line, List.mem_append_left _ inside, long⟩
    · obtain ⟨p, ps, split⟩ := pieces_some text.toList
      refine ⟨opened T.toList ++ p, List.mem_append_right _ ?_, ?_⟩
      · rw [split]
        exact List.mem_cons_self
      · unfold Long at long ⊢
        rw [List.length_append]
        omega

theorem isFull_iff : t.isFull l ↔ l.maxOutputLines.toNat ≤ t.lines.size := by
  rw [isFull, decide_eq_true_iff]
  omega

theorem isLong_iff (line : List Char) : isLong l (String.ofList line) ↔ Long l line := by
  rw [isLong, decide_eq_true_iff, String.length_ofList, Long]

theorem write_size (line : String) :
    (t.write l line).lines.size = if t.isFull l then t.lines.size else t.lines.size + 1 := by
  unfold write
  split
  · rfl
  · split
    · exact Array.size_push _
    · exact Array.size_push _

theorem write_truncated (line : String) :
    (t.write l line).truncated = (t.truncated || t.isFull l || isLong l line) := by
  unfold write
  split
  · simp [*]
  · split
    · simp [*]
    · simp [*]

theorem hold_truncated (line : String) :
    (t.hold l line).truncated = (t.truncated || isLong l line) := by
  unfold hold
  split
  · simp [*]
  · simp [*]

-- Of lines that are written, all are counted that there is room for; and one that there is no room for
-- is noticed, as is a long one.
theorem writes_counted (within : t.lines.size ≤ l.maxOutputLines.toNat) (lines : List (List Char)) :
    ((lines.map String.ofList).foldl (write l) t).lines.size =
        min l.maxOutputLines.toNat (t.lines.size + lines.length) ∧
      (((lines.map String.ofList).foldl (write l) t).truncated = true ↔
        t.truncated = true ∨ l.maxOutputLines.toNat < t.lines.size + lines.length ∨
          ∃ line ∈ lines, Long l line) := by
  induction lines generalizing t with
  | nil =>
    simp only [List.map_nil, List.foldl_nil, List.length_nil, Nat.add_zero]
    have room : ¬ l.maxOutputLines.toNat < t.lines.size := Nat.not_lt.mpr within
    refine ⟨by omega, ?_⟩
    simp [room]
  | cons line rest ih =>
    rw [List.map_cons, List.foldl_cons]
    by_cases full : t.isFull l
    · have used := isFull_iff.mp full
      have size := write_size (t := t) (l := l) (String.ofList line)
      rw [if_pos full] at size
      obtain ⟨counts, marks⟩ := ih (t := t.write l (String.ofList line)) (by omega)
      rw [counts, marks, size, write_truncated, full, List.length_cons]
      refine ⟨by omega, ?_⟩
      simp
      omega
    · have unused := (not_congr isFull_iff).mp full
      have size := write_size (t := t) (l := l) (String.ofList line)
      rw [if_neg full] at size
      obtain ⟨counts, marks⟩ := ih (t := t.write l (String.ofList line)) (by omega)
      rw [counts, marks, size, write_truncated, Bool.eq_false_iff.mpr full, Bool.or_false,
        Bool.or_eq_true, isLong_iff, List.length_cons, List.exists_mem_cons_iff]
      refine ⟨by omega, ?_⟩
      have sum : t.lines.size + 1 + rest.length = t.lines.size + (rest.length + 1) := by omega
      rw [sum]
      tauto

theorem writes_idle (lines : List String) : (lines.foldl (write l) t).idle = t.idle := by
  induction lines generalizing t with
  | nil => rfl
  | cons line rest ih =>
    refine ih.trans ?_
    unfold write
    split
    · rfl
    · split
      · rfl
      · rfl

theorem hold_idle (line : String) : (t.hold l line).idle = t.idle := by
  unfold hold
  split
  · rfl
  · rfl

-- What is idle is noticed by that alone.
theorem print_idle (t : Transcript) (text : String) :
    (t.print l text).idle = true ↔ t.idle = true ∨ t.isFull l ∧ text = "" := by
  change (add l { t with printed := t.printed.map (· ++ text) } text).idle = true ↔ _
  have same : isFull l { t with printed := t.printed.map (· ++ text) } = t.isFull l := rfl
  by_cases full : t.isFull l
  · rw [add, if_pos (same.trans full), Bool.or_eq_true, String.isEmpty_iff]
    simp [full]
  · rw [add, if_neg (same ▸ full), hold_idle, writes_idle]
    simp [full]

-- What the marks of a transcript say of the text that was printed. A line that is open when all lines
-- are used up is only known until something is marked.
structure Flagged (l : Limits) (T : String) (t : Transcript) : Prop where
  size : t.lines.size = min l.maxOutputLines.toNat (closed T.toList).length
  held : (t.truncated = true → (closed T.toList).length < l.maxOutputLines.toNat) →
    t.pending = cut l (opened T.toList)
  needed : t.truncated = true → t.idle = true ∨ Loses l (ended T)
  noted : t.idle = true → t.truncated = true
  beyond : l.maxOutputLines.toNat < (closed T.toList).length → t.truncated = true
  long : (∃ line ∈ pieces T.toList, Long l line) → t.truncated = true

theorem flagged_isFull (flagged : Flagged l T t) :
    t.isFull l ↔ l.maxOutputLines.toNat ≤ (closed T.toList).length := by
  rw [isFull_iff, flagged.size]
  omega

theorem loses_closed (positive : 0 ≤ l.maxLineLength)
    (more : l.maxOutputLines.toNat < (closed (ended T).toList).length) : Loses l (ended T) :=
  (loses_iff positive _).mpr (.inl more)

theorem closed_append (T text : String) :
    (closed T.toList).length ≤ (closed (T ++ text).toList).length := by
  rw [String.toList_append, (parts_append T.toList text.toList).1, List.length_append]
  omega

-- Once all lines are used up, a text is marked whatever it is. It is lost if there is something in it.
theorem flagged_over (positive : 0 ≤ l.maxLineLength) (flagged : Flagged l T t) (full : t.isFull l)
    (text : String) :
    Flagged l (T ++ text) { t with truncated := true, idle := t.idle || text.isEmpty } := by
  have used := (flagged_isFull flagged).mp full
  have longer := closed_append T text
  have size := flagged.size
  constructor
  · change t.lines.size = _
    omega
  · intro few
    have room := few rfl
    omega
  · intro _
    by_cases none : text = ""
    · left
      simp [none]
    · have more := closed_more T none
      exact .inr (loses_closed positive (by omega))
  · exact fun _ => rfl
  · exact fun _ => rfl
  · exact fun _ => rfl

-- What is left of the open line, with a text behind it.
def onward (l : Limits) (T text : String) : List Char :=
  (cut l (opened T.toList)).toList ++ text.toList

-- The lines that are written, and the one that is held, when there is room.
theorem add_room (room : ¬ t.isFull l) (open_ : t.pending = cut l (opened T.toList)) (text : String) :
    t.add l text = (((closed (onward l T text)).map String.ofList).foldl (write l) t).hold l
      (String.ofList (opened (onward l T text))) := by
  rw [add, if_neg room, linesOf_pieces, String.toList_append, open_]
  rfl

theorem exists_pieces {q : List Char → Prop} (cs : List Char) :
    (∃ line ∈ pieces cs, q line) ↔ (∃ line ∈ closed cs, q line) ∨ q (opened cs) := by
  rw [pieces_split]
  simp [or_and_right, exists_or]

theorem pieces_behind (T text : String) :
    pieces (T ++ text).toList = closed T.toList ++ behind T.toList text.toList := by
  rw [String.toList_append, pieces_append]
  rfl

-- A line that was cut is still one line, so that it does not change how many there are.
theorem closed_total (l : Limits) (T text : String) :
    (closed (T ++ text).toList).length =
      (closed T.toList).length + (closed (onward l T text)).length := by
  have lengths := congrArg List.length (behind_cut (l := l) T.toList text.toList)
  rw [List.length_map, List.length_map] at lengths
  rw [String.toList_append, (parts_append _ _).1, List.length_append, List.length_dropLast,
    ← lengths, ← List.length_dropLast]
  rfl

-- While nothing is marked, what is held is all of the open line.
theorem held_whole (positive : 0 ≤ l.maxLineLength) (flagged : Flagged l T t)
    (clear : t.truncated = false) : (cut l (opened T.toList)).toList = opened T.toList := by
  have short : ¬ Long l (opened T.toList) := fun long =>
    Bool.eq_false_iff.mp clear (flagged.long ((exists_pieces _).mpr (.inr long)))
  rw [(cut_whole positive _).mpr short, String.toList_ofList]

theorem onward_whole (positive : 0 ≤ l.maxLineLength) (flagged : Flagged l T t)
    (clear : t.truncated = false) (text : String) :
    pieces (onward l T text) = behind T.toList text.toList := by
  rw [onward, held_whole positive flagged clear, pieces_free (opened_free _)]
  rfl

section Room
variable (flagged : Flagged l T t) (room : ¬ t.isFull l)
include flagged room

theorem room_size : t.lines.size = (closed T.toList).length ∧
    (closed T.toList).length < l.maxOutputLines.toNat := by
  have unused := (not_congr (flagged_isFull flagged)).mp room
  have size := flagged.size
  omega

theorem room_held : t.pending = cut l (opened T.toList) :=
  flagged.held fun _ => (room_size flagged room).2

theorem add_idle (text : String) : (t.add l text).idle = t.idle := by
  rw [add_room room (room_held flagged room), hold_idle, writes_idle]

theorem add_size (positive : 0 ≤ l.maxLineLength) (text : String) : (t.add l text).lines.size =
    min l.maxOutputLines.toNat (closed (T ++ text).toList).length := by
  obtain ⟨size, within⟩ := room_size flagged room
  rw [add_room room (room_held flagged room), (hold_pending positive _).1,
    (writes_counted (by omega) _).1, closed_total l T text, size]

-- With room left, a text is marked when there are too many lines with it, or a long one.
theorem add_marked (text : String) : (t.add l text).truncated = true ↔
    t.truncated = true ∨ l.maxOutputLines.toNat < (closed (T ++ text).toList).length ∨
      ∃ piece ∈ pieces (onward l T text), Long l piece := by
  obtain ⟨size, within⟩ := room_size flagged room
  rw [add_room room (room_held flagged room), hold_truncated, Bool.or_eq_true,
    (writes_counted (by omega) _).2, isLong_iff, exists_pieces, closed_total l T text, size,
    or_assoc, or_assoc]

theorem flagged_room (positive : 0 ≤ l.maxLineLength) (text : String) :
    Flagged l (T ++ text) (t.add l text) := by
  have idle := add_idle flagged room text
  have marked := add_marked flagged room text
  constructor
  · exact add_size flagged room positive text
  · exact fun _ => add_pending positive room (room_held flagged room) text
  · intro set_
    rw [idle]
    cases before : t.truncated with
    | true =>
      exact (flagged.needed before).imp_right fun loses => loses_append positive loses text
    | false =>
      right
      rw [marked, before, onward_whole positive flagged before] at set_
      obtain set_ | more | ⟨piece, inside, long⟩ := set_
      · cases set_
      · exact loses_closed positive (Nat.lt_of_lt_of_le more (closed_ended _))
      · refine (loses_iff positive _).mpr (.inr ((long_ended positive _).mpr ⟨piece, ?_, long⟩))
        rw [pieces_behind]
        exact List.mem_append_right _ inside
  · intro set_
    rw [idle] at set_
    exact marked.mpr (.inl (flagged.noted set_))
  · exact fun more => marked.mpr (.inr (.inl more))
  · rintro ⟨piece, inside, long⟩
    cases before : t.truncated with
    | true => exact marked.mpr (.inl before)
    | false =>
      rw [pieces_behind, List.mem_append, ← onward_whole positive flagged before] at inside
      obtain earlier | inside := inside
      · have prior := flagged.long ((exists_pieces _).mpr (.inl ⟨piece, earlier, long⟩))
        exact marked.mpr (.inl prior)
      · exact marked.mpr (.inr (.inr ⟨piece, inside, long⟩))

end Room

theorem flagged_add (positive : 0 ≤ l.maxLineLength) (flagged : Flagged l T t) (text : String) :
    Flagged l (T ++ text) (t.add l text) := by
  by_cases full : t.isFull l
  · rw [add, if_pos full]
    exact flagged_over positive flagged full text
  · exact flagged_room flagged full positive text

theorem flagged_print (positive : 0 ≤ l.maxLineLength) (flagged : Flagged l T t) (text : String) :
    Flagged l (T ++ text) (t.print l text) :=
  flagged_add (t := { t with printed := t.printed.map (· ++ text) }) positive
    ⟨flagged.size, flagged.held, flagged.needed, flagged.noted, flagged.beyond, flagged.long⟩ text

theorem flagged_bytes (flagged : Flagged l T t) (full : t.isFull l) :
    Flagged l T { t with truncated := true, idle := true } where
  size := flagged.size
  held few := absurd (few rfl) (Nat.not_lt.mpr ((flagged_isFull flagged).mp full))
  needed _ := .inl rfl
  noted _ := rfl
  beyond _ := rfl
  long _ := rfl

theorem ended_ended (T : String) : ended (ended T) = ended T :=
  if_pos (Session.ended_opened T)

-- When all lines are used up and something is marked, nothing more is to be shown.
theorem flagged_ended (flagged : Flagged l T t) {t' : Transcript} (lines : t'.lines = t.lines)
    (set_ : t'.truncated = true) (used : l.maxOutputLines.toNat ≤ (closed T.toList).length)
    (needed : t'.idle = true ∨ Loses l (ended T)) : Flagged l (ended T) t' := by
  have longer := closed_ended T
  have size := flagged.size
  constructor
  · rw [lines]
    omega
  · intro few
    have room := few set_
    omega
  · rw [ended_ended]
    exact fun _ => needed
  · exact fun _ => set_
  · exact fun _ => set_
  · exact fun _ => set_

theorem cut_isLong (positive : 0 ≤ l.maxLineLength) (line : List Char) :
    isLong l (cut l line) = false := by
  have within := List.length_take_le l.maxLineLength.toNat line
  rw [isLong, decide_eq_false_iff_not, cut, String.length_ofList]
  omega

-- There is room for the line that is ended.
theorem flagged_closing (positive : 0 < l.maxLineLength) (flagged : Flagged l T t)
    (room : ¬ t.isFull l) (some : opened T.toList ≠ []) :
    Flagged l (ended T) { t.write l t.pending with pending := "" } := by
  have unused := (not_congr (flagged_isFull flagged)).mp room
  have held := flagged.held fun _ => Nat.not_le.mp unused
  obtain ⟨front, last⟩ := ended_parts some
  have more : (closed (ended T).toList).length = (closed T.toList).length + 1 := by
    rw [front, List.length_append, List.length_singleton]
  have size := write_size (t := t) (l := l) t.pending
  rw [if_neg room] at size
  have same : (t.write l t.pending).truncated = t.truncated := by
    rw [write_truncated, Bool.eq_false_iff.mpr room, held, cut_isLong (Int.le_of_lt positive),
      Bool.or_false, Bool.or_false]
  have idle : (t.write l t.pending).idle = t.idle := writes_idle [t.pending]
  constructor
  · have before := flagged.size
    change (t.write l t.pending).lines.size = _
    omega
  · intro _
    rw [last]
    exact (String.isEmpty_iff.mp ((cut_empty positive []).mpr rfl)).symm
  · intro set_
    change (t.write l t.pending).idle = true ∨ _
    rw [idle, ended_ended]
    exact flagged.needed (same.symm.trans set_)
  · intro set_
    exact same.trans (flagged.noted (idle.symm.trans set_))
  · intro beyond
    omega
  · intro long
    have short : ¬ Long l (opened (ended T).toList) := by
      rw [last]
      exact Int.not_lt.mpr (Int.le_of_lt positive)
    rw [exists_pieces, or_iff_left short, long_ended (Int.le_of_lt positive)] at long
    exact same.trans (flagged.long long)

theorem flagged_flush (positive : 0 < l.maxLineLength) (flagged : Flagged l T t) :
    Flagged l (ended T) (t.flush l) := by
  by_cases empty : t.pending.isEmpty
  · rw [flush, if_pos empty]
    by_cases none : opened T.toList = []
    · rwa [ended, if_pos none]
    · have lost : ¬ (t.truncated = true → (closed T.toList).length < l.maxOutputLines.toNat) :=
        fun few => none ((cut_empty positive _).mp (flagged.held few ▸ empty))
      obtain ⟨set_, used⟩ := Classical.not_imp.mp lost
      exact flagged_ended flagged rfl set_ (Nat.not_lt.mp used) (flagged.needed set_)
  · have some (held : t.pending = cut l (opened T.toList)) : opened T.toList ≠ [] :=
      fun none => empty (held ▸ (cut_empty positive _).mpr none)
    rw [flush, if_neg empty]
    by_cases full : t.isFull l
    · have used := (flagged_isFull flagged).mp full
      rw [write, if_pos full]
      refine flagged_ended flagged rfl rfl used ?_
      cases before : t.truncated with
      | true => exact flagged.needed before
      | false =>
        have held := flagged.held fun set_ => absurd (before.symm.trans set_) Bool.false_ne_true
        have front := (ended_parts (some held)).1
        refine .inr (loses_closed (Int.le_of_lt positive) ?_)
        rw [front, List.length_append, List.length_singleton]
        omega
    · have unused := (not_congr (flagged_isFull flagged)).mp full
      exact flagged_closing positive flagged full (some (flagged.held fun _ => Nat.not_le.mp unused))

theorem flagged_initial (positive : 0 ≤ l.maxLineLength) : Flagged l "" {} where
  size := (Nat.min_eq_right (Nat.zero_le _)).symm
  held _ := by
    change "" = String.ofList (List.take l.maxLineLength.toNat [])
    rw [List.take_nil]
  needed set_ := by cases set_
  noted set_ := by cases set_
  beyond more := absurd more (Nat.not_lt_zero _)
  long := by
    rintro ⟨line, inside, long⟩
    rw [List.mem_singleton.mp inside] at long
    exact absurd long (Int.not_lt.mpr positive)

theorem kept_flagged (positive : 0 < l.maxLineLength) : Kept l (Flagged l) where
  initial := flagged_initial (Int.le_of_lt positive)
  text s flagged := flagged_print (Int.le_of_lt positive) flagged s
  bytes full flagged := flagged_bytes flagged full
  flush := flagged_flush positive

-- When the open line is ended, what is marked is what is lost, or what was printed with nothing in it.
theorem flagged_iff (positive : 0 ≤ l.maxLineLength) (flagged : Flagged l (ended T) t) :
    t.truncated = true ↔ Loses l (ended T) ∨ t.idle = true := by
  constructor
  · intro set_
    have needed := flagged.needed set_
    rw [ended_ended] at needed
    exact needed.symm
  · rintro (loses | set_)
    · obtain more | ⟨line, inside, long⟩ := (loses_iff positive _).mp loses
      · exact flagged.beyond more
      · exact flagged.long ((exists_pieces _).mpr (.inl ⟨line, inside, long⟩))
    · exact flagged.noted set_

end Transcript

namespace Session
open Lines Run Transcript

-- At the end of a call the transcript is marked when lines that were printed are lost, or cut. It is
-- also marked when nothing is lost, by a text with nothing in it that comes when all lines are used up.
theorem calls_marked (p : Script.Program) (l : Limits) (positive : 1 ≤ l.maxLineLength) :
    (∀ s, start p l = .ok s → ∃ T, Told p l s T ∧ s.machine.transcript.printed.Is T) ∧
      (∀ s T P at_ args, Told p l s T → l.time = .ample → s.machine.transcript.printed.Is P →
        ∃ text, (s.call at_ args).2.machine.transcript.printed.Is (P ++ text) ∧
          Told p l (s.call at_ args).2 (ended (T ++ text)) ∧
          ((s.call at_ args).2.machine.transcript.truncated = true ↔
            Loses l (ended (T ++ text)) ∨
              (s.call at_ args).2.machine.transcript.idle = true)) ∧
      (∀ T, Loses l T ↔ l.maxOutputLines.toNat < (closed T.toList).length ∨
        ∃ line ∈ closed T.toList, l.maxLineLength < line.length) ∧
      (∀ args m v m', printValues args l m = .ok v m' →
        (∃ text, Tells m.heap l args text ∧ m'.transcript = m.transcript.print l text ∧
            (m'.transcript.idle = true ↔
              m.transcript.idle = true ∨ m.transcript.isFull l ∧ text = "")) ∨
          (m.transcript.isFull l ∧ m'.transcript.lines = m.transcript.lines ∧
            m'.transcript.idle = true)) ∧
      ∀ args m e m', printValues args l m = .error e m' → m' = m := by
  have short : 0 ≤ l.maxLineLength := by omega
  refine ⟨?_, ?_, loses_iff short, ?_, ?_⟩
  · intro s ran
    obtain ⟨T, only⟩ := s.machine.transcript.printed.single
    have is := (only T).mpr rfl
    exact ⟨T, .started ran is, is⟩
  · intro s T P at_ args told ample is
    obtain ⟨text, printed, told'⟩ := call_told told ample is at_ args
    exact ⟨text, printed, told', flagged_iff short (told_keeps (kept_flagged positive) told')⟩
  · intro args m v m' ran
    obtain ⟨text, tells, rfl⟩ | ⟨full, rfl⟩ := printValues_ok ran
    · exact .inl ⟨text, tells, rfl, print_idle m.transcript text⟩
    · exact .inr ⟨full, rfl, rfl⟩
  · intro args m e m' failed
    exact printValues_error failed

def marksAfter (p : Script.Program) (l : Limits) (at_ : Nat) : Option (Bool × Bool) :=
  (start p l).toOption.map fun s =>
    let t := (s.call at_ []).2.machine.transcript
    (t.truncated, t.idle)

-- The line that the call goes on with is cut.
theorem openLine_marked :
    ∃ s T text, start openLine narrow = .ok s ∧ Told openLine narrow s T ∧
      (s.call 0 []).2.machine.transcript.truncated = true ∧ Loses narrow (ended (T ++ text)) := by
  have marks : marksAfter openLine narrow 0 = some (true, false) := by decide +kernel
  obtain ⟨starts, calls, _⟩ := calls_marked openLine narrow (by decide)
  unfold marksAfter at marks
  cases started : start openLine narrow with
  | error e =>
    rw [started] at marks
    cases marks
  | ok s =>
    rw [started] at marks
    obtain ⟨set_, busy⟩ := Prod.mk.inj (Option.some.inj marks)
    obtain ⟨T, told, is⟩ := starts s started
    obtain ⟨text, _, _, exactly⟩ := calls s T T 0 [] told rfl is
    refine ⟨s, T, text, rfl, told, set_, ?_⟩
    exact (exactly.mp set_).resolve_right (Bool.eq_false_iff.mp busy)

-- A function that uses up all lines, and then prints a text with nothing in it.
def lastLine : Script.Program :=
  ⟨[.funcDef "go" [] []
      [.expr (.call (.name "print" 2) [.const (.text "a")] [] 2),
        .expr (.call (.name "print" 3) [] [.named "end" (.const (.text ""))] 3)]
      true false 1], rfl⟩

def oneLine : Limits := { maxOutputLines := 1 }

-- All that was printed before the call, by the call, and whether the transcript is marked then.
def Calls (p : Script.Program) (l : Limits) (at_ : Nat) (T text : String) (marked : Bool) : Prop :=
  match start p l with
  | .ok s =>
    s.machine.transcript.printed.Is T ∧
      (s.call at_ []).2.machine.transcript.printed.Is (T ++ text) ∧
      (s.call at_ []).2.machine.transcript.truncated = marked
  | .error _ => False

theorem lastLine_overmarked :
    ∃ s, start lastLine oneLine = .ok s ∧ Told lastLine oneLine s "" ∧
      Told lastLine oneLine (s.call 0 []).2 (ended ("" ++ "a\n")) ∧
      (s.call 0 []).2.machine.transcript.truncated = true ∧
      ¬ Loses oneLine (ended ("" ++ "a\n")) ∧
      ¬ (oneLine.maxOutputLines < (closed (ended ("" ++ "a\n")).toList).length ∨
        ∃ line ∈ closed (ended ("" ++ "a\n")).toList, oneLine.maxLineLength < line.length) := by
  have calls : Calls lastLine oneLine 0 "" "a\n" true := by
    with_unfolding_all exact ⟨rfl, ⟨"a\n", ⟨"", rfl, rfl⟩, rfl⟩, rfl⟩
  have whole : ¬ Loses oneLine (ended ("" ++ "a\n")) := by
    unfold Loses
    decide
  unfold Calls at calls
  cases started : start lastLine oneLine with
  | error e =>
    rw [started] at calls
    cases calls
  | ok s =>
    rw [started] at calls
    obtain ⟨before, after, set_⟩ := calls
    have told : Told lastLine oneLine s "" := .started started before
    exact ⟨s, rfl, told, .called told rfl 0 [] before after, set_, whole, by decide⟩

end Session
end ScriptArena
