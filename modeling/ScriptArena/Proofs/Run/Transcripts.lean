import ScriptArena.Run.Transcript

namespace ScriptArena

namespace Lines

def pieces (cs : List Char) : List (List Char) := cs.splitOn '\n'

-- The lines that a line break ends, and the line that is open behind them.
def closed (cs : List Char) : List (List Char) := (pieces cs).dropLast

def opened (cs : List Char) : List Char := (pieces cs).getLast?.getD []

-- Characters are put in front of the first piece.
def onto (cs : List Char) (ps : List (List Char)) : List (List Char) := ps.modifyHead (cs ++ ·)

variable {as bs cs : List Char} {ps : List (List Char)}

theorem pieces_nil : pieces [] = [[]] := rfl

theorem pieces_cons (c : Char) (cs : List Char) :
    pieces (c :: cs) = if c = '\n' then [] :: pieces cs else onto [c] (pieces cs) := by
  simp [pieces, onto, List.splitOn_cons_eq_if_modifyHead]

theorem pieces_some (cs : List Char) : ∃ p ps, pieces cs = p :: ps := by
  cases split : pieces cs with
  | nil => exact absurd split (List.splitOnP_ne_nil _ cs)
  | cons p ps => exact ⟨p, ps, rfl⟩

theorem pieces_split (cs : List Char) : pieces cs = closed cs ++ [opened cs] := by
  obtain ⟨p, ps, split⟩ := pieces_some cs
  unfold closed opened
  rw [split, List.getLast?_eq_some_getLast (List.cons_ne_nil p ps), Option.getD_some,
    List.dropLast_concat_getLast]

theorem pieces_iff {ps : List (List Char)} {p : List Char} :
    pieces cs = ps ++ [p] ↔ closed cs = ps ∧ opened cs = p := by
  rw [pieces_split]
  constructor
  · intro same
    obtain ⟨front, last⟩ := List.append_inj' same rfl
    exact ⟨front, List.singleton_inj.mp last⟩
  · rintro ⟨rfl, rfl⟩
    rfl

theorem onto_onto : onto as (onto bs ps) = onto (as ++ bs) ps := by
  cases ps with
  | nil => rfl
  | cons p ps => simp [onto]

-- A line break ends an empty line; any other character goes in front of the first line.
theorem cons_cases (c : Char) (cs : List Char) :
    (c = '\n' ∧ closed (c :: cs) = [] :: closed cs ∧ opened (c :: cs) = opened cs) ∨
      (c ≠ '\n' ∧ closed cs = [] ∧ closed (c :: cs) = [] ∧ opened (c :: cs) = c :: opened cs) ∨
      (c ≠ '\n' ∧ ∃ p ps, closed cs = p :: ps ∧ closed (c :: cs) = (c :: p) :: ps ∧
        opened (c :: cs) = opened cs) := by
  by_cases break_ : c = '\n'
  · refine .inl ⟨break_, ?_⟩
    rw [← pieces_iff, pieces_cons, if_pos break_, pieces_split]
    rfl
  · cases front : closed cs with
    | nil =>
      refine .inr (.inl ⟨break_, rfl, ?_⟩)
      rw [← pieces_iff, pieces_cons, if_neg break_, pieces_split, front]
      rfl
    | cons p ps =>
      refine .inr (.inr ⟨break_, p, ps, rfl, ?_⟩)
      rw [← pieces_iff, pieces_cons, if_neg break_, pieces_split, front]
      rfl

-- What is put behind a text goes on with the line that is open.
theorem pieces_append (as bs : List Char) :
    pieces (as ++ bs) = closed as ++ onto (opened as) (pieces bs) := by
  induction as with
  | nil =>
    obtain ⟨p, ps, split⟩ := pieces_some bs
    rw [List.nil_append, split]
    rfl
  | cons c as ih =>
    rw [List.cons_append, pieces_cons, ih]
    obtain ⟨ends, front, last⟩ | ⟨goes, none, front, last⟩ | ⟨goes, p, ps, some, front, last⟩ :=
      cons_cases c as
    · rw [if_pos ends, front, last]
      rfl
    · rw [if_neg goes, front, last, none, List.nil_append, onto_onto]
      rfl
    · rw [if_neg goes, front, last, some]
      rfl

-- The pieces of what is put behind a text; the first of them goes on with the line that is open.
def behind (as bs : List Char) : List (List Char) := onto (opened as) (pieces bs)

theorem parts_append (as bs : List Char) :
    closed (as ++ bs) = closed as ++ (behind as bs).dropLast ∧
      opened (as ++ bs) = (behind as bs).getLast?.getD [] := by
  have some : behind as bs ≠ [] := by
    obtain ⟨p, ps, split⟩ := pieces_some bs
    rw [behind, split]
    exact List.cons_ne_nil _ _
  rw [← pieces_iff, pieces_append, List.append_assoc]
  change closed as ++ behind as bs = _
  rw [List.getLast?_eq_some_getLast some, Option.getD_some, List.dropLast_concat_getLast]

theorem opened_free (cs : List Char) : '\n' ∉ opened cs := by
  induction cs with
  | nil => exact List.not_mem_nil
  | cons c cs ih =>
    obtain ⟨_, _, last⟩ | ⟨goes, _, _, last⟩ | ⟨_, _, _, _, _, last⟩ := cons_cases c cs
    · exact last ▸ ih
    · rw [last, List.mem_cons, not_or]
      exact ⟨Ne.symm goes, ih⟩
    · exact last ▸ ih

theorem onto_nil (cs : List Char) : onto [] (pieces cs) = pieces cs := by
  obtain ⟨p, ps, split⟩ := pieces_some cs
  rw [split]
  rfl

theorem pieces_free (free : '\n' ∉ as) : pieces (as ++ bs) = onto as (pieces bs) := by
  induction as with
  | nil => exact (onto_nil bs).symm
  | cons c as ih =>
    rw [List.mem_cons, not_or] at free
    obtain ⟨goes, free⟩ := free
    rw [List.cons_append, pieces_cons, if_neg (Ne.symm goes), ih free, onto_onto]
    rfl

-- Pieces are cut where the mark is, as long as there are cuts.
theorem splitAtMark_pieces {cuts : Nat} {piece : List Char} {done : List (List Char)}
    (enough : cs.length ≤ cuts) :
    Text.splitAtMark ['\n'] cs cuts 0 piece done =
      done.reverse ++ onto piece.reverse (pieces cs) := by
  induction cs generalizing cuts piece done with
  | nil => simp [Text.splitAtMark, pieces_nil, onto]
  | cons c cs ih =>
    rw [List.length_cons] at enough
    rw [Text.splitAtMark, pieces_cons]
    by_cases break_ : c = '\n'
    · have cut : 0 < cuts ∧ ['\n'].isPrefixOf (c :: cs) := ⟨by omega, by simp [break_]⟩
      rw [if_pos cut, if_pos break_]
      refine (ih (by omega)).trans ?_
      rw [List.reverse_nil, onto_nil]
      simp [onto]
    · have other : ¬ (0 < cuts ∧ ['\n'].isPrefixOf (c :: cs)) := by
        simp [Ne.symm break_]
      rw [if_neg other, if_neg break_, ih (by omega), onto_onto, List.reverse_cons]

theorem splitMark_pieces (cs : List Char) : Text.splitMark ['\n'] cs cs.length = pieces cs :=
  (splitAtMark_pieces (Nat.le_refl _)).trans (onto_nil cs)

theorem linesOf_pieces (text : String) :
    Transcript.linesOf text =
      ((closed text.toList).map String.ofList, String.ofList (opened text.toList)) := by
  unfold Transcript.linesOf
  rw [← String.length_toList, splitMark_pieces]
  rfl

end Lines

namespace Transcript
open Lines

variable {l : Limits} {t : Transcript} {T : String}

def cut (l : Limits) (line : List Char) : String :=
  String.ofList (line.take l.maxLineLength.toNat)

-- The lines of a text that are ended, as many as are allowed, cut to the length that is allowed.
def firstLines (l : Limits) (T : String) : List String :=
  ((closed T.toList).take l.maxOutputLines.toNat).map (cut l)

-- What is kept of a text that was printed. Beyond the last line that is allowed, it does not matter
-- what waits for an end.
structure Shows (l : Limits) (T : String) (t : Transcript) : Prop where
  lines : t.lines.toList = firstLines l T
  pending : ((closed T.toList).length : Int) < l.maxOutputLines → t.pending = cut l (opened T.toList)

theorem cut_cut (as bs : List Char) : cut l ((cut l as).toList ++ bs) = cut l (as ++ bs) := by
  unfold cut
  rw [String.toList_ofList, List.take_append, List.take_append, List.take_take, Nat.min_self,
    List.length_take]
  congr 3
  omega

theorem cut_short {line : String} (short : isLong l line = false) : cut l line.toList = line := by
  have within : line.toList.length ≤ l.maxLineLength.toNat := by
    simp only [isLong, decide_eq_false_iff_not] at short
    rw [String.length_toList]
    omega
  rw [cut, List.take_of_length_le within, String.ofList_toList]

theorem kept_cut (positive : 0 ≤ l.maxLineLength) (line : String) : kept l line = cut l line.toList := by
  unfold kept cut
  rw [if_neg (Int.not_lt.mpr positive)]

theorem write_full (full : t.isFull l) (line : String) : (t.write l line).lines = t.lines := by
  rw [write, if_pos full]

theorem write_room (positive : 0 ≤ l.maxLineLength) (room : ¬ t.isFull l) (line : String) :
    (t.write l line).lines = t.lines.push (cut l line.toList) := by
  rw [write, if_neg room]
  split
  · exact congrArg t.lines.push (kept_cut positive line)
  · rename_i short
    exact congrArg t.lines.push (cut_short (Bool.eq_false_iff.mpr short)).symm

theorem hold_pending (positive : 0 ≤ l.maxLineLength) (line : String) :
    (t.hold l line).lines = t.lines ∧ (t.hold l line).pending = cut l line.toList := by
  unfold hold
  split
  · exact ⟨rfl, kept_cut positive line⟩
  · rename_i short
    exact ⟨rfl, (cut_short (Bool.eq_false_iff.mpr short)).symm⟩

-- Lines are kept until there are as many as are allowed.
theorem writes_lines (positive : 0 ≤ l.maxLineLength) (room : 0 ≤ l.maxOutputLines)
    (lines : List (List Char)) :
    ((lines.map String.ofList).foldl (write l) t).lines.toList =
      t.lines.toList ++ (lines.take (l.maxOutputLines.toNat - t.lines.size)).map (cut l) := by
  induction lines generalizing t with
  | nil => simp
  | cons line rest ih =>
    rw [List.map_cons, List.foldl_cons, ih]
    by_cases full : t.isFull l
    · have none : l.maxOutputLines.toNat - t.lines.size = 0 := by
        have used : l.maxOutputLines ≤ t.lines.size := by simpa [isFull] using full
        omega
      rw [write_full full, none]
      rfl
    · have left : l.maxOutputLines.toNat - t.lines.size =
          l.maxOutputLines.toNat - (t.lines.size + 1) + 1 := by
        have unused : t.lines.size < l.maxOutputLines := by simpa [isFull] using full
        omega
      rw [write_room positive full, Array.size_push, Array.toList_push, String.toList_ofList, left,
        List.take_succ_cons, List.map_cons, List.append_assoc]
      rfl

theorem shows_size (shows : Shows l T t) :
    t.lines.size = min l.maxOutputLines.toNat (closed T.toList).length := by
  rw [← Array.length_toList, shows.lines, firstLines, List.length_map, List.length_take]

theorem shows_isFull (room : 0 ≤ l.maxOutputLines) (shows : Shows l T t) :
    t.isFull l ↔ l.maxOutputLines ≤ (closed T.toList).length := by
  rw [isFull, decide_eq_true_iff, shows_size shows]
  omega

-- All lines are used up, so that nothing of what comes is kept.
theorem shows_over (room : 0 ≤ l.maxOutputLines) (shows : Shows l T t) (full : t.isFull l)
    {t' : Transcript} (same : t'.lines = t.lines) (text : String) : Shows l (T ++ text) t' := by
  have used := (shows_isFull room shows).mp full
  have longer := (parts_append T.toList text.toList).1
  rw [← String.toList_append] at longer
  constructor
  · have enough : l.maxOutputLines.toNat ≤ (closed T.toList).length := by omega
    rw [same, shows.lines, firstLines, firstLines, longer, List.take_append_of_le_length enough]
  · rw [longer, List.length_append]
    intro few
    omega

-- A line that was cut while it was open is cut to the same in the end.
theorem behind_cut (as bs : List Char) :
    (pieces ((cut l (opened as)).toList ++ bs)).map (cut l) = (behind as bs).map (cut l) := by
  have free : '\n' ∉ (cut l (opened as)).toList := by
    rw [cut, String.toList_ofList]
    exact fun inside => opened_free as (List.mem_of_mem_take inside)
  obtain ⟨p, ps, split⟩ := pieces_some bs
  rw [pieces_free free, behind, split]
  change cut l ((cut l (opened as)).toList ++ p) :: ps.map (cut l) = _
  rw [cut_cut]
  rfl

-- While there is room, the open line goes on, cut to its length.
theorem add_pending (positive : 0 ≤ l.maxLineLength) (room : ¬ t.isFull l)
    (open_ : t.pending = cut l (opened T.toList)) (text : String) :
    (t.add l text).pending = cut l (opened (T ++ text).toList) := by
  have same := behind_cut (l := l) T.toList text.toList
  have lasts (ps : List (List Char)) :
      cut l (ps.getLast?.getD []) = (ps.map (cut l)).getLast?.getD (cut l []) := by
    rw [List.getLast?_map, Option.getD_map]
  rw [add, if_neg room, linesOf_pieces, open_, String.toList_append]
  dsimp only
  rw [(hold_pending positive _).2, String.toList_ofList, String.toList_append,
    (parts_append T.toList text.toList).2, opened, lasts, lasts, same]

theorem shows_add (positive : 0 ≤ l.maxLineLength) (room : 0 ≤ l.maxOutputLines)
    (shows : Shows l T t) (text : String) : Shows l (T ++ text) (t.add l text) := by
  by_cases full : t.isFull l
  · refine shows_over room shows full ?_ text
    rw [add, if_pos full]
  · have unused := (not_congr (shows_isFull room shows)).mp full
    have open_ : t.pending = cut l (opened T.toList) := shows.pending (by omega)
    have size : t.lines.size = (closed T.toList).length := by
      rw [shows_size shows]
      omega
    constructor
    · obtain ⟨front, -⟩ := parts_append T.toList text.toList
      have same := behind_cut (l := l) T.toList text.toList
      rw [add, if_neg full, linesOf_pieces, open_, String.toList_append]
      generalize (cut l (opened T.toList)).toList ++ text.toList = line at same ⊢
      obtain ⟨kept, -⟩ := hold_pending (t := ((closed line).map String.ofList).foldl (write l) t)
        positive (String.ofList (opened line))
      have lines : (closed line).map (cut l) = (behind T.toList text.toList).dropLast.map (cut l) := by
        rw [closed, List.map_dropLast, same, List.map_dropLast]
      rw [kept, writes_lines positive room, shows.lines, size, firstLines, firstLines,
        String.toList_append, front, List.take_append, List.map_append]
      simp only [List.map_take, lines]
    · exact fun _ => add_pending positive full open_ text

theorem shows_print (positive : 0 ≤ l.maxLineLength) (room : 0 ≤ l.maxOutputLines)
    (shows : Shows l T t) (text : String) : Shows l (T ++ text) (t.print l text) :=
  shows_add (t := { t with printed := t.printed.map (· ++ text) }) positive room
    ⟨shows.lines, shows.pending⟩ text

-- A call ends the line that it leaves open, unless there is nothing in it.
def ended (T : String) : String := if opened T.toList = [] then T else T ++ "\n"

theorem ended_parts {T : String} (some : opened T.toList ≠ []) :
    closed (ended T).toList = closed T.toList ++ [opened T.toList] ∧ opened (ended T).toList = [] := by
  obtain ⟨front, last⟩ := parts_append T.toList ['\n']
  rw [ended, if_neg some, String.toList_append]
  change closed (T.toList ++ ['\n']) = _ ∧ opened (T.toList ++ ['\n']) = _
  rw [front, last]
  have split : behind T.toList ['\n'] = [opened T.toList, []] := by
    change [opened T.toList ++ [], []] = _
    rw [List.append_nil]
  rw [split]
  exact ⟨rfl, rfl⟩

theorem flush_full (full : t.isFull l) : (t.flush l).lines = t.lines := by
  unfold flush
  split
  · rfl
  · exact write_full full _

theorem cut_empty (positive : 0 < l.maxLineLength) (line : List Char) :
    (cut l line).isEmpty ↔ line = [] := by
  have some : l.maxLineLength.toNat ≠ 0 := by omega
  rw [cut, String.isEmpty_iff, String.ofList_eq_empty_iff, List.take_eq_nil_iff]
  simp [some]

theorem shows_flush (positive : 0 < l.maxLineLength) (room : 0 ≤ l.maxOutputLines)
    (shows : Shows l T t) : Shows l (ended T) (t.flush l) := by
  by_cases full : t.isFull l
  · have beyond := shows_over room shows full (flush_full full)
    unfold ended
    split
    · have same := beyond ""
      rwa [String.append_empty] at same
    · exact beyond "\n"
  · have unused := (not_congr (shows_isFull room shows)).mp full
    have open_ : t.pending = cut l (opened T.toList) := shows.pending (by omega)
    by_cases none : opened T.toList = []
    · have empty : t.pending.isEmpty := open_ ▸ (cut_empty positive _).mpr none
      rw [ended, if_pos none, flush, if_pos empty]
      exact shows
    · have some : ¬ t.pending.isEmpty := open_ ▸ (not_congr (cut_empty positive _)).mpr none
      obtain ⟨front, last⟩ := ended_parts none
      have within : (closed (ended T).toList).length ≤ l.maxOutputLines.toNat := by
        rw [front, List.length_append, List.length_singleton]
        omega
      have before : (closed T.toList).length ≤ l.maxOutputLines.toNat := by omega
      have line : cut l t.pending.toList = cut l (opened T.toList) := by
        have twice := cut_cut (l := l) (opened T.toList) []
        rw [List.append_nil, List.append_nil] at twice
        rw [open_, twice]
      rw [flush, if_neg some]
      constructor
      · change (t.write l t.pending).lines.toList = _
        rw [write_room (Int.le_of_lt positive) full, Array.toList_push, shows.lines, line, firstLines,
          firstLines, List.take_of_length_le within, List.take_of_length_le before, front,
          List.map_append]
        rfl
      · intro _
        rw [last]
        exact (String.isEmpty_iff.mp ((cut_empty positive []).mpr rfl)).symm

theorem printed_write (line : String) : (t.write l line).printed = t.printed := by
  unfold write
  split
  · rfl
  · split
    · rfl
    · rfl

theorem printed_writes (lines : List String) : (lines.foldl (write l) t).printed = t.printed := by
  induction lines generalizing t with
  | nil => rfl
  | cons line rest ih => exact ih.trans (printed_write line)

theorem printed_hold (line : String) : (t.hold l line).printed = t.printed := by
  unfold hold
  split
  · rfl
  · rfl

theorem printed_add (text : String) : (t.add l text).printed = t.printed := by
  unfold add
  split
  · rfl
  · exact (printed_hold _).trans (printed_writes _)

theorem printed_print {P : String} (is : t.printed.Is P) (text : String) :
    (t.print l text).printed.Is (P ++ text) := by
  rw [print, printed_add]
  exact ⟨P, is, rfl⟩

theorem printed_flush : (t.flush l).printed = t.printed := by
  unfold flush
  split
  · rfl
  · exact printed_write _

-- What a submission does to a transcript: it prints texts; and bytes, which are no text, once all lines
-- are used up.
inductive Continues (l : Limits) (t : Transcript) : Transcript → Prop where
  | refl : Continues l t t
  | text {t' : Transcript} (prior : Continues l t t') (s : String) : Continues l t (t'.print l s)
  | bytes {t' : Transcript} (prior : Continues l t t') (full : t'.isFull l) :
      Continues l t { t' with truncated := true, idle := true }

theorem Continues.trans {t' t'' : Transcript} (one : Continues l t t') (two : Continues l t' t'') :
    Continues l t t'' := by
  induction two with
  | refl => exact one
  | text _ s ih => exact ih.text s
  | bytes _ full ih => exact ih.bytes full

-- What holds of a text that was printed and of the transcript, however more is printed.
structure Kept (l : Limits) (Q : String → Transcript → Prop) : Prop where
  initial : Q "" {}
  text {T : String} {t : Transcript} (s : String) (holds : Q T t) : Q (T ++ s) (t.print l s)
  bytes {T : String} {t : Transcript} (full : t.isFull l) (holds : Q T t) :
    Q T { t with truncated := true, idle := true }
  flush {T : String} {t : Transcript} (holds : Q T t) : Q (ended T) (t.flush l)

theorem kept_any (l : Limits) : Kept l fun _ _ => True where
  initial := trivial
  text _ _ := trivial
  bytes _ _ := trivial
  flush _ := trivial

-- From one transcript to the other some text was printed.
theorem Continues.keeps {Q : String → Transcript → Prop} (kept : Kept l Q) {t' : Transcript}
    (continues : Continues l t t') :
    ∃ text, (∀ P, t.printed.Is P → t'.printed.Is (P ++ text)) ∧ ∀ T, Q T t → Q (T ++ text) t' := by
  induction continues with
  | refl => exact ⟨"", fun _ is => String.append_empty.symm ▸ is,
      fun _ holds => String.append_empty.symm ▸ holds⟩
  | text _ s ih =>
    obtain ⟨text, prints, keeps⟩ := ih
    refine ⟨text ++ s, fun P is => ?_, fun T holds => ?_⟩
    · rw [← String.append_assoc]
      exact printed_print (prints P is) s
    · rw [← String.append_assoc]
      exact kept.text s (keeps T holds)
  | bytes _ full ih =>
    obtain ⟨text, prints, keeps⟩ := ih
    exact ⟨text, prints, fun T holds => kept.bytes full (keeps T holds)⟩

-- Nothing is printed before a session starts.
theorem shows_initial : Shows l "" {} where
  lines := by
    change [] = (List.take l.maxOutputLines.toNat []).map (cut l)
    rw [List.take_nil]
    rfl
  pending _ := by
    change "" = String.ofList (List.take l.maxLineLength.toNat [])
    rw [List.take_nil]

theorem kept_shows (positive : 0 < l.maxLineLength) (room : 0 ≤ l.maxOutputLines) :
    Kept l (Shows l) where
  initial := shows_initial
  text s shows := shows_print (Int.le_of_lt positive) room shows s
  bytes {T t} full shows := by
    have beyond : Shows l (T ++ "") { t with truncated := true, idle := true } :=
      shows_over room shows full (by rfl) ""
    rwa [String.append_empty] at beyond
  flush := shows_flush positive room

end Transcript
end ScriptArena
