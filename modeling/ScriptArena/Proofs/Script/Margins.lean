import ScriptArena.Script.Program
import ScriptArena.Text.Blank

namespace ScriptArena.Script

variable {w line cs ds : List Char} {lines : List (List Char)}

-- A line with a margin, unless it is blank.
def indentLine (w line : List Char) : List Char := if isBlankLine line then line else w ++ line

-- A text whose lines all have been given a margin, and one whose first line has not.
def indented (w : List Char) (text : String) : String :=
  String.ofList (joinLines ((splitLines text.toList).map (indentLine w)))

def hanging (w : List Char) (text : String) : String :=
  match splitLines text.toList with
  | [] => ""
  | first :: rest => String.ofList (joinLines (first :: rest.map (indentLine w)))

theorem splitLines_some (cs : List Char) : ∃ line rest, splitLines cs = line :: rest := by
  cases cs with
  | nil => exact ⟨[], [], rfl⟩
  | cons c cs =>
    unfold splitLines
    rw [List.foldr_cons]
    split
    · split
      · exact ⟨_, _, rfl⟩
      · exact ⟨_, _, rfl⟩
    · exact ⟨_, _, rfl⟩

theorem splitLines_cons (c : Char) (cs : List Char) : ∃ line rest, splitLines cs = line :: rest ∧
    splitLines (c :: cs) = if c = '\n' then [] :: line :: rest else (c :: line) :: rest := by
  obtain ⟨line, rest, split⟩ := splitLines_some cs
  refine ⟨line, rest, split, ?_⟩
  unfold splitLines at split ⊢
  rw [List.foldr_cons, split]

theorem splitLines_line (free : '\n' ∉ line) : splitLines line = [line] := by
  induction line with
  | nil => rfl
  | cons c line ih =>
    obtain ⟨first, rest, split, joined⟩ := splitLines_cons c line
    have other : c ≠ '\n' := fun same => free (same ▸ List.mem_cons_self)
    rw [ih fun inside => free (List.mem_cons_of_mem _ inside)] at split
    cases split
    rw [joined, if_neg other]

theorem splitLines_append (free : '\n' ∉ line) (cs : List Char) :
    splitLines (line ++ '\n' :: cs) = line :: splitLines cs := by
  induction line with
  | nil =>
    obtain ⟨first, rest, split, joined⟩ := splitLines_cons '\n' cs
    rw [List.nil_append, joined, split, if_pos rfl]
  | cons c line ih =>
    obtain ⟨first, rest, split, joined⟩ := splitLines_cons c (line ++ '\n' :: cs)
    have other : c ≠ '\n' := fun same => free (same ▸ List.mem_cons_self)
    rw [ih fun inside => free (List.mem_cons_of_mem _ inside)] at split
    cases split
    rw [List.cons_append, joined, if_neg other]

theorem splitLines_joinLines (some : lines ≠ []) (free : ∀ line ∈ lines, '\n' ∉ line) :
    splitLines (joinLines lines) = lines := by
  induction lines with
  | nil => exact absurd rfl some
  | cons line rest ih =>
    obtain ⟨here, others⟩ := List.forall_mem_cons.mp free
    cases rest with
    | nil => exact splitLines_line here
    | cons next rest => rw [joinLines, splitLines_append here, ih nofun others]; simp

theorem newline_free (cs : List Char) : ∀ line ∈ splitLines cs, '\n' ∉ line := by
  induction cs with
  | nil => simp [splitLines]
  | cons c cs ih =>
    obtain ⟨line, rest, split, joined⟩ := splitLines_cons c cs
    rw [split] at ih
    obtain ⟨here, others⟩ := List.forall_mem_cons.mp ih
    rw [joined]
    split
    · exact List.forall_mem_cons.mpr ⟨List.not_mem_nil, ih⟩
    · rename_i other
      refine List.forall_mem_cons.mpr ⟨fun inside => ?_, others⟩
      rcases List.mem_cons.mp inside with same | inside
      · exact other same.symm
      · exact here inside

variable (margin : w.all isIndent)
include margin

theorem indentLine_blank (line : List Char) : isBlankLine (indentLine w line) = isBlankLine line := by
  unfold indentLine
  split
  · rfl
  · simp [isBlankLine, margin]

theorem indentLine_free (free : '\n' ∉ line) : '\n' ∉ indentLine w line := by
  unfold indentLine
  split
  · exact free
  · intro inside
    rcases List.mem_append.mp inside with blank | visible
    · have indent := List.all_eq_true.mp margin _ blank
      cases indent
    · exact free visible

theorem indentOf_append (line : List Char) : indentOf (w ++ line) = w ++ indentOf line := by
  unfold indentOf
  exact List.takeWhile_append_of_pos (List.all_eq_true.mp margin)

omit margin in
theorem commonStart_append (w cs ds : List Char) :
    commonStart (w ++ cs) (w ++ ds) = w ++ commonStart cs ds := by
  induction w with
  | nil => rfl
  | cons c w ih => simp [commonStart, ih]

omit margin in
theorem foldl_commonStart (w first : List Char) (rest : List (List Char)) :
    (rest.map (w ++ ·)).foldl commonStart (w ++ first) = w ++ rest.foldl commonStart first := by
  induction rest generalizing first with
  | nil => rfl
  | cons next rest ih =>
    rw [List.map_cons, List.foldl_cons, commonStart_append, ih, List.foldl_cons]

theorem visible_indents (lines : List (List Char)) :
    ((lines.map (indentLine w)).filter (!isBlankLine ·)).map indentOf =
      ((lines.filter (!isBlankLine ·)).map indentOf).map (w ++ ·) := by
  induction lines with
  | nil => rfl
  | cons line rest ih =>
    rw [List.map_cons, List.filter_cons, indentLine_blank margin, List.filter_cons]
    split
    · rename_i visible
      have put : indentLine w line = w ++ line := by
        unfold indentLine
        rw [if_neg (by simpa using visible)]
      rw [List.map_cons, ih, put, indentOf_append margin, List.map_cons, List.map_cons]
    · exact ih

theorem dedentLines_indented (lines : List (List Char)) :
    dedentLines (lines.map (indentLine w)) = dedentLines lines := by
  have margins := visible_indents margin lines
  unfold dedentLines marginOf
  dsimp only
  rw [margins, List.map_map]
  refine List.map_congr_left fun line inside => ?_
  rw [Function.comp, indentLine_blank margin]
  split
  · rfl
  · rename_i visible
    have some : (lines.filter (!isBlankLine ·)).map indentOf ≠ [] := by
      refine fun none => List.not_mem_nil (List.map_eq_nil_iff.mp none ▸ List.mem_filter.mpr ⟨inside, ?_⟩)
      simpa using visible
    cases indents : (lines.filter (!isBlankLine ·)).map indentOf with
    | nil => exact absurd indents some
    | cons first rest =>
      rw [List.map_cons]
      dsimp only
      rw [foldl_commonStart, indentLine, if_neg visible, List.length_append,
        List.drop_append, List.drop_of_length_le (Nat.le_add_right _ _)]
      simp

theorem dedent_indented (text : String) : dedent (indented w text) = dedent text := by
  have lines := newline_free text.toList
  have some : splitLines text.toList ≠ [] := by
    obtain ⟨line, rest, split⟩ := splitLines_some text.toList
    rw [split]
    nofun
  unfold dedent indented
  rw [String.toList_ofList, splitLines_joinLines (by simpa using some) ?_, dedentLines_indented margin]
  intro line inside
  obtain ⟨line, member, rfl⟩ := List.mem_map.mp inside
  exact indentLine_free margin (lines line member)

-- A margin in front of every line is not noticed.
theorem compile_indented (names : CharNames) (text : String) :
    Program.compile (indented w text) names = Program.compile text names := by
  unfold Program.compile
  rw [dedent_indented margin]

omit margin

-- The margin of a line that begins here.
def leading (w cs : List Char) : List Char := if isBlankLine ((splitLines cs).headD []) then [] else w

-- A margin behind every line end that a line follows that is not blank.
def spread (w : List Char) : List Char → List Char
  | [] => []
  | c :: cs => if c = '\n' then '\n' :: (leading w cs ++ spread w cs) else c :: spread w cs

theorem spread_cons (w : List Char) (c : Char) (cs : List Char) :
    spread w (c :: cs) =
      if c = '\n' then '\n' :: (leading w cs ++ spread w cs) else c :: spread w cs := rfl

theorem joinLines_cons (c : Char) (line : List Char) (rest : List (List Char)) :
    joinLines ((c :: line) :: rest) = c :: joinLines (line :: rest) := by
  cases rest with
  | nil => rfl
  | cons next rest => rfl

theorem joinLines_append (w line : List Char) (rest : List (List Char)) :
    joinLines ((w ++ line) :: rest) = w ++ joinLines (line :: rest) := by
  induction w with
  | nil => rfl
  | cons c w ih => rw [List.cons_append, joinLines_cons, ih, List.cons_append]

theorem joinLines_indentLine (split : splitLines cs = line :: lines) (rest : List (List Char)) :
    joinLines (indentLine w line :: rest) = leading w cs ++ joinLines (line :: rest) := by
  unfold indentLine leading
  rw [split, List.headD_cons]
  split
  · rfl
  · exact joinLines_append w line rest

theorem joinLines_spread (split : splitLines cs = line :: lines) :
    joinLines (line :: lines.map (indentLine w)) = spread w cs := by
  induction cs generalizing line lines with
  | nil =>
    cases split
    rfl
  | cons c cs ih =>
    obtain ⟨first, rest, later, joined⟩ := splitLines_cons c cs
    rw [joined] at split
    rw [spread_cons]
    split at split
    · rename_i ends
      cases split
      rw [if_pos ends, List.map_cons, joinLines, List.nil_append, joinLines_indentLine later, ih later]
      nofun
    · rename_i other
      cases split
      rw [if_neg other, joinLines_cons, ih later]

theorem hanging_spread (w : List Char) (text : String) :
    hanging w text = String.ofList (spread w text.toList) := by
  obtain ⟨line, rest, split⟩ := splitLines_some text.toList
  unfold hanging
  rw [split]
  exact congrArg String.ofList (joinLines_spread split)

theorem indented_spread (w : List Char) (text : String) :
    indented w text = String.ofList (leading w text.toList ++ spread w text.toList) := by
  obtain ⟨line, rest, split⟩ := splitLines_some text.toList
  unfold indented
  rw [split, List.map_cons, joinLines_indentLine split, joinLines_spread split]

def Blanks (cs : List Char) : Prop := ∀ c ∈ cs, Text.isBlank c = true

variable (blank : Blanks w)
include blank

theorem blanks_leading (cs : List Char) : Blanks (leading w cs) := by
  unfold leading
  split
  · nofun
  · exact blank

-- Blanks stay blanks, and what follows them stays behind them.
theorem spread_blanks (before : Blanks cs) (ds : List Char) :
    ∃ more, Blanks more ∧ spread w (cs ++ ds) = more ++ spread w ds := by
  induction cs with
  | nil => exact ⟨[], nofun, rfl⟩
  | cons c cs ih =>
    obtain ⟨here, others⟩ := List.forall_mem_cons.mp before
    obtain ⟨more, blanks, same⟩ := ih others
    rw [List.cons_append, spread_cons, same]
    split
    · rename_i ends
      refine ⟨'\n' :: (leading w (cs ++ ds) ++ more), ?_, by simp⟩
      refine List.forall_mem_cons.mpr ⟨ends ▸ here, ?_⟩
      exact List.forall_mem_append.mpr ⟨blanks_leading blank _, blanks⟩
    · exact ⟨c :: more, List.forall_mem_cons.mpr ⟨here, blanks⟩, rfl⟩

omit blank

theorem firstLine (cs : List Char) : (splitLines cs).headD [] = cs.takeWhile (· ≠ '\n') := by
  induction cs with
  | nil => rfl
  | cons c cs ih =>
    obtain ⟨line, rest, split, joined⟩ := splitLines_cons c cs
    rw [split, List.headD_cons] at ih
    rw [joined, List.takeWhile_cons]
    split
    · rename_i ends
      simp [ends]
    · rename_i other
      simp [other, ih]

-- A line that has shown something by now is not blank, however it goes on.
theorem leading_append {d : Char} (visible : isIndent d = false) (other : d ≠ '\n')
    (cs ds : List Char) : leading w (cs ++ d :: ds) = leading w (cs ++ [d]) := by
  have shown (ds : List Char) : isBlankLine (cs ++ (d :: ds).takeWhile (· ≠ '\n')) = false := by
    simp [isBlankLine, other, visible]
  unfold leading
  rw [firstLine, firstLine, List.takeWhile_append, List.takeWhile_append]
  split
  · rw [shown, shown]
  · rfl

-- Behind the last character that is not blank everything is as if nothing were before it.
theorem spread_visible {d : Char} (visible : isIndent d = false) (other : d ≠ '\n') (cs ds : List Char) :
    spread w (cs ++ d :: ds) = spread w (cs ++ [d]) ++ spread w ds := by
  induction cs with
  | nil =>
    rw [List.nil_append, List.nil_append, spread_cons, spread_cons, if_neg other, if_neg other]
    rfl
  | cons c cs ih =>
    rw [List.cons_append, List.cons_append, spread_cons, spread_cons, ih, leading_append visible other]
    split
    · simp
    · simp

-- A text with something to be seen at both ends.
structure Visible (code : List Char) : Prop where
  first : ∃ c rest, code = c :: rest ∧ Text.isBlank c = false
  last : ∃ front d, code = front ++ [d] ∧ Text.isBlank d = false

theorem blanks_or_first (cs : List Char) : Blanks cs ∨
    ∃ before c rest, Blanks before ∧ Text.isBlank c = false ∧ cs = before ++ c :: rest := by
  induction cs with
  | nil => exact .inl nofun
  | cons c cs ih =>
    cases seen : Text.isBlank c with
    | false => exact .inr ⟨[], c, cs, nofun, seen, rfl⟩
    | true =>
      rcases ih with blanks | ⟨before, d, rest, blanks, visible, rfl⟩
      · exact .inl (List.forall_mem_cons.mpr ⟨seen, blanks⟩)
      · exact .inr ⟨c :: before, d, rest, List.forall_mem_cons.mpr ⟨seen, blanks⟩, visible, rfl⟩

theorem blanks_or_last (cs : List Char) : Blanks cs ∨
    ∃ front d after, Blanks after ∧ Text.isBlank d = false ∧ cs = front ++ d :: after := by
  rcases blanks_or_first cs.reverse with blanks | ⟨before, d, rest, blanks, visible, same⟩
  · exact .inl fun c inside => blanks c (List.mem_reverse.mpr inside)
  · refine .inr ⟨rest.reverse, d, before.reverse, ?_, visible, ?_⟩
    · exact fun c inside => blanks c (List.mem_reverse.mp inside)
    · rw [← List.reverse_reverse cs, same]
      simp

theorem blanks_or_visible (cs : List Char) : Blanks cs ∨
    ∃ before code after, Blanks before ∧ Blanks after ∧ Visible code ∧ cs = before ++ (code ++ after) := by
  rcases blanks_or_first cs with blanks | ⟨before, c, rest, blanks, first, rfl⟩
  · exact .inl blanks
  · rcases blanks_or_last (c :: rest) with none | ⟨front, d, after, blanks', last, same⟩
    · exact absurd (none c List.mem_cons_self) (by simp [first])
    · refine .inr ⟨before, front ++ [d], after, blanks, blanks', ⟨?_, front, d, rfl, last⟩, by simp [same]⟩
      cases front with
      | nil => exact ⟨d, [], rfl, last⟩
      | cons e front =>
        cases same
        exact ⟨c, front ++ [d], rfl, first⟩

theorem trimLeft_blanks {before : List Char} (blanks : Blanks before) (cs : List Char) :
    Text.trimLeft (before ++ cs) = Text.trimLeft cs :=
  List.dropWhile_append_of_pos blanks

theorem trimRight_blanks {after : List Char} (blanks : Blanks after) (cs : List Char) :
    Text.trimRight (cs ++ after) = Text.trimRight cs := by
  unfold Text.trimRight
  rw [List.reverse_append, List.dropWhile_append_of_pos]
  exact fun c inside => blanks c (List.mem_reverse.mp inside)

theorem trim_visible {before code after : List Char} (visible : Visible code) (first : Blanks before)
    (last : Blanks after) : Text.trimRight (Text.trimLeft (before ++ (code ++ after))) = code := by
  obtain ⟨⟨c, rest, starts, shown⟩, ⟨front, d, ends, shown'⟩⟩ := visible
  have left : Text.trimLeft (code ++ after) = code ++ after := by
    rw [starts, List.cons_append, Text.trimLeft, List.dropWhile_cons_of_neg (by simp [shown])]
  have right : Text.trimRight code = code := by
    rw [ends, Text.trimRight, List.reverse_append, List.reverse_singleton, List.singleton_append,
      List.dropWhile_cons_of_neg (by simp [shown'])]
    simp
  rw [trimLeft_blanks first, left, trimRight_blanks last, right]

theorem trim_blanks (blanks : Blanks cs) : Text.trimRight (Text.trimLeft cs) = [] := by
  rw [← List.append_nil cs, trimLeft_blanks blanks]
  rfl

theorem isIndent_iff {c : Char} : isIndent c = true ↔ c = ' ' ∨ c = '\t' := by simp [isIndent]

theorem isBlank_indent {c : Char} (indent : isIndent c = true) : Text.isBlank c = true := by
  rcases isIndent_iff.mp indent with rfl | rfl
  · rfl
  · rfl

theorem isIndent_visible {c : Char} (visible : Text.isBlank c = false) :
    isIndent c = false ∧ c ≠ '\n' := by
  refine ⟨Bool.eq_false_iff.mpr fun indent => ?_, ?_⟩
  · rw [isBlank_indent indent] at visible
    cases visible
  · rintro rfl
    cases visible

theorem spread_ends (w cs : List Char) {d : Char} (other : d ≠ '\n') :
    ∃ more, spread w (cs ++ [d]) = more ++ [d] := by
  induction cs with
  | nil => exact ⟨[], by rw [List.nil_append, spread_cons, if_neg other]; rfl⟩
  | cons c cs ih =>
    obtain ⟨more, same⟩ := ih
    rw [List.cons_append, spread_cons, same]
    split
    · exact ⟨'\n' :: (leading w (cs ++ [d]) ++ more), by simp⟩
    · exact ⟨c :: more, rfl⟩

theorem visible_spread {code : List Char} (w : List Char) (visible : Visible code) :
    Visible (spread w code) := by
  obtain ⟨⟨c, rest, starts, shown⟩, ⟨front, d, ends, shown'⟩⟩ := visible
  constructor
  · exact ⟨c, spread w rest, by rw [starts, spread_cons, if_neg (isIndent_visible shown).2], shown⟩
  · obtain ⟨more, same⟩ := spread_ends w front (isIndent_visible shown').2
    exact ⟨more, d, by rw [ends, same], shown'⟩

-- The first line of a text with a margin has lost it when the blanks have been removed.
theorem trim_indented (blank : Blanks w) (text : String) :
    Text.trim (indented w text) = hanging w (Text.trim text) := by
  rw [hanging_spread, indented_spread]
  unfold Text.trim
  rw [String.toList_ofList, String.toList_ofList]
  congr 1
  rcases blanks_or_visible text.toList with blanks | ⟨before, code, after, first, last, visible, split⟩
  · obtain ⟨more, blanks', same⟩ := spread_blanks blank blanks []
    rw [List.append_nil] at same
    rw [trim_blanks blanks, same]
    refine trim_blanks (List.forall_mem_append.mpr ⟨blanks_leading blank _, ?_⟩)
    exact List.forall_mem_append.mpr ⟨blanks', nofun⟩
  · obtain ⟨front, d, ends, shown⟩ := visible.last
    obtain ⟨indent, other⟩ := isIndent_visible shown
    obtain ⟨before', first', same⟩ := spread_blanks blank first (code ++ after)
    obtain ⟨after', last', same'⟩ := spread_blanks blank last []
    have body : spread w (code ++ after) = spread w code ++ after' := by
      rw [List.append_nil] at same'
      rw [ends, List.append_assoc, List.singleton_append, spread_visible indent other, same']
      simp [spread]
    rw [split, trim_visible visible first last, same, body, ← List.append_assoc]
    exact trim_visible (visible_spread w visible)
      (List.forall_mem_append.mpr ⟨blanks_leading blank _, first'⟩) last'

end ScriptArena.Script
