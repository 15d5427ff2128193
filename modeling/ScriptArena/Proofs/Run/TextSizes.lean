import Mathlib.Data.List.Perm.Subperm
import ScriptArena.Proofs.Value.Lengths
import ScriptArena.Run.Guard

namespace ScriptArena
namespace Guard

variable {h : Heap}

-- What values weigh together with everything that is shown inside them.
inductive Weighs (h : Heap) : List Value → Nat → Prop where
  | nil : Weighs h [] 0
  | cons {v : Value} {rest : List Value} {inner outer : Nat} (inside : Weighs h (parts h v) inner)
      (others : Weighs h rest outer) : Weighs h (v :: rest) (ownSize h v + inner + outer)

theorem weighs_append {vs ws : List Value} {n : Nat} (weighs : Weighs h (vs ++ ws) n) :
    ∃ a b, Weighs h vs a ∧ Weighs h ws b ∧ n = a + b := by
  induction vs generalizing n with
  | nil => exact ⟨0, n, .nil, weighs, (Nat.zero_add n).symm⟩
  | cons v rest ih =>
    cases weighs with
    | cons inside others =>
      obtain ⟨a, b, first, last, same⟩ := ih others
      exact ⟨_, b, .cons inside first, last, by omega⟩

theorem weighs_perm {vs ws : List Value} {n : Nat} (same : vs.Perm ws)
    (weighs : Weighs h vs n) : Weighs h ws n := by
  induction same generalizing n with
  | nil => exact weighs
  | cons v same ih =>
    cases weighs with
    | cons inside others => exact .cons inside (ih others)
  | swap v w rest =>
    cases weighs with
    | cons first others =>
      cases others with
      | cons second others =>
        have swapped := Weighs.cons second (.cons first others)
        rwa [Nat.add_left_comm] at swapped
  | trans _ _ ih₁ ih₂ => exact ih₂ (ih₁ weighs)

theorem sizeFrom_weighs {limit : Int} {fuel : Nat} {pending : List Value} {size n : Nat}
    (sized : sizeFrom h limit fuel pending size = .ok n) :
    ∃ m, Weighs h pending m ∧ n = size + m := by
  induction fuel generalizing pending size with
  | zero => cases sized
  | succ fuel ih =>
    cases pending with
    | nil =>
      cases sized
      exact ⟨0, .nil, rfl⟩
    | cons v pending =>
      simp only [sizeFrom] at sized
      split at sized
      · cases sized
      · obtain ⟨m, weighs, same⟩ := ih sized
        obtain ⟨a, b, inside, others, rfl⟩ := weighs_append weighs
        exact ⟨_, .cons (weighs_perm (List.reverse_perm _) inside) others, by omega⟩

theorem textSize_weighs {l : Limits} {v : Value} {n : Nat} (sized : textSize h l v = .ok n) :
    Weighs h [v] n := by
  obtain ⟨m, weighs, same⟩ := sizeFrom_weighs sized
  rw [Nat.zero_add] at same
  exact same ▸ weighs

theorem weighs_one {v : Value} {n : Nat} (weighs : Weighs h [v] n) :
    ∃ inner, Weighs h (parts h v) inner ∧ n = ownSize h v + inner := by
  cases weighs with
  | cons inside others =>
    cases others
    exact ⟨_, inside, rfl⟩

theorem two_le_ownSize (h : Heap) (v : Value) : 2 ≤ ownSize h v := by
  cases v <;> simp only [ownSize, numberSize] <;> omega

theorem two_le_weight {vs : List Value} {n : Nat} (weighs : Weighs h vs n) (some : vs ≠ []) : 2 ≤ n := by
  cases weighs with
  | nil => exact absurd rfl some
  | @cons v =>
    have own := two_le_ownSize h v
    omega

theorem append_weighs {vs ws : List Value} {a b : Nat} (first : Weighs h vs a) (last : Weighs h ws b) :
    Weighs h (vs ++ ws) (a + b) := by
  induction first with
  | nil => rwa [Nat.zero_add]
  | cons inside others ih₁ ih₂ =>
    rw [Nat.add_assoc]
    exact .cons inside ih₂

theorem weighs_sizeFrom {limit : Int} {fuel : Nat} {pending : List Value} {size n : Nat}
    (weighs : Weighs h pending n) (enough : n < 2 * fuel) (within : (size + n : Nat) ≤ limit) :
    sizeFrom h limit fuel pending size = .ok (size + n) := by
  induction fuel generalizing pending size n with
  | zero => omega
  | succ fuel ih =>
    cases weighs with
    | nil => rfl
    | @cons v rest inner outer inside others =>
      have own := two_le_ownSize h v
      have room : ¬ limit < (size + ownSize h v : Nat) := by omega
      simp only [sizeFrom, if_neg room]
      have listed := weighs_perm (List.reverse_perm _).symm inside
      rw [ih (append_weighs listed others) (by omega) (by omega)]
      congr 1
      omega

theorem weighs_textSize {l : Limits} {v : Value} {n : Nat} (weighs : Weighs h [v] n)
    (within : (n : Int) ≤ l.maxSequenceLength) : textSize h l v = .ok n := by
  have sized := @weighs_sizeFrom h l.maxSequenceLength (l.maxSequenceLength.toNat / 2 + 2) [v] 0 n
    weighs (by omega) (by omega)
  rwa [Nat.zero_add] at sized

theorem weighs_sublist {vs ws : List Value} {n : Nat} (part : vs.Sublist ws)
    (weighs : Weighs h ws n) : ∃ m ≤ n, Weighs h vs m := by
  induction part generalizing n with
  | slnil => exact ⟨n, Nat.le_refl n, weighs⟩
  | cons w part ih =>
    cases weighs with
    | cons inside others =>
      obtain ⟨m, less, weighs⟩ := ih others
      exact ⟨m, by omega, weighs⟩
  | cons_cons w part ih =>
    cases weighs with
    | cons inside others =>
      obtain ⟨m, less, weighs⟩ := ih others
      exact ⟨_, by omega, .cons inside weighs⟩

theorem weighs_subperm {vs ws : List Value} {n : Nat} (part : vs.Subperm ws)
    (weighs : Weighs h ws n) : ∃ m ≤ n, Weighs h vs m := by
  obtain ⟨us, same, inside⟩ := part
  obtain ⟨m, less, weighs⟩ := weighs_sublist inside weighs
  exact ⟨m, less, weighs_perm same weighs⟩

-- What is shown when a value is turned into a text: the value, and everything inside it that the
-- size looks at.
inductive Shown (h : Heap) : Value → Value → Prop where
  | itself (v : Value) : Shown h v v
  | inside {v w u : Value} (part : w ∈ parts h v) (shown : Shown h w u) : Shown h v u

theorem shown_itself {v u : Value} (bare : parts h v = []) (shown : Shown h v u) : u = v := by
  cases shown with
  | itself => rfl
  | inside part =>
    rw [bare] at part
    cases part

-- The share of a value is enough for what it adds to the text. All that matters are texts with
-- escapes, and values with a share of thirty-two.
def Fits (h : Heap) : Value → Prop
  | .str s => Text.isPlain s
  | .complex re im => (complexText re im).length ≤ 32
  | .bytes b => (Text.quoteBytes b).length ≤ 32
  | .function i => (h.closureAt i).name.length ≤ 21
  | .set mark items =>
    ∀ room opened s, (Value.set mark items).quotedIn h room opened = .ok s → s.length ≤ 32
  | .view mark kind i =>
    ∀ room opened s, (Value.view mark kind i).quotedIn h room opened = .ok s → s.length ≤ 32
  | .none | .bool _ | .int _ | .float _ | .ellipsis | .range .. | .tuple .. | .list _ | .dict _
  | .builtin _ => True

theorem intercalate_length (mark : String) (ss : List String) :
    (mark.intercalate ss).length = (ss.map String.length).sum + mark.length * (ss.length - 1) := by
  induction ss with
  | nil => simp [String.intercalate_nil]
  | cons s rest ih =>
    cases rest with
    | nil => simp [String.intercalate_singleton]
    | cons t more =>
      rw [String.intercalate_cons_cons]
      simp only [String.length_append, ih, List.map_cons, List.sum_cons, List.length_cons,
        Nat.add_sub_cancel, Nat.mul_succ]
      omega

-- The texts of some values are together no longer than their weight, if each of them is not.
theorem mapM_lengths {f : Value → Except Trouble String} {vs : List Value} {ss : List String} {n : Nat}
    (weighs : Weighs h vs n) (ran : vs.mapM f = .ok ss)
    (each : ∀ v ∈ vs, ∀ m s, Weighs h [v] m → f v = .ok s → s.length ≤ m) :
    (ss.map String.length).sum ≤ n ∧ ss.length = vs.length := by
  induction vs generalizing ss n with
  | nil =>
    cases ran
    exact ⟨Nat.zero_le n, rfl⟩
  | cons v rest ih =>
    have ⟨first, others⟩ := List.forall_mem_cons.mp each
    cases weighs with
    | cons inside later =>
      rw [List.mapM_cons] at ran
      obtain ⟨s, here, ran⟩ := bind_eq_ok.mp ran
      obtain ⟨more, there, ran⟩ := bind_eq_ok.mp ran
      cases ran
      obtain ⟨sum, count⟩ := ih later there others
      have own := first _ s (.cons inside .nil) here
      simp only [List.map_cons, List.sum_cons, List.length_cons]
      omega

theorem mapM_pairs {f : Value → Except Trouble String} {entries : List (Value × Value)}
    {texts : List (String × String)}
    (ran : entries.mapM (fun (k, w) => do return (← f k, ← f w)) = .ok texts) :
    (entries.map Prod.fst).mapM f = .ok (texts.map Prod.fst) ∧
      (entries.map Prod.snd).mapM f = .ok (texts.map Prod.snd) := by
  induction entries generalizing texts with
  | nil =>
    cases ran
    exact ⟨rfl, rfl⟩
  | cons entry rest ih =>
    obtain ⟨k, w⟩ := entry
    rw [List.mapM_cons] at ran
    obtain ⟨pair, here, ran⟩ := bind_eq_ok.mp ran
    obtain ⟨s, key, here⟩ := bind_eq_ok.mp here
    obtain ⟨t, value, here⟩ := bind_eq_ok.mp here
    obtain ⟨more, there, ran⟩ := bind_eq_ok.mp ran
    cases here
    cases ran
    obtain ⟨keys, values⟩ := ih there
    simp only [List.map_cons, List.mapM_cons, key, value, keys, values]
    exact ⟨rfl, rfl⟩

theorem quotedTuple_length (ss : List String) :
    (Value.quotedTuple ss).length ≤ (ss.map String.length).sum + 2 * ss.length + 2 := by
  unfold Value.quotedTuple
  split
  · rename_i s
    have ends : "(".length = 1 ∧ ",)".length = 2 := ⟨rfl, rfl⟩
    simp only [String.length_append, List.map_cons, List.map_nil, List.sum_cons, List.sum_nil,
      List.length_cons, List.length_nil, ends.1, ends.2]
    omega
  · have ends : "(".length = 1 ∧ ")".length = 1 ∧ ", ".length = 2 := ⟨rfl, rfl, rfl⟩
    simp only [String.length_append, intercalate_length, ends.1, ends.2.1, ends.2.2]
    omega

theorem entries_length (entries : List (String × String)) :
    ((entries.map fun (k, v) => k ++ ": " ++ v).map String.length).sum =
      ((entries.map Prod.fst).map String.length).sum +
        ((entries.map Prod.snd).map String.length).sum + 2 * entries.length := by
  have mark : ": ".length = 2 := rfl
  induction entries with
  | nil => rfl
  | cons entry rest ih =>
    simp only [List.map_cons, List.sum_cons, List.length_cons, String.length_append, mark] at ih ⊢
    omega

theorem quotedDict_length (entries : List (String × String)) :
    (Value.quotedDict entries).length ≤ ((entries.map Prod.fst).map String.length).sum +
      ((entries.map Prod.snd).map String.length).sum + 4 * entries.length + 2 := by
  have marks : "\x7b".length = 1 ∧ "\x7d".length = 1 ∧ ", ".length = 2 := ⟨rfl, rfl, rfl⟩
  simp only [Value.quotedDict, String.length_append, intercalate_length, entries_length,
    List.length_map, marks.1, marks.2.1, marks.2.2]
  omega

-- Values that the size does not look into.
def IsLeaf : Value → Prop
  | .list _ | .tuple .. | .dict _ => False
  | _ => True

-- Something stands in it, if it is a container that the size looks into.
def Full (h : Heap) (v : Value) : Prop :=
  match v with
  | .list _ | .tuple .. | .dict _ => parts h v ≠ []
  | _ => True

theorem full_of_part {v w : Value} (part : w ∈ parts h v) : Full h v := by
  have some : parts h v ≠ [] := List.ne_nil_of_mem part
  cases v with
  | list | tuple | dict => exact some
  | _ => trivial

theorem sameList_length {vs ws : List Value} (same : sameList vs ws) : vs.length = ws.length := by
  induction vs generalizing ws with
  | nil =>
    cases ws with
    | nil => rfl
    | cons => simp [sameList] at same
  | cons v rest ih =>
    cases ws with
    | nil => simp [sameList] at same
    | cons w more =>
      simp only [sameList, Bool.and_eq_true] at same
      simp [ih same.2]

theorem full_same {u v : Value} (full : Full h u) (same : u.same v) : Full h v := by
  cases v with
  | list i =>
    cases u <;> simp only [Value.same, Bool.false_eq_true, beq_iff_eq] at same
    exact same ▸ full
  | dict i =>
    cases u <;> simp only [Value.same, Bool.false_eq_true, beq_iff_eq] at same
    exact same ▸ full
  | tuple mark items =>
    cases u <;> simp only [Value.same, Bool.false_eq_true, Bool.and_eq_true] at same
    have lengths := sameList_length same.1
    intro empty
    have none : items = [] := empty
    rw [none] at lengths
    exact full (List.length_eq_zero_iff.mp lengths)
  | _ => trivial

-- What stands around a value is not empty, so the mark for being inside itself is short enough.
theorem mark_length {v : Value} {opened : List Value} {mark : String} {n : Nat}
    (around : ∀ u ∈ opened, Full h u) (container : ¬ IsLeaf v)
    (marked : (if opened.any (·.same v) then v.ellipsisMark? else none) = some mark)
    (weighs : Weighs h [v] n) : mark.length ≤ n := by
  split at marked
  · rename_i again
    obtain ⟨u, inside, same⟩ := List.any_eq_true.mp again
    have full := full_same (around u inside) same
    obtain ⟨inner, below, rfl⟩ := weighs_one weighs
    cases v with
    | list i =>
      cases marked
      have below := two_le_weight below full
      have some : 0 < (h.listAt i).toList.length := List.length_pos_iff.mpr full
      have mark : "[...]".length = 5 := rfl
      simp only [ownSize, mark, Array.length_toList] at some ⊢
      omega
    | tuple mark items =>
      cases marked
      have below := two_le_weight below full
      have some : 0 < items.length := List.length_pos_iff.mpr full
      have mark : "(...)".length = 5 := rfl
      simp only [ownSize, mark]
      omega
    | dict i =>
      cases marked
      have some : 0 < (h.dictAt i).toList.length := by
        refine List.length_pos_iff.mpr fun empty => full ?_
        simp [parts, Dict.shown, empty]
      have mark : "\x7b...\x7d".length = 5 := rfl
      simp only [ownSize, mark]
      omega
    | _ => exact absurd trivial container
  · cases marked

theorem decimalText_length {n : Int} {s : String} (shown : decimalText n = .ok s) :
    s.length ≤ numberSize n := by
  unfold decimalText at shown
  split at shown
  · cases shown
    exact Number.intText_length n
  · cases shown

theorem range_length {a b c : Int} {s : String} {room : Nat} {opened : List Value}
    (shown : (Value.range a b c).quotedIn h (room + 1) opened = .ok s) :
    s.length ≤ ownSize h (.range a b c) := by
  have words : "range(".length = 6 ∧ ", ".length = 2 ∧ ")".length = 1 := ⟨rfl, rfl, rfl⟩
  unfold Value.quotedIn at shown
  simp only [Value.ellipsisMark?, ite_self] at shown
  obtain ⟨first, start, shown⟩ := bind_eq_ok.mp shown
  obtain ⟨second, stop, shown⟩ := bind_eq_ok.mp shown
  have one := decimalText_length start
  have two := decimalText_length stop
  split at shown
  · cases shown
    simp only [ownSize, String.length_append, words.1, words.2.1, words.2.2]
    omega
  · obtain ⟨third, step, shown⟩ := bind_eq_ok.mp shown
    have three := decimalText_length step
    cases shown
    simp only [ownSize, String.length_append, words.1, words.2.1, words.2.2]
    omega

theorem leaf_length {v : Value} {opened : List Value} {room : Nat} {s : String} (leaf : IsLeaf v)
    (fits : Fits h v) (shown : v.quotedIn h (room + 1) opened = .ok s) :
    s.length ≤ ownSize h v := by
  by_cases marked : v.ellipsisMark? ≠ none
  · cases v with
    | list | tuple | dict => cases leaf
    | view => exact fits _ _ _ shown
    | _ => exact absurd rfl marked
  have quoted := shown
  unfold Value.quotedIn at shown
  simp only [not_not.mp marked, ite_self] at shown
  cases v with
  | list | tuple | dict => cases leaf
  | set | view => exact fits _ _ _ quoted
  | range a b c => exact range_length quoted
  | int n => exact decimalText_length shown
  | none =>
    cases shown
    change "None".length ≤ 5
    decide
  | ellipsis =>
    cases shown
    change "Ellipsis".length ≤ 32
    decide
  | bool b =>
    cases shown
    change _ ≤ 5
    cases b with
    | false | true => decide
  | builtin b =>
    cases shown
    change _ ≤ 32
    cases b with
    | print | len | range | sum | min | max | abs | list | sorted | str | int => decide
  | float x =>
    cases shown
    exact Number.floatText_length x
  | complex re im =>
    cases shown
    exact fits
  | str s =>
    cases shown
    exact Nat.le_of_eq (Text.quote_plain fits)
  | bytes b =>
    cases shown
    exact fits
  | function i =>
    have words : "<function ".length = 10 ∧ ">".length = 1 := ⟨rfl, rfl⟩
    cases shown
    have name : (h.closureAt i).name.length ≤ 21 := fits
    simp only [String.length_append, words.1, words.2, ownSize]
    omega

theorem quotedIn_length {v : Value} {opened : List Value} {room n : Nat} {s : String}
    (around : ∀ u ∈ opened, Full h u) (weighs : Weighs h [v] n)
    (fits : ∀ u, Shown h v u → Fits h u) (shown : v.quotedIn h room opened = .ok s) :
    s.length ≤ n := by
  induction room generalizing v opened n s with
  | zero => cases shown
  | succ room ih =>
    have heavy := weighs
    obtain ⟨inner, below, rfl⟩ := weighs_one weighs
    by_cases leaf : IsLeaf v
    · exact Nat.le_add_right_of_le (leaf_length leaf (fits v (.itself v)) shown)
    -- One part after the other, inside one more container.
    have each : ∀ w ∈ parts h v, ∀ m t, Weighs h [w] m →
        w.quotedIn h room (v :: opened) = .ok t → t.length ≤ m := by
      intro w part m t lighter quoted
      refine ih ?_ lighter (fun u inside => fits u (.inside part inside)) quoted
      rintro u (_ | ⟨_, before⟩)
      · exact full_of_part part
      · exact around u before
    unfold Value.quotedIn at shown
    split at shown
    · rename_i mark again
      cases shown
      exact mark_length around leaf again heavy
    cases v with
    | list i =>
      obtain ⟨ss, ran, shown⟩ := bind_eq_ok.mp shown
      cases shown
      obtain ⟨sum, count⟩ := mapM_lengths below ran each
      have words : "[".length = 1 ∧ "]".length = 1 ∧ ", ".length = 2 := ⟨rfl, rfl, rfl⟩
      simp only [parts, Array.length_toList] at count
      simp only [String.length_append, intercalate_length, words.1, words.2.1, words.2.2, count,
        ownSize]
      omega
    | tuple mark items =>
      obtain ⟨ss, ran, shown⟩ := bind_eq_ok.mp shown
      cases shown
      obtain ⟨sum, count⟩ := mapM_lengths below ran each
      have text := quotedTuple_length ss
      simp only [parts] at count
      simp only [ownSize]
      omega
    | dict i =>
      obtain ⟨texts, ran, shown⟩ := bind_eq_ok.mp shown
      cases shown
      obtain ⟨keys, values⟩ := mapM_pairs ran
      obtain ⟨a, b, front, back, same⟩ := weighs_append below
      obtain ⟨first, count⟩ := mapM_lengths front keys
        fun w inside => each w (List.mem_append_left _ inside)
      obtain ⟨second, _⟩ := mapM_lengths back values
        fun w inside => each w (List.mem_append_right _ inside)
      have text := quotedDict_length texts
      simp only [Dict.shown, List.length_map] at count
      simp only [ownSize]
      omega
    | _ => exact absurd trivial leaf

theorem quoted_length {v : Value} {n : Nat} {s : String} (weighs : Weighs h [v] n)
    (shown : v.quoted h = .ok s) (fits : ∀ u, Shown h v u → Fits h u) : s.length ≤ n :=
  quotedIn_length (List.forall_mem_nil _) weighs fits shown

-- A text is shown as it is; everything else is quoted.
theorem text_length {v : Value} {n : Nat} {s : String} (weighs : Weighs h [v] n)
    (shown : v.text h = .ok s) (fits : (∃ t, v = .str t) ∨ ∀ u, Shown h v u → Fits h u) :
    s.length ≤ n := by
  cases v with
  | str t =>
    cases shown
    obtain ⟨inner, _, rfl⟩ := weighs_one weighs
    simp only [ownSize]
    omega
  | _ =>
    rcases fits with ⟨t, same⟩ | fits
    · cases same
    · exact quoted_length weighs shown fits

-- Values that get a share of thirty-two, whatever they hold.
def HasFlatShare : Value → Prop
  | .complex .. | .bytes _ | .set .. | .view .. | .function _ => True
  | _ => False

theorem flat_size {l : Limits} {v : Value} (flat : HasFlatShare v) (room : 32 ≤ l.maxSequenceLength) :
    textSize h l v = .ok 32 := by
  have within : ¬ l.maxSequenceLength < ((32 : Nat) : Int) := by omega
  cases v with
  | complex | bytes | set | view | function =>
    simp only [textSize, sizeFrom, ownSize, parts, List.reverse_nil, List.nil_append, Nat.zero_add,
      if_neg within]
  | _ => cases flat

theorem flat_overrun {l : Limits} {v : Value} {s : String} (flat : HasFlatShare v)
    (shown : v.quoted h = .ok s) (long : 32 < s.length) (room : 32 ≤ l.maxSequenceLength) :
    ∃ n, textSize h l v = .ok n ∧ v.text h = .ok s ∧ n < s.length := by
  refine ⟨32, flat_size flat room, ?_, long⟩
  cases v with
  | str => cases flat
  | _ => exact shown

def thrice (mark : Mark) (t : String) : Value := .tuple mark [.str t, .str t, .str t]

theorem thrice_size {l : Limits} {mark : Mark} {t : String}
    (room : ((3 * t.length + 14 : Nat) : Int) ≤ l.maxSequenceLength) :
    textSize h l (thrice mark t) = .ok (3 * t.length + 14) := by
  obtain ⟨fuel, enough⟩ : ∃ fuel, l.maxSequenceLength.toNat / 2 + 2 = fuel + 5 :=
    ⟨l.maxSequenceLength.toNat / 2 - 3, by omega⟩
  unfold textSize
  rw [enough]
  simp only [thrice, sizeFrom, ownSize, parts, List.reverse_cons, List.reverse_nil, List.cons_append,
    List.nil_append, List.length_cons, List.length_nil]
  rw [if_neg (by omega), if_neg (by omega), if_neg (by omega), if_neg (by omega)]
  congr 1
  omega

theorem thrice_text (h : Heap) (mark : Mark) (t : String) :
    (thrice mark t).text h = .ok (Value.quotedTuple [Text.quote t, Text.quote t, Text.quote t]) := by
  have quoted (opened : List Value) (room : Nat) :
      (Value.str t).quotedIn h (room + 1) opened = .ok (Text.quote t) := by
    unfold Value.quotedIn
    simp only [Value.ellipsisMark?, ite_self]
  obtain ⟨room, depth⟩ : ∃ room, maxValueDepth = room + 1 + 1 := ⟨898, rfl⟩
  unfold thrice Value.text Value.quoted
  rw [depth]
  unfold Value.quotedIn
  simp only [List.any_nil, Bool.false_eq_true, if_false, List.mapM_cons, List.mapM_nil, quoted]
  rfl

theorem thrice_overrun {l : Limits} {mark : Mark} {t : String} (escaped : Text.isPlain t = false)
    (room : ((3 * t.length + 14 : Nat) : Int) ≤ l.maxSequenceLength) :
    ∃ n s, textSize h l (thrice mark t) = .ok n ∧ (thrice mark t).text h = .ok s ∧ n < s.length := by
  refine ⟨_, _, thrice_size room, thrice_text h mark t, ?_⟩
  have longer := Text.quote_escaped escaped
  have marks : "(".length = 1 ∧ ")".length = 1 ∧ ", ".length = 2 := ⟨rfl, rfl, rfl⟩
  simp only [Value.quotedTuple, String.length_append, intercalate_length, List.map_cons, List.map_nil,
    List.sum_cons, List.sum_nil, List.length_cons, List.length_nil, marks.1, marks.2.1, marks.2.2]
  omega

-- The size bounds the text as long as everything that is shown fits. Nothing else may be left out:
-- what does not fit breaks the bound alone, or, if it is a text, three times in a tuple.
theorem text_size_bounds (h : Heap) (l : Limits) :
    (∀ v n s, textSize h l v = .ok n → v.text h = .ok s →
        ((∃ t, v = .str t) ∨ ∀ u, Shown h v u → Fits h u) → s.length ≤ n) ∧
      (∀ v s, HasFlatShare v → v.quoted h = .ok s → 32 < s.length → 32 ≤ l.maxSequenceLength →
        ∃ n, textSize h l v = .ok n ∧ v.text h = .ok s ∧ n < s.length) ∧
      ∀ mark t, Text.isPlain t = false → ((3 * t.length + 14 : Nat) : Int) ≤ l.maxSequenceLength →
        ∃ n s, textSize h l (thrice mark t) = .ok n ∧ (thrice mark t).text h = .ok s ∧ n < s.length :=
  ⟨fun _ _ _ sized shown fits => text_length (textSize_weighs sized) shown fits,
    fun _ _ flat shown long room => flat_overrun flat shown long room,
    fun _ _ escaped room => thrice_overrun escaped room⟩

def mixedHeap : Heap := (Heap.initial.newList #[.int (-7), .str "it's", .none]).2

theorem mixed_bounded :
    ∃ n s, textSize mixedHeap {} (.list 0) = .ok n ∧ (Value.list 0).text mixedHeap = .ok s ∧
      s.length ≤ n := by
  have fits : ∀ u, Shown mixedHeap (.list 0) u → Fits mixedHeap u := by
    rintro u (_ | ⟨part, inner⟩)
    · trivial
    · have part : _ ∈ [Value.int (-7), .str "it's", .none] := part
      simp only [List.mem_cons, List.not_mem_nil, or_false] at part
      rcases part with rfl | rfl | rfl
      · obtain rfl := shown_itself rfl inner
        trivial
      · obtain rfl := shown_itself rfl inner
        change Text.isPlain "it's" = true
        decide
      · obtain rfl := shown_itself rfl inner
        trivial
  have sized : textSize mixedHeap {} (.list 0) = .ok 22 := by rfl
  have shown : (Value.list 0).text mixedHeap = .ok "[-7, \"it's\", None]" := by rfl
  exact ⟨_, _, sized, shown, (text_size_bounds mixedHeap {}).1 _ _ _ sized shown (.inr fits)⟩

-- Three controls in a tuple of one.
theorem controls_outgrow :
    ∃ n s, textSize .initial {} (.tuple none [.str "\x00\x00\x00"]) = .ok n ∧
      (Value.tuple none [.str "\x00\x00\x00"]).text .initial = .ok s ∧ n < s.length :=
  ⟨9, "('\\x00\\x00\\x00',)", by rfl, by rfl, by decide⟩

end Guard
end ScriptArena
