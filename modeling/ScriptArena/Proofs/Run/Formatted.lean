import ScriptArena.Proofs.Run.Operations
import ScriptArena.Proofs.Run.Readings
import ScriptArena.Proofs.Run.Suits
import ScriptArena.Run.Evaluate

namespace ScriptArena
namespace Template

theorem filled_length {h : Heap} {cs : List Char} {s : Supply} {us : List (Directive × Value)}
    {pieces : List (List Char)} {m : Nat} (filled : Filled h cs s us pieces)
    (suits : ∀ use ∈ us, Suits h use.1 use.2) (weighs : Guard.Weighs h (us.map Prod.snd) m) :
    pieces.flatten.length ≤ cs.length + (us.map (room ·.1)).sum + m := by
  induction filled generalizing m with
  | nil => exact Nat.zero_le _
  | percents filled ih =>
    have others := ih suits weighs
    simp only [List.flatten_cons, List.length_append, List.length_cons, List.length_nil]
    omega
  | @directive cs rest s t u d v index shown us pieces single read took shows filled ih =>
    obtain ⟨own, later⟩ := List.forall_mem_cons.mp suits
    obtain ⟨a, b, here, there, rfl⟩ := @Guard.weighs_append h [v] _ _ weighs
    have others := ih later there
    have shorter := (readDirective_suffix read).length_le
    have bare : (shown.padded { d with width := none }).length ≤ a + d.precision.getD 0 + 2 :=
      own index shown a shows here
    have wide := padded_length d shown
    have asked : room d = d.width.getD 0 + d.precision.getD 0 := rfl
    simp only [List.flatten_cons, List.length_append, List.length_cons, List.map_cons,
      List.sum_cons] at shorter ⊢
    omega
  | @plain c cs s us pieces other filled ih =>
    have others := ih suits weighs
    have whole := congrArg List.length (List.takeWhile_append_dropWhile (p := (· ≠ '%')) (l := cs))
    simp only [List.flatten_cons, List.length_append, List.length_cons] at whole ⊢
    omega

end Template

namespace Guard

-- The values that a template is given.
def counted (h : Heap) : Value → List Value
  | .dict i => (h.dictAt i).shown .values
  | .tuple _ items => items
  | v => [v]

def addSize (h : Heap) (l : Limits) (size : Int) (v : Value) : Except Trouble Int :=
  do return size + (← textSize h l v)

theorem addSizes_weighs {h : Heap} {l : Limits} {vs : List Value} {size n : Int}
    (added : vs.foldlM (addSize h l) size = .ok n) : ∃ m : Nat, Weighs h vs m ∧ n = size + m := by
  induction vs generalizing size with
  | nil =>
    cases added
    exact ⟨0, .nil, (Int.add_zero _).symm⟩
  | cons v rest ih =>
    rw [List.foldlM_cons] at added
    obtain ⟨k, first, added⟩ := bind_eq_ok.mp added
    obtain ⟨own, sized, first⟩ := bind_eq_ok.mp first
    cases first
    obtain ⟨m, weighs, same⟩ := ih added
    obtain ⟨inner, inside, whole⟩ := weighs_one (textSize_weighs sized)
    exact ⟨_, .cons inside weighs, by omega⟩

theorem weighs_addSizes {h : Heap} {l : Limits} {vs : List Value} {n : Nat} (weighs : Weighs h vs n)
    (within : (n : Int) ≤ l.maxSequenceLength) (size : Int) :
    vs.foldlM (addSize h l) size = .ok (size + n) := by
  induction vs generalizing n size with
  | nil =>
    cases weighs
    exact congrArg Except.ok (Int.add_zero size).symm
  | cons v rest ih =>
    cases weighs with
    | @cons _ _ inner outer inside others =>
      have first : textSize h l v = .ok (ownSize h v + inner + 0) :=
        weighs_textSize (.cons inside .nil) (by omega)
      rw [List.foldlM_cons]
      simp only [addSize, first, bind, Except.bind, pure, Except.pure]
      rw [ih others (by omega)]
      congr 1
      omega

theorem template_eq (h : Heap) (l : Limits) (cs : List Char) (args : Value) :
    template h l cs args = (do
      let size ← (widths (cs.length + 1) cs []).foldlM (addWidths l) cs.length
      let total ← (counted h args).foldlM (addSize h l) size
      checkSize l .formatted total) := by
  cases args with
  | _ => rfl

theorem template_weighs {h : Heap} {l : Limits} {cs : List Char} {args : Value}
    (passed : template h l cs args = .ok ()) :
    ∃ found m, Scans cs found ∧ NoStar found ∧ Weighs h (counted h args) m ∧
      ((cs.length + total found + m : Nat) : Int) ≤ l.maxSequenceLength := by
  obtain ⟨found, scans, same⟩ := widths_scans (Nat.lt_succ_self cs.length) []
  rw [List.reverse_nil, List.nil_append] at same
  rw [template_eq, same] at passed
  obtain ⟨size, added, passed⟩ := bind_eq_ok.mp passed
  obtain ⟨sum, starless⟩ := addWidths_total added
  obtain ⟨n, weighed, passed⟩ := bind_eq_ok.mp passed
  obtain ⟨m, weighs, whole⟩ := addSizes_weighs weighed
  unfold checkSize at passed
  split at passed
  · cases passed
  · exact ⟨found, m, scans, starless, weighs, by omega⟩

open Template (uses Filled Suits isClear)

-- What is shown weighs no more than what is counted.
def Covered (h : Heap) (us : List (Directive × Value)) (args : Value) : Prop :=
  ∀ n, Weighs h (counted h args) n → ∃ m ≤ n, Weighs h (us.map Prod.snd) m

theorem subperm_covered {h : Heap} {us : List (Directive × Value)} {args : Value}
    (part : (us.map Prod.snd).Subperm (counted h args)) : Covered h us args :=
  fun _ weighs => weighs_subperm part weighs

theorem formatText_filled {h : Heap} {t s : String} {args : Value} (ran : formatText h t args = .ok s) :
    ∃ pieces, Filled h t.toList (.ofValue .text args) (uses h t.toList args) pieces ∧
      s.length = pieces.flatten.length := by
  obtain ⟨whole, rendered, ran⟩ := bind_eq_ok.mp ran
  obtain ⟨done, made, rendered⟩ := bind_eq_ok.mp rendered
  cases rendered
  cases ran
  obtain ⟨pieces, filled, same⟩ := Template.fill_filled (Nat.lt_succ_self _) made
  refine ⟨pieces, filled, ?_⟩
  rw [String.length_ofList, same, List.append_nil, List.reverse_reverse]

theorem nameless_covered {h : Heap} {t s : String} {args : Value} (nameless : ∀ i, args ≠ .dict i)
    (ran : formatText h t args = .ok s) : Covered h (uses h t.toList args) args := by
  obtain ⟨pieces, filled, _⟩ := formatText_filled ran
  have mapping : ∀ i, (Template.Supply.ofValue .text args).mapping ≠ some (.dict i) := by
    intro i same
    unfold Template.Supply.ofValue at same
    dsimp only at same
    split at same
    · exact nameless i (Option.some.inj same)
    · cases same
  have left : (Template.Supply.ofValue .text args).left = counted h args := by
    cases args with
    | dict i => exact absurd rfl (nameless i)
    | _ => rfl
  have part := Template.filled_left filled mapping
  rw [left] at part
  exact subperm_covered part.subperm

theorem formatted_length {h : Heap} {l : Limits} {t s : String} {args : Value}
    (passed : template h l t.toList args = .ok ()) (ran : formatText h t args = .ok s)
    (clear : isClear t.toList) (covered : Covered h (uses h t.toList args) args)
    (suits : ∀ use ∈ uses h t.toList args, Suits h use.1 use.2) : s.length ≤ l.maxSequenceLength := by
  obtain ⟨found, n, scans, starless, weighs, within⟩ := template_weighs passed
  obtain ⟨pieces, filled, length⟩ := formatText_filled ran
  obtain ⟨m, less, shown⟩ := covered n weighs
  have widths := Template.filled_room filled clear scans starless
  have text := Template.filled_length filled suits shown
  omega

end Guard

namespace Template

-- A directive without flags, width and precision.
def plainDirective (kind : Char) : Directive :=
  ⟨false, false, false, false, false, none, none, kind⟩

theorem readDirective_plain {h : Heap} {s t : Supply} {cs rest : List Char} {kind : Char}
    (known : kind ∈ kinds) (source : readSource h .text s cs = .ok (t, kind :: rest)) :
    readDirective h .text s cs = .ok (plainDirective kind, t, rest) := by
  obtain ⟨_, _, star, point, flag, digit, _, size⟩ := kinds_plain known
  have flags : (kind :: rest).takeWhile isFlag = [] ∧ (kind :: rest).dropWhile isFlag = kind :: rest := by
    simp [flag]
  have width : readWidth t (kind :: rest) = .ok (none, t, kind :: rest) := by
    simp [readWidth, digit]
  have precision : readPrecision .text t (kind :: rest) = .ok (none, t, kind :: rest) := by
    simp [readPrecision, point]
  have skipped : skipSize (kind :: rest) = kind :: rest := by
    rw [skipSize, size, if_neg Bool.false_ne_true]
  unfold readDirective
  simp only [source, bind, Except.bind, flags, width, precision, skipped]
  rfl

theorem readWidths_plain {kind : Char} (known : kind ∈ kinds) (rest : List Char) :
    Guard.readWidths (kind :: rest) = ([.digits []], kind :: rest) := by
  obtain ⟨_, bracket, star, point, flag, _, decimal, _⟩ := kinds_plain known
  rw [Guard.readWidths_bare (by simpa using bracket)]
  simp [Guard.readBare, Guard.readWidth, flag, decimal, star, point]

theorem showValue_index {h : Heap} {medium : Medium} {d : Directive} {i : Nat} {v : Value} {shown : Shown}
    (shows : showValue h medium d i v = .ok shown) (j : Nat) : showValue h medium d j v = .ok shown := by
  revert shows
  unfold showValue
  split
  case h_10 =>
    split
    · exact id
    · split
      · exact id
      · intro failed
        cases failed
  all_goals exact id

theorem formatText_plain {h : Heap} {kind : Char} {v : Value} {shown : Shown} {index : Nat}
    (known : kind ∈ kinds) (single : ∀ mark items, v ≠ .tuple mark items)
    (shows : showValue h .text (plainDirective kind) index v = .ok shown) :
    formatText h (String.ofList ['%', kind]) v = .ok (String.ofList (shown.padded (plainDirective kind))) := by
  have left : Supply.ofValue .text v = ⟨if isMapping .text v then some v else none, [v]⟩ := by
    cases v with
    | tuple mark items => exact absurd rfl (single mark items)
    | _ => rfl
  have other : ∀ rest, [kind] = '%' :: rest → False := by
    rintro rest same
    cases same
    exact (kinds_plain known).1 rfl
  have source (s : Supply) : readSource h .text s [kind] = .ok (s, [kind]) := by
    simp [readSource, (kinds_plain known).2.1]
  unfold formatText render
  rw [String.toList_ofList, left]
  simp only [List.length_cons, List.length_nil]
  rw [fill.eq_4 _ _ _ _ _ _ _ other, readDirective_plain known (source _)]
  simp only [bind, Except.bind, Supply.take, showValue_index shows]
  simp only [List.isEmpty_nil, Bool.not_true, Bool.and_false, Bool.false_eq_true, if_false, fill,
    Bool.false_and]
  simp [pure, Except.pure]

end Template

namespace Guard

open Template (kinds plainDirective Suits)

-- Without widths, a template passes if it has room together with its values.
theorem template_passes {h : Heap} {l : Limits} {cs : List Char} {args : Value} {k n : Nat}
    (scans : Scans cs (List.replicate k [.digits []])) (weighs : Weighs h (counted h args) n)
    (room : ((cs.length + n : Nat) : Int) ≤ l.maxSequenceLength) : template h l cs args = .ok () := by
  obtain ⟨found, again, same⟩ := widths_scans (Nat.lt_succ_self cs.length) []
  obtain rfl := scans_unique scans again
  rw [List.reverse_nil, List.nil_append] at same
  have within : ¬ l.maxSequenceLength < (cs.length : Int) + n := by omega
  have values : (counted h args).foldlM (addSize h l) (cs.length : Int) = .ok (cs.length + n) :=
    weighs_addSizes weighs (by omega) _
  rw [template_eq, same, addWidths_none (by omega)]
  simp only [bind, Except.bind, values, checkSize, if_neg within]

theorem template_plain {h : Heap} {l : Limits} {kind : Char} {v : Value} {n : Nat} (known : kind ∈ kinds)
    (single : counted h v = [v]) (weighs : Weighs h [v] n)
    (room : ((n + 2 : Nat) : Int) ≤ l.maxSequenceLength) : template h l ['%', kind] v = .ok () := by
  have percent : kind ≠ '%' := (Template.kinds_plain known).1
  have scans : Scans ['%', kind] (List.replicate 1 [.digits []]) :=
    .percent (Template.readWidths_plain known []) (.skip percent .nil)
  refine template_passes scans (single ▸ weighs) ?_
  rwa [Nat.add_comm] at room

-- Alone in a template, a directive that does not suit its value breaks the ceiling.
theorem unsuited_outgrows {h : Heap} {kind : Char} {v : Value} (known : kind ∈ kinds)
    (tuple : ∀ mark items, v ≠ .tuple mark items) (dict : ∀ i, v ≠ .dict i)
    (unsuited : ¬ Suits h (plainDirective kind) v) :
    ∃ (l : Limits) (s : String), template h l ['%', kind] v = .ok () ∧
      formatText h (String.ofList ['%', kind]) v = .ok s ∧ l.maxSequenceLength < s.length := by
  simp only [Template.Suits, not_forall] at unsuited
  obtain ⟨index, shown, n, shows, weighs, long⟩ := unsuited
  have single : counted h v = [v] := by
    cases v with
    | tuple mark items => exact absurd rfl (tuple mark items)
    | dict i => exact absurd rfl (dict i)
    | _ => rfl
  refine ⟨{ maxSequenceLength := (n + 2 : Nat) }, _, template_plain known single weighs (Int.le_refl _),
    Template.formatText_plain known tuple shows, ?_⟩
  have bare : n + 0 + 2 < (shown.padded (plainDirective kind)).length := Nat.lt_of_not_le long
  rw [String.length_ofList]
  exact Int.ofNat_lt.mpr bare

-- A template that shows the value with one and the same name some times.
def again (k : Nat) : List Char := (List.replicate k ['%', '(', 'a', ')', 's']).flatten

theorem again_length (k : Nat) : (again k).length = 5 * k := by
  simp [again, Nat.mul_comm]

theorem again_scans (k : Nat) : Scans (again k) (List.replicate k [.digits []]) := by
  induction k with
  | zero => exact .nil
  | succ k ih => exact .percent rfl (.skip (by decide) ih)

theorem again_fill {h : Heap} {i size fuel k : Nat} {x : String} {left : List Value}
    {done : List (List Char)} (stands : (h.dictAt i).find? (.str "a") = some (.str x))
    (enough : k < fuel) :
    Template.fill h .text size fuel (again k) ⟨some (.dict i), left⟩ done =
      .ok (List.replicate k x.toList ++ done) := by
  induction k generalizing fuel left done with
  | zero =>
    cases fuel with
    | zero => cases enough
    | succ fuel => simp [again, Template.fill]
  | succ k ih =>
    cases fuel with
    | zero => cases enough
    | succ fuel =>
      have single : ∀ rest, '(' :: 'a' :: ')' :: 's' :: again k = '%' :: rest → False := by
        intro rest same
        cases same
      have found : Template.lookUp h .text ['a'] ⟨some (.dict i), left⟩ =
          .ok ⟨some (.dict i), [.str x]⟩ := by
        have key : Value.key? (Template.nameValue .text ['a']) = .ok (.str "a") := rfl
        simp only [Template.lookUp, Value.getItem, key, bind, Except.bind, stands]
        rfl
      have source : Template.readSource h .text ⟨some (.dict i), left⟩
          ('(' :: 'a' :: ')' :: 's' :: again k) = .ok (⟨some (.dict i), [.str x]⟩, 's' :: again k) := by
        have name : Template.readName 0 ('a' :: ')' :: 's' :: again k) [] =
          .ok (['a'], 's' :: again k) := rfl
        simp only [Template.readSource, name, bind, Except.bind, found]
        rfl
      have shown (index : Nat) : Template.showValue h .text (plainDirective 's') index (.str x) =
          .ok (.plain x.toList) := rfl
      have bare : (Template.Shown.plain x.toList).padded (plainDirective 's') = x.toList := by
        simp [Template.Shown.padded, Template.Shown.plain, plainDirective]
      change Template.fill h .text size (fuel + 1) ('%' :: '(' :: 'a' :: ')' :: 's' :: again k) _ done = _
      rw [Template.fill.eq_4 _ _ _ _ _ _ _ single,
        Template.readDirective_plain (by decide) source]
      simp only [bind, Except.bind, Template.Supply.take, shown, bare]
      simp only [List.isEmpty_nil, Bool.not_true, Bool.and_false, Bool.false_eq_true, if_false]
      rw [ih (by omega), List.replicate_succ', List.append_assoc]
      rfl

-- The text counts once, however often it is shown.
theorem again_outgrows {h : Heap} {i : Nat} {x : String}
    (stands : (h.dictAt i).find? (.str "a") = some (.str x))
    (alone : (h.dictAt i).shown .values = [.str x]) (k : Nat) :
    ∃ s, formatText h (String.ofList (again k)) (.dict i) = .ok s ∧ s.length = k * x.length ∧
      ∀ l : Limits, ((5 * k + x.length + 2 : Nat) : Int) ≤ l.maxSequenceLength →
        template h l (again k) (.dict i) = .ok () := by
  have enough : k < (again k).length + 1 := by
    rw [again_length]
    omega
  refine ⟨String.ofList (List.replicate k x.toList).flatten, ?_, ?_, fun l room => ?_⟩
  · have filled := @again_fill h i (again k).length ((again k).length + 1) k x [.dict i] [] stands enough
    have supply : Template.Supply.ofValue .text (.dict i) = ⟨some (.dict i), [.dict i]⟩ := rfl
    unfold formatText Template.render
    rw [String.toList_ofList, supply, filled]
    simp only [bind, Except.bind, pure, Except.pure, List.append_nil, List.reverse_replicate]
  · simp [String.length_toList]
  · have weighs : Weighs h (counted h (.dict i)) (x.length + 2 + 0 + 0) := by
      rw [counted, alone]
      exact .cons .nil .nil
    refine template_passes (again_scans k) weighs ?_
    rw [again_length]
    exact room

end Guard

namespace Run

-- A template is filled in the heap in which it was looked at.
theorem operate_template {l : Limits} {m m' : Machine} {t : String} {args v : Value}
    (ran : operate .mod (.str t) args l m = .ok v m') :
    ∃ s, v = .str s ∧ m' = m ∧ Guard.template m.heap l t.toList args = .ok () ∧
      formatText m.heap t args = .ok s := by
  obtain ⟨_, mid, guarded, ran⟩ := bind_ok ran
  rw [run_guarded] at guarded
  obtain ⟨made, late, asked, kept⟩ := bind_ok ran
  change Run.guarded (fun _ h => Value.binary h .mod (.str t) args) l mid = _ at asked
  rw [run_guarded] at asked
  have guard : Guard.binary m.heap l .mod (.str t) args = Guard.template m.heap l t.toList args := rfl
  rw [guard] at guarded
  cases passed : Guard.template m.heap l t.toList args with
  | error e =>
    rw [passed] at guarded
    cases guarded
  | ok u =>
    rw [passed] at guarded
    cases guarded
    cases result : Value.binary m.heap .mod (.str t) args with
    | error e =>
      rw [result] at asked
      cases asked
    | ok w =>
      obtain ⟨s, text, whole⟩ := bind_eq_ok.mp result
      rw [result] at asked
      cases asked
      cases whole
      cases kept
      exact ⟨s, rfl, rfl, rfl, text⟩

-- The result of a template is within the ceiling if its widths are found, what it shows is counted
-- and every value suits its directive. The last two cannot be left out: a directive that does not
-- suit its value breaks the ceiling alone, and a name that is used again does it with any long text.
theorem template_results (l : Limits) (m : Machine) :
    (∀ (m' : Machine) (t : String) (args v : Value), operate .mod (.str t) args l m = .ok v m' →
        Template.isClear t.toList → Guard.Covered m.heap (Template.uses m.heap t.toList args) args →
        (∀ use ∈ Template.uses m.heap t.toList args, Template.Suits m.heap use.1 use.2) →
        ∃ s, v = .str s ∧ s.length ≤ l.maxSequenceLength) ∧
      (∀ (t s : String) (args : Value), (∀ i, args ≠ .dict i) → formatText m.heap t args = .ok s →
        Guard.Covered m.heap (Template.uses m.heap t.toList args) args) ∧
      (∀ (us : List (Directive × Value)) (args : Value),
        (us.map Prod.snd).Subperm (Guard.counted m.heap args) → Guard.Covered m.heap us args) ∧
      (∀ (d : Directive) (v : Value), Template.Common m.heap d v → Template.Suits m.heap d v) ∧
      (∀ (kind : Char) (v : Value), kind ∈ Template.kinds →
        (∀ mark items, v ≠ .tuple mark items) → (∀ i, v ≠ .dict i) →
        ¬ Template.Suits m.heap (Template.plainDirective kind) v →
        ∃ (k : Limits) (s : String), Guard.template m.heap k ['%', kind] v = .ok () ∧
          formatText m.heap (String.ofList ['%', kind]) v = .ok s ∧ k.maxSequenceLength < s.length) ∧
      ∀ (i : Nat) (x : String) (k : Nat), (m.heap.dictAt i).find? (.str "a") = some (.str x) →
        (m.heap.dictAt i).shown .values = [.str x] →
        ∃ s, formatText m.heap (String.ofList (Guard.again k)) (.dict i) = .ok s ∧
          s.length = k * x.length ∧
          (((5 * k + x.length + 2 : Nat) : Int) ≤ l.maxSequenceLength →
            Guard.template m.heap l (Guard.again k) (.dict i) = .ok ()) := by
  refine ⟨?_, fun t s args => Guard.nameless_covered, fun us args => Guard.subperm_covered,
    fun d v => Template.common_suits, fun kind v known tuple dict =>
      Guard.unsuited_outgrows known tuple dict, fun i x k stands alone => ?_⟩
  · intro m' t args v ran clear covered suits
    obtain ⟨s, same, _, passed, text⟩ := operate_template ran
    exact ⟨s, same, Guard.formatted_length passed text clear covered suits⟩
  · obtain ⟨s, text, length, passes⟩ := Guard.again_outgrows stands alone k
    exact ⟨s, text, length, passes l⟩

-- The two directives of the template `%5d|%-4s`.
def columns : List (Directive × Value) :=
  [(⟨false, false, false, false, false, some 5, none, 'd'⟩, .int 42),
    (⟨true, false, false, false, false, some 4, none, 's'⟩, .str "ok")]

theorem columns_common : ∀ use ∈ columns, Template.Common .initial use.1 use.2 := by
  intro use inside
  simp only [columns, List.mem_cons, List.not_mem_nil, or_false] at inside
  rcases inside with rfl | rfl
  · exact ⟨nofun, nofun, nofun, fun _ => .inl nofun, fun real => absurd real (by decide)⟩
  · exact ⟨fun _ => .inl ⟨"ok", rfl⟩, nofun, nofun, fun whole => absurd whole (by decide),
      fun real => absurd real (by decide)⟩

theorem columns_result :
    ∃ s, operate .mod (.str "%5d|%-4s") (.tuple none [.int 42, .str "ok"]) {} {} = .ok (.str s) {} ∧
      s.length ≤ 100000 := by
  have ran : operate .mod (.str "%5d|%-4s") (.tuple none [.int 42, .str "ok"]) {} {} =
      .ok (.str "   42|ok  ") {} := by rfl
  have text : formatText .initial "%5d|%-4s" (.tuple none [.int 42, .str "ok"]) = .ok "   42|ok  " := by rfl
  have uses : Template.uses .initial "%5d|%-4s".toList (.tuple none [.int 42, .str "ok"]) = columns := by rfl
  obtain ⟨bounded, nameless, _, suits, _⟩ := template_results {} {}
  have nondict : ∀ i, Value.tuple none [.int 42, .str "ok"] ≠ .dict i := nofun
  have covered := nameless _ _ _ nondict text
  have suited : ∀ use ∈ Template.uses .initial "%5d|%-4s".toList (.tuple none [.int 42, .str "ok"]),
      Template.Suits .initial use.1 use.2 := fun use inside =>
    suits _ _ (columns_common use (uses ▸ inside))
  obtain ⟨s, same, short⟩ := bounded {} _ _ _ ran (by decide) covered suited
  have short : (s.length : Int) ≤ (100000 : Nat) := short
  exact ⟨s, same ▸ ran, Int.ofNat_le.mp short⟩

-- The second percent sign begins no directive, but a bracket that hides one.
theorem hidden_width :
    ∃ s m, operate .mod (.str "%%(%40d)") (.int 1) { maxSequenceLength := 41 } {} = .ok (.str s) m ∧
      41 < s.length := by
  refine ⟨_, _, by rfl, ?_⟩
  decide

end Run
end ScriptArena

