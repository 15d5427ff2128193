import ScriptArena.Proofs.Run.Guards

namespace ScriptArena

variable {t : Licence} {σ : Type}

namespace Run

theorem composed_nextItem (s : Cursor × σ) : Composed t (nextItem s) := by
  refine .step (composed_ask _) fun next => ?_
  cases next with
  | none => exact .value _
  | some item => exact .step (composed_own _) fun _ => .value _

theorem composed_visitItem {visit : σ → Value → Run (ForInStep σ)}
    (visits : ∀ acc v, Composed t (visit acc v)) (r : Value × Cursor × σ) :
    Composed t (visitItem visit r) := by
  obtain ⟨v, c, acc⟩ := r
  refine .step (visits acc v) fun s => ?_
  cases s with
  | done acc => exact .value _
  | yield acc => exact .value _

theorem composed_foldItems {visit : σ → Value → Run (ForInStep σ)}
    (visits : ∀ acc v, Composed t (visit acc v)) (v : Value) (acc : σ) :
    Composed t (foldItems visit v acc) :=
  .step (composed_ask _) fun _ => .loop _ composed_nextItem (composed_visitItem visits)

theorem composed_collect (v : Value) : Composed t (collect v) := by
  refine composed_foldItems (fun items v => ?_) v #[]
  exact .step (composed_guarded (Guard.eases_checkSize .sequence _)) fun _ => .value _

theorem composed_toText (v : Value) : Composed t (toText v) :=
  composed_guarded (Guard.eases_text v)

theorem composed_joinTexts (mark : String) (parts : List Value) :
    Composed t (joinTexts mark parts) := by
  refine .step (composed_guarded (Guard.eases_joined mark.length parts)) fun _ => ?_
  refine .step (composed_forIn _ _ fun _ part _ => ?_) fun _ => .value _
  obtain ⟨v, place⟩ := part
  cases v with
  | str s => exact .value _
  | _ => exact composed_failure _

theorem composed_joinBy (mark : Value) (parts : List String) :
    Composed t (joinBy mark parts) := by
  refine .step (.look _) fun size => ?_
  cases size with
  | none => exact composed_failure _
  | some size =>
    refine .step (composed_guarded (Guard.eases_joined size _)) fun _ => ?_
    cases mark with
    | str s => exact .value _
    | bytes b => exact composed_branch (.value _) (composed_failure _)
    | _ => exact composed_failure _

theorem composed_printValues (args : Arguments) :
    Composed t (printValues args) := by
  refine .step (composed_settle _) fun b => ?_
  split
  refine .step (composed_each b.rest fun v _ => composed_toText v) fun parts => ?_
  refine .step (composed_joinBy _ parts) fun whole => .step (composed_ask _) fun made => ?_
  exact .step (.emit made) fun _ => .value _

theorem composed_lengthOf (args : Arguments) : Composed t (lengthOf args) := by
  refine .step (composed_settle _) fun v => .step (.look _) fun size => ?_
  cases size with
  | none => exact composed_failure _
  | some n => exact composed_branch composed_failed (.value _)

theorem composed_makeRange (args : Arguments) : Composed t (makeRange args) :=
  composed_settle _

theorem composed_sumOf (args : Arguments) : Composed t (sumOf args) := by
  refine .step (composed_settle _) fun b => ?_
  split
  · refine composed_foldItems (fun total v => ?_) _ _
    exact .step (composed_ask _) fun made => .step (composed_keep made) fun _ => .value _
  · exact .value _

theorem composed_extreme (name : String) (op : OrderOp) (args : Arguments) :
    Composed t (extreme name op args) := by
  refine .step (composed_settle _) fun b => ?_
  extract_lets pick
  have picks : ∀ items, Composed t (pick items) := by
    intro items
    cases items with
    | nil => exact composed_failure _
    | cons first rest =>
      exact composed_fold rest first fun best v _ => .step (composed_ask _) fun _ => .value _
  split
  · exact composed_failed
  · exact .step (composed_collect _) fun items => picks items.toList
  · exact picks _

theorem composed_makeList (args : Arguments) : Composed t (makeList args) :=
  .step (composed_settle _) fun _ => .step (composed_collect _) fun _ => composed_newList _

theorem composed_sortedList (args : Arguments) : Composed t (sortedList args) := by
  refine .step (composed_settle _) fun b => ?_
  split
  · refine .step (composed_collect _) fun items => .step (composed_settle _) fun falling => ?_
    refine .step (.look _) fun sorted => ?_
    split
    · exact composed_settle (.error _)
    · exact composed_newList _
  · exact .value _

theorem composed_makeText (args : Arguments) : Composed t (makeText args) :=
  .step (composed_settle _) fun _ => .step (composed_toText _) fun _ => .value _

theorem composed_makeInteger (args : Arguments) : Composed t (makeInteger args) :=
  composed_settle _

theorem composed_builtin (b : Builtin) (args : Arguments) :
    Composed t (b.call args) := by
  refine composed_branch (composed_failure _) ?_
  cases b with
  | print => exact composed_printValues args
  | len => exact composed_lengthOf args
  | range => exact composed_makeRange args
  | sum => exact composed_sumOf args
  | min => exact composed_extreme "min" .lt args
  | max => exact composed_extreme "max" .gt args
  | abs => exact .step (composed_settle _) composed_own
  | list => exact composed_makeList args
  | sorted => exact composed_sortedList args
  | str => exact composed_makeText args
  | int => exact composed_makeInteger args

theorem composed_itemsOf (args : Arguments) : Composed t (itemsOf args) :=
  .step (composed_settle _) fun _ => composed_collect _

theorem composed_textMethod (m : TextMethod) (s : String) (args : Arguments) :
    Composed t (m.call s args) := by
  cases m with
  | join =>
    exact .step (composed_itemsOf args) fun _ => .step (composed_joinTexts s _) fun _ => .value _
  | _ => exact .step (composed_settle _) composed_keep

end Run

namespace ListMethod
open Run

-- Lists, mappings and scopes change; functions stay what they are.
theorem composed_modify (i : Nat) (f : Array Value → Array Value) :
    Composed t (change (·.modifyList i f)) :=
  .change (fun _ => ⟨rfl, rfl⟩) fun _ _ => rfl

theorem composed_insertInto (i : Nat) (place v : Value) :
    Composed t (insertInto i place v) :=
  .step (composed_settle _) fun _ => .change (fun _ => ⟨rfl, rfl⟩) fun _ _ => rfl

theorem composed_popFrom (i : Nat) (place : Value) :
    Composed t (popFrom i place) := by
  refine .step (composed_settle _) fun n => .step (.look _) fun items => ?_
  refine composed_branch composed_failed (composed_branch composed_failed ?_)
  exact .step (.look _) fun v => .step (composed_modify i _) fun _ => .value v

theorem composed_indexOf (i : Nat) (args : List Value) :
    Composed t (indexOf i args) := by
  refine .step (composed_settle _) fun start => .step (composed_settle _) fun stop => ?_
  refine .step (composed_ask _) fun found => ?_
  cases found with
  | some n => exact .value _
  | none =>
    refine .step (.look _) fun shown => ?_
    cases shown with
    | ok text => exact composed_failure _
    | error e => exact composed_failure _

theorem composed_removeFirst (i : Nat) (v : Value) :
    Composed t (removeFirst i v) := by
  refine .step (composed_ask _) fun found => ?_
  cases found with
  | none => exact composed_failure _
  | some n => exact composed_modify i _

theorem composed_keyOf (rule v : Value) : Composed t (keyOf rule v) := by
  cases rule with
  | none => exact .value v
  | builtin b => exact composed_builtin b _
  | _ => exact composed_failure _

theorem composed_sortInPlace (i : Nat) (args : Arguments) :
    Composed t (sortInPlace i args) := by
  refine .step (composed_settle _) fun parts => .step (composed_settle _) fun falling => ?_
  refine .step (.look _) fun items => .step (composed_modify i _) fun _ => ?_
  have keys : Composed t (keyed (parts.head?.join.getD .none) items.toList) :=
    composed_each _ fun v _ => .step (composed_keyOf _ v) fun _ => .value _
  refine .step (.undoing (fun _ => ⟨rfl, rfl⟩) keys fun _ _ => rfl) fun pairs => .step (.look _) fun sorted => ?_
  refine .step (composed_modify i _) fun _ => ?_
  split
  · exact composed_settle (.error _)
  · exact .value _

theorem composed_call (m : ListMethod) (i : Nat) (args : Arguments) :
    Composed t (m.call i args) := by
  cases m with
  | append => exact .step (composed_settle _) fun v => .step (composed_modify i _) fun _ => .value _
  | extend =>
    exact .step (composed_itemsOf args) fun v => .step (composed_modify i _) fun _ => .value _
  | insert =>
    refine .step (composed_settle _) fun given => ?_
    split
    · exact .step (composed_insertInto i _ _) fun _ => .value _
    · exact .value _
  | pop => exact .step (composed_settle _) fun given => composed_popFrom i _
  | remove =>
    exact .step (composed_settle _) fun v => .step (composed_removeFirst i v) fun _ => .value _
  | index => exact .step (composed_settle _) fun given => composed_indexOf i given
  | count => exact .step (composed_settle _) fun v => composed_ask _
  | reverse =>
    exact .step (composed_settle _) fun _ => .step (composed_modify i _) fun _ => .value _
  | sort => exact .step (composed_sortInPlace i args) fun _ => .value _
  | copy => exact .step (composed_settle _) fun _ => .step (.look _) fun _ => composed_newList _
  | clear =>
    exact .step (composed_settle _) fun _ => .step (composed_modify i _) fun _ => .value _

end ListMethod

namespace DictMethod
open Run

theorem composed_popFrom (i : Nat) (args : List Value) :
    Composed t (popFrom i args) := by
  unfold popFrom
  extract_lets key missing
  have lacking : Composed t missing := by
    unfold missing
    split
    · exact .value _
    · exact .step (.look _) fun e => composed_settle (.error e)
  refine .step (.look _) fun d => composed_branch lacking ?_
  refine .step (composed_settle _) fun k => ?_
  split
  · exact .step (.change (fun _ => ⟨rfl, rfl⟩) fun _ _ => rfl) fun _ => .value _
  · exact lacking

theorem composed_setDefault (i : Nat) (args : List Value) :
    Composed t (setDefault i args) := by
  refine .step (composed_settle _) fun k => .step (.look _) fun found => ?_
  cases found with
  | some w => exact .value w
  | none => exact .step (.change (fun _ => ⟨rfl, rfl⟩) fun _ _ => rfl) fun _ => .value _

theorem composed_put (i : Nat) (key v : Value) : Composed t (put i key v) :=
  .step (composed_settle _) fun _ => .change (fun _ => ⟨rfl, rfl⟩) fun _ _ => rfl

theorem composed_putPair (i n : Nat) (pair : Value) :
    Composed t (putPair i n pair) := by
  refine .step (.look _) fun items => ?_
  split
  · exact composed_failure _
  · exact .step (composed_own _) fun key => .step (composed_own _) fun v => composed_put i key v
  · exact composed_failure _

theorem composed_updateFrom (i : Nat) (source : Value) :
    Composed t (updateFrom i source) := by
  unfold updateFrom
  split
  · refine .step (.look _) fun entries => .step ?_ fun _ => .value _
    exact composed_forIn entries _ fun _ entry _ => .step (composed_put i _ _) fun _ => .value _
  · refine .step (.look _) fun items => ?_
    split
    · exact composed_failure _
    · refine .step ?_ fun _ => .value _
      exact composed_forIn _ _ fun _ pair _ => .step (composed_putPair i _ _) fun _ => .value _

theorem composed_mergeInto (i : Nat) (args : Arguments) :
    Composed t (mergeInto i args) := by
  unfold mergeInto
  extract_lets mergeNamed
  have named : Composed t (mergeNamed ()) := by
    refine .step ?_ fun _ => .value _
    exact composed_forIn _ _ fun _ entry _ => .step (composed_put i _ _) fun _ => .value _
  split
  · exact named
  · exact .step (composed_updateFrom i _) fun _ => named
  · exact composed_failed

theorem composed_call (m : DictMethod) (i : Nat) (args : Arguments) :
    Composed t (m.call i args) := by
  cases m with
  | keys | values | items =>
    exact .step (.step (composed_settle _) fun _ => .value _) fun _ => composed_own _
  | get =>
    refine .step (composed_settle _) fun given => .step (composed_settle _) fun k => ?_
    exact .step (.look _) fun _ => .value _
  | pop => exact .step (composed_settle _) fun given => composed_popFrom i given
  | setdefault => exact .step (composed_settle _) fun given => composed_setDefault i given
  | update => exact composed_mergeInto i args
  | copy =>
    refine .step (.step (composed_settle _) fun _ => .value _) fun _ => ?_
    exact .step (.look _) fun _ => composed_newDict _
  | clear =>
    refine .step (.step (composed_settle _) fun _ => .value _) fun _ => ?_
    exact .step (.change (fun _ => ⟨rfl, rfl⟩) fun _ _ => rfl) fun _ => .value _

end DictMethod
end ScriptArena
