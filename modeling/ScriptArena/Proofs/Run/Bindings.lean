import Mathlib.Data.List.Basic
import Mathlib.Data.List.Nodup
import Mathlib.Data.Nat.Find
import ScriptArena.Proofs.Run.Scopes
import ScriptArena.Proofs.Run.Steps

namespace ScriptArena

namespace Frame

variable {β : Type} {f : Frame} {name key : String} {v : Value}

theorem lookup_pair (other : String) (v : β) (rest : List (String × β)) :
    ((other, v) :: rest).lookup key = if key = other then some v else rest.lookup key := by
  rw [List.lookup_cons]
  by_cases same : key = other
  · simp [same]
  · rw [beq_eq_false_iff_ne.mpr same, if_neg same]

theorem find?_lookup : f.find? key = f.vars.toList.lookup key := by
  rw [find?, ← Array.find?_toList]
  induction f.vars.toList with
  | nil => rfl
  | cons pair rest ih =>
    obtain ⟨other, v⟩ := pair
    rw [lookup_pair, List.find?_cons]
    by_cases same : key = other
    · simp [same]
    · rw [if_neg same, beq_eq_false_iff_ne.mpr (Ne.symm same)]
      exact ih

-- A pair is replaced by one of the same name.
theorem lookup_set {vars : List (String × Value)} {i : Nat}
    (place : vars.findIdx? (·.1 == name) = some i) :
    (vars.set i (name, v)).lookup key = if key = name then some v else vars.lookup key := by
  induction vars generalizing i with
  | nil => cases place
  | cons pair rest ih =>
    obtain ⟨other, w⟩ := pair
    rw [List.findIdx?_cons] at place
    by_cases here : other = name
    · rw [if_pos (by simpa using here), Option.some.injEq] at place
      rw [← place, List.set_cons_zero, lookup_pair, lookup_pair, here]
      split
      · rfl
      · rfl
    · rw [if_neg (by simpa using here), Option.map_eq_some_iff] at place
      obtain ⟨j, later, rfl⟩ := place
      rw [List.set_cons_succ, lookup_pair, lookup_pair, ih later]
      by_cases first : key = other
      · rw [if_pos first, if_pos first, if_neg (first ▸ here)]
      · rw [if_neg first, if_neg first]

theorem find?_bind : (f.bind name v).find? key = if key = name then some v else f.find? key := by
  have places : f.vars.findIdx? (·.1 == name) = f.vars.toList.findIdx? (·.1 == name) :=
    List.findIdx?_toArray _ f.vars.toList
  rw [find?_lookup, find?_lookup, bind, places]
  cases place : f.vars.toList.findIdx? (·.1 == name) with
  | some i =>
    dsimp only
    rw [Array.set!_eq_setIfInBounds, Array.toList_setIfInBounds]
    exact lookup_set place
  | none =>
    dsimp only
    rw [Array.toList_push, List.lookup_append, lookup_pair]
    by_cases same : key = name
    · have absent : f.vars.toList.lookup key = none := by
        rw [List.lookup_eq_none_iff]
        intro pair member
        have other := List.findIdx?_eq_none_iff.mp place pair member
        rw [bne_iff_ne, same]
        exact Ne.symm (by simpa using other)
      rw [if_pos same, absent, if_pos same, Option.none_or]
    · rw [if_neg same, if_neg same]
      exact Option.or_none

theorem parent_bind : (f.bind name v).parent = f.parent := by
  unfold bind
  split
  · rfl
  · rfl

-- Names are bound one after the other.
def binds (f : Frame) (pairs : List (String × Value)) : Frame :=
  pairs.foldl (fun f (name, v) => f.bind name v) f

theorem parent_binds (pairs : List (String × Value)) : (f.binds pairs).parent = f.parent := by
  induction pairs generalizing f with
  | nil => rfl
  | cons pair rest ih => exact ih.trans parent_bind

theorem lookup_iff {pairs : List (String × β)} {v : β} (distinct : (pairs.map (·.1)).Nodup) :
    pairs.lookup key = some v ↔ (key, v) ∈ pairs := by
  induction pairs with
  | nil => simp
  | cons pair rest ih =>
    obtain ⟨name, w⟩ := pair
    rw [List.map_cons, List.nodup_cons] at distinct
    rw [lookup_pair, List.mem_cons, Prod.mk.injEq]
    by_cases same : key = name
    · have absent : (key, v) ∉ rest := fun inside =>
        distinct.1 (List.mem_map.mpr ⟨_, inside, same⟩)
      rw [if_pos same, Option.some.injEq, or_iff_left absent]
      exact ⟨fun held => ⟨same, held.symm⟩, fun held => held.2.symm⟩
    · simp [same, ih distinct.2]

theorem lookup_none {pairs : List (String × β)} :
    pairs.lookup key = none ↔ key ∉ pairs.map (·.1) := by
  rw [List.lookup_eq_none_iff, List.mem_map]
  constructor
  · rintro other ⟨pair, inside, rfl⟩
    simpa using other pair inside
  · intro absent pair inside
    rw [bne_iff_ne]
    rintro rfl
    exact absent ⟨pair, inside, rfl⟩

theorem find?_binds {pairs : List (String × Value)} (distinct : (pairs.map (·.1)).Nodup) :
    (f.binds pairs).find? key = (pairs.lookup key).or (f.find? key) := by
  induction pairs generalizing f with
  | nil => rfl
  | cons pair rest ih =>
    obtain ⟨name, v⟩ := pair
    rw [List.map_cons, List.nodup_cons] at distinct
    refine (ih distinct.2).trans ?_
    rw [find?_bind, lookup_pair]
    by_cases same : key = name
    · have absent : rest.lookup key = none := lookup_none.mpr (same ▸ distinct.1)
      rw [absent, if_pos same, if_pos same]
      rfl
    · rw [if_neg same, if_neg same]

end Frame

def Arguments.names (args : Arguments) : List String := args.named.map (·.1)

namespace Run
open ScriptArena.Frame

variable {c : Closure} {args : Arguments} {f : Frame}

-- A parameter stands for the argument at its place or of its name, or else for its default. The
-- defaults are those of the last parameters.
inductive Gives (c : Closure) (args : Arguments) (i : Nat) (p : String) (v : Value) : Prop where
  | placed (given : args.positional[i]? = some v)
  | named (beyond : args.positional.length ≤ i) (given : (p, v) ∈ args.named)
  | default {j : Nat} (beyond : args.positional.length ≤ i) (absent : p ∉ args.names)
      (place : i + c.defaults.length = c.params.length + j) (held : c.defaults[j]? = some v)

-- The scope in which the body starts: that of the definition is around it, and the parameters are all
-- that is bound in it.
structure Starts (c : Closure) (args : Arguments) (f : Frame) : Prop where
  around : f.parent = some c.scope
  given : ∀ i p, c.params[i]? = some p → ∃ v, Gives c args i p v ∧ f.find? p = some v
  only : ∀ name, name ∉ c.params → f.find? name = none

structure Fits (c : Closure) (args : Arguments) : Prop where
  few : args.positional.length ≤ c.params.length
  known : ∀ key ∈ args.names, key ∈ c.params
  once : ∀ key ∈ args.names, key ∉ c.params.take args.positional.length
  filled : ∀ i p, c.params[i]? = some p → args.positional.length ≤ i → p ∉ args.names →
    c.params.length ≤ i + c.defaults.length

-- A parameter that is still to be given.
def Accepts (c : Closure) (args : Arguments) (key : String) : Prop :=
  key ∈ c.params ∧ key ∉ c.params.take args.positional.length

-- A parameter that is given in no way.
structure Bare (c : Closure) (args : Arguments) (i : Nat) (p : String) : Prop where
  place : c.params[i]? = some p
  beyond : args.positional.length ≤ i
  absent : p ∉ args.names
  bare : i + c.defaults.length < c.params.length

-- The first thing that does not fit, and what it is refused with.
inductive Misfit (c : Closure) (args : Arguments) : Failure → Prop where
  | many (more : c.params.length < args.positional.length) :
      Misfit c args (.tooManyArguments c.name c.params.length args.positional.length)
  | unknown {before after : List (String × Value)} {key : String} {v : Value}
      (few : args.positional.length ≤ c.params.length) (named : args.named = before ++ (key, v) :: after)
      (prior : ∀ pair ∈ before, Accepts c args pair.1) (stranger : key ∉ c.params) :
      Misfit c args (.unexpectedKeyword c.name key)
  | twice {before after : List (String × Value)} {key : String} {v : Value}
      (few : args.positional.length ≤ c.params.length) (named : args.named = before ++ (key, v) :: after)
      (prior : ∀ pair ∈ before, Accepts c args pair.1)
      (given : key ∈ c.params.take args.positional.length) :
      Misfit c args (.repeatedArgument c.name key)
  | missing {i : Nat} {p : String} (few : args.positional.length ≤ c.params.length)
      (named : ∀ key ∈ args.names, Accepts c args key) (bare : Bare c args i p)
      (prior : ∀ j < i, ∀ q, ¬ Bare c args j q) : Misfit c args (.missingArgument c.name p)

theorem bindNamed_append (before after : List (String × Value)) (f : Frame) :
    bindNamed c (before ++ after) f = (bindNamed c before f).bind (bindNamed c after) := by
  induction before generalizing f with
  | nil => rfl
  | cons pair rest ih =>
    obtain ⟨key, v⟩ := pair
    rw [List.cons_append, bindNamed, bindNamed]
    split
    · rfl
    · split
      · rfl
      · exact ih _

-- Arguments by name are bound when each of them is a parameter that nothing is bound to.
theorem bindNamed_ok {named : List (String × Value)} (distinct : (named.map (·.1)).Nodup)
    (open_ : ∀ pair ∈ named, pair.1 ∈ c.params ∧ f.find? pair.1 = none) :
    bindNamed c named f = .ok (f.binds named) := by
  induction named generalizing f with
  | nil => rfl
  | cons pair rest ih =>
    obtain ⟨key, v⟩ := pair
    rw [List.map_cons, List.nodup_cons] at distinct
    obtain ⟨⟨known, fresh⟩, others⟩ := List.forall_mem_cons.mp open_
    have here : (!c.params.contains key) = false := by simpa using known
    rw [bindNamed, here, if_neg Bool.false_ne_true, fresh]
    refine ih distinct.2 fun pair inside => ?_
    obtain ⟨known, fresh⟩ := others pair inside
    have apart : pair.1 ≠ key := fun same =>
      distinct.1 (List.mem_map.mpr ⟨pair, inside, same⟩)
    exact ⟨known, by rw [find?_bind, if_neg apart, fresh]⟩

theorem bindNamed_unknown {key : String} (v : Value) (rest : List (String × Value))
    (stranger : key ∉ c.params) :
    bindNamed c ((key, v) :: rest) f = .error (.failure (.unexpectedKeyword c.name key)) := by
  rw [bindNamed, if_pos (by simpa using stranger)]

theorem bindNamed_twice {key : String} (v : Value) (rest : List (String × Value))
    (known : key ∈ c.params) (bound : f.find? key ≠ none) :
    bindNamed c ((key, v) :: rest) f = .error (.failure (.repeatedArgument c.name key)) := by
  have here : (!c.params.contains key) = false := by simpa using known
  rw [bindNamed, here, if_neg Bool.false_ne_true, if_pos (Option.isSome_iff_ne_none.mpr bound)]

theorem bindDefaults_append (before after : List (String × Nat)) (f : Frame) :
    bindDefaults c (before ++ after) f =
      (bindDefaults c before f).bind (bindDefaults c after) := by
  induction before generalizing f with
  | nil => rfl
  | cons pair rest ih =>
    obtain ⟨key, place⟩ := pair
    rw [List.cons_append, bindDefaults, bindDefaults]
    split
    · exact ih f
    · split
      · exact ih _
      · rfl

-- What a name stands for once defaults are bound.
def filling (c : Closure) (places : List (String × Nat)) (f : Frame) (name : String) : Option Value :=
  (f.find? name).or ((places.lookup name).bind (defaultFor? c))

theorem bindDefaults_ok {places : List (String × Nat)}
    (full : ∀ pair ∈ places, f.find? pair.1 = none → defaultFor? c pair.2 ≠ none) :
    ∃ f', bindDefaults c places f = .ok f' ∧ f'.parent = f.parent ∧
      ∀ name, f'.find? name = filling c places f name := by
  induction places generalizing f with
  | nil => exact ⟨f, rfl, rfl, fun name => Option.or_none.symm⟩
  | cons pair rest ih =>
    obtain ⟨key, place⟩ := pair
    obtain ⟨here, others⟩ := List.forall_mem_cons.mp full
    rw [bindDefaults]
    by_cases bound : (f.find? key).isSome
    · rw [if_pos bound]
      obtain ⟨f', ended, parent, stands⟩ := ih others
      refine ⟨f', ended, parent, fun name => (stands name).trans ?_⟩
      rw [filling, filling, lookup_pair]
      by_cases same : name = key
      · obtain ⟨v, held⟩ := Option.isSome_iff_exists.mp bound
        rw [same, held]
        rfl
      · rw [if_neg same]
    · rw [if_neg bound]
      have unbound : f.find? key = none := by simpa using bound
      obtain ⟨v, held⟩ := Option.ne_none_iff_exists'.mp (here unbound)
      rw [held]
      obtain ⟨f', ended, parent, stands⟩ := ih (f := f.bind key v) fun pair inside unbound => by
        rw [find?_bind] at unbound
        split at unbound
        · cases unbound
        · exact others pair inside unbound
      refine ⟨f', ended, parent.trans parent_bind, fun name => (stands name).trans ?_⟩
      rw [filling, filling, lookup_pair, find?_bind]
      by_cases same : name = key
      · rw [if_pos same, if_pos same, same, unbound, Option.bind_some, held]
        rfl
      · rw [if_neg same, if_neg same]

theorem bindDefaults_missing {key : String} {place : Nat} (rest : List (String × Nat))
    (unbound : f.find? key = none) (bare : defaultFor? c place = none) :
    bindDefaults c ((key, place) :: rest) f = .error (.failure (.missingArgument c.name key)) := by
  have none : ¬ (f.find? key).isSome := by simp [unbound]
  rw [bindDefaults, if_neg none, bare]

theorem zip_names (ps : List String) (vs : List Value) :
    (ps.zip vs).map (·.1) = ps.take vs.length := by
  induction ps generalizing vs with
  | nil => rw [List.zip_nil_left, List.take_nil, List.map_nil]
  | cons p ps ih =>
    cases vs with
    | nil => rfl
    | cons v vs =>
      rw [List.zip_cons_cons, List.map_cons, ih, List.length_cons, List.take_succ_cons]

-- The scope once the arguments are bound that have a place.
def placed (c : Closure) (args : Arguments) : Frame :=
  Frame.binds ⟨#[], some c.scope⟩ (c.params.zip args.positional)

section
variable (distinct : c.params.Nodup)
include distinct

theorem zip_distinct (vs : List Value) : ((c.params.zip vs).map (·.1)).Nodup := by
  rw [zip_names]
  exact distinct.sublist (List.take_sublist _ _)

theorem find?_placed (p : String) :
    (placed c args).find? p = (c.params.zip args.positional).lookup p :=
  (find?_binds (zip_distinct distinct _)).trans Option.or_none

theorem placed_some {p : String} {v : Value} :
    (placed c args).find? p = some v ↔
      ∃ i : Nat, c.params[i]? = some p ∧ args.positional[i]? = some v := by
  rw [find?_placed distinct, lookup_iff (zip_distinct distinct _), List.mem_iff_getElem?]
  simp only [List.getElem?_zip_eq_some]

theorem placed_none {p : String} :
    (placed c args).find? p = none ↔ p ∉ c.params.take args.positional.length := by
  rw [find?_placed distinct, lookup_none, zip_names]

end

theorem bindParameters_few (few : args.positional.length ≤ c.params.length) :
    bindParameters c args =
      (bindNamed c args.named (placed c args)).bind (bindDefaults c c.params.zipIdx) := by
  unfold bindParameters
  dsimp only
  rw [if_neg (Nat.not_lt.mpr few)]
  rfl

-- The scope once the arguments are bound that have a name, too.
def named (c : Closure) (args : Arguments) : Frame := (placed c args).binds args.named

theorem find?_named (names : args.names.Nodup) (p : String) :
    (named c args).find? p = (args.named.lookup p).or ((placed c args).find? p) :=
  find?_binds names

theorem split_distinct {before after : List (String × Value)} {pair : String × Value}
    (names : args.names.Nodup) (split : args.named = before ++ pair :: after) :
    (before.map (·.1)).Nodup := by
  rw [Arguments.names, split, List.map_append] at names
  exact names.of_append_left

theorem zipIdx_split {xs : List String} {i : Nat} {p : String} (place : xs[i]? = some p) :
    xs.zipIdx = (xs.take i).zipIdx ++ (p, i) :: (xs.drop (i + 1)).zipIdx (i + 1) := by
  obtain ⟨within, same⟩ := List.getElem?_eq_some_iff.mp place
  have parts : xs.take i ++ p :: xs.drop (i + 1) = xs := by
    rw [← same, List.getElem_cons_drop, List.take_append_drop]
  have length : (xs.take i).length = i := List.length_take_of_le (Nat.le_of_lt within)
  have whole := congrArg List.zipIdx parts
  rw [List.zipIdx_append, List.zipIdx_cons, length, Nat.zero_add] at whole
  exact whole.symm

theorem defaultFor?_some (defaults : c.defaults.length ≤ c.params.length) {i : Nat} {v : Value} :
    defaultFor? c i = some v ↔
      ∃ j : Nat, i + c.defaults.length = c.params.length + j ∧ c.defaults[j]? = some v := by
  rw [defaultFor?]
  constructor
  · intro held
    split at held
    · exact ⟨i - (c.params.length - c.defaults.length), by omega, held⟩
    · cases held
  · rintro ⟨j, place, held⟩
    have index : i - (c.params.length - c.defaults.length) = j := by omega
    rw [if_pos (by omega), index, held]

theorem defaultFor?_none (defaults : c.defaults.length ≤ c.params.length) {i : Nat}
    (inside : i < c.params.length) :
    defaultFor? c i = none ↔ i + c.defaults.length < c.params.length := by
  rw [defaultFor?]
  split
  · rw [List.getElem?_eq_none_iff]
    omega
  · simp only [true_iff]
    omega

section
variable (distinct : c.params.Nodup) (names : args.names.Nodup)
include distinct

theorem take_place {i n : Nat} {p : String} (place : c.params[i]? = some p) :
    p ∈ c.params.take n ↔ i < n := by
  rw [List.mem_iff_getElem?]
  constructor
  · rintro ⟨j, held⟩
    rw [List.getElem?_take] at held
    split at held
    · have inside := (List.getElem?_eq_some_iff.mp held).1
      have same := (List.getElem?_inj inside distinct).mp (held.trans place.symm)
      omega
    · cases held
  · intro before
    exact ⟨i, by rw [List.getElem?_take, if_pos before, place]⟩

theorem place_lookup {i : Nat} {p : String} (place : c.params[i]? = some p) :
    c.params.zipIdx.lookup p = some i := by
  have keys : (c.params.zipIdx.map (·.1)).Nodup := by
    rw [List.zipIdx_map_fst]
    exact distinct
  rw [lookup_iff keys, List.mk_mem_zipIdx_iff_getElem?]
  exact place

include names

theorem named_none {p : String} :
    (named c args).find? p = none ↔
      p ∉ args.names ∧ p ∉ c.params.take args.positional.length := by
  rw [find?_named names, Option.or_eq_none_iff, lookup_none, placed_none distinct,
    Arguments.names]

-- What no argument is given for, neither in its place nor by name.
theorem named_none_at {i : Nat} {p : String} (place : c.params[i]? = some p) :
    (named c args).find? p = none ↔ p ∉ args.names ∧ args.positional.length ≤ i := by
  rw [named_none distinct names, take_place distinct place, Nat.not_lt]

theorem bindParameters_named (few : args.positional.length ≤ c.params.length)
    (accepts : ∀ key ∈ args.names, Accepts c args key) :
    bindParameters c args = bindDefaults c c.params.zipIdx (named c args) := by
  have open_ (pair) (inside : pair ∈ args.named) :
      pair.1 ∈ c.params ∧ (placed c args).find? pair.1 = none := by
    rw [placed_none distinct]
    exact accepts _ (List.mem_map_of_mem inside)
  rw [bindParameters_few few, bindNamed_ok names open_]
  rfl

theorem Fits.starts (defaults : c.defaults.length ≤ c.params.length) (fits : Fits c args) :
    ∃ f, bindParameters c args = .ok f ∧ Starts c args f := by
  have full (pair) (inside : pair ∈ c.params.zipIdx) (unbound : (named c args).find? pair.1 = none) :
      defaultFor? c pair.2 ≠ none := by
    have place := List.mem_zipIdx_iff_getElem?.mp inside
    obtain ⟨absent, beyond⟩ := (named_none_at distinct names place).mp unbound
    have within := (List.getElem?_eq_some_iff.mp place).1
    rw [Ne, defaultFor?_none defaults within, Nat.not_lt]
    exact fits.filled _ _ place beyond absent
  obtain ⟨f, ended, around, stands⟩ := bindDefaults_ok full
  refine ⟨f, ?_, ?_, fun i p place => ?_, fun name stranger => ?_⟩
  · rw [bindParameters_named distinct names fits.few fun key inside =>
      ⟨fits.known key inside, fits.once key inside⟩]
    exact ended
  · rw [around, named, parent_binds, placed, parent_binds]
  · rw [stands, filling, find?_named names]
    by_cases before : i < args.positional.length
    · have taken : p ∈ c.params.take args.positional.length := (take_place distinct place).mpr before
      have absent : p ∉ args.named.map (·.1) := fun inside => fits.once p inside taken
      have given : args.positional[i]? = some args.positional[i] := List.getElem?_eq_getElem before
      rw [lookup_none.mpr absent, (placed_some distinct).mpr ⟨i, place, given⟩]
      exact ⟨_, .placed given, rfl⟩
    · have beyond := Nat.not_lt.mp before
      by_cases inside : p ∈ args.names
      · obtain ⟨pair, member, rfl⟩ := List.mem_map.mp inside
        rw [(lookup_iff names).mpr member]
        exact ⟨_, .named beyond member, rfl⟩
      · have unbound := (named_none_at distinct names place).mpr ⟨inside, beyond⟩
        have held := full (p, i) (List.mem_zipIdx_iff_getElem?.mpr place) unbound
        obtain ⟨v, held⟩ := Option.ne_none_iff_exists'.mp held
        obtain ⟨j, index, default⟩ := (defaultFor?_some defaults).mp held
        rw [← find?_named names, unbound, place_lookup distinct place, Option.bind_some,
          held]
        exact ⟨v, .default beyond inside index default, rfl⟩
  · have absent : name ∉ args.names := fun inside => stranger (fits.known name inside)
    have untaken : name ∉ c.params.take args.positional.length :=
      fun inside => stranger (List.mem_of_mem_take inside)
    have nowhere : name ∉ c.params.zipIdx.map (·.1) := by
      rw [List.zipIdx_map_fst]
      exact stranger
    rw [stands, filling, (named_none distinct names).mpr ⟨absent, untaken⟩, lookup_none.mpr nowhere]
    rfl

-- Up to the first one, names are bound.
theorem bindParameters_split {before after : List (String × Value)} {key : String} {v : Value}
    (split : args.named = before ++ (key, v) :: after)
    (few : args.positional.length ≤ c.params.length)
    (prior : ∀ pair ∈ before, Accepts c args pair.1) :
    bindParameters c args = (bindNamed c ((key, v) :: after) ((placed c args).binds before)).bind
      (bindDefaults c c.params.zipIdx) := by
  have open_ (pair) (inside : pair ∈ before) :
      pair.1 ∈ c.params ∧ (placed c args).find? pair.1 = none := by
    rw [placed_none distinct]
    exact prior pair inside
  rw [bindParameters_few few, split, bindNamed_append,
    bindNamed_ok (split_distinct names split) open_]
  rfl

theorem Misfit.refused (defaults : c.defaults.length ≤ c.params.length) {what : Failure}
    (misfit : Misfit c args what) : bindParameters c args = .error (.failure what) := by
  cases misfit with
  | many more =>
    unfold bindParameters
    dsimp only
    rw [if_pos more]
    rfl
  | @unknown before after key v few split prior stranger =>
    rw [bindParameters_split distinct names split few prior, bindNamed_unknown v after stranger]
    rfl
  | @twice before after key v few split prior given =>
    have bound : ((placed c args).binds before).find? key ≠ none := by
      rw [find?_binds (split_distinct names split), Ne, Option.or_eq_none_iff, placed_none distinct]
      exact fun free => free.2 given
    rw [bindParameters_split distinct names split few prior,
      bindNamed_twice v after (List.mem_of_mem_take given) bound]
    rfl
  | @missing i p few accepts bare prior =>
    have within := (List.getElem?_eq_some_iff.mp bare.place).1
    have full (pair) (inside : pair ∈ (c.params.take i).zipIdx)
        (unbound : (named c args).find? pair.1 = none) : defaultFor? c pair.2 ≠ none := by
      have place := List.mem_zipIdx_iff_getElem?.mp inside
      rw [List.getElem?_take] at place
      split at place
      · rename_i earlier
        obtain ⟨absent, untaken⟩ := (named_none_at distinct names place).mp unbound
        rw [Ne, defaultFor?_none defaults (Nat.lt_trans earlier within)]
        exact fun few => prior _ earlier _ ⟨place, untaken, absent, few⟩
      · cases place
    obtain ⟨f, ended, -, stands⟩ := bindDefaults_ok full
    have unbound : f.find? p = none := by
      have nowhere : p ∉ (c.params.take i).zipIdx.map (·.1) := by
        rw [List.zipIdx_map_fst, take_place distinct bare.place]
        exact Nat.lt_irrefl i
      rw [stands, filling, (named_none_at distinct names bare.place).mpr ⟨bare.absent, bare.beyond⟩,
        lookup_none.mpr nowhere]
      rfl
    have none := (defaultFor?_none defaults within).mpr bare.bare
    rw [bindParameters_named distinct names few accepts, zipIdx_split bare.place,
      bindDefaults_append, ended]
    exact bindDefaults_missing _ unbound none

end

open Classical in
theorem fits_or_misfit (c : Closure) (args : Arguments) :
    Fits c args ∨ ∃ what, Misfit c args what := by
  by_cases few : args.positional.length ≤ c.params.length
  · cases first : args.named.find? fun pair => decide (¬ Accepts c args pair.1) with
    | some pair =>
      obtain ⟨key, v⟩ := pair
      obtain ⟨refuses, before, after, split, prior⟩ := List.find?_eq_some_iff_append.mp first
      have prior (pair) (inside : pair ∈ before) : Accepts c args pair.1 := by
        simpa using prior pair inside
      by_cases known : key ∈ c.params
      · refine .inr ⟨_, .twice few split prior ?_⟩
        simpa [Accepts, known] using refuses
      · exact .inr ⟨_, .unknown few split prior known⟩
    | none =>
      have accepts (key) (inside : key ∈ args.names) : Accepts c args key := by
        obtain ⟨pair, member, rfl⟩ := List.mem_map.mp inside
        simpa using List.find?_eq_none.mp first pair member
      by_cases bare : ∃ i p, Bare c args i p
      · obtain ⟨p, bare'⟩ := Nat.find_spec bare
        refine .inr ⟨_, .missing few accepts bare' fun j earlier q => ?_⟩
        exact fun other => Nat.find_min bare earlier ⟨q, other⟩
      · refine .inl ⟨few, fun key inside => (accepts key inside).1,
          fun key inside => (accepts key inside).2, fun i p place beyond absent => ?_⟩
        exact Nat.not_lt.mp fun bare' => bare ⟨i, p, place, beyond, absent, bare'⟩
  · exact .inr ⟨_, .many (Nat.not_le.mp few)⟩

theorem misfit_unfit {what : Failure} (misfit : Misfit c args what) : ¬ Fits c args := by
  intro fits
  cases misfit with
  | many more => exact Nat.not_lt.mpr fits.few more
  | @unknown before after key v few split prior stranger =>
    refine stranger (fits.known key ?_)
    simp [Arguments.names, split]
  | @twice before after key v few split prior given =>
    refine fits.once key ?_ given
    simp [Arguments.names, split]
  | missing few accepts bare prior =>
    exact Nat.not_lt.mpr (fits.filled _ _ bare.place bare.beyond bare.absent) bare.bare

-- The machine in which a body starts: one call deeper, with one scope more.
def entering (m : Machine) (f : Frame) : Machine :=
  { m.deepened with heap := (m.heap.newFrame f).2 }

-- What a body has ended with, as its caller is given it.
def answered : EStateM.Result Fault Machine Flow → EStateM.Result Fault Machine Value
  | .ok (.returned v) m => .ok v { m with depth := m.depth - 1 }
  | .ok _ m => .ok .none { m with depth := m.depth - 1 }
  | .error e m => .error e { m with depth := m.depth - 1 }

theorem run_callFunction (r : Rules) (at_ : Nat) (args : Arguments) (l : Limits) (m : Machine) :
    r.callFunction at_ args l m = match bindParameters (m.heap.closureAt at_) args with
      | .error e => .error e.toFault m
      | .ok f =>
        if l.maxCallDepth ≤ m.depth then .error (.limit (.depth l.maxCallDepth)) m
        else answered (r.block m.heap.frames.size (m.heap.closureAt at_).body l (entering m f)) := by
  change (settle (bindParameters (m.heap.closureAt at_) args) >>= _) l m = _
  cases bindParameters (m.heap.closureAt at_) args with
  | error e => rfl
  | ok f =>
    refine (run_called l m _).trans ?_
    dsimp only
    split
    · rfl
    · change leaving _ _ ((r.block m.heap.frames.size (m.heap.closureAt at_).body >>= _) l
        (entering m f)) = _
      rw [run_bind]
      cases r.block m.heap.frames.size (m.heap.closureAt at_).body l (entering m f) with
      | error e m' => rfl
      | ok flow m' =>
        cases flow with
        | _ => rfl

theorem entering_frame (m : Machine) (f : Frame) :
    (entering m f).heap.frameAt m.heap.frames.size = f := by
  rw [Heap.frameAt]
  change ((m.heap.frames.push f)[m.heap.frames.size]?).getD default = f
  rw [Array.getElem?_push_size]
  rfl

-- A definition evaluates the defaults, and keeps them with the function that its name is bound to.
theorem define_ok {r : Rules} {scope line : Nat} {name : String} {params : List String}
    {defaults : List Script.Expr} {body : List Script.Stmt} {plain decorated : Bool} {l : Limits}
    {m m' : Machine} {flow : Flow}
    (ran : r.execStmt scope (.funcDef name params defaults body plain decorated line) l m =
      .ok flow m') :
    ∃ vs mid, defaults.mapM (r.eval scope) l m.counted = .ok vs mid ∧
      m'.heap.closureAt mid.heap.closures.size = ⟨name, params, vs, body, line, scope⟩ ∧
      (scope < mid.heap.frames.size →
        (m'.heap.frameAt scope).find? name = some (.function mid.heap.closures.size)) := by
  obtain ⟨u, mid, ticked, ran⟩ := bind_ok ran
  rw [(tick_ok ticked).1] at ran
  obtain ⟨_, mid, defined, ended⟩ := bind_ok ran
  obtain ⟨vs, mid, evaluated, made⟩ := bind_ok defined
  cases ended
  cases made
  refine ⟨vs, mid, evaluated, ?_, fun within => ?_⟩
  · change ((mid.heap.closures.push _)[mid.heap.closures.size]?).getD default = _
    rw [Array.getElem?_push_size]
    rfl
  · change (((mid.heap.frames.modify scope _)[scope]?).getD default).find? name = _
    rw [Array.getElem?_modify, if_pos rfl, Array.getElem?_eq_getElem within]
    exact find?_bind.trans (if_pos rfl)

-- Functions that there are stay as they are, and with them their defaults, whatever is run.
theorem exec_closures (room scope : Nat) (s : Script.Stmt) (l : Limits) (m : Machine) {i : Nat}
    (old : i < m.heap.closures.size) :
    match (rules room).exec scope s l m with
    | .ok _ m' | .error _ m' => m'.heap.closureAt i = m.heap.closureAt i := by
  have known := (known_rules suits_free room).exec ⟨false, false⟩ scope s trivial trivial
  have holds : m.heap.Holds (.free True) := ⟨fun _ _ _ => trivial, fun _ _ => trivial⟩
  have safe := sound_composed known l m holds
  cases ended : (rules room).exec scope s l m with
  | ok v m' =>
    rw [ended] at safe
    exact Heap.Grows.closureAt safe old
  | error e m' =>
    rw [ended] at safe
    exact safe.1.closureAt old

-- A body is run iff the arguments fit and one more call may be open. It starts in a scope of its own,
-- in which each parameter is bound to what it stands for. If it is not run, nothing is.
theorem calls_bind (c : Closure) (args : Arguments) (distinct : c.params.Nodup)
    (defaults : c.defaults.length ≤ c.params.length) (names : args.names.Nodup) :
    (¬ Fits c args ↔ ∃ what, Misfit c args what) ∧
      (∀ at_ (l : Limits) (m : Machine), m.heap.closureAt at_ = c →
        (Fits c args → m.depth < l.maxCallDepth → ∃ f, Starts c args f ∧
          (entering m f).heap.frameAt m.heap.frames.size = f ∧
          ∀ r : Rules, r.callFunction at_ args l m =
            answered (r.block m.heap.frames.size c.body l (entering m f))) ∧
        (∀ what, Misfit c args what → what.kind = .type ∧
          ∀ r : Rules, r.callFunction at_ args l m = .error (.failure what) m) ∧
        (Fits c args → ¬ m.depth < l.maxCallDepth →
          ∀ r : Rules, r.callFunction at_ args l m = .error (.limit (.depth l.maxCallDepth)) m)) ∧
      (∀ (r : Rules) scope name params defaults body plain decorated line l m flow m',
        r.execStmt scope (.funcDef name params defaults body plain decorated line) l m =
          .ok flow m' →
        ∃ vs mid, defaults.mapM (r.eval scope) l m.counted = .ok vs mid ∧
          m'.heap.closureAt mid.heap.closures.size = ⟨name, params, vs, body, line, scope⟩ ∧
          (scope < mid.heap.frames.size →
            (m'.heap.frameAt scope).find? name = some (.function mid.heap.closures.size))) ∧
      ∀ room scope s l m, ∀ i < m.heap.closures.size,
        match (rules room).exec scope s l m with
        | .ok _ m' | .error _ m' => m'.heap.closureAt i = m.heap.closureAt i := by
  refine ⟨⟨(fits_or_misfit c args).resolve_left, fun ⟨_, misfit⟩ => misfit_unfit misfit⟩, ?_, ?_,
    fun room scope s l m i old => exec_closures room scope s l m old⟩
  · intro at_ l m here
    refine ⟨fun fits room => ?_, fun what misfit => ?_, fun fits full r => ?_⟩
    · obtain ⟨f, bound, starts⟩ := fits.starts distinct names defaults
      refine ⟨f, starts, entering_frame m f, fun r => ?_⟩
      rw [run_callFunction, here, bound]
      exact if_neg (Int.not_le.mpr room)
    · have refused := misfit.refused distinct names defaults
      refine ⟨?_, fun r => ?_⟩
      · cases misfit with
        | _ => rfl
      · rw [run_callFunction, here, refused]
        rfl
    · obtain ⟨f, bound, -⟩ := fits.starts distinct names defaults
      rw [run_callFunction, here, bound]
      exact if_pos (Int.not_lt.mp full)
  · intro r scope name params defaults body plain decorated line l m flow m' ran
    exact define_ok ran

def three : Closure :=
  ⟨"three", ["a", "b", "c"], [.int 3], [.giveBack (some (.name "c" 1)) 1], 1, 0⟩

def ready : Machine := { heap := { Heap.initial with closures := #[three] } }

def byName : Arguments := ⟨[.int 1], [("b", .int 2)]⟩

def givenTwice : Arguments := ⟨[.int 1], [("a", .int 2)]⟩

theorem byName_fits : Fits three byName where
  few := by decide
  known := by decide
  once := by decide
  filled i p place beyond absent := by
    match i with
    | 0 => exact absurd beyond (by decide)
    | 1 =>
      cases place
      exact absurd (List.mem_singleton.mpr rfl) absent
    | 2 => decide
    | i + 3 => cases place

-- The definition of a function with a default, in the scope of the module.
def defThree : Script.Stmt :=
  .funcDef "three" ["a", "b", "c"] [.const (.int 3)] [.giveBack (some (.name "c" 1)) 1] true false 1

theorem three_binds :
    (∃ f, Starts three byName f ∧ (rules 9).callFunction 0 byName {} ready =
        answered ((rules 9).block 1 three.body {} (entering ready f))) ∧
      (∃ what, Misfit three givenTwice what ∧
        (rules 9).callFunction 0 givenTwice {} ready = .error (.failure what) ready) ∧
      (rules 9).callFunction 0 byName { maxCallDepth := 0 } ready = .error (.limit (.depth 0)) ready ∧
      (∃ flow m' vs mid, (rules 9).execStmt 0 defThree {} {} = .ok flow m' ∧
        [Script.Expr.const (.int 3)].mapM ((rules 9).eval 0) {} ({} : Machine).counted = .ok vs mid ∧
        m'.heap.closureAt mid.heap.closures.size =
          ⟨"three", ["a", "b", "c"], vs, [.giveBack (some (.name "c" 1)) 1], 1, 0⟩) ∧
      match (rules 9).exec 0 defThree {} ready with
        | .ok _ m' | .error _ m' => m'.heap.closureAt 0 = three := by
  have unfit : ¬ Fits three givenTwice := fun fits => fits.once "a" (by decide) (by decide)
  obtain ⟨-, calls, defines, stay⟩ := calls_bind three byName (by decide) (by decide) (by decide)
  obtain ⟨first, others, -⟩ := calls_bind three givenTwice (by decide) (by decide) (by decide)
  refine ⟨?_, ?_, (calls 0 { maxCallDepth := 0 } ready rfl).2.2 byName_fits (by decide) _, ?_, ?_⟩
  · obtain ⟨f, starts, -, ran⟩ := (calls 0 {} ready rfl).1 byName_fits (by decide)
    exact ⟨f, starts, ran _⟩
  · obtain ⟨what, misfit⟩ := first.mp unfit
    exact ⟨what, misfit, ((others 0 {} ready rfl).2.1 what misfit).2 _⟩
  · have some : (given? ((rules 9).execStmt 0 defThree {} {})).isSome := by decide +kernel
    obtain ⟨⟨flow, m'⟩, given⟩ := Option.isSome_iff_exists.mp some
    have ran := given_some given
    obtain ⟨vs, mid, evaluated, held, -⟩ := defines _ _ _ _ _ _ _ _ _ _ _ _ _ ran
    exact ⟨flow, m', vs, mid, ran, evaluated, held⟩
  · exact stay 9 0 defThree {} ready 0 (by decide)

end Run
end ScriptArena
