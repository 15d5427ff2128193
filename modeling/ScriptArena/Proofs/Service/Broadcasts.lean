import ScriptArena.Proofs.Service.Exchange

namespace ScriptArena.Service.Exchange

variable {k : Nat} {a : Ask} {p p' : Point} {x x' : Exchange} {events seen : List Event}
  {c d : Connections} {ids visited : List Nat} {failing : Option Nat} {taken : Nat}

theorem sends_append (k : Nat) (seen events : List Event) :
    sends k (seen ++ events) = sends k seen ++ sends k events := List.filterMap_append

theorem mem_resumed {e : Event} {after : Option Round} (seen : e ∈ Event.resumed k after) :
    after = none ∧ e = .replied k .disconnected := by
  cases after with
  | none => exact ⟨rfl, List.mem_singleton.mp seen⟩
  | some => exact absurd seen List.not_mem_nil

theorem goes_call (goes : Goes k a p x events p' x') : ∀ e ∈ events, e.call = k := by
  cases goes with
  | miss | countDown => exact fun e seen => (mem_resumed seen).2 ▸ rfl
  | skip | address | hangUp | giveUp => exact List.forall_mem_nil _
  | _ => exact List.forall_mem_singleton.mpr rfl

-- What is seen of one call says nothing about another one.
theorem sends_other {j : Nat} (apart : ∀ e ∈ events, e.call ≠ j) : sends j events = [] := by
  refine List.filterMap_eq_nil_iff.mpr fun e seen => ?_
  have other := apart e seen
  cases e with
  | sent k id taken => exact if_neg other
  | _ => rfl

-- What a call has done that has gone through some of its connections. Each of them that was there in the
-- beginning has been sent the message or is gone.
structure Told (seen : List Event) (k : Nat) (c : Connections) (ids visited : List Nat)
    (failing : Option Nat) (taken : Nat) : Prop where
  once : ((sends k seen).map (·.1)).Sublist visited
  taken : (sends k seen).countP (·.2) = taken
  failed : ∀ id, (id, false) ∈ sends k seen → failing = some id ∨ Gone c id
  all : ∀ id ∈ visited, id ∈ ids → id ∈ (sends k seen).map (·.1) ∨ Gone c id

theorem told_none (none : sends k seen = []) : Told seen k c ids [] failing 0 := by
  constructor
  · rw [none]
    exact .slnil
  · rw [none]
    rfl
  · rw [none]
    exact fun id sent => absurd sent List.not_mem_nil
  · exact fun id listed => absurd listed List.not_mem_nil

theorem told_later (told : Told seen k c ids visited failing taken) (later : Later c d)
    (none : sends k events = []) : Told (seen ++ events) k d ids visited failing taken := by
  have same : sends k (seen ++ events) = sends k seen := by rw [sends_append, none, List.append_nil]
  constructor
  · exact same ▸ told.once
  · exact same ▸ told.taken
  · intro id sent
    exact (told.failed id (same ▸ sent)).imp_right (later.gone id)
  · intro id listed wanted
    exact same ▸ (told.all id listed wanted).imp_right (later.gone id)

theorem told_skip (told : Told seen k c ids visited none taken) (known : ∀ id ∈ ids, id < c.sockets.length)
    {id : Nat} (absent : id ∉ c.connected) : Told seen k c ids (visited ++ [id]) none taken := by
  refine ⟨told.once.trans (List.sublist_append_left _ _), told.taken, told.failed, fun other listed wanted => ?_⟩
  rcases List.mem_append.mp listed with before | last
  · exact told.all other before wanted
  · cases List.mem_singleton.mp last
    exact .inr ⟨known _ wanted, absent⟩

theorem sends_sent (id : Nat) (success : Bool) :
    sends k (seen ++ [.sent k id success]) = sends k seen ++ [(id, success)] := by
  rw [sends_append]
  simp [sends, Event.sent?]

-- One more send; if it has failed, its connection is about to be removed.
theorem told_sent (told : Told seen k c ids visited none taken) (later : Later c d) (id : Nat)
    (success : Bool) : Told (seen ++ [.sent k id success]) k d ids (visited ++ [id])
      (if success then none else some id) (if success then taken + 1 else taken) := by
  constructor
  · rw [sends_sent, List.map_append]
    exact told.once.append (List.Sublist.refl _)
  · rw [sends_sent, List.countP_append, told.taken, List.countP_singleton]
    cases success with
    | true => rfl
    | false => rfl
  · intro other sent
    rw [sends_sent, List.mem_append, List.mem_singleton, Prod.mk.injEq] at sent
    rcases sent with before | ⟨rfl, rfl⟩
    · rcases told.failed other before with impossible | gone
      · cases impossible
      · exact .inr (later.gone other gone)
    · exact .inl rfl
  · intro other listed wanted
    rw [sends_sent, List.map_append]
    rcases List.mem_append.mp listed with before | last
    · exact (told.all other before wanted).imp (List.mem_append_left _) (later.gone other)
    · exact .inl (List.mem_append_right _ last)

theorem told_gone {id : Nat} (told : Told seen k c ids visited (some id) taken) (gone : Gone c id) :
    Told seen k c ids visited none taken := by
  refine ⟨told.once, told.taken, fun other sent => .inr ?_, told.all⟩
  rcases told.failed other sent with same | gone'
  · cases same
    exact gone
  · exact gone'

-- What has been seen of a call, by where it is.
def Follows (seen : List Event) (k : Nat) (c : Connections) (ids : List Nat) (a : Ask) : Point → Prop
  | .accepting _ | .added _ => sends k seen = [] ∧ a.isRound = false
  | .leaving id none | .removed id none => sends k seen = [] ∧ a = .disconnect id
  | .sending r =>
    ∃ visited, a.targets ids = visited ++ r.todo ∧ Told seen k c ids visited none r.taken
  | .waiting id r => id < c.sockets.length ∧
    ∃ visited, a.targets ids = visited ++ id :: r.todo ∧ Told seen k c ids visited none r.taken
  | .leaving id (some r) => id < c.sockets.length ∧ (id, false) ∈ sends k seen ∧
    ∃ visited, a.targets ids = visited ++ [id] ++ r.todo ∧
      Told seen k c ids (visited ++ [id]) (some id) r.taken
  | .removed id (some r) =>
    ∃ visited, a.targets ids = visited ++ [id] ++ r.todo ∧
      Told seen k c ids (visited ++ [id]) none r.taken
  | .ended => ((sends k seen).map (·.1)).Sublist (a.targets ids) ∧
    ∀ r, .replied k r ∈ seen → a.isRound = true →
      ∃ taken, r = a.told taken ∧ Told seen k c ids (a.targets ids) none taken

theorem follows_once (follows : Follows seen k c ids a p) :
    ((sends k seen).map (·.1)).Sublist (a.targets ids) := by
  have idle : sends k seen = [] → ((sends k seen).map (·.1)).Sublist (a.targets ids) := by
    intro none
    rw [none]
    exact List.nil_sublist _
  cases p with
  | accepting | added => exact idle follows.1
  | sending r =>
    rcases follows with ⟨visited, whole, told⟩
    exact whole ▸ told.once.trans (List.sublist_append_left _ _)
  | waiting id r =>
    rcases follows with ⟨-, visited, whole, told⟩
    exact whole ▸ told.once.trans (List.sublist_append_left _ _)
  | leaving id after =>
    cases after with
    | none => exact idle follows.1
    | some r =>
      rcases follows with ⟨-, -, visited, whole, told⟩
      exact whole ▸ told.once.trans (List.sublist_append_left _ _)
  | removed id after =>
    cases after with
    | none => exact idle follows.1
    | some r =>
      rcases follows with ⟨visited, whole, told⟩
      exact whole ▸ told.once.trans (List.sublist_append_left _ _)
  | ended => exact follows.1

-- What others do changes nothing about it.
theorem follows_later (follows : Follows seen k c ids a p) (later : Later c d)
    (apart : ∀ e ∈ events, e.call ≠ k) : Follows (seen ++ events) k d ids a p := by
  have none := sends_other apart
  have same : sends k (seen ++ events) = sends k seen := by rw [sends_append, none, List.append_nil]
  cases p with
  | accepting | added => exact ⟨same.trans follows.1, follows.2⟩
  | sending r =>
    rcases follows with ⟨visited, whole, told⟩
    exact ⟨visited, whole, told_later told later none⟩
  | waiting id r =>
    rcases follows with ⟨known, visited, whole, told⟩
    exact ⟨Nat.lt_of_lt_of_le known later.more, visited, whole, told_later told later none⟩
  | leaving id after =>
    cases after with
    | none => exact ⟨same.trans follows.1, follows.2⟩
    | some r =>
      rcases follows with ⟨known, sent, visited, whole, told⟩
      exact ⟨Nat.lt_of_lt_of_le known later.more, same ▸ sent, visited, whole,
        told_later told later none⟩
  | removed id after =>
    cases after with
    | none => exact ⟨same.trans follows.1, follows.2⟩
    | some r =>
      rcases follows with ⟨visited, whole, told⟩
      exact ⟨visited, whole, told_later told later none⟩
  | ended =>
    rcases follows with ⟨once, ended⟩
    refine ⟨same ▸ once, fun r replied round => ?_⟩
    rcases List.mem_append.mp replied with before | now
    · rcases ended r before round with ⟨taken, reply, told⟩
      exact ⟨taken, reply, told_later told later none⟩
    · exact absurd rfl (apart _ now)

-- A call that does not go through connections ends without having spoken to one.
theorem follows_over (idle : sends k seen = []) (single : a.isRound = false) (r : Reply) :
    Follows (seen ++ [.replied k r]) k c ids a .ended := by
  have none : sends k (seen ++ [.replied k r]) = [] := by
    rw [sends_append, idle]
    rfl
  refine ⟨?_, fun _ _ round => absurd (single.symm.trans round) Bool.false_ne_true⟩
  rw [none]
  exact List.nil_sublist _

-- After a removal, or when nothing was left to remove, the round goes on.
theorem follows_resumed {id : Nat} {after : Option Round}
    (follows : Follows seen k c ids a (.removed id after)) :
    Follows (seen ++ Event.resumed k after) k c ids a (.resumed after) := by
  cases after with
  | none => exact follows_over follows.1 (follows.2 ▸ rfl) _
  | some r =>
    rcases follows with ⟨visited, whole, told⟩
    exact ⟨visited ++ [id], whole, told_later told (later_refl c) rfl⟩

theorem goes_follows (goes : Goes k a p x events p' x') (known : ∀ id ∈ ids, id < x.connections.sockets.length)
    (sound : Sound x.connections) (quiet : p ≠ .ended → ∀ r, .replied k r ∉ seen)
    (follows : Follows seen k x.connections ids a p) :
    Follows (seen ++ events) k x'.connections ids a p' := by
  cases goes with
  | accept s =>
    refine ⟨?_, follows.2⟩
    rw [sends_append, follows.1]
    rfl
  | refuse s => exact follows_over follows.1 follows.2 _
  | countUp id => exact follows_over follows.1 follows.2 _
  | finish m taken =>
    rcases follows with ⟨visited, whole, told⟩
    rw [List.append_nil] at whole
    have after : Told (seen ++ [.replied k (a.told taken)]) k x.connections ids (a.targets ids) none taken :=
      told_later (whole ▸ told) (later_refl _) rfl
    refine ⟨after.once, fun r replied round => ?_⟩
    rcases List.mem_append.mp replied with before | now
    · exact absurd before (quiet nofun r)
    · cases List.mem_singleton.mp now
      exact ⟨taken, rfl, after⟩
  | @skip m id todo taken x absent =>
    rcases follows with ⟨visited, whole, told⟩
    rw [List.append_nil]
    exact ⟨visited ++ [id], whole.trans (List.append_cons _ _ _),
      told_skip told known (not_isConnected.mp absent)⟩
  | address present =>
    rcases follows with ⟨visited, whole, told⟩
    rw [List.append_nil]
    exact ⟨sound.known _ (isConnected_iff.mp present), visited, whole, told⟩
  | deliver id r =>
    rcases follows with ⟨-, visited, whole, told⟩
    exact ⟨visited ++ [id], whole.trans (List.append_cons _ _ _),
      told_sent told (deliver_later id r.m) id true⟩
  | fail id r =>
    rcases follows with ⟨there, visited, whole, told⟩
    refine ⟨there, ?_, visited, whole.trans (List.append_cons _ _ _),
      told_sent told (later_refl _) id false⟩
    rw [sends_sent]
    exact List.mem_append_right _ List.mem_cons_self
  | @remove id after x present =>
    cases after with
    | none =>
      refine ⟨?_, follows.2⟩
      rw [sends_append, follows.1]
      rfl
    | some r =>
      rcases follows with ⟨there, -, visited, whole, told⟩
      have gone : Gone (x.connections.disconnect id) id :=
        ⟨there, fun listed => (mem_disconnect.mp listed).2 rfl⟩
      exact ⟨visited, whole, told_gone (told_later told (disconnect_later id) rfl) gone⟩
  | @miss id after x absent =>
    have settled : Follows seen k x.connections ids a (.removed id after) := by
      cases after with
      | none => exact follows
      | some r =>
        rcases follows with ⟨there, -, visited, whole, told⟩
        exact ⟨visited, whole, told_gone told ⟨there, not_isConnected.mp absent⟩⟩
    exact follows_resumed settled
  | countDown id after => exact follows_resumed follows
  | hangUp s =>
    rw [List.append_nil]
    refine ⟨follows_once (p := .accepting s) follows, fun _ replied => absurd replied (quiet nofun _)⟩
  | giveUp id r =>
    rw [List.append_nil]
    exact ⟨follows_once (p := .waiting id r) follows, fun _ replied => absurd replied (quiet nofun _)⟩

-- A reply is the last thing that is seen of a call.
theorem goes_quiet (goes : Goes k a p x events p' x') (still : p' ≠ .ended) (r : Reply) :
    .replied k r ∉ events := by
  cases goes with
  | refuse | countUp | finish | hangUp | giveUp => exact absurd rfl still
  | miss | countDown =>
    intro replied
    cases (mem_resumed replied).1
    exact still rfl
  | skip | address => exact List.not_mem_nil
  | _ => exact fun replied => nomatch List.mem_singleton.mp replied

-- A connection is removed by who has asked for it, or by who has failed to send to it.
theorem goes_removes (goes : Goes k a p x events p' x') (follows : Follows seen k x.connections ids a p)
    {j id : Nat} (removes : .removed j id ∈ events) :
    j = k ∧ (a = .disconnect id ∨ (id, false) ∈ sends k seen) := by
  cases goes with
  | @remove id after =>
    cases List.mem_singleton.mp removes
    cases after with
    | none => exact ⟨rfl, .inl follows.2⟩
    | some r => exact ⟨rfl, .inr follows.2.1⟩
  | miss | countDown => exact nomatch (mem_resumed removes).2
  | skip | address | hangUp | giveUp => exact absurd removes List.not_mem_nil
  | _ => exact nomatch List.mem_singleton.mp removes

theorem goes_asks (goes : Goes k a p x events p' x') {j : Nat} {b : Ask} {ids : List Nat} :
    .asked j b ids ∉ events := by
  intro asks
  cases goes with
  | miss | countDown => exact nomatch (mem_resumed asks).2
  | skip | address | hangUp | giveUp => exact absurd asks List.not_mem_nil
  | _ => exact nomatch List.mem_singleton.mp asks

-- Why a call may remove a connection, by what has been seen before: it was made for that, or it has failed
-- to send to just that connection.
def Cause (seen : List Event) (k id : Nat) : Prop :=
  (∃ ids, .asked k (.disconnect id) ids ∈ seen) ∨ (id, false) ∈ sends k seen

theorem cause_append {id : Nat} (cause : Cause seen k id) (more : List Event) :
    Cause (seen ++ more) k id := by
  rcases cause with ⟨ids, asked⟩ | sent
  · exact .inl ⟨ids, List.mem_append_left _ asked⟩
  · exact .inr (sends_append .. ▸ List.mem_append_left _ sent)

def Caused (seen : List Event) : Prop :=
  ∀ before after k id, seen = before ++ .removed k id :: after → Cause before k id

theorem caused_append (caused : Caused seen)
    (causes : ∀ k id, .removed k id ∈ events → Cause seen k id) : Caused (seen ++ events) := by
  intro before after k id split
  rcases List.append_eq_append_iff.mp split with ⟨middle, rfl, now⟩ | ⟨middle, earlier, rest⟩
  · exact cause_append (causes k id (now ▸ List.mem_append_right _ List.mem_cons_self)) middle
  · rcases middle with _ | ⟨first, middle⟩
    · rw [List.append_nil] at earlier
      exact earlier ▸ causes k id (List.nil_append events ▸ rest ▸ List.mem_cons_self)
    · cases rest
      exact caused before middle k id earlier

end ScriptArena.Service.Exchange
