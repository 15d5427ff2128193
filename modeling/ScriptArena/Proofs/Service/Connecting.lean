import ScriptArena.Proofs.Service.Broadcasts

namespace ScriptArena.Service.Exchange

variable {k : Nat} {a : Ask} {p p' : Point} {x x' : Exchange} {events seen : List Event}
  {c d : Connections}

structure Call.Sound (seen : List Event) (c : Connections) (k : Nat) (call : Call) : Prop where
  distinct : call.ids.Nodup
  known : ∀ id ∈ call.ids, id < c.sockets.length
  quiet : call.point ≠ .ended → ∀ r, .replied k r ∉ seen
  follows : Follows seen k c call.ids call.ask call.point

theorem call_later {call : Call} (sound : call.Sound seen c k) (later : Later c d)
    (apart : ∀ e ∈ events, e.call ≠ k) : call.Sound (seen ++ events) d k := by
  refine ⟨sound.distinct, fun id listed => Nat.lt_of_lt_of_le (sound.known id listed) later.more, ?_,
    follows_later sound.follows later apart⟩
  intro still r replied
  rcases List.mem_append.mp replied with before | now
  · exact sound.quiet still r before
  · exact apart _ now rfl

theorem call_goes {call : Call} {point : Point} (sound : call.Sound seen x.connections k)
    (connections : Exchange.Sound x.connections) (goes : Goes k call.ask call.point x events point x') :
    Call.Sound (seen ++ events) x'.connections k { call with point } := by
  have later := goes_later goes
  refine ⟨sound.distinct, fun id listed => Nat.lt_of_lt_of_le (sound.known id listed) later.more, ?_,
    goes_follows goes sound.known connections sound.quiet sound.follows⟩
  intro still r replied
  rcases List.mem_append.mp replied with before | now
  · refine sound.quiet ?_ r before
    intro ended
    rw [ended] at goes
    cases goes
  · exact goes_quiet goes still r now

theorem call_begins (connections : Exchange.Sound c) (new : ∀ e ∈ seen, e.call < k) (a : Ask) :
    Call.Sound (seen ++ [.asked k a c.connected]) c k ⟨a, c.connected, a.start c.connected⟩ := by
  have idle : sends k (seen ++ [.asked k a c.connected]) = [] := by
    rw [sends_append, sends_other fun e before => Nat.ne_of_lt (new e before)]
    rfl
  refine ⟨connections.distinct, connections.known, ?_, ?_⟩
  · intro _ r replied
    rcases List.mem_append.mp replied with before | now
    · exact Nat.lt_irrefl k (new _ before)
    · exact nomatch List.mem_singleton.mp now
  · cases a with
    | connect s => exact ⟨idle, rfl⟩
    | disconnect id => exact ⟨idle, rfl⟩
    | send id m => exact ⟨[], rfl, told_none idle⟩
    | broadcast m => exact ⟨[], rfl, told_none idle⟩

structure Accounted (gauge : Int) (seen : List Event) (b : Board) : Prop where
  connections : Sound b.exchange.connections
  gauge : b.exchange.gauge + b.owed = gauge + b.exchange.connections.count
  entered : Entered seen b.exchange.connections
  numbered : ∀ e ∈ seen, e.call < b.calls.length
  asked : ∀ k a ids, .asked k a ids ∈ seen ↔
    ∃ call, b.calls[k]? = some call ∧ call.ask = a ∧ call.ids = ids
  calls : ∀ k (call : Call), b.calls[k]? = some call → call.Sound seen b.exchange.connections k
  caused : Caused seen

variable {gauge : Int} {b b' : Board}

theorem start_accounted (gauge : Int) : Accounted gauge [] { exchange := { gauge } } where
  connections := ⟨.nil, List.forall_mem_nil _⟩
  gauge := rfl
  entered := ⟨fun _ => rfl, fun _ => rfl⟩
  numbered := List.forall_mem_nil _
  asked := by simp
  calls := by simp
  caused := by
    intro before after k id split
    cases before with
    | nil => cases split
    | cons => cases split

theorem running_concat {calls : List Call} {new call : Call} :
    (calls ++ [new])[k]? = some call ↔
      calls[k]? = some call ∨ k = calls.length ∧ call = new := by
  rcases Nat.lt_trichotomy k calls.length with old | rfl | beyond
  · rw [List.getElem?_append_left old]
    simp [Nat.ne_of_lt old]
  · simp [eq_comm]
  · rw [List.getElem?_append_right (Nat.le_of_lt beyond),
      List.getElem?_eq_none (l := calls) (Nat.le_of_lt beyond)]
    simp [Nat.ne_of_gt beyond, Nat.sub_ne_zero_of_lt beyond]

theorem begin_accounted (accounted : Accounted gauge seen b) (a : Ask) :
    Accounted gauge (seen ++ [.asked b.calls.length a b.exchange.connections.connected])
      { b with calls := b.calls ++
        [⟨a, b.exchange.connections.connected, a.start b.exchange.connections.connected⟩] } where
  connections := accounted.connections
  gauge := by
    have nothing : (a.start b.exchange.connections.connected).owed = 0 := by
      cases a with
      | connect | disconnect | send | broadcast => rfl
    simpa [Board.owed, nothing] using accounted.gauge
  entered := entered_quiet accounted.entered rfl rfl (fun _ => rfl) (fun _ => rfl)
  numbered := by
    intro e seen
    rw [List.length_append]
    rcases List.mem_append.mp seen with before | now
    · exact Nat.lt_succ_of_lt (accounted.numbered e before)
    · cases List.mem_singleton.mp now
      exact Nat.lt_succ_self _
  asked := by
    intro k other ids
    simp only [List.mem_append, accounted.asked, List.mem_singleton, Event.asked.injEq, running_concat]
    constructor
    · rintro (⟨call, before, same⟩ | ⟨rfl, rfl, rfl⟩)
      · exact ⟨call, .inl before, same⟩
      · exact ⟨_, .inr ⟨rfl, rfl⟩, rfl, rfl⟩
    · rintro ⟨call, before | ⟨rfl, rfl⟩, rfl, rfl⟩
      · exact .inl ⟨call, before, rfl, rfl⟩
      · exact .inr ⟨rfl, rfl, rfl⟩
  calls := by
    intro k call running
    rcases running_concat.mp running with before | ⟨rfl, rfl⟩
    · refine call_later (accounted.calls k call before) (later_refl _) ?_
      have old := (List.getElem?_eq_some_iff.mp before).1
      exact List.forall_mem_singleton.mpr (Nat.ne_of_gt old)
    · exact call_begins accounted.connections accounted.numbered a
  caused := caused_append accounted.caused fun _ _ removes => nomatch List.mem_singleton.mp removes

theorem go_accounted (accounted : Accounted gauge seen b) {call : Call} {point : Point}
    (running : b.calls[k]? = some call) (goes : Goes k call.ask call.point b.exchange events point x) :
    Accounted gauge (seen ++ events) ⟨x, b.calls.set k { call with point }⟩ where
  connections := goes_sound goes accounted.connections
  gauge := by
    have before := accounted.gauge
    have count := goes_count goes accounted.connections
    have owed := owed_set running point
    simp only [Board.owed] at before ⊢
    omega
  entered := goes_entered goes accounted.connections accounted.entered
  numbered := by
    intro e seen
    rw [List.length_set]
    rcases List.mem_append.mp seen with before | now
    · exact accounted.numbered e before
    · rw [goes_call goes e now]
      exact (List.getElem?_eq_some_iff.mp running).1
  asked := by
    intro j a ids
    have none : .asked j a ids ∉ events := goes_asks goes
    rw [List.mem_append, accounted.asked]
    by_cases same : k = j
    · subst same
      have inside := (List.getElem?_eq_some_iff.mp running).1
      simp [running, none, List.getElem?_set_self inside]
    · simp [none, List.getElem?_set_ne same]
  calls := by
    intro j other found
    by_cases same : k = j
    · subst same
      have inside := (List.getElem?_eq_some_iff.mp running).1
      rw [List.getElem?_set_self inside] at found
      cases found
      exact call_goes (accounted.calls k call running) accounted.connections goes
    · rw [List.getElem?_set_ne same] at found
      refine call_later (accounted.calls j other found) (goes_later goes) fun e now => ?_
      rw [goes_call goes e now]
      exact same
  caused := by
    refine caused_append accounted.caused fun j id removes => ?_
    rcases goes_removes goes (accounted.calls k call running).follows removes with ⟨rfl, asks | sent⟩
    · exact .inl ⟨call.ids, (accounted.asked _ _ _).mpr ⟨call, running, asks, rfl⟩⟩
    · exact .inr sent

theorem runs_accounted (runs : Runs gauge seen b) : Accounted gauge seen b := by
  induction runs with
  | start => exact start_accounted gauge
  | step _ step ih =>
    cases step with
    | begin a => exact begin_accounted ih a
    | go running goes => exact go_accounted ih running goes

-- A call goes on until it is over.
inductive Alone (k : Nat) (a : Ask) : Point → Exchange → List Event → Exchange → Prop where
  | ended (x : Exchange) : Alone k a .ended x [] x
  | go {p p' : Point} {x x' x'' : Exchange} {events later : List Event}
      (goes : Goes k a p x events p' x') (rest : Alone k a p' x' later x'') :
      Alone k a p x (events ++ later) x''

theorem alone_runs (alone : Alone k a p x events x') {calls : List Call} (last : k = calls.length)
    {ids : List Nat} (runs : Runs gauge seen ⟨x, calls ++ [⟨a, ids, p⟩]⟩) :
    Runs gauge (seen ++ events) ⟨x', calls ++ [⟨a, ids, .ended⟩]⟩ := by
  induction alone generalizing seen with
  | ended x => simpa using runs
  | @go p p' x x' x'' events later goes rest ih =>
    subst last
    have running : (calls ++ [(⟨a, ids, p⟩ : Call)])[calls.length]? = some ⟨a, ids, p⟩ := by simp
    have next := runs.step (.go running goes)
    rw [List.set_append_right _ _ (Nat.le_refl _), Nat.sub_self, List.set_cons_zero] at next
    rw [← List.append_assoc]
    exact ih next

theorem sends_one (id : Nat) (m : Datum) (c : Connections) :
    c.sendAll m [id] = (if (c.send id m).1 then 1 else 0, (c.send id m).2) := by
  simp [Connections.sendAll]

-- A round comes to what sending to its connections at once comes to.
theorem alone_round (sound : Sound x.connections) (m : Datum) (todo : List Nat) (taken : Nat) :
    ∃ events x', Alone k a (.sending ⟨m, todo, taken⟩) x events x' ∧
      x'.connections = (x.connections.sendAll m todo).2 ∧
      .replied k (a.told (taken + (x.connections.sendAll m todo).1)) ∈ events := by
  induction todo generalizing x taken with
  | nil => exact ⟨_, x, .go (.finish m taken x) (.ended x), rfl, List.mem_cons_self⟩
  | cons id todo ih =>
    cases present : x.connections.isConnected id with
    | false =>
      have sent : x.connections.send id m = (false, x.connections) := by
        simp [Connections.send, present]
      rcases ih sound taken with ⟨events, x', alone, same, told⟩
      refine ⟨_, x', .go (.skip present) alone, ?_⟩
      simpa [Connections.sendAll, sent] using ⟨same, told⟩
    | true =>
      have known := sound.known id (isConnected_iff.mp present)
      have found := List.getElem?_eq_getElem known
      cases takes : (x.connections.sockets[id]).takes with
      | true =>
        have sent : x.connections.send id m = (true, x.connections.deliver id m) := by
          simp [Connections.send, Connections.deliver, present, found, takes, List.modify_eq_set_getElem?]
        have next := deliver_sound sound id m
        rcases ih (x := ⟨x.connections.deliver id m, x.gauge⟩) next (taken + 1) with
          ⟨events, x', alone, same, told⟩
        rw [Nat.add_assoc, Nat.add_comm 1] at told
        refine ⟨_, x', .go (.address present) (.go (.deliver id _ x) alone), ?_⟩
        simpa [Connections.sendAll, sent] using ⟨same, told⟩
      | false =>
        have sent : x.connections.send id m = (false, x.connections.disconnect id) := by
          simp [Connections.send, present, found, takes]
        have next := disconnect_sound sound id
        rcases ih (x := ⟨x.connections.disconnect id, x.gauge + Happening.closed.socketChange⟩) next
          taken with ⟨events, x', alone, same, told⟩
        refine ⟨_, x', .go (.address present) (.go (.fail id _ x) (.go (.remove present)
          (.go (.countDown id _ _) alone))), ?_⟩
        simpa [Connections.sendAll, sent, Event.resumed] using ⟨same, told⟩

-- What happens at once is one of the ways in which the call can go.
theorem alone_outcome (sound : Sound x.connections) (a : Ask) :
    ∃ events x', Alone k a (a.start x.connections.connected) x events x' ∧
      x'.connections = (a.outcome x.connections).2 ∧
      .replied k (a.outcome x.connections).1 ∈ events := by
  cases a with
  | connect s => exact ⟨_, _, .go (.accept s x) (.go (.countUp _ _) (.ended _)), rfl, by simp [Ask.outcome]⟩
  | disconnect id =>
    cases present : x.connections.isConnected id with
    | true =>
      exact ⟨_, _, .go (.remove present) (.go (.countDown id none _) (.ended _)), rfl,
        by simp [Ask.outcome, Event.resumed]⟩
    | false =>
      have same : x.connections.disconnect id = x.connections := by
        have kept : x.connections.connected.filter (· != id) = x.connections.connected := by
          refine List.filter_eq_self.mpr fun other listed => bne_iff_ne.mpr ?_
          rintro rfl
          exact not_isConnected.mp present listed
        simp [Connections.disconnect, kept]
      exact ⟨_, _, .go (.miss present) (.ended _), same.symm, by simp [Ask.outcome, Event.resumed]⟩
  | send id m =>
    rcases alone_round (k := k) (a := .send id m) sound m [id] 0 with ⟨events, x', alone, same, told⟩
    rw [sends_one] at same told
    refine ⟨events, x', alone, same, ?_⟩
    cases success : (x.connections.send id m).1 with
    | true => simpa [Ask.outcome, Ask.told, success] using told
    | false => simpa [Ask.outcome, Ask.told, success] using told
  | broadcast m =>
    rcases alone_round (k := k) (a := .broadcast m) sound m x.connections.connected 0 with
      ⟨events, x', alone, same, told⟩
    rw [Nat.zero_add] at told
    exact ⟨events, x', alone, same, told⟩

-- Whenever a call begins, it may go on as if there were no others.
theorem outcome_runs (runs : Runs gauge seen b) (a : Ask) :
    ∃ events x, Runs gauge (seen ++ events)
        ⟨x, b.calls ++ [⟨a, b.exchange.connections.connected, .ended⟩]⟩ ∧
      x.connections = (a.outcome b.exchange.connections).2 ∧
      .replied b.calls.length (a.outcome b.exchange.connections).1 ∈ events := by
  have sound := (runs_accounted runs).connections
  rcases alone_outcome (k := b.calls.length) sound a with ⟨events, x, alone, same, told⟩
  have begun := runs.step (.begin b a)
  have ended := alone_runs alone rfl begun
  rw [List.append_assoc] at ended
  exact ⟨_, x, ended, same, List.mem_append_right _ told⟩

-- Unless a call is between its two changes, the gauge has grown by the number of connections. Each of
-- them was added once, and is removed at most once, by a call that was made for it or has failed to
-- send to it. A broadcast sends at most once to each of those that it has found; and when it replies, it
-- tells how many were sent to, and who has failed is not connected any more.
theorem connections_accounted (runs : Runs gauge seen b) :
    ((∀ call ∈ b.calls, call.point.isBetween = false) →
      b.exchange.gauge = gauge + b.exchange.connections.count) ∧
    (∀ id, seen.countP (·.adds id) ≤ 1 ∧ seen.countP (·.removes id) ≤ seen.countP (·.adds id) ∧
      (b.exchange.connections.isConnected id = true ↔
        seen.countP (·.adds id) = 1 ∧ seen.countP (·.removes id) = 0)) ∧
    (∀ k m ids, .asked k (.broadcast m) ids ∈ seen →
      ids.Nodup ∧ ((sends k seen).map (·.1)).Sublist ids ∧
      ∀ taken, .replied k (.count taken) ∈ seen →
        taken = (sends k seen).countP (·.2) ∧
        (∀ id, (id, false) ∈ sends k seen → b.exchange.connections.isConnected id = false) ∧
        (∀ id ∈ ids, id ∉ (sends k seen).map (·.1) → b.exchange.connections.isConnected id = false)) ∧
    (∀ before after k id, seen = before ++ .removed k id :: after →
      (∃ ids, .asked k (.disconnect id) ids ∈ before) ∨ (id, false) ∈ sends k before) := by
  have accounted := runs_accounted runs
  refine ⟨fun settled => ?_, fun id => ?_, fun k m ids asked => ?_, accounted.caused⟩
  · have nothing : b.owed = 0 := by
      refine List.sum_eq_zero fun owed listed => ?_
      rcases List.mem_map.mp listed with ⟨call, running, rfl⟩
      have outside := settled call running
      revert outside
      cases call.point with
      | added | removed => exact nofun
      | _ => exact fun _ => rfl
    have total := accounted.gauge
    rwa [nothing, Int.add_zero] at total
  · have added := accounted.entered.added id
    have removed := accounted.entered.removed id
    have known := accounted.connections.known id
    rw [isConnected_iff]
    refine ⟨?_, by omega, ?_⟩
    · rw [added]
      split
      · exact Nat.le_refl _
      · exact Nat.zero_le _
    · by_cases listed : id ∈ b.exchange.connections.connected
      · rw [if_pos (known listed)] at added
        rw [if_pos listed] at removed
        exact ⟨fun _ => ⟨added, by omega⟩, fun _ => listed⟩
      · rw [if_neg listed] at removed
        exact ⟨fun here => absurd here listed, fun counts => absurd counts (by omega)⟩
  · rcases (accounted.asked k _ ids).mp asked with ⟨call, running, asks, rfl⟩
    have sound := accounted.calls k call running
    have once := follows_once sound.follows
    rw [asks] at once
    refine ⟨sound.distinct, once, fun taken replied => ?_⟩
    have ended : call.point = .ended := by
      by_contra still
      exact sound.quiet still _ replied
    have follows := sound.follows
    rw [ended, asks] at follows
    rcases follows.2 _ replied rfl with ⟨count, same, told⟩
    cases same
    refine ⟨told.taken.symm, fun id sent => ?_, fun id listed unsent => ?_⟩
    · rcases told.failed id sent with impossible | gone
      · cases impossible
      · exact not_isConnected.mpr gone.absent
    · rcases told.all id listed listed with sent | gone
      · exact absurd sent unsent
      · exact not_isConnected.mpr gone.absent

-- Two sockets are connected, and a broadcast waits for the first one when its own call removes it. Then
-- the send fails, and finds nothing to remove; the second socket takes the message.
def overtaking : List Event :=
  [.asked 0 (.connect {}) [], .added 0 0, .replied 0 (.connected 0),
    .asked 1 (.connect {}) [0], .added 1 1, .replied 1 (.connected 1),
    .asked 2 (.broadcast .none) [0, 1], .asked 3 (.disconnect 0) [0, 1], .removed 3 0,
    .replied 3 .disconnected, .sent 2 0 false, .sent 2 1 true, .replied 2 (.count 1)]

def overtaken : Board where
  exchange := ⟨⟨[{}, ({} : Socket).take .none], [1]⟩, 6⟩
  calls := [⟨.connect {}, [], .ended⟩, ⟨.connect {}, [0], .ended⟩, ⟨.broadcast .none, [0, 1], .ended⟩,
    ⟨.disconnect 0, [0, 1], .ended⟩]

theorem overtaking_runs : Runs 5 overtaking overtaken := by
  have empty : Runs 5 [] { exchange := { gauge := 5 } } := .start
  have first := ((empty.step (.begin _ (.connect {}))).step (.go (k := 0) rfl (.accept {} _))).step
    (.go (k := 0) rfl (.countUp 0 _))
  have both := ((first.step (.begin _ (.connect {}))).step (.go (k := 1) rfl (.accept {} _))).step
    (.go (k := 1) rfl (.countUp 1 _))
  have waiting := (both.step (.begin _ (.broadcast .none))).step (.go (k := 2) rfl (.address rfl))
  have removed := ((waiting.step (.begin _ (.disconnect 0))).step (.go (k := 3) rfl (.remove rfl))).step
    (.go (k := 3) rfl (.countDown 0 none _))
  have failed := (removed.step (.go (k := 2) rfl (.fail 0 _ _))).step (.go (k := 2) rfl (.miss rfl))
  have told := ((failed.step (.go (k := 2) rfl (.address rfl))).step
    (.go (k := 2) rfl (.deliver 1 _ _))).step (.go (k := 2) rfl (.finish _ _ _))
  exact told

theorem overtaken_accounted : Runs 5 overtaking overtaken ∧ overtaken.exchange.gauge = 5 + 1 ∧
    overtaking.countP (·.removes 0) ≤ 1 := by
  have accounted := connections_accounted overtaking_runs
  have settled : ∀ call ∈ overtaken.calls, call.point.isBetween = false := by
    simp [overtaken, Point.isBetween]
  exact ⟨overtaking_runs, accounted.1 settled, Nat.le_trans (accounted.2.1 0).2.1 (accounted.2.1 0).1⟩

end ScriptArena.Service.Exchange
