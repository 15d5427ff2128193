import ScriptArena.Proofs.Progress.Schedules

namespace ScriptArena.Progress

namespace Event

-- Has a player come or gone?
def changesPlayer : Event → Bool
  | .signedIn _ | .signedOut => true
  | _ => false

def queued? : Event → Option Write
  | .queued w _ => some w
  | _ => none

def sent? : Event → Option Write
  | .sent w _ => some w
  | _ => none

def request? : Event → Option Request
  | .asked user => some (.get user)
  | .sent w _ => some w.request
  | _ => none

-- Questions and answers.
def isMail : Event → Bool
  | .asked _ | .told .. | .written .. => true
  | _ => false

end Event

def queuedIn (seen : List Event) : List Write := seen.filterMap Event.queued?

def sentIn (seen : List Event) : List Write := seen.filterMap Event.sent?

def requestsIn (seen : List Event) : List Request := seen.filterMap Event.request?

-- The events since a player came or went.
def session (seen : List Event) : List Event := seen.rtakeWhile (!·.changesPlayer)

def playerAfter (player : Option String) : Event → Option String
  | .signedIn user => some user
  | .signedOut => none
  | _ => player

def player (seen : List Event) : Option String := seen.foldl playerAfter none

@[simp] theorem queuedIn_append (seen more : List Event) :
    queuedIn (seen ++ more) = queuedIn seen ++ queuedIn more := List.filterMap_append

@[simp] theorem sentIn_append (seen more : List Event) :
    sentIn (seen ++ more) = sentIn seen ++ sentIn more := List.filterMap_append

@[simp] theorem requestsIn_append (seen more : List Event) :
    requestsIn (seen ++ more) = requestsIn seen ++ requestsIn more := List.filterMap_append

theorem filterMap_one {α : Type} (f : Event → Option α) (e : Event) :
    [e].filterMap f = (f e).toList := by
  cases found : f e <;> simp [found]

theorem queuedIn_one (e : Event) : queuedIn [e] = e.queued?.toList := filterMap_one _ e

theorem sentIn_one (e : Event) : sentIn [e] = e.sent?.toList := filterMap_one _ e

theorem requestsIn_one (e : Event) : requestsIn [e] = e.request?.toList := filterMap_one _ e

theorem player_append (seen : List Event) (e : Event) :
    player (seen ++ [e]) = playerAfter (player seen) e := by
  simp [player]

theorem session_keep (seen : List Event) {e : Event} (stays : e.changesPlayer = false) :
    session (seen ++ [e]) = session seen ++ [e] :=
  List.rtakeWhile_concat_pos _ _ _ (by simp [stays])

theorem session_change (seen : List Event) {e : Event} (changes : e.changesPlayer = true) :
    session (seen ++ [e]) = [] :=
  List.rtakeWhile_concat_neg _ _ _ (by simp [changes])

theorem session_suffix (seen : List Event) : session seen <:+ seen := List.rtakeWhile_suffix _ _

-- Every event is as it should be after those before it.
def Each (fair : List Event → Event → Prop) (seen : List Event) : Prop :=
  ∀ before e after, seen = before ++ e :: after → fair before e

theorem each_nil {fair : List Event → Event → Prop} : Each fair [] := by
  intro before e after split
  simp at split

theorem each_append {fair : List Event → Event → Prop} {seen : List Event} {e : Event}
    (each : Each fair seen) (last : fair seen e) : Each fair (seen ++ [e]) := by
  intro before e' after split
  rcases after.eq_nil_or_concat with rfl | ⟨init, final, rfl⟩
  · obtain ⟨rfl, same⟩ := List.append_inj' split rfl
    cases same
    exact last
  · rw [List.concat_eq_append, ← List.cons_append, ← List.append_assoc] at split
    exact each before e' init (List.append_inj' split rfl).1

-- A write belongs to the player; one that is sent is the next of those queued since the player came,
-- and a high score has been compared with the record.
def Fair (before : List Event) : Event → Prop
  | .queued w now => now.user? = some w.user
  | .sent w now => now.user? = some w.user ∧ player before = some w.user ∧
      (∀ user score, w = .highScore user score → .told user true ∈ session before) ∧
      sentIn (session before) ++ [w] <+: queuedIn (session before)
  | _ => True

structure Linked (l : Link) (seen : List Event) (t : Tracker) : Prop where
  fair : Each Fair seen
  player : player seen = t.user?
  requests : t.link.requests = l.requests ++ requestsIn seen
  owner : ∀ w ∈ t.outbox, t.user? = some w.user
  known : ∀ user score, .highScore user score ∈ t.outbox → t.loaded = true
  read : t.loaded = true → ∀ user, t.user? = some user → .told user true ∈ session seen
  queue : queuedIn (session seen) = sentIn (session seen) ++ t.outbox
  order : (sentIn seen ++ t.outbox).Sublist (queuedIn seen)

namespace Linked

variable {l : Link} {seen : List Event} {t u : Tracker}

theorem initial (l : Link) : Linked l [] { link := l } where
  fair := each_nil
  player := rfl
  requests := by simp [requestsIn]
  owner := nofun
  known := nofun
  read := nofun
  queue := rfl
  order := .refl _

-- Changes that no event tells of.
theorem frame (linked : Linked l seen t) (user : u.user? = t.user?) (loaded : u.loaded = t.loaded)
    (outbox : u.outbox = t.outbox) (requests : u.link.requests = t.link.requests) :
    Linked l seen u where
  fair := linked.fair
  player := linked.player.trans user.symm
  requests := requests.trans linked.requests
  owner := by rw [outbox, user]; exact linked.owner
  known := by rw [outbox, loaded]; exact linked.known
  read := by rw [loaded, user]; exact linked.read
  queue := by rw [outbox]; exact linked.queue
  order := by rw [outbox]; exact linked.order

theorem unnoted (linked : Linked l seen u) (outbox : u.outbox = t.outbox) :
    Linked l (seen ++ Act.noted t u) u := by
  rw [Act.noted_same outbox, List.append_nil]
  exact linked

-- A question or an answer. A record is known from the moment when it has arrived.
theorem mail (linked : Linked l seen t) {e : Event} (mail : e.isMail) (user : u.user? = t.user?)
    (outbox : u.outbox = t.outbox) (requests : u.link.requests = t.link.requests ++ e.request?.toList)
    (loaded : t.loaded = true → u.loaded = true)
    (learnt : u.loaded = true → t.loaded = true ∨ ∀ name, u.user? = some name → e = .told name true) :
    Linked l (seen ++ [e]) u := by
  have quiet : Fair seen e ∧ e.changesPlayer = false ∧ e.queued? = none ∧ e.sent? = none ∧
      ∀ name, playerAfter name e = name := by
    cases e <;> simp_all [Event.isMail, Fair, Event.changesPlayer, Event.queued?, Event.sent?,
      playerAfter]
  obtain ⟨fair, stays, unqueued, unsent, same⟩ := quiet
  have queuedNone : queuedIn [e] = [] := by rw [queuedIn_one, unqueued, Option.toList_none]
  have sentNone : sentIn [e] = [] := by rw [sentIn_one, unsent, Option.toList_none]
  constructor
  · exact each_append linked.fair fair
  · rw [player_append, same, user, linked.player]
  · rw [requests, linked.requests, requestsIn_append, requestsIn_one, List.append_assoc]
  · rw [outbox, user]
    exact linked.owner
  · intro name score waiting
    exact loaded (linked.known name score (outbox ▸ waiting))
  · intro known name signed
    rw [session_keep seen stays]
    rcases learnt known with before | now
    · exact List.mem_append_left _ (linked.read before name (user ▸ signed))
    · simp [now name signed]
  · rw [session_keep seen stays, queuedIn_append, sentIn_append, queuedNone, sentNone, outbox]
    simpa using linked.queue
  · rw [queuedIn_append, sentIn_append, queuedNone, sentNone, outbox]
    simpa using linked.order

theorem enqueue (linked : Linked l seen t) {w : Write} (owner : t.user? = some w.user)
    (known : ∀ user score, w = .highScore user score → t.loaded = true)
    (user : u.user? = t.user?) (loaded : u.loaded = t.loaded) (outbox : u.outbox = t.outbox ++ [w])
    (requests : u.link.requests = t.link.requests) : Linked l (seen ++ [.queued w u]) u where
  fair := each_append linked.fair (user.trans owner)
  player := by rw [player_append, user]; exact linked.player
  requests := by
    rw [requests, linked.requests, requestsIn_append, requestsIn_one]
    simp [Event.request?]
  owner := by
    intro w' waiting
    rw [outbox, List.mem_append, List.mem_singleton] at waiting
    rw [user]
    rcases waiting with old | rfl
    · exact linked.owner w' old
    · exact owner
  known := by
    intro name score waiting
    rw [outbox, List.mem_append, List.mem_singleton] at waiting
    rw [loaded]
    rcases waiting with old | new
    · exact linked.known name score old
    · exact known name score new.symm
  read := by
    intro ready name signed
    rw [session_keep seen rfl]
    exact List.mem_append_left _ (linked.read (loaded ▸ ready) name (user ▸ signed))
  queue := by
    rw [session_keep seen rfl, queuedIn_append, sentIn_append, queuedIn_one, sentIn_one,
      linked.queue, outbox]
    simp [Event.queued?, Event.sent?]
  order := by
    rw [queuedIn_append, sentIn_append, queuedIn_one, sentIn_one, outbox]
    simpa [Event.queued?, Event.sent?] using linked.order.append (.refl [w])

theorem post (linked : Linked l seen t) {w : Write} {rest : List Write}
    (waiting : t.outbox = w :: rest) : Linked l (seen ++ [.sent w t]) (t.posting w rest) := by
  have member : w ∈ t.outbox := waiting ▸ List.mem_cons_self
  have later : ∀ w' ∈ rest, w' ∈ t.outbox := fun w' inside => waiting ▸ List.mem_cons_of_mem _ inside
  have next : sentIn (session seen) ++ [w] <+: queuedIn (session seen) := by
    refine ⟨rest, ?_⟩
    rw [linked.queue, waiting, List.append_assoc, List.singleton_append]
  have owner := linked.owner w member
  constructor
  · refine each_append linked.fair ⟨owner, linked.player.trans owner, ?_, next⟩
    rintro user score rfl
    exact linked.read (linked.known user score member) user owner
  · rw [player_append]
    exact linked.player
  · rw [requestsIn_append, ← List.append_assoc, ← linked.requests]
    rfl
  · exact fun w' inside => linked.owner w' (later w' inside)
  · exact fun user score inside => linked.known user score (later _ inside)
  · intro ready user signed
    rw [session_keep seen rfl]
    exact List.mem_append_left _ (linked.read ready user signed)
  · rw [session_keep seen rfl, queuedIn_append, sentIn_append, queuedIn_one, sentIn_one,
      linked.queue, waiting]
    simp [Event.queued?, Event.sent?, Tracker.posting, Tracker.record]
  · have order := linked.order
    rw [waiting] at order
    rw [queuedIn_append, sentIn_append, queuedIn_one, sentIn_one]
    simpa [Event.queued?, Event.sent?, Tracker.posting, Tracker.record] using order

-- Nothing that has waited goes over to the next player.
theorem renew (linked : Linked l seen t) {e : Event} (changes : e.changesPlayer = true)
    (user : playerAfter (Progress.player seen) e = u.user?) (outbox : u.outbox = [])
    (loaded : u.loaded = false) (requests : u.link.requests = t.link.requests) :
    Linked l (seen ++ [e]) u := by
  have quiet : Fair seen e ∧ e.queued? = none ∧ e.sent? = none ∧ e.request? = none := by
    cases e <;> simp_all [Fair, Event.changesPlayer, Event.queued?, Event.sent?, Event.request?]
  obtain ⟨fair, unqueued, unsent, unasked⟩ := quiet
  constructor
  · exact each_append linked.fair fair
  · rw [player_append, user]
  · rw [requests, linked.requests, requestsIn_append, requestsIn_one, unasked]
    simp
  · simp [outbox]
  · simp [outbox]
  · simp [loaded]
  · rw [session_change seen changes, outbox]
    rfl
  · rw [outbox]
    rw [queuedIn_append, sentIn_append, queuedIn_one, sentIn_one, unqueued, unsent]
    simpa using (List.sublist_append_left (sentIn seen) t.outbox).trans linked.order

theorem queue_write (linked : Linked l seen t) (queues : t.Queues u) :
    Linked l (seen ++ Act.noted t u) u := by
  cases queues with
  | nothing held =>
    refine unnoted ?_ rfl
    exact linked.frame rfl rfl rfl rfl
  | @highScore held r score signed known beats =>
    have owner : t.user? = some r.user := by simp [Tracker.user?, signed]
    rw [Act.noted_one rfl]
    exact linked.enqueue owner (fun _ _ _ => known) rfl rfl rfl rfl
  | @challenge held r id signed new =>
    have owner : t.user? = some r.user := by simp [Tracker.user?, signed]
    have noScore : ∀ user score, Write.challenge r.user id = .highScore user score →
        t.loaded = true := by
      intro user score same
      cases same
    rw [Act.noted_one rfl]
    exact linked.enqueue owner noScore rfl rfl rfl rfl

theorem learn (linked : Linked l seen t) {user : String} (signed : t.user? = some user) :
    Linked l (seen ++ [.told user true]) (t.learn user) := by
  have same : (t.learn user).user? = t.user? := by
    rw [signed]
    simp [Tracker.learn, Tracker.user?]
  refine linked.mail rfl same rfl (by simp [Event.request?, Tracker.learn]) (fun _ => rfl) fun _ => ?_
  refine .inr fun name now => ?_
  rw [same, signed] at now
  cases now
  rfl

theorem confirm_user (w : Write) (t : Tracker) : (t.confirm w).user? = t.user? := by
  have same : ∀ r : Record, (w.apply r).user = r.user := by
    intro r
    cases w <;> simp [Write.apply]
  cases signed : t.progress with
  | none => simp [Tracker.user?, Tracker.confirm, signed]
  | some r =>
    simp only [Tracker.user?, Tracker.confirm, signed, Option.map_some, Option.some.injEq]
    split
    · exact same r
    · rfl

theorem serve_requests (q : Request) (l : Link) : (l.serve q).requests = l.requests := by
  cases q <;> rfl

theorem arrive (linked : Linked l seen t) (w : Write) :
    Linked l (seen ++ [.written w true]) (t.wrote w true) := by
  refine linked.mail rfl (confirm_user w _) rfl ?_ id fun ready => .inl ready
  simpa [Event.request?, Tracker.wrote, Tracker.confirm, Tracker.serve] using
    serve_requests w.request t.link

theorem kept (l : Link) : Traffic.Kept (Linked l) where
  enter user linked := linked.renew rfl rfl rfl rfl rfl
  leave linked := linked.renew rfl rfl rfl rfl rfl
  queue linked queues := linked.queue_write queues
  ask user linked := linked.mail rfl rfl rfl rfl id fun ready => .inl ready
  post linked waiting := linked.post waiting
  miss user arrived linked :=
    linked.mail rfl rfl rfl (by simp [Event.request?]) id fun ready => .inl ready
  learn linked signed := linked.learn signed
  lose w linked := linked.mail rfl rfl rfl (by simp [Event.request?]) id fun ready => .inl ready
  arrive w linked := linked.arrive w
  equip readable writable awaiting linked := linked.frame rfl rfl rfl rfl

theorem run (l : Link) (moves : List Move) :
    Linked l (Traffic.trace l moves) (Traffic.run moves (.ofLink l)).1.tracker := by
  refine Traffic.holds_run (initial l) fun m _ => ?_
  cases own : m.isOwn with
  | true => exact (kept l).keeps_step own
  | false =>
    cases m with
    | rewrite store => exact Traffic.keeps_rewrite fun _ _ linked => linked.frame rfl rfl rfl rfl
    | signIn | signOut | award | offer | flush | answer | cancel | equip => cases own

end Linked

namespace Tracker

variable {t : Tracker} {user : String}

theorem told_user (user : String) (arrived : Bool) (t : Tracker) :
    (t.told user arrived).user? = t.user? := by
  unfold told accept
  split
  · split
    · rename_i signed
      rw [user?, (queues_release _).progress, signed, Option.map_some, Store.get_user]
    · rfl
  · rfl

theorem told_progress (other : t.user? ≠ some user) (arrived : Bool) :
    (t.told user arrived).progress = t.progress := by
  rw [told, accept, if_neg other, ite_self]

theorem wrote_user (w : Write) (arrived : Bool) (t : Tracker) :
    (t.wrote w arrived).user? = t.user? := by
  unfold wrote
  split
  · exact Linked.confirm_user w _
  · rfl

theorem wrote_progress {w : Write} (other : t.user? ≠ some w.user) (arrived : Bool) :
    (t.wrote w arrived).progress = t.progress := by
  unfold wrote
  split
  · cases signed : t.progress with
    | none => simp [confirm, serve, signed]
    | some r =>
      have differs : r.user ≠ w.user := by simpa [user?, signed] using other
      simp [confirm, serve, signed, differs]
  · rfl

end Tracker

namespace Traffic
open Act

theorem pump_progress (f : Traffic) : (pump f).1.tracker.progress = f.tracker.progress := by
  unfold pump
  split
  · rfl
  · rfl

theorem settle_progress (flight : Flight) (arrived : Bool) (f : Traffic) :
    (settle arrived flight f).1.tracker.progress = match flight with
      | .reading user _ => (f.tracker.told user arrived).progress
      | .writing w => (f.tracker.wrote w arrived).progress := by
  cases flight with
  | reading user flushing =>
    simp only [settle, andThen]
    split
    · exact pump_progress _
    · rfl
  | writing w => exact pump_progress _

-- The answer to a request signs nobody in or out, and changes no record but that of its own player.
theorem answer_progress {f : Traffic} {place : Nat} {flight : Flight}
    (found : f.flights[place]? = some flight) (arrived : Bool) :
    (step (.answer place arrived) f).1.tracker.user? = f.tracker.user? ∧
      (f.tracker.user? ≠ some flight.user →
        (step (.answer place arrived) f).1.tracker.progress = f.tracker.progress) := by
  have settled : (step (.answer place arrived) f).1.tracker.progress =
      (settle arrived flight (land place f).1).1.tracker.progress := by
    simp only [step, found]
    rfl
  rw [Tracker.user?, settled, settle_progress]
  cases flight with
  | reading user flushing =>
    exact ⟨f.tracker.told_user user arrived, fun other => Tracker.told_progress other arrived⟩
  | writing w =>
    exact ⟨f.tracker.wrote_user w arrived, fun other => Tracker.wrote_progress other arrived⟩

-- Every write that is sent is one for the player of that moment, queued since that player came; of
-- those it is the next, and those not yet sent are in the outbox. A high score is sent only if a
-- record has arrived since. An answer never touches the record of another player. What the events tell
-- is what the link is asked, and they tell of any orders carried out in turn.
theorem writes_isolated (l : Link) (moves : List Move) :
    (∀ before w now after, trace l moves = before ++ .sent w now :: after →
      now.user? = some w.user ∧ player before = some w.user ∧
      (∃ queuing, .queued w queuing ∈ session before ∧ queuing.user? = some w.user) ∧
      (∀ user score, w = .highScore user score → .told user true ∈ session before) ∧
      sentIn (session before) ++ [w] <+: queuedIn (session before)) ∧
    (sentIn (trace l moves)).Sublist (queuedIn (trace l moves)) ∧
    queuedIn (session (trace l moves)) =
      sentIn (session (trace l moves)) ++ (run moves (.ofLink l)).1.tracker.outbox ∧
    (∀ f : Traffic, ∀ place flight, f.flights[place]? = some flight → ∀ arrived,
      (step (.answer place arrived) f).1.tracker.user? = f.tracker.user? ∧
        (f.tracker.user? ≠ some flight.user →
          (step (.answer place arrived) f).1.tracker.progress = f.tracker.progress)) ∧
    (run moves (.ofLink l)).1.tracker.link.requests = l.requests ++ requestsIn (trace l moves) ∧
    ∀ orders : List Order, Reaches (.ofLink l) ⟨orders.foldl Tracker.obey { link := l }, []⟩ := by
  have linked := Linked.run l moves
  refine ⟨?_, ?_, linked.queue, fun _ _ _ found arrived => answer_progress found arrived,
    linked.requests, fun orders => Tracker.orders_reach orders _ []⟩
  · intro before w now after split
    obtain ⟨owner, signed, read, next⟩ := linked.fair before (.sent w now) after split
    refine ⟨owner, signed, ?_, read, next⟩
    have waited : w ∈ queuedIn (session before) := next.subset (List.mem_append_right _ List.mem_cons_self)
    obtain ⟨e, inside, isQueued⟩ := List.mem_filterMap.mp waited
    cases e with
    | queued w' queuing =>
      cases isQueued
      obtain ⟨earlier, later, shape⟩ :=
        List.append_of_mem ((session_suffix before).subset inside)
      refine ⟨queuing, inside, linked.fair earlier (.queued w queuing) (later ++ .sent w now :: after) ?_⟩
      rw [split, shape, List.append_assoc, List.cons_append]
    | signedIn | signedOut | asked | sent | told | written => cases isQueued
  · exact (List.sublist_append_left _ _).trans linked.order

-- While a high score of one player is on its way, another player signs in and has a high score sent.
def handOver : List Move :=
  [.signIn "ada", .answer 0 true, .offer 50, .flush, .signIn "bob", .answer 0 true, .answer 0 true,
    .offer 70, .flush]

theorem handOver_isolated :
    trace {} handOver = (trace {} handOver).dropLast ++
        [.sent (.highScore "bob" 70) (run handOver.dropLast (.ofLink {})).1.tracker] ∧
      Event.sent (.highScore "ada" 50) (run (handOver.take 3) (.ofLink {})).1.tracker ∈
        (trace {} handOver).dropLast ∧
      .told "bob" true ∈ session (trace {} handOver).dropLast := by
  have last : trace {} handOver = (trace {} handOver).dropLast ++
      [.sent (.highScore "bob" 70) (run handOver.dropLast (.ofLink {})).1.tracker] := by
    decide +kernel
  refine ⟨last, by decide +kernel, ?_⟩
  exact ((writes_isolated {} handOver).1 _ _ _ [] last).2.2.2.1 "bob" 70 rfl

end Traffic
end ScriptArena.Progress
