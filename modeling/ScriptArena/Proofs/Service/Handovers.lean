import ScriptArena.Proofs.Arena.Endings
import ScriptArena.Proofs.Progress.Coherence
import ScriptArena.Service.Http

namespace ScriptArena.Progress

-- The stored record shows the write.
def Write.isStored (s : Store) : Write → Prop
  | .highScore user score => score ≤ (s.get user).highScore
  | .challenge user id => id ∈ (s.get user).completed

instance (s : Store) : (w : Write) → Decidable (w.isStored s)
  | .highScore _ _ => inferInstanceAs (Decidable (_ ≤ _))
  | .challenge _ _ => inferInstanceAs (Decidable (_ ∈ _))

theorem Record.complete_keeps {id : String} {r : Record} (done : id ∈ r.completed) (other : String) :
    id ∈ (r.complete other).completed := by
  unfold Record.complete
  split
  · exact done
  · exact List.mem_append_left _ done

namespace Tracker

variable {t u : Tracker} {user : String}

theorem isStored_wrote (w : Write) (t : Tracker) : w.isStored (t.wrote w true).link.store := by
  cases w with
  | highScore user score => exact le_stored_wrote user score t
  | challenge user id =>
    have same : (Write.challenge user id).user = user := rfl
    change id ∈ ((t.wrote (.challenge user id) true).link.store.get user).completed
    rw [wrote_get, if_pos same]
    exact Record.mem_complete id _

-- What is stored stays stored.
theorem isStored_kept {w : Write} (kept : w.isStored t.link.store) (next : Write) :
    w.isStored (t.wrote next true).link.store := by
  cases w with
  | highScore user score => exact Int.le_trans kept (stored_le_wrote next user t)
  | challenge user id =>
    change id ∈ ((t.wrote next true).link.store.get user).completed
    rw [wrote_get]
    split
    · cases next with
      | highScore => exact kept
      | challenge _ other => exact Record.complete_keeps kept other
    · exact kept

theorem requests_all (fuel : Nat) {is : List Interruption} (spare : ∀ i ∈ is, i.spares = true)
    (t : Tracker) :
    (interruptAll (interrupt fuel) is t).2.link.requests = t.link.requests := by
  induction is generalizing t with
  | nil => rfl
  | cons i rest ih =>
    have ⟨first, others⟩ := List.forall_mem_cons.mp spare
    cases i with
    | signIn | signOut => cases first
    | reach readable writable =>
      rw [interruptAll_reach]
      exact ih others _

theorem requests_send (fuel : Nat) (steady : t.link.Steady) (q : Request) :
    (t.send (interrupt fuel) q).2.link.requests = t.link.requests ++ [q] := by
  have recorded : (t.link.record q).Steady := ⟨steady.writable, steady.awaited⟩
  obtain ⟨_, _, spare⟩ := recorded.take q.kind
  have taken : ((t.link.record q).take q.kind).2.requests = t.link.requests ++ [q] := by
    unfold Link.take
    split
    · rfl
    · rfl
  have all := requests_all fuel spare { t with link := ((t.link.record q).take q.kind).2 }
  unfold send
  dsimp only
  split
  · exact (Linked.serve_requests q _).trans (all.trans taken)
  · exact all.trans taken

-- The first write that waits is sent and arrives, and the others wait on.
theorem drain_turn (steady : t.link.Steady) {w : Write} {rest : List Write}
    (waiting : t.outbox = w :: rest) (fuel written : Nat) :
    ∃ mid : Tracker, drain (fuel + 1) written t = drain fuel (written + 1) mid ∧
      mid.outbox = rest ∧ mid.link.Steady ∧
      mid.link.requests = t.link.requests ++ [w.request] ∧
      ∀ v, v.isStored t.link.store ∨ v = w → v.isStored mid.link.store := by
  let shorter : Tracker := { t with outbox := rest }
  obtain ⟨arrived, mid, sent, undisturbed, arrives⟩ := undisturbed_send
    (t := shorter) t.link.awaiting.length steady w.request
  have here : arrived = true := arrives w.request_kind
  subst here
  have asked := requests_send (t := shorter) t.link.awaiting.length steady w.request
  rw [sent] at asked
  refine ⟨mid.wrote w true, ?_, ?_, ?_, asked, ?_⟩
  · rw [drain_cons waiting, sent]
    rfl
  · rw [wrote_outbox, undisturbed.same]
  · have steady := undisturbed.steady
    cases w with
    | highScore | challenge => exact ⟨steady.writable, steady.awaited⟩
  · rintro v (already | rfl)
    · exact isStored_kept (undisturbed.store ▸ already) w
    · exact isStored_wrote v mid

-- The waiting writes are sent in order, and all of them arrive.
theorem drain_stores (steady : t.link.Steady) {fuel : Nat} (short : t.outbox.length ≤ fuel)
    (written : Nat) :
    (drain fuel written t).2.link.requests = t.link.requests ++ t.outbox.map Write.request ∧
      (∀ w, w.isStored t.link.store ∨ w ∈ t.outbox →
        w.isStored (drain fuel written t).2.link.store) := by
  induction fuel generalizing t written with
  | zero =>
    have empty : t.outbox = [] := List.length_eq_zero_iff.mp (by omega)
    refine ⟨by simp [drain, empty], fun w either => ?_⟩
    simpa [drain, empty] using either
  | succ fuel ih =>
    cases waiting : t.outbox with
    | nil =>
      have ended : drain (fuel + 1) written t = (written, t) := by simp only [drain, waiting]
      rw [ended]
      exact ⟨by simp, fun w either => by simpa using either⟩
    | cons w rest =>
      obtain ⟨mid, ran, left, on, asked, here⟩ := drain_turn steady waiting fuel written
      rw [waiting, List.length_cons] at short
      obtain ⟨requests, stored⟩ := ih on (by rw [left]; omega) (written + 1)
      rw [ran]
      refine ⟨?_, fun v either => stored v ?_⟩
      · rw [requests, left, asked, List.map_cons, List.append_assoc]
        rfl
      · rw [left]
        rcases either with already | inside
        · exact .inl (here v (.inl already))
        · exact (List.mem_cons.mp inside).imp_left fun same => here v (.inr same)

-- Only the record is asked for; a score that was held back may be queued then.
theorem load_asks (steady : t.link.Steady) (fuel : Nat) (signed : t.user? = some user) :
    (t.loadBy (interrupt fuel)).link.requests = t.link.requests ++ [.get user] ∧
      (t.loadBy (interrupt fuel)).link.store = t.link.store ∧
      (t.loadBy (interrupt fuel)).link.Steady ∧ (t.loadBy (interrupt fuel)).user? = some user ∧
      t.outbox <+: (t.loadBy (interrupt fuel)).outbox := by
  obtain ⟨arrived, mid, sent, undisturbed, _⟩ := undisturbed_send fuel steady (.get user)
  have asked := requests_send fuel steady (.get user)
  rw [sent] at asked
  have still : mid.user? = some user := by
    rw [undisturbed.same]
    exact signed
  have outbox : mid.outbox = t.outbox := by rw [undisturbed.same]
  rw [loadBy_told signed sent]
  cases arrived with
  | false => exact ⟨asked, undisturbed.store, undisturbed.steady, still, outbox ▸ List.prefix_rfl⟩
  | true =>
    have named : (mid.learn user).user? = some user := by simp [user?, learn]
    rw [told_learns still, ← outbox]
    have queues := queues_release (mid.learn user)
    generalize (mid.learn user).release = after at queues
    cases queues with
    | nothing => exact ⟨asked, undisturbed.store, undisturbed.steady, named, List.prefix_rfl⟩
    | highScore | challenge =>
      exact ⟨asked, undisturbed.store, undisturbed.steady, named, List.prefix_append _ _⟩

-- What a flush asks for before it writes.
def asks (t : Tracker) : List Request := if t.loaded then [] else t.user?.toList.map .get

theorem drainAll_stores (steady : t.link.Steady) :
    t.drainAll.2.link.requests = t.link.requests ++ t.outbox.map Write.request ∧
      ∀ w ∈ t.outbox, w.isStored t.drainAll.2.link.store := by
  obtain ⟨requests, stored⟩ := drain_stores steady (Nat.le_refl _) 0
  exact ⟨requests, fun w inside => stored w (.inr inside)⟩

theorem flush_stores (steady : t.link.Steady) (signed : t.user? = some user) :
    ∃ late, t.flush.2.link.requests = t.link.requests ++ t.asks ++
        (t.outbox ++ late).map Write.request ∧
      ∀ w ∈ t.outbox, w.isStored t.flush.2.link.store := by
  obtain ⟨r, player, _⟩ := Option.map_eq_some_iff.mp signed
  cases known : t.loaded with
  | true =>
    have direct : t.flush = t.drainAll := by simp [flush, known]
    obtain ⟨requests, stored⟩ := drainAll_stores steady
    rw [direct]
    exact ⟨[], by simpa [asks, known] using requests, stored⟩
  | false =>
    have direct : t.flush = t.load.drainAll := by simp [flush, known, player]
    obtain ⟨read, _, on, _, late, outbox⟩ := load_asks steady t.link.awaiting.length signed
    obtain ⟨requests, stored⟩ := drainAll_stores on
    rw [← outbox] at requests
    rw [direct]
    refine ⟨late, ?_, fun w inside => stored w (outbox ▸ List.mem_append_left _ inside)⟩
    calc t.load.drainAll.2.link.requests
      _ = t.load.link.requests ++ (t.outbox ++ late).map Write.request := requests
      _ = t.link.requests ++ t.asks ++ (t.outbox ++ late).map Write.request := by
        rw [asks, known, signed]
        exact congrArg (· ++ _) read

theorem drain_empties {fuel : Nat} (short : t.outbox.length ≤ fuel) (written : Nat) :
    (drain fuel written t).2.outbox = [] := by
  induction fuel generalizing t written with
  | zero => exact List.length_eq_zero_iff.mp (Nat.le_zero.mp short)
  | succ fuel ih =>
    cases waiting : t.outbox with
    | nil =>
      have ended : drain (fuel + 1) written t = (written, t) := by simp only [drain, waiting]
      rw [ended, waiting]
    | cons w rest =>
      have lessened := send_outbox t.link.awaiting.length w.request { t with outbox := rest }
      have fewer : rest.length ≤ fuel := by
        rw [waiting, List.length_cons] at short
        omega
      have left := Nat.le_trans lessened fewer
      rw [drain_cons waiting]
      split
      · rename_i ended
        rw [ended] at left
        exact ih (t := Tracker.confirm w _) left (written + 1)
      · rename_i ended
        rw [ended] at left
        exact ih left written

theorem flush_empties (t : Tracker) : t.flush.2.outbox = [] :=
  drain_empties (Nat.le_refl _) 0

-- Who enters is there to stay.
theorem signIn_steady (steady : t.link.Steady) (user : String) :
    ∃ r, t.signIn user = (.ok r, (t.welcome user).loadBy (interrupt t.link.awaiting.length)) := by
  obtain ⟨_, _, _, stays, _⟩ :=
    load_asks (t := t.welcome user) steady t.link.awaiting.length rfl
  obtain ⟨r, signed, _⟩ := Option.map_eq_some_iff.mp stays
  have known : ({ t with outbox := [], held := 0, progress := some { user }, loaded := false }.loadBy
      t.interrupting).progress = some r := signed
  refine ⟨r, ?_⟩
  unfold signIn signInBy
  simp only [known]
  rfl

theorem signIn_empties (user : String) (t : Tracker) : (t.signIn user).2.outbox = [] := by
  rw [signIn_loads]
  exact (blank_load (settling_interrupt _) ⟨rfl, rfl⟩).1

-- If the record is known, no write waits that it shows.
def News (t : Tracker) : Prop := t.loaded = true → ∀ w ∈ t.outbox, ¬ w.isStored t.link.store

theorem news_empty (empty : t.outbox = []) : t.News := by
  intro _ w inside
  rw [empty] at inside
  cases inside

theorem Current.coherent (current : t.Current) : t.Coherent := by
  intro known r signed
  obtain ⟨user, _, same⟩ := current known
  rw [signed] at same
  cases same
  simp

theorem News.queues (news : t.News) (coherent : t.Coherent) (queues : t.Queues u) : u.News := by
  cases queues with
  | nothing => exact news
  | highScore held signed known beats =>
    intro _ w inside
    rcases List.mem_append.mp inside with before | last
    · exact news known w before
    · cases List.mem_singleton.mp last
      have same := coherent known _ signed
      intro stored
      change _ ≤ (t.link.store.get _).highScore at stored
      rw [← same] at stored
      exact absurd stored (Int.not_le.mpr beats)
  | challenge held signed new =>
    intro known w inside
    rcases List.mem_append.mp inside with before | last
    · exact news known w before
    · cases List.mem_singleton.mp last
      have same := coherent known _ signed
      intro stored
      change _ ∈ (t.link.store.get _).completed at stored
      rw [← same] at stored
      exact new stored

theorem News.obey (news : t.News) (coherent : t.Coherent) (o : Order) : (t.obey o).News := by
  cases o with
  | signIn user => exact news_empty (signIn_empties user t)
  | signOut => exact news_empty rfl
  | award c s => exact news.queues coherent (queues_award c s t)
  | offer score => exact news.queues coherent (queues_offer score t)
  | flush => exact news_empty (flush_empties t)
  | equip => exact news

theorem news_orders (l : Link) (orders : List Order) : (orders.foldl obey { link := l }).News := by
  induction orders using List.reverseRecOn with
  | nil => exact news_empty rfl
  | append_singleton before o ih =>
    have current := (Traffic.current_always l).2 before
    rw [List.foldl_append]
    exact ih.obey current.coherent o

end Tracker
end ScriptArena.Progress

namespace ScriptArena.Service
open Arena Progress

-- A request that ends the session of a player, and stores all that was waiting before. A score that
-- was held back may be stored as well.
structure Settles (e : Engine) (q : HttpRequest) : Prop where
  answered : statusOf (q.answer e).1.1 = 200
  sent : ∃ late, (q.answer e).1.2.tracker.link.requests = e.tracker.link.requests ++
    e.tracker.asks ++ (e.tracker.outbox ++ late).map Write.request
  stored : ∀ w ∈ e.tracker.outbox, w.isStored (q.answer e).1.2.tracker.link.store
  cleared : (q.answer e).1.2.tracker.outbox = []
  left : (q.answer e).1.2.tracker.user? = none

-- A request that ends the session for another one. Nothing is stored; if the record was known, all
-- that was waiting is lost.
structure Forgets (e : Engine) (q : HttpRequest) (name : String) : Prop where
  answered : statusOf (q.answer e).1.1 = 200
  sent : (q.answer e).1.2.tracker.link.requests = e.tracker.link.requests ++ [.get name]
  unchanged : (q.answer e).1.2.tracker.link.store = e.tracker.link.store
  lost : e.tracker.loaded = true →
    ∀ w ∈ e.tracker.outbox, ¬ w.isStored (q.answer e).1.2.tracker.link.store
  cleared : (q.answer e).1.2.tracker.outbox = []
  entered : (q.answer e).1.2.tracker.user? = some name

def leaving (b : Body) : HttpRequest := ⟨"DELETE", "/api/game/player", b⟩

def entering (b : Body) : HttpRequest := ⟨"PUT", "/api/game/player", b⟩

-- The player whom a body names.
def Body.player (b : Body) : Except HttpResponse String :=
  b.fields.bind fun d => textField d "user_id" Option.none 1 maxUserLength

-- The action that a request is routed to.
def HttpRequest.action? (q : HttpRequest) : Option Action :=
  match destination q.method (Target.path q.target) with
  | .action a => some a
  | .answer _ => none

theorem answer_routed {q : HttpRequest} {a : Action} (routed : q.action? = some a) (e : Engine) :
    (q.answer e).1 = a.answer {} q.body e := by
  unfold HttpRequest.action? at routed
  cases found : destination q.method (Target.path q.target) with
  | action b =>
    rw [found] at routed
    cases routed
    simp only [HttpRequest.answer, found]
  | answer r =>
    rw [found] at routed
    cases routed

theorem leaving_answer (b : Body) (e : Engine) :
    ((leaving b).answer e).1 =
      (.ok (playerResponse e.flush.2.signOut.tracker), e.flush.2.signOut) := by
  have routed : (leaving .none).action? = some .signOut := by decide +kernel
  exact answer_routed (q := leaving b) routed e

theorem entering_answer {b : Body} {name : String} (named : b.player = .ok name) {e : Engine}
    (steady : e.tracker.link.Steady) :
    ((entering b).answer e).1 =
      (.ok (playerResponse (e.signIn name).2.tracker), (e.signIn name).2) := by
  have routed : (entering .none).action? = some .signIn := by decide +kernel
  have answered := answer_routed (q := entering b) routed e
  have read : (b.fields.bind fun d => textField d "user_id" Option.none 1 maxUserLength) =
      .ok name := named
  obtain ⟨r, signed⟩ := Tracker.signIn_steady steady name
  rw [answered]
  change signInAnswer b e = _
  unfold signInAnswer
  rw [read]
  dsimp only
  unfold Engine.signIn
  rw [signed]

theorem leaving_settles {e : Engine} {user : String} (steady : e.tracker.link.Steady)
    (signed : e.tracker.user? = some user) (b : Body) : Settles e (leaving b) := by
  obtain ⟨late, requests, stored⟩ := Tracker.flush_stores steady signed
  have answered := leaving_answer b e
  exact {
    answered := by rw [answered]; rfl
    sent := ⟨late, by rw [answered]; exact requests⟩
    stored := by rw [answered]; exact stored
    cleared := by rw [answered]; rfl
    left := by rw [answered]; rfl }

theorem entering_forgets {e : Engine} (steady : e.tracker.link.Steady) (news : e.tracker.News)
    {b : Body} {name : String} (named : b.player = .ok name) : Forgets e (entering b) name := by
  obtain ⟨r, signed⟩ := Tracker.signIn_steady steady name
  obtain ⟨requests, store, _, entered, _⟩ := Tracker.load_asks (t := e.tracker.welcome name)
    steady e.tracker.link.awaiting.length rfl
  have empty := Tracker.signIn_empties name e.tracker
  have answered := entering_answer named steady
  have tracker : (e.signIn name).2.tracker = (e.tracker.signIn name).2 := by
    unfold Engine.signIn
    rw [signed]
    rfl
  rw [signed] at tracker empty
  exact {
    answered := by rw [answered]; rfl
    sent := by rw [answered, tracker]; exact requests
    unchanged := by rw [answered, tracker]; exact store
    lost := by
      rw [answered, tracker]
      exact fun known w inside kept => news known w inside (store ▸ kept)
    cleared := by rw [answered, tracker]; exact empty
    entered := by rw [answered, tracker]; exact entered }

-- However a game is played, at the end of a session the ways part.
theorem handover_outcomes {start : Engine} {l : Link} (fresh : start.tracker = { link := l })
    {commands : List Command} (play : ∀ command ∈ commands, command.isPlay) {user : String}
    (steady : (start.performAll commands).tracker.link.Steady)
    (signed : (start.performAll commands).tracker.user? = some user) :
    (∀ b, Settles (start.performAll commands) (leaving b)) ∧
      ∀ b name, b.player = .ok name → Forgets (start.performAll commands) (entering b) name := by
  obtain ⟨orders, obeyed⟩ := Engine.orders_performAll play start
  have news : (start.performAll commands).tracker.News := by
    rw [obeyed, fresh]
    exact Tracker.news_orders l orders
  exact ⟨leaving_settles steady signed, fun _ _ named => entering_forgets steady news named⟩

-- A game that ends at a wall after a meal, and a player who follows.
def fedGame : Engine := { source := .scripted [0, 0] }

def fedWalk : List Command :=
  .signIn "ada" :: Engine.walk ++ .direction (.str "down") :: List.replicate 8 .tick

def asBob : Body := .document (.dict [(.str "user_id", .str "bob")])

theorem fedWalk_outcomes :
    (∀ command ∈ fedWalk, command.isPlay) ∧
      (fedGame.performAll fedWalk).tracker.outbox = [.highScore "ada" 10] ∧
      Settles (fedGame.performAll fedWalk) (leaving .none) ∧
      Forgets (fedGame.performAll fedWalk) (entering asBob) "bob" := by
  have play : ∀ command ∈ fedWalk, command.isPlay := by decide
  have waiting : (fedGame.performAll fedWalk).tracker.outbox = [.highScore "ada" 10] := by
    decide +kernel
  have signed : (fedGame.performAll fedWalk).tracker.user? = some "ada" := by decide +kernel
  have steady : (fedGame.performAll fedWalk).tracker.link.Steady :=
    ⟨by decide +kernel, by decide +kernel⟩
  have fresh : fedGame.tracker = { link := {} } := rfl
  obtain ⟨settles, forgets⟩ := handover_outcomes fresh play steady signed
  exact ⟨play, waiting, settles .none, forgets asBob "bob" rfl⟩

-- The score of the player who was here before never reaches the store.
theorem fedWalk_forgotten :
    (fedGame.performAll fedWalk).tracker.user? = some "ada" ∧
      (fedGame.performAll fedWalk).tracker.link.readable = true ∧
      (fedGame.performAll fedWalk).tracker.link.writable = true ∧
      (fedGame.performAll fedWalk).tracker.link.awaiting = [] ∧
      ∃ w ∈ (fedGame.performAll fedWalk).tracker.outbox,
        w.request ∉
            ((entering asBob).answer (fedGame.performAll fedWalk)).1.2.tracker.link.requests ∧
          ¬ w.isStored
            ((entering asBob).answer (fedGame.performAll fedWalk)).1.2.tracker.link.store := by
  refine ⟨by decide +kernel, by decide +kernel, by decide +kernel, by decide +kernel,
    .highScore "ada" 10, by decide +kernel, by decide +kernel, by decide +kernel⟩

end ScriptArena.Service
