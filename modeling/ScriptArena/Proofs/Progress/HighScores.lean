import ScriptArena.Proofs.Progress.Records

namespace ScriptArena.Progress

-- The player stays, and writes still arrive.
def Interruption.spares : Interruption → Bool
  | .reach _ writable => writable
  | .signIn _ | .signOut => false

structure Link.Steady (l : Link) : Prop where
  writable : l.writable = true
  awaited : ∀ a ∈ l.awaiting, ∀ i ∈ a.2, i.spares = true

def Order.stays : Order → Bool
  | .signIn _ | .signOut => false
  | .equip _ writable awaiting => writable && awaiting.all (·.2.all Interruption.spares)
  | .award .. | .offer _ | .flush => true

namespace Link

theorem Steady.take {l : Link} (steady : l.Steady) (kind : RequestKind) :
    (l.take kind).2.Steady ∧ (l.take kind).2.store = l.store ∧
      ∀ i ∈ (l.take kind).1, i.spares = true := by
  unfold Link.take
  split
  · rename_i found awaited
    refine ⟨⟨steady.writable, fun a inside => ?_⟩, rfl, ?_⟩
    · exact steady.awaited a (List.mem_of_mem_erase inside)
    · exact steady.awaited found (List.mem_of_find?_eq_some awaited)
  · exact ⟨steady, rfl, List.forall_mem_nil _⟩

end Link

theorem Write.request_kind (w : Write) : w.request.kind ≠ .get := by
  cases w with
  | highScore | challenge => exact nofun

namespace Tracker

variable {t u : Tracker} {user : String}

-- Nothing but the link has changed, and of it not the store.
structure Undisturbed (t u : Tracker) : Prop where
  same : u = { t with link := u.link }
  store : u.link.store = t.link.store
  steady : u.link.Steady

-- An interruption after which the store can or cannot be reached is only that.
theorem interruptAll_reach (fuel : Nat) (readable writable : Bool) (rest : List Interruption)
    (t : Tracker) :
    interruptAll (interrupt fuel) (.reach readable writable :: rest) t =
      interruptAll (interrupt fuel) rest { t with link := { t.link with readable, writable } } := by
  cases fuel with
  | zero | succ => rfl

theorem undisturbed_all (fuel : Nat) (steady : t.link.Steady) {is : List Interruption}
    (spare : ∀ i ∈ is, i.spares = true) :
    ∃ u, interruptAll (interrupt fuel) is t = (true, u) ∧ Undisturbed t u := by
  induction is generalizing t with
  | nil => exact ⟨t, rfl, rfl, rfl, steady⟩
  | cons i rest ih =>
    have ⟨first, others⟩ := List.forall_mem_cons.mp spare
    cases i with
    | signIn | signOut => cases first
    | reach readable writable =>
      rw [interruptAll_reach]
      obtain ⟨u, ended, same, store, after⟩ :=
        ih (t := { t with link := { t.link with readable, writable } })
          ⟨first, steady.awaited⟩ others
      exact ⟨u, ended, same, store, after⟩

-- A write arrives.
theorem undisturbed_send (fuel : Nat) (steady : t.link.Steady) (q : Request) :
    ∃ arrived mid, t.send (interrupt fuel) q = (arrived, if arrived then mid.serve q else mid) ∧
      Undisturbed t mid ∧ (q.kind ≠ .get → arrived = true) := by
  have recorded : (t.link.record q).Steady := ⟨steady.writable, steady.awaited⟩
  obtain ⟨taken, store, spare⟩ := recorded.take q.kind
  obtain ⟨mid, ended, same, kept, after⟩ :=
    undisturbed_all (t := { t with link := ((t.link.record q).take q.kind).2 }) fuel taken spare
  have undisturbed : Undisturbed t mid := ⟨same, kept.trans store, after⟩
  refine ⟨mid.link.reaches q.kind, mid, ?_, undisturbed, ?_⟩
  · unfold send
    dsimp only
    rw [ended]
    cases mid.link.reaches q.kind with
    | true => rfl
    | false => rfl
  · intro writes
    cases q with
    | get => exact absurd rfl writes
    | set | add => exact after.writable

end Tracker

-- The score that a write brings to a player.
def Write.score? (user : String) : Write → Option Int
  | .highScore name score => if name = user then some score else none
  | .challenge .. => none

def Order.offer? : Order → Option Int
  | .offer score => some score
  | .signIn _ | .signOut | .award .. | .flush | .equip .. => none

theorem foldl_max (xs : List Int) (a b : Int) : xs.foldl max (max a b) = max (xs.foldl max a) b := by
  rw [Int.max_comm a b, List.foldl_assoc, Int.max_comm]

theorem le_foldl_max (xs : List Int) (a : Int) : a ≤ xs.foldl max a := by
  induction xs generalizing a with
  | nil => exact Int.le_refl a
  | cons x rest ih => exact Int.le_trans (Int.le_max_left a x) (ih (max a x))

theorem mem_le_foldl_max {x : Int} {xs : List Int} (inside : x ∈ xs) (a : Int) :
    x ≤ xs.foldl max a := by
  obtain ⟨before, after, rfl⟩ := List.append_of_mem inside
  rw [List.foldl_append, List.foldl_cons]
  exact Int.le_trans (Int.le_max_right _ _) (le_foldl_max _ _)

namespace Tracker

variable {t u : Tracker} {user : String}

-- The high score of the player, as far as it is stored or held back.
def secured (user : String) (t : Tracker) : Int :=
  if t.loaded then t.stored user else max (t.stored user) t.held

-- The high score that will be stored when all that waits has been written.
def owed (user : String) (t : Tracker) : Int :=
  (t.outbox.filterMap (Write.score? user)).foldl max (t.secured user)

theorem stored_le_owed (user : String) (t : Tracker) : t.stored user ≤ t.owed user := by
  have first : t.stored user ≤ t.secured user := by
    unfold secured
    split
    · exact Int.le_refl _
    · exact Int.le_max_left _ _
  exact Int.le_trans first (le_foldl_max _ _)

theorem owed_settled (known : t.loaded = true) (empty : t.outbox = []) :
    t.owed user = t.stored user := by
  simp [owed, secured, known, empty]

theorem owed_frame (outbox : u.outbox = t.outbox) (loaded : u.loaded = t.loaded)
    (held : u.held = t.held) (store : u.link.store = t.link.store) : u.owed user = t.owed user := by
  simp [owed, secured, stored, outbox, loaded, held, store]

-- The player has a record that is never worse than none, and nobody interferes.
structure Engaged (user : String) (t : Tracker) : Prop where
  signed : t.user? = some user
  coherent : t.Coherent
  floor : 0 ≤ t.stored user
  steady : t.link.Steady

namespace Engaged

theorem frame (engaged : Engaged user t) (progress : u.progress = t.progress)
    (loaded : u.loaded = t.loaded) (store : u.link.store = t.link.store)
    (steady : u.link.Steady) : Engaged user u where
  signed := by
    rw [user?, progress]
    exact engaged.signed
  coherent := engaged.coherent.frame progress loaded store
  floor := by
    rw [stored, store]
    exact engaged.floor
  steady := steady

theorem queues (engaged : Engaged user t) (queues : t.Queues u) : Engaged user u := by
  cases queues with
  | nothing | highScore | challenge => exact engaged.frame rfl rfl rfl engaged.steady

theorem undisturbed (engaged : Engaged user t) (undisturbed : Undisturbed t u) :
    Engaged user u := by
  rw [undisturbed.same]
  exact engaged.frame rfl rfl undisturbed.store undisturbed.steady

theorem record (engaged : Engaged user t) :
    ∃ r, t.progress = some r ∧ r.user = user ∧ (t.loaded = true → r.highScore = t.stored user) := by
  obtain ⟨r, signed, rfl⟩ := Option.map_eq_some_iff.mp engaged.signed
  refine ⟨r, signed, rfl, fun known => ?_⟩
  rw [stored, ← engaged.coherent known r signed]

theorem owed_offer (engaged : Engaged user t) (score : Int) :
    (t.offerScore score).2.owed user = max (t.owed user) score := by
  obtain ⟨r, signed, name, same⟩ := engaged.record
  unfold offerScore
  rw [signed]
  dsimp only
  cases known : t.loaded with
  | false =>
    simp only [Bool.not_false, if_true, owed, secured, known, stored, Bool.false_eq_true, if_false]
    rw [← Int.max_assoc, foldl_max]
  | true =>
    simp only [Bool.not_true, Bool.false_eq_true, if_false]
    split
    · rename_i low
      rw [same known] at low
      exact (Int.max_eq_left (Int.le_trans low (stored_le_owed user t))).symm
    · simp [owed, secured, known, stored, Write.score?, name]

theorem owed_award (c : Challenge) (s : Arena.State) (t : Tracker) :
    (t.award c s).2.owed user = t.owed user := by
  unfold award queueChallenge
  dsimp only
  split
  · rfl
  · split
    · rfl
    · simp [owed, secured, stored, List.filterMap_cons, Write.score?]

-- A held score is owed before the record arrives, and offered when it has arrived.
theorem owed_release (engaged : Engaged user t) (unknown : t.loaded = false) :
    (t.learn user).release.owed user = t.owed user := by
  let learnt : Tracker := { t.learn user with held := 0 }
  have reading : Engaged user learnt :=
    ⟨by simp [learnt, user?, learn], (coherent_learn user t).frame rfl rfl rfl, engaged.floor,
      engaged.steady⟩
  have before : t.owed user = max (learnt.owed user) t.held := by
    have known : learnt.secured user = t.stored user := rfl
    have guessed : t.secured user = max (t.stored user) t.held := by simp [secured, unknown]
    rw [owed, owed, known, guessed, foldl_max]
    rfl
  rw [before]
  unfold release
  dsimp only
  split
  · rename_i none
    have held : t.held = 0 := none
    have floor := Int.le_trans reading.floor (stored_le_owed user learnt)
    rw [held]
    exact (Int.max_eq_left floor).symm
  · exact reading.owed_offer t.held

theorem load (fuel : Nat) (engaged : Engaged user t) (unknown : t.loaded = false) :
    Engaged user (t.loadBy (interrupt fuel)) ∧
      (t.loadBy (interrupt fuel)).owed user = t.owed user := by
  obtain ⟨arrived, mid, sent, undisturbed, _⟩ :=
    undisturbed_send fuel engaged.steady (.get user)
  have waiting := engaged.undisturbed undisturbed
  have same : mid.owed user = t.owed user := by
    rw [undisturbed.same]
    exact owed_frame rfl rfl rfl undisturbed.store
  have still : mid.loaded = false := by
    rw [undisturbed.same]
    exact unknown
  rw [loadBy_told engaged.signed sent]
  cases arrived with
  | false => exact ⟨waiting, same⟩
  | true =>
    have learnt : Engaged user (mid.learn user) :=
      ⟨by simp [user?, learn], coherent_learn user mid, waiting.floor, waiting.steady⟩
    rw [told_learns waiting.signed]
    exact ⟨learnt.queues (queues_release _), (waiting.owed_release still).trans same⟩

theorem stored_wrote (w : Write) (t : Tracker) :
    (t.wrote w true).stored user = (w.score? user).toList.foldl max (t.stored user) := by
  unfold stored
  rw [wrote_get]
  cases w with
  | highScore name score =>
    by_cases same : name = user
    · simp [Write.score?, Write.user, Write.apply, Record.raise, same]
    · simp [Write.score?, Write.user, same]
  | challenge name id =>
    split
    · exact Record.complete_highScore id _
    · rfl

-- What was waiting at the head of the outbox is stored now.
theorem owed_wrote (w : Write) (t : Tracker) :
    (t.wrote w true).owed user = ({ t with outbox := w :: t.outbox } : Tracker).owed user := by
  have secured : (t.wrote w true).secured user =
      (w.score? user).toList.foldl max (t.secured user) := by
    have held : (t.wrote w true).held = t.held := rfl
    have known : (t.wrote w true).loaded = t.loaded := rfl
    unfold Tracker.secured
    rw [stored_wrote, held, known]
    split
    · rfl
    · cases w.score? user with
      | none => rfl
      | some score =>
        change max (max (t.stored user) score) t.held = max (max (t.stored user) t.held) score
        omega
  have waiting : ((w :: t.outbox).filterMap (Write.score? user)) =
      (w.score? user).toList ++ t.outbox.filterMap (Write.score? user) := by
    cases found : w.score? user <;> simp [found]
  change (t.outbox.filterMap (Write.score? user)).foldl max _ = _
  rw [secured, owed, waiting, List.foldl_append]
  rfl

theorem wrote (engaged : Engaged user t) (w : Write) : Engaged user (t.wrote w true) where
  signed := (wrote_user w true t).trans engaged.signed
  coherent := engaged.coherent.arrive w
  floor := Int.le_trans engaged.floor (stored_le_wrote w user t)
  steady := by
    have steady := engaged.steady
    cases w with
    | highScore | challenge => exact ⟨steady.writable, steady.awaited⟩

theorem drain (engaged : Engaged user t) {fuel : Nat} (short : t.outbox.length ≤ fuel)
    (written : Nat) :
    Engaged user (Tracker.drain fuel written t).2 ∧
      (Tracker.drain fuel written t).2.owed user = t.owed user ∧
      (Tracker.drain fuel written t).2.outbox = [] := by
  induction fuel generalizing t written with
  | zero =>
    have empty : t.outbox = [] := List.length_eq_zero_iff.mp (by omega)
    exact ⟨engaged, rfl, empty⟩
  | succ fuel ih =>
    cases waiting : t.outbox with
    | nil =>
      have ended : Tracker.drain (fuel + 1) written t = (written, t) := by
        simp only [Tracker.drain, waiting]
      rw [ended]
      exact ⟨engaged, rfl, waiting⟩
    | cons w rest =>
      obtain ⟨arrived, mid, sent, undisturbed, arrives⟩ := undisturbed_send
        (t := { t with outbox := rest }) t.link.awaiting.length engaged.steady w.request
      have here : arrived = true := arrives w.request_kind
      subst here
      have shorter : Engaged user { t with outbox := rest } := engaged.frame rfl rfl rfl engaged.steady
      have next := (shorter.undisturbed undisturbed).wrote w
      have left : mid.outbox = rest := by rw [undisturbed.same]
      have fewer : (mid.wrote w true).outbox.length ≤ fuel := by
        rw [wrote_outbox, left]
        rw [waiting, List.length_cons] at short
        omega
      have same : (mid.wrote w true).owed user = t.owed user := by
        rw [owed_wrote, left, undisturbed.same]
        exact owed_frame waiting.symm rfl rfl undisturbed.store
      have ran : Tracker.drain (fuel + 1) written t =
          Tracker.drain fuel (written + 1) (mid.wrote w true) := by
        rw [drain_cons waiting, sent]
        rfl
      rw [ran]
      obtain ⟨still, owes, empty⟩ := ih next fewer (written + 1)
      exact ⟨still, owes.trans same, empty⟩

theorem flush (engaged : Engaged user t) :
    Engaged user t.flush.2 ∧ t.flush.2.owed user = t.owed user ∧ t.flush.2.outbox = [] := by
  have sending {u : Tracker} (engaged : Engaged user u) := engaged.drain (Nat.le_refl _) 0
  obtain ⟨r, signed, _⟩ := engaged.record
  cases known : t.loaded with
  | true =>
    have direct : t.flush = t.drainAll := by simp [Tracker.flush, known]
    rw [direct]
    exact sending engaged
  | false =>
    have direct : t.flush = t.load.drainAll := by simp [Tracker.flush, known, signed]
    obtain ⟨read, same⟩ := engaged.load t.link.awaiting.length known
    obtain ⟨still, owes, empty⟩ := sending read
    rw [direct]
    exact ⟨still, owes.trans same, empty⟩

theorem obey (engaged : Engaged user t) {o : Order} (stays : o.stays = true) :
    Engaged user (t.obey o) ∧ (t.obey o).owed user = o.offer?.toList.foldl max (t.owed user) := by
  cases o with
  | signIn | signOut => cases stays
  | award c s => exact ⟨engaged.queues (queues_award c s t), owed_award c s t⟩
  | offer score => exact ⟨engaged.queues (queues_offer score t), engaged.owed_offer score⟩
  | flush =>
    obtain ⟨still, owes, _⟩ := engaged.flush
    exact ⟨still, owes⟩
  | equip readable writable awaiting =>
    simp only [Order.stays, Bool.and_eq_true, List.all_eq_true] at stays
    exact ⟨engaged.frame rfl rfl rfl ⟨stays.1, stays.2⟩, owed_frame rfl rfl rfl rfl⟩

end Engaged

theorem signIn_engaged (steady : t.link.Steady) (floor : 0 ≤ t.stored user) :
    Engaged user (t.signIn user).2 ∧ (t.signIn user).2.owed user = t.stored user := by
  have entered : Engaged user (t.welcome user) := ⟨rfl, nofun, floor, steady⟩
  have start : (t.welcome user).owed user = t.stored user := by
    change max (t.stored user) 0 = t.stored user
    omega
  rw [signIn_loads, ← start]
  exact entered.load _ rfl

end Tracker

-- A store as requests have made it.
inductive Store.Written : Store → Prop where
  | empty : Written {}
  | highScore (user : String) (score : Int) (written : Written s) : Written (s.setHighScore user score)
  | challenge (user id : String) (written : Written s) : Written (s.addCompleted user id)

theorem Store.Written.put {s : Store} {r : Record} (floor : 0 ≤ r.highScore)
    (others : ∀ user, 0 ≤ (s.get user).highScore) (user : String) :
    0 ≤ ((s.put r).get user).highScore := by
  by_cases same : r.user = user
  · subst same
    rwa [Store.get_put_self]
  · rw [Store.get_put_other s r same]
    exact others user

-- Nobody is ever worse off than without a record.
theorem Store.Written.floor {s : Store} (written : s.Written) (user : String) :
    0 ≤ (s.get user).highScore := by
  induction written generalizing user with
  | empty => exact Int.le_refl 0
  | highScore name score _ ih =>
    exact put (Int.le_trans (ih name) (Int.le_max_left _ _)) ih user
  | challenge name id _ ih =>
    refine put ?_ ih user
    rw [Record.complete_highScore]
    exact ih name

theorem written_kept : Traffic.Kept fun _ t => t.link.store.Written where
  enter _ written := written
  leave written := written
  queue written queues := by
    cases queues with
    | nothing | highScore | challenge => exact written
  ask _ written := written
  post written _ := written
  miss _ _ written := written
  learn written _ := written
  lose _ written := written
  arrive w written := by
    cases w with
    | highScore user score => exact .highScore user score written
    | challenge user id => exact .challenge user id written
  equip _ _ _ written := written

theorem Tracker.written_orders {t : Tracker} (written : t.link.store.Written)
    (orders : List Order) : (orders.foldl Tracker.obey t).link.store.Written := by
  obtain ⟨moves, own, ended⟩ := Tracker.orders_reach orders t []
  have kept := Traffic.keeps_run (fun m inside => written_kept.keeps_step (own m inside))
    ⟨t, []⟩ [] written
  rwa [ended] at kept

end ScriptArena.Progress
