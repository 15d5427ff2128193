import ScriptArena.Proofs.Progress.Traffic

namespace ScriptArena.Progress

-- What a tracker is told to do, and what becomes of its link.
inductive Order where
  | signIn (user : String)
  | signOut
  | award (c : Challenge) (s : Arena.State)
  | offer (score : Int)
  | flush
  | equip (readable writable : Bool) (awaiting : List (RequestKind × List Interruption))

def Tracker.obey (t : Tracker) : Order → Tracker
  | .signIn user => (t.signIn user).2
  | .signOut => t.signOut
  | .award c s => (t.award c s).2
  | .offer score => (t.offerScore score).2
  | .flush => t.flush.2
  | .equip readable writable awaiting => t.equip readable writable awaiting

namespace Traffic
open Act

-- Moves of our own lead from the one to the other.
def Reaches (f g : Traffic) : Prop := ∃ moves, (∀ m ∈ moves, m.isOwn) ∧ (run moves f).1 = g

variable {f g h : Traffic}

theorem run_append (first second : List Move) (f : Traffic) :
    (run (first ++ second) f).1 = (run second (run first f).1).1 := by
  induction first generalizing f with
  | nil => rfl
  | cons m rest ih => exact ih (step m f).1

theorem reaches_refl (f : Traffic) : Reaches f f := ⟨[], List.forall_mem_nil _, rfl⟩

theorem reaches_trans (fg : Reaches f g) (gh : Reaches g h) : Reaches f h := by
  obtain ⟨first, own, rfl⟩ := fg
  obtain ⟨second, own', rfl⟩ := gh
  exact ⟨first ++ second, List.forall_mem_append.mpr ⟨own, own'⟩, run_append first second f⟩

theorem reaches_step {m : Move} (own : m.isOwn) (f : Traffic) : Reaches f (step m f).1 :=
  ⟨[m], by simpa using own, rfl⟩

-- The request that was begun last is answered.
theorem answer_last (t : Tracker) (flights : List Flight) (flight : Flight) (arrived : Bool) :
    (step (.answer flights.length arrived) ⟨t, flights ++ [flight]⟩).1 =
      (settle arrived flight ⟨t, flights⟩).1 := by
  have here : (flights ++ [flight])[flights.length]? = some flight := by simp
  have away : (flights ++ [flight]).eraseIdx flights.length = flights := by
    simp [List.eraseIdx_append_of_length_le]
  simp only [step, here, andThen, land, away]

end Traffic

open Traffic

namespace Tracker

-- An interruption is some moves, whatever else is on its way.
def Scheduled (interrupt : Interrupting) : Prop :=
  ∀ i t flights, Reaches ⟨t, flights⟩ ⟨(interrupt i t).2, flights⟩

variable {interrupt : Interrupting} {t : Tracker}

theorem scheduled_all (scheduled : Scheduled interrupt) (is : List Interruption) (t : Tracker)
    (flights : List Flight) : Reaches ⟨t, flights⟩ ⟨(interruptAll interrupt is t).2, flights⟩ := by
  induction is generalizing t with
  | nil => exact reaches_refl _
  | cons i rest ih =>
    have first := scheduled i t flights
    unfold interruptAll
    split
    · rename_i ended
      rw [ended] at first
      exact reaches_trans first (ih _)
    · rename_i ended
      rw [ended] at first
      exact first

-- Taking what is awaited changes nothing but that.
theorem take_equips (kind : RequestKind) (t : Tracker) :
    { t with link := (t.link.take kind).2 } =
      t.equip t.link.readable t.link.writable (t.link.take kind).2.awaiting := by
  unfold Link.take
  split
  · rfl
  · rfl

-- While a request that has been begun is on its way, what interrupts it takes place.
theorem scheduled_send (scheduled : Scheduled interrupt) (q : Request) (t : Tracker)
    (flights : List Flight) :
    ∃ mid arrived, Reaches ⟨t.record q, flights⟩ ⟨mid, flights⟩ ∧
      t.send interrupt q = (arrived, if arrived then mid.serve q else mid) := by
  let taken := (t.record q).link.take q.kind
  let begun := (t.record q).equip t.link.readable t.link.writable taken.2.awaiting
  have same : { t.record q with link := taken.2 } = begun := take_equips q.kind (t.record q)
  have equipped : Reaches ⟨t.record q, flights⟩ ⟨begun, flights⟩ :=
    reaches_step (m := .equip t.link.readable t.link.writable taken.2.awaiting) rfl _
  let ending := interruptAll interrupt taken.1 begun
  have interrupted : Reaches ⟨begun, flights⟩ ⟨ending.2, flights⟩ :=
    scheduled_all scheduled taken.1 begun flights
  refine ⟨ending.2, ending.1 && ending.2.link.reaches q.kind, reaches_trans equipped interrupted, ?_⟩
  have sent : t.send interrupt q =
      let after := interruptAll interrupt taken.1 { t.record q with link := taken.2 }
      if after.1 && after.2.link.reaches q.kind then (true, after.2.serve q)
      else (false, after.2) := rfl
  rw [sent, same]
  change (if ending.1 && ending.2.link.reaches q.kind then (true, ending.2.serve q)
    else (false, ending.2)) = _
  cases ending.1 && ending.2.link.reaches q.kind with
  | true => rfl
  | false => rfl

-- The record of the player is asked for, and accepted if it comes.
theorem scheduled_load (scheduled : Scheduled interrupt) {user : String} {t : Tracker}
    (signed : t.user? = some user) (flushing : Bool) (flights : List Flight) :
    Reaches (ask user flushing ⟨t, flights⟩).1
      (if flushing then (pump ⟨t.loadBy interrupt, flights⟩).1 else ⟨t.loadBy interrupt, flights⟩) := by
  obtain ⟨mid, arrived, reached, sent⟩ :=
    scheduled_send scheduled (.get user) t (flights ++ [.reading user flushing])
  have answered := reaches_step (m := .answer flights.length arrived) rfl
    ⟨mid, flights ++ [.reading user flushing]⟩
  rw [answer_last] at answered
  have both := reaches_trans reached answered
  rw [loadBy_told signed sent]
  cases flushing with
  | true => exact both
  | false => exact both

theorem scheduled_signIn (scheduled : Scheduled interrupt) (user : String) (t : Tracker)
    (flights : List Flight) : Reaches ⟨t, flights⟩ ⟨(t.signInBy interrupt user).2, flights⟩ := by
  rw [signInBy_loads]
  have entered := reaches_step (m := .signIn user) rfl ⟨t, flights⟩
  exact reaches_trans entered (scheduled_load scheduled (t := t.welcome user) rfl false flights)

theorem scheduled_interrupt (fuel : Nat) : Scheduled (Tracker.interrupt fuel) := by
  induction fuel with
  | zero =>
    intro i t flights
    cases i with
    | signOut => exact reaches_step (m := .signOut) rfl _
    | signIn user => exact reaches_refl _
    | reach readable writable =>
      exact reaches_step (m := .equip readable writable t.link.awaiting) rfl _
  | succ fuel ih =>
    intro i t flights
    cases i with
    | signOut => exact reaches_step (m := .signOut) rfl _
    | signIn user =>
      rw [interrupt_signIn, ← signInBy_loads]
      exact scheduled_signIn ih user t flights
    | reach readable writable =>
      exact reaches_step (m := .equip readable writable t.link.awaiting) rfl _

-- Nobody's writes or scores are left.
def Blank (t : Tracker) : Prop := t.outbox = [] ∧ t.held = 0

-- An interruption adds nothing to the outbox: either somebody comes or goes, or it stays as it is.
def Settling (interrupt : Interrupting) : Prop :=
  ∀ i t, Blank (interrupt i t).2 ∨ (interrupt i t).2.outbox = t.outbox ∧ (interrupt i t).2.held = t.held

theorem settling_all (settling : Settling interrupt) (is : List Interruption) (t : Tracker) :
    Blank (interruptAll interrupt is t).2 ∨ (interruptAll interrupt is t).2.outbox = t.outbox ∧
      (interruptAll interrupt is t).2.held = t.held := by
  induction is generalizing t with
  | nil => exact .inr ⟨rfl, rfl⟩
  | cons i rest ih =>
    have first := settling i t
    unfold interruptAll
    split
    · rename_i u ended
      rw [ended] at first
      rcases ih u with blank | ⟨outbox, held⟩
      · exact .inl blank
      · rcases first with blank | ⟨outbox', held'⟩
        · exact .inl ⟨outbox.trans blank.1, held.trans blank.2⟩
        · exact .inr ⟨outbox.trans outbox', held.trans held'⟩
    · rename_i ended
      rwa [ended] at first

theorem settling_send (settling : Settling interrupt) (q : Request) (t : Tracker) :
    Blank (t.send interrupt q).2 ∨
      (t.send interrupt q).2.outbox = t.outbox ∧ (t.send interrupt q).2.held = t.held := by
  have all := settling_all settling ((t.link.record q).take q.kind).1
    { t with link := ((t.link.record q).take q.kind).2 }
  unfold send
  dsimp only
  split
  · exact all
  · exact all

theorem blank_load (settling : Settling interrupt) (blank : Blank t) : Blank (t.loadBy interrupt) := by
  unfold loadBy
  split
  · exact blank
  · rename_i user _
    have after : Blank (t.send interrupt (.get user)).2 := by
      rcases settling_send settling (.get user) t with now | ⟨outbox, held⟩
      · exact now
      · exact ⟨outbox.trans blank.1, held.trans blank.2⟩
    split
    · rename_i u ended
      rw [ended] at after
      have none : u.held = 0 := after.2
      unfold accept
      split
      · simp only [release, none, if_true]
        exact ⟨after.1, rfl⟩
      · exact after
    · rename_i ended
      rwa [ended] at after

theorem settling_interrupt (fuel : Nat) : Settling (Tracker.interrupt fuel) := by
  induction fuel with
  | zero =>
    intro i t
    cases i with
    | signOut => exact .inl ⟨rfl, rfl⟩
    | signIn user => exact .inr ⟨rfl, rfl⟩
    | reach readable writable => exact .inr ⟨rfl, rfl⟩
  | succ fuel ih =>
    intro i t
    cases i with
    | signOut => exact .inl ⟨rfl, rfl⟩
    | signIn user =>
      rw [interrupt_signIn]
      exact .inl (blank_load ih ⟨rfl, rfl⟩)
    | reach readable writable => exact .inr ⟨rfl, rfl⟩

theorem send_outbox (fuel : Nat) (q : Request) (t : Tracker) :
    (t.send (Tracker.interrupt fuel) q).2.outbox.length ≤ t.outbox.length := by
  rcases settling_send (settling_interrupt fuel) q t with blank | ⟨outbox, _⟩
  · simp [blank.1]
  · exact Nat.le_of_eq (congrArg List.length outbox)

theorem drain_cons {w : Write} {rest : List Write} (waiting : t.outbox = w :: rest)
    (fuel written : Nat) :
    drain (fuel + 1) written t =
      match { t with outbox := rest }.send (Tracker.interrupt t.link.awaiting.length) w.request with
      | (true, u) => drain fuel (written + 1) (u.confirm w)
      | (false, u) => drain fuel written u := by
  rw [drain, waiting]
  rfl

-- The first write that waits is sent, with whatever comes between.
theorem scheduled_turn {t : Tracker} {w : Write} {rest : List Write} (waiting : t.outbox = w :: rest)
    (fuel written : Nat) (flights : List Flight) :
    ∃ (mid : Tracker) (count : Nat), Reaches (pump ⟨t, flights⟩).1 (pump ⟨mid, flights⟩).1 ∧
      mid.outbox.length ≤ rest.length ∧
      (drain (fuel + 1) written t).2 = (drain fuel count mid).2 := by
  have lessened := send_outbox t.link.awaiting.length w.request { t with outbox := rest }
  obtain ⟨mid, arrived, reached, sent⟩ := scheduled_send
    (scheduled_interrupt t.link.awaiting.length) w.request { t with outbox := rest }
    (flights ++ [.writing w])
  have answered := reaches_step (m := .answer flights.length arrived) rfl
    ⟨mid, flights ++ [.writing w]⟩
  rw [answer_last] at answered
  have begun : (pump ⟨t, flights⟩).1 =
      ⟨({ t with outbox := rest } : Tracker).record w.request, flights ++ [.writing w]⟩ := by
    simp only [pump, waiting]
    rfl
  rw [begun, drain_cons waiting, sent]
  rw [sent] at lessened
  refine ⟨mid.wrote w arrived, bif arrived then written + 1 else written,
    reaches_trans reached answered, ?_, ?_⟩
  · rw [wrote_outbox]
    cases arrived with
    | true | false => exact lessened
  · cases arrived with
    | true | false => rfl

theorem scheduled_drain (fuel written : Nat) {t : Tracker} (short : t.outbox.length ≤ fuel)
    (flights : List Flight) :
    Reaches (pump ⟨t, flights⟩).1 ⟨(drain fuel written t).2, flights⟩ := by
  induction fuel generalizing t written with
  | zero =>
    have empty : t.outbox = [] := List.length_eq_zero_iff.mp (by omega)
    simp only [pump, empty, drain]
    exact reaches_refl _
  | succ fuel ih =>
    cases waiting : t.outbox with
    | nil =>
      simp only [pump, waiting, drain]
      exact reaches_refl _
    | cons w rest =>
      obtain ⟨mid, count, reached, fewer, same⟩ := scheduled_turn waiting fuel written flights
      rw [waiting, List.length_cons] at short
      rw [same]
      exact reaches_trans reached (ih count (Nat.le_trans fewer (Nat.le_of_succ_le_succ short)))

theorem signIn_reaches (user : String) (t : Tracker) (flights : List Flight) :
    Reaches ⟨t, flights⟩ ⟨(t.signIn user).2, flights⟩ :=
  scheduled_signIn (scheduled_interrupt _) user t flights

-- What is left of a flush when it has begun.
theorem flush_ends (t : Tracker) (flights : List Flight) :
    Reaches (step .flush ⟨t, flights⟩).1 ⟨t.flush.2, flights⟩ := by
  have sending (u : Tracker) : Reaches (pump ⟨u, flights⟩).1 ⟨u.drainAll.2, flights⟩ :=
    scheduled_drain _ 0 (Nat.le_refl _) flights
  cases signed : t.progress with
  | none =>
    have direct : (step .flush ⟨t, flights⟩).1 = (pump ⟨t, flights⟩).1 := by
      simp [step, beginFlush, user?, signed]
    rw [direct, flush, signed]
    exact sending t
  | some r =>
    cases known : t.loaded with
    | true =>
      have direct : (step .flush ⟨t, flights⟩).1 = (pump ⟨t, flights⟩).1 := by
        simp [step, beginFlush, user?, signed, known]
      rw [direct, flush, signed, known]
      exact sending t
    | false =>
      have direct : (step .flush ⟨t, flights⟩).1 = (ask r.user true ⟨t, flights⟩).1 := by
        simp [step, beginFlush, user?, signed, known]
      have owner : t.user? = some r.user := by simp [user?, signed]
      rw [direct, flush, signed, known]
      have loaded := scheduled_load (scheduled_interrupt t.link.awaiting.length) owner true flights
      exact reaches_trans loaded (sending t.load)

theorem flush_reaches (t : Tracker) (flights : List Flight) :
    Reaches ⟨t, flights⟩ ⟨t.flush.2, flights⟩ :=
  reaches_trans (reaches_step (m := .flush) rfl ⟨t, flights⟩) (flush_ends t flights)

theorem obey_reaches (o : Order) (t : Tracker) (flights : List Flight) :
    Reaches ⟨t, flights⟩ ⟨t.obey o, flights⟩ := by
  cases o with
  | signIn user => exact signIn_reaches user t flights
  | signOut => exact reaches_step (m := .signOut) rfl _
  | award c s => exact reaches_step (m := .award c s) rfl _
  | offer score => exact reaches_step (m := .offer score) rfl _
  | flush => exact flush_reaches t flights
  | equip readable writable awaiting =>
    exact reaches_step (m := .equip readable writable awaiting) rfl _

-- A tracker that carries out one order after the other makes no move but its own.
theorem orders_reach (orders : List Order) (t : Tracker) (flights : List Flight) :
    Reaches ⟨t, flights⟩ ⟨orders.foldl obey t, flights⟩ := by
  induction orders generalizing t with
  | nil => exact reaches_refl _
  | cons o rest ih => exact reaches_trans (obey_reaches o t flights) (ih (t.obey o))

end Tracker
end ScriptArena.Progress
