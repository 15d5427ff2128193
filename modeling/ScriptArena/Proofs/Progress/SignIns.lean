import ScriptArena.Proofs.Progress.Isolation

namespace ScriptArena.Progress

-- Where a request stands after a move, unless the move answers it or gives it up.
def Move.follow (place : Nat) : Move → Option Nat
  | .answer other _ | .cancel other =>
    if other < place then some (place - 1) else if other = place then none else some place
  | _ => some place

def follow : List Move → Nat → Option Nat
  | [], place => some place
  | m :: rest, place => (m.follow place).bind (follow rest)

namespace Act

-- New requests go to the end.
def Adds (a : Act) : Prop := ∀ f, f.flights <+: (a f).1.flights

variable {f : Traffic} {flight : Flight} {place next : Nat}

theorem adds_idle : Adds idle := fun _ => List.prefix_refl _

theorem adds_andThen {first second : Act} (one : Adds first) (two : Adds second) :
    Adds (first.andThen second) :=
  fun f => (one f).trans (two _)

theorem adds_change (events : List Event) (become : Tracker → Tracker) : Adds (change events become) :=
  fun _ => List.prefix_refl _

theorem adds_launch (flight : Flight) : Adds (launch flight) :=
  fun _ => List.prefix_append _ _

theorem Adds.stays {a : Act} (adds : Adds a) (found : f.flights[place]? = some flight) :
    (a f).1.flights[place]? = some flight := by
  obtain ⟨more, longer⟩ := adds f
  obtain ⟨inside, -⟩ := List.getElem?_eq_some_iff.mp found
  rw [← longer, List.getElem?_append_left inside]
  exact found

-- Those behind a request that is over move up.
theorem stays_land {other : Nat} (found : f.flights[place]? = some flight)
    (follows : (Move.cancel other).follow place = some next) :
    (land other f).1.flights[next]? = some flight := by
  simp only [land, List.getElem?_eraseIdx]
  simp only [Move.follow] at follows
  split at follows
  · rename_i before
    cases follows
    have behind : ¬ place - 1 < other := by omega
    have same : place - 1 + 1 = place := by omega
    rw [if_neg behind, same]
    exact found
  · split at follows
    · cases follows
    · cases follows
      rw [if_pos (by omega)]
      exact found

end Act

namespace Traffic
open Act

variable {f : Traffic} {flight : Flight} {place next : Nat}

theorem adds_ask (user : String) (flushing : Bool) : Adds (ask user flushing) :=
  adds_andThen (adds_change _ _) (adds_launch _)

theorem adds_pump : Adds pump := by
  intro f
  unfold pump
  split
  · exact adds_idle f
  · exact adds_andThen (adds_change _ _) (adds_launch _) f

theorem adds_beginFlush : Adds beginFlush := by
  intro f
  unfold beginFlush
  split
  · split
    · exact adds_pump f
    · exact adds_ask _ true f
  · exact adds_pump f

theorem adds_settle (arrived : Bool) (flight : Flight) : Adds (settle arrived flight) := by
  cases flight with
  | reading user flushing =>
    refine adds_andThen (adds_change _ _) ?_
    split
    · exact adds_pump
    · exact adds_idle
  | writing w => exact adds_andThen (adds_change _ _) adds_pump

-- A request that is neither answered nor given up is still there.
theorem stays_step {m : Move} (found : f.flights[place]? = some flight)
    (follows : m.follow place = some next) : (step m f).1.flights[next]? = some flight := by
  cases m with
  | answer other arrived =>
    simp only [step]
    split
    · exact (adds_settle arrived _).stays (stays_land found follows)
    · rename_i missing
      have beyond := List.getElem?_eq_none_iff.mp missing
      obtain ⟨inside, -⟩ := List.getElem?_eq_some_iff.mp found
      simp only [Move.follow, if_neg (show ¬ other < place by omega),
        if_neg (show ¬ other = place by omega), Option.some.injEq] at follows
      exact follows ▸ found
  | cancel other => exact stays_land found follows
  | signIn user =>
    cases follows
    exact (adds_andThen (adds_change _ _) (adds_ask user false)).stays found
  | flush =>
    cases follows
    exact adds_beginFlush.stays found
  | signOut | award | offer | equip | rewrite =>
    cases follows
    exact found

theorem stays_run {moves : List Move} (found : f.flights[place]? = some flight)
    (follows : follow moves place = some next) : (run moves f).1.flights[next]? = some flight := by
  induction moves generalizing f place with
  | nil =>
    cases follows
    exact found
  | cons m rest ih =>
    obtain ⟨middle, first, others⟩ := Option.bind_eq_some_iff.mp follows
    exact ih (stays_step found first) others

end Traffic

def Move.playerAfter (player : Option String) : Move → Option String
  | .signIn user => some user
  | .signOut => none
  | _ => player

-- The player of the latest sign-in or sign-out.
def latest (player : Option String) (moves : List Move) : Option String :=
  moves.foldl Move.playerAfter player

namespace Traffic
open Act

theorem step_user (m : Move) (f : Traffic) :
    (step m f).1.tracker.user? = m.playerAfter f.tracker.user? := by
  cases m with
  | award c s => exact congrArg (Option.map _) (Tracker.queues_award c s f.tracker).progress
  | offer score => exact congrArg (Option.map _) (Tracker.queues_offer score f.tracker).progress
  | flush =>
    simp only [step, beginFlush]
    split
    · split
      · exact congrArg (Option.map _) (pump_progress f)
      · rfl
    · exact congrArg (Option.map _) (pump_progress f)
  | answer place arrived =>
    cases found : f.flights[place]? with
    | some flight => exact (answer_progress found arrived).1
    | none =>
      simp only [step, found]
      rfl
  | signIn | signOut | cancel | equip | rewrite => rfl

theorem run_user (moves : List Move) (f : Traffic) :
    (run moves f).1.tracker.user? = latest f.tracker.user? moves := by
  induction moves generalizing f with
  | nil => rfl
  | cons m rest ih =>
    have after := ih (step m f).1
    rwa [step_user] at after

end Traffic

namespace Tracker

-- What a sign-in hands out: the record of whoever is signed in when it ends.
def conclude (t : Tracker) : Except SignedOutMeanwhile Record :=
  match t.progress with
  | some r => .ok r
  | none => .error {}

theorem conclude_ok_iff {t : Tracker} {r : Record} : t.conclude = .ok r ↔ t.progress = some r := by
  cases signed : t.progress with
  | some q => simp [conclude, signed]
  | none => simp [conclude, signed]

theorem conclude_error_iff {t : Tracker} : t.conclude = .error {} ↔ t.user? = none := by
  cases signed : t.progress with
  | some q => simp [conclude, user?, signed]
  | none => simp [conclude, user?, signed]

theorem signInBy_concludes (interrupt : Interrupting) (user : String) (t : Tracker) :
    t.signInBy interrupt user =
      (((t.welcome user).loadBy interrupt).conclude, (t.welcome user).loadBy interrupt) := by
  have loaded : t.signInBy interrupt user =
      match ((t.welcome user).loadBy interrupt).progress with
      | some r => (.ok r, (t.welcome user).loadBy interrupt)
      | none => (.error {}, (t.welcome user).loadBy interrupt) := rfl
  rw [loaded]
  unfold conclude
  cases ((t.welcome user).loadBy interrupt).progress with
  | some r => rfl
  | none => rfl

end Tracker

namespace Traffic
open Act

variable {f : Traffic} {user : String} {place : Nat}

-- The answer to a sign-in is for its player alone.
theorem answer_told {flushing : Bool} (found : f.flights[place]? = some (.reading user flushing))
    (arrived : Bool) :
    (step (.answer place arrived) f).1.tracker.progress = (f.tracker.told user arrived).progress := by
  have settled : (step (.answer place arrived) f).1 =
      (settle arrived (.reading user flushing) (land place f).1).1 := by
    simp only [step, found]
    rfl
  rw [settled, settle_progress]
  rfl

theorem told_known (signed : f.tracker.user? = some user) :
    (f.tracker.told user true).progress = some (f.tracker.link.store.get user) := by
  rw [Tracker.told_learns signed, (Tracker.queues_release _).progress]
  rfl

-- From any tracker, with any requests on their way: a player signs in, any moves follow that leave
-- this request alone, and then it is answered. Whoever came or went last is or is not signed in, and
-- nobody's record but the player's own gives way to the answer. The sign-in fails exactly if the last
-- of them has gone. A tracker that carries out a sign-in by itself makes such moves, and ends alike.
theorem signIn_ends (user : String) (f : Traffic) (moves : List Move) {place : Nat}
    (flying : follow moves f.flights.length = some place) (arrived : Bool) :
    let before := (run (.signIn user :: moves) f).1
    let after := (step (.answer place arrived) before).1.tracker
    before.flights[place]? = some (.reading user false) ∧
      after.user? = latest (some user) moves ∧
      after.progress = (if latest (some user) moves = some user ∧ arrived = true then
        some (before.tracker.link.store.get user) else before.tracker.progress) ∧
      (∀ r, after.conclude = .ok r ↔ after.progress = some r) ∧
      (after.conclude = .error {} ↔ latest (some user) moves = none) ∧
      ∀ t : Tracker, (t.signIn user).1 = (t.signIn user).2.conclude ∧
        ∀ flights, Reaches ⟨t, flights⟩ ⟨(t.signIn user).2, flights⟩ := by
  intro before after
  have begun : (step (.signIn user) f).1.flights[f.flights.length]? = some (.reading user false) := by
    simp [step, ask, andThen, change, launch]
  have there : before.flights[place]? = some (.reading user false) :=
    stays_run (f := (step (.signIn user) f).1) begun flying
  have signed : before.tracker.user? = latest (some user) moves := run_user (.signIn user :: moves) f
  have stays : after.user? = latest (some user) moves :=
    (step_user (.answer place arrived) before).trans signed
  have told : after.progress = (before.tracker.told user arrived).progress := answer_told there arrived
  refine ⟨there, stays, ?_, fun r => Tracker.conclude_ok_iff, ?_, fun t => ⟨?_, ?_⟩⟩
  · rw [told, ← signed]
    split
    · rename_i known
      rw [known.2]
      exact told_known known.1
    · rename_i unknown
      cases arrived with
      | false => rfl
      | true => exact Tracker.told_progress (fun same => unknown ⟨same, rfl⟩) true
  · rw [Tracker.conclude_error_iff, stays]
  · rw [Tracker.signIn, Tracker.signInBy_concludes]
  · exact t.signIn_reaches user

-- Somebody else comes and goes meanwhile, and the player comes back.
def comingBack : List Move := [.signIn "bob", .answer 1 true, .signOut, .signIn "ada"]

theorem comingBack_ends :
    follow comingBack 0 = some 0 ∧
      (step (.answer 0 true) (run (.signIn "ada" :: comingBack) (.ofLink {})).1).1.tracker.user? =
        some "ada" :=
  ⟨rfl, (signIn_ends "ada" (.ofLink {}) comingBack rfl true).2.1⟩

-- A player who leaves before the record has come.
theorem leaving_refused :
    (({ link := { awaiting := [(.get, [.signOut])] } } : Tracker).signIn "ada").1 = .error {} ∧
      ¬ ∀ user (f : Traffic) moves place arrived, follow moves f.flights.length = some place →
        ∃ r, (step (.answer place arrived) (run (.signIn user :: moves) f).1).1.tracker.conclude =
          .ok r := by
  refine ⟨by decide +kernel, fun always => ?_⟩
  obtain ⟨r, ended⟩ := always "ada" (.ofLink {}) [.signOut] 0 true rfl
  cases ended

end Traffic
end ScriptArena.Progress
