import ScriptArena.Proofs.Progress.Isolation
import ScriptArena.Proofs.Progress.Schedules

namespace ScriptArena.Progress

theorem Record.complete_highScore (id : String) (r : Record) :
    (r.complete id).highScore = r.highScore := by
  unfold Record.complete
  split
  · rfl
  · rfl

@[simp] theorem Write.apply_user (w : Write) (r : Record) : (w.apply r).user = r.user := by
  cases w <;> simp [Write.apply]

theorem Store.get_put_apply (w : Write) (user : String) (s : Store) :
    (s.put (w.apply (s.get w.user))).get user =
      if w.user = user then w.apply (s.get user) else s.get user := by
  have name : (w.apply (s.get w.user)).user = w.user := by simp
  split
  · rename_i same
    subst same
    calc (s.put (w.apply (s.get w.user))).get w.user
      _ = (s.put (w.apply (s.get w.user))).get (w.apply (s.get w.user)).user := by rw [name]
      _ = w.apply (s.get w.user) := get_put_self _ _
  · rename_i other
    exact get_put_other _ _ (by rwa [name])

namespace Tracker

-- The high score of a player in the store.
def stored (user : String) (t : Tracker) : Int := (t.link.store.get user).highScore

theorem wrote_store (w : Write) (t : Tracker) :
    (t.wrote w true).link.store = t.link.store.put (w.apply (t.link.store.get w.user)) := by
  cases w <;> rfl

theorem wrote_get (w : Write) (user : String) (t : Tracker) :
    (t.wrote w true).link.store.get user =
      if w.user = user then w.apply (t.link.store.get user) else t.link.store.get user := by
  rw [wrote_store]
  exact Store.get_put_apply w user t.link.store

-- A high score that arrives raises the stored one; nothing ever lowers it.
theorem stored_le_wrote (w : Write) (user : String) (t : Tracker) :
    t.stored user ≤ (t.wrote w true).stored user := by
  unfold stored
  rw [wrote_get]
  split
  · cases w with
    | highScore name score => exact Int.le_max_left _ _
    | challenge name id => exact Int.le_of_eq (Record.complete_highScore _ _).symm
  · exact Int.le_refl _

theorem le_stored_wrote (user : String) (score : Int) (t : Tracker) :
    score ≤ (t.wrote (.highScore user score) true).stored user := by
  have same : (Write.highScore user score).user = user := rfl
  unfold stored
  rw [wrote_get, if_pos same]
  exact Int.le_max_right _ _

-- Either the score still beats what is stored, or the write was a high score that is no lower.
theorem wrote_beats {user : String} {score : Int} {t : Tracker} (beats : t.stored user < score)
    (w : Write) :
    (t.wrote w true).stored user < score ∨ ∃ higher, w = .highScore user higher ∧ score ≤ higher := by
  unfold stored at beats ⊢
  rw [wrote_get]
  split
  · rename_i same
    cases w with
    | highScore name higher =>
      cases same
      by_cases reached : score ≤ higher
      · exact .inr ⟨higher, rfl, reached⟩
      · exact .inl (Int.max_lt.mpr ⟨beats, Int.not_le.mp reached⟩)
    | challenge name id => exact .inl ((Record.complete_highScore _ _).symm ▸ beats)
  · exact .inl beats

-- A record that is known is the stored one.
def Coherent (t : Tracker) : Prop :=
  t.loaded = true → ∀ r, t.progress = some r → r = t.link.store.get r.user

variable {t u : Tracker}

theorem Coherent.frame (coherent : t.Coherent) (progress : u.progress = t.progress)
    (loaded : u.loaded = t.loaded) (store : u.link.store = t.link.store) : u.Coherent := by
  intro known r signed
  rw [store]
  exact coherent (loaded ▸ known) r (progress ▸ signed)

theorem Coherent.queues (coherent : t.Coherent) (queues : t.Queues u) : u.Coherent := by
  cases queues with
  | nothing | highScore | challenge => exact coherent.frame rfl rfl rfl

theorem coherent_learn (user : String) (t : Tracker) : (t.learn user).Coherent := by
  rintro - r signed
  cases signed
  simp [learn]

-- The record at hand and the stored one change alike.
theorem Coherent.arrive (coherent : t.Coherent) (w : Write) : (t.wrote w true).Coherent := by
  intro known r signed
  obtain ⟨q, before, rfl⟩ := Option.map_eq_some_iff.mp signed
  have same := coherent known q before
  have user : (if q.user = w.user then w.apply q else q).user = q.user := by
    split
    · simp
    · rfl
  rw [user, wrote_get, ← same]
  simp only [eq_comm]

end Tracker

-- Since the score was queued, another one of its player that is no lower has arrived.
def Overtaken (user : String) (score : Int) (seen : List Event) : Prop :=
  ∃ first now rest higher, seen = first ++ .queued (.highScore user score) now :: rest ∧
    .written (.highScore user higher) true ∈ rest ∧ score ≤ higher

theorem overtaken_append {user : String} {score : Int} {seen : List Event}
    (overtaken : Overtaken user score seen) (more : List Event) :
    Overtaken user score (seen ++ more) := by
  obtain ⟨first, now, rest, higher, rfl, arrived, reached⟩ := overtaken
  exact ⟨first, now, rest ++ more, higher, by simp, List.mem_append_left _ arrived, reached⟩

theorem overtaken_now {user : String} {score higher : Int} {seen : List Event}
    (queued : .highScore user score ∈ queuedIn seen) (reached : score ≤ higher) :
    Overtaken user score (seen ++ [.written (.highScore user higher) true]) := by
  obtain ⟨e, inside, isQueued⟩ := List.mem_filterMap.mp queued
  cases e with
  | queued w now =>
    cases isQueued
    obtain ⟨first, rest, rfl⟩ := List.append_of_mem inside
    exact ⟨first, now, rest ++ [.written (.highScore user higher) true], higher, by simp,
      List.mem_append_right _ List.mem_cons_self, reached⟩
  | signedIn | signedOut | asked | sent | told | written => cases isQueued

theorem Overtaken.arrived {user : String} {score : Int} {seen : List Event}
    (overtaken : Overtaken user score seen) :
    ∃ higher, .written (.highScore user higher) true ∈ seen ∧ score ≤ higher := by
  obtain ⟨first, now, rest, higher, rfl, arrived, reached⟩ := overtaken
  exact ⟨higher, List.mem_append_right _ (List.mem_cons_of_mem _ arrived), reached⟩

-- A high score that is queued beats the stored one. One that is sent does so exactly if nothing has
-- overtaken it.
def Beats (before : List Event) : Event → Prop
  | .queued (.highScore user score) now => now.stored user < score
  | .sent (.highScore user score) now =>
    now.stored user < score ↔ ¬ Overtaken user score (session before)
  | _ => True

structure Beating (l : Link) (seen : List Event) (t : Tracker) : Prop extends Linked l seen t where
  beats : Each Beats seen
  coherent : t.Coherent
  fresh : ∀ user score, .highScore user score ∈ t.outbox →
    t.stored user < score ∨ Overtaken user score (session seen)
  bound : ∀ user score, .written (.highScore user score) true ∈ seen → score ≤ t.stored user

namespace Beating

variable {l : Link} {seen : List Event} {t u : Tracker}

theorem initial (l : Link) : Beating l [] { link := l } where
  toLinked := .initial l
  beats := each_nil
  coherent := nofun
  fresh := nofun
  bound := nofun

theorem frame (beating : Beating l seen t) (linked : Linked l seen u) (coherent : u.Coherent)
    (outbox : u.outbox = t.outbox) (store : u.link.store = t.link.store) : Beating l seen u where
  toLinked := linked
  beats := beating.beats
  coherent := coherent
  fresh := by
    simp only [Tracker.stored, store, outbox]
    exact beating.fresh
  bound := by
    simp only [Tracker.stored, store]
    exact beating.bound

-- Nothing arrives at the store, and what is new in the outbox beats what is stored.
theorem calm (beating : Beating l seen t) {e : Event} (linked : Linked l (seen ++ [e]) u)
    (coherent : u.Coherent) (beats : Beats seen e) (stays : e.changesPlayer = false)
    (silent : ∀ w, e ≠ .written w true) (store : u.link.store = t.link.store)
    (outbox : ∀ user score, .highScore user score ∈ u.outbox →
      .highScore user score ∈ t.outbox ∨ t.stored user < score) :
    Beating l (seen ++ [e]) u where
  toLinked := linked
  beats := each_append beating.beats beats
  coherent := coherent
  fresh := by
    intro user score waiting
    rw [session_keep seen stays, Tracker.stored, store]
    rcases outbox user score waiting with old | new
    · rcases beating.fresh user score old with still | overtaken
      · exact .inl still
      · exact .inr (overtaken_append overtaken [e])
    · exact .inl new
  bound := by
    intro user score arrived
    rw [Tracker.stored, store]
    rcases List.mem_append.mp arrived with before | now
    · exact beating.bound user score before
    · exact absurd (List.mem_singleton.mp now).symm (silent _)

theorem renew (beating : Beating l seen t) {e : Event} (linked : Linked l (seen ++ [e]) u)
    (changes : e.changesPlayer = true) (loaded : u.loaded = false) (outbox : u.outbox = [])
    (store : u.link.store = t.link.store) : Beating l (seen ++ [e]) u where
  toLinked := linked
  beats := by
    refine each_append beating.beats ?_
    cases e with
    | signedIn | signedOut => trivial
    | queued | asked | sent | told | written => cases changes
  coherent := by simp [Tracker.Coherent, loaded]
  fresh := by simp [outbox]
  bound := by
    intro user score arrived
    rw [Tracker.stored, store]
    rcases List.mem_append.mp arrived with before | now
    · exact beating.bound user score before
    · cases List.mem_singleton.mp now
      cases changes

theorem queue_write (beating : Beating l seen t) (queues : t.Queues u) :
    Beating l (seen ++ Act.noted t u) u := by
  have linked := beating.toLinked.queue_write queues
  have coherent := beating.coherent.queues queues
  cases queues with
  | nothing held =>
    have none : Act.noted t { t with held } = [] := Act.noted_same rfl
    rw [none, List.append_nil] at linked ⊢
    exact beating.frame linked coherent rfl rfl
  | @highScore held r score signed known beats =>
    have higher : t.stored r.user < score := by
      rw [Tracker.stored, ← beating.coherent known r signed]
      exact beats
    rw [Act.noted_one rfl] at linked ⊢
    refine beating.calm linked coherent higher rfl nofun rfl fun user score' waiting => ?_
    rcases List.mem_append.mp waiting with old | new
    · exact .inl old
    · cases List.mem_singleton.mp new
      exact .inr higher
  | @challenge held r id signed new =>
    rw [Act.noted_one rfl] at linked ⊢
    refine beating.calm linked coherent trivial rfl nofun rfl fun user score waiting => ?_
    rcases List.mem_append.mp waiting with old | new
    · exact .inl old
    · cases List.mem_singleton.mp new

theorem beats_next (beating : Beating l seen t) {w : Write} {rest : List Write}
    (waiting : t.outbox = w :: rest) : Beats seen (.sent w t) := by
  cases w with
  | challenge user id => trivial
  | highScore user score =>
    refine ⟨fun beats overtaken => ?_, fun alone => ?_⟩
    · obtain ⟨higher, arrived, reached⟩ := overtaken.arrived
      have stored := beating.bound user higher ((session_suffix seen).subset arrived)
      omega
    · have member : .highScore user score ∈ t.outbox := waiting ▸ List.mem_cons_self
      rcases beating.fresh user score member with beats | overtaken
      · exact beats
      · exact absurd overtaken alone

theorem post (beating : Beating l seen t) {w : Write} {rest : List Write}
    (waiting : t.outbox = w :: rest) : Beating l (seen ++ [.sent w t]) (t.posting w rest) := by
  refine beating.calm (beating.toLinked.post waiting) (beating.coherent.frame rfl rfl rfl)
    (beating.beats_next waiting) rfl nofun rfl fun user score inside => .inl ?_
  rw [waiting]
  exact List.mem_cons_of_mem _ inside

theorem arrive (beating : Beating l seen t) (w : Write) :
    Beating l (seen ++ [.written w true]) (t.wrote w true) where
  toLinked := beating.toLinked.arrive w
  beats := each_append beating.beats trivial
  coherent := beating.coherent.arrive w
  fresh := by
    intro user score waiting
    rw [Tracker.wrote_outbox] at waiting
    rw [session_keep seen rfl]
    rcases beating.fresh user score waiting with beats | overtaken
    · rcases Tracker.wrote_beats beats w with still | ⟨higher, rfl, reached⟩
      · exact .inl still
      · have queued : .highScore user score ∈ queuedIn (session seen) := by
          rw [beating.queue]
          exact List.mem_append_right _ waiting
        exact .inr (overtaken_now queued reached)
    · exact .inr (overtaken_append overtaken _)
  bound := by
    intro user score arrived
    rcases List.mem_append.mp arrived with before | now
    · exact Int.le_trans (beating.bound user score before) (Tracker.stored_le_wrote w user t)
    · cases List.mem_singleton.mp now
      exact Tracker.le_stored_wrote user score t

theorem kept (l : Link) : Traffic.Kept (Beating l) where
  enter user beating := beating.renew ((Linked.kept l).enter user beating.toLinked) rfl rfl rfl rfl
  leave beating := beating.renew ((Linked.kept l).leave beating.toLinked) rfl rfl rfl rfl
  queue beating queues := beating.queue_write queues
  ask user beating := beating.calm ((Linked.kept l).ask user beating.toLinked)
    (beating.coherent.frame rfl rfl rfl) trivial rfl nofun rfl fun _ _ => .inl
  post beating waiting := beating.post waiting
  miss user arrived beating := beating.calm ((Linked.kept l).miss user arrived beating.toLinked)
    beating.coherent trivial rfl nofun rfl fun _ _ => .inl
  learn beating signed := beating.calm (beating.toLinked.learn signed)
    (Tracker.coherent_learn _ _) trivial rfl nofun rfl fun _ _ => .inl
  lose w beating := beating.calm ((Linked.kept l).lose w beating.toLinked)
    beating.coherent trivial rfl nofun rfl fun _ _ => .inl
  arrive w beating := beating.arrive w
  equip readable writable awaiting beating := beating.frame
    ((Linked.kept l).equip readable writable awaiting beating.toLinked)
    (beating.coherent.frame rfl rfl rfl) rfl rfl

theorem run (l : Link) {moves : List Move} (own : ∀ m ∈ moves, m.isOwn) :
    Beating l (Traffic.trace l moves) (Traffic.run moves (.ofLink l)).1.tracker :=
  Traffic.holds_run (initial l) fun m inside => (kept l).keeps_step (own m inside)

end Beating

namespace Traffic

-- While nobody else writes to the store, a high score is queued only if it beats the stored one. It
-- is sent without another look: it still beats the stored one exactly if nothing has overtaken it.
-- What the events tell is what the link is asked, and they tell of any orders carried out in turn.
theorem beats_stored_iff (l : Link) (moves : List Move) (own : ∀ m ∈ moves, m.isOwn) :
    (∀ before user score now after,
      trace l moves = before ++ .sent (.highScore user score) now :: after →
        (now.stored user < score ↔ ¬ Overtaken user score (session before))) ∧
    (∀ user score now, .queued (.highScore user score) now ∈ trace l moves →
      now.stored user < score) ∧
    (run moves (.ofLink l)).1.tracker.link.requests = l.requests ++ requestsIn (trace l moves) ∧
    ∀ orders : List Order, Reaches (.ofLink l) ⟨orders.foldl Tracker.obey { link := l }, []⟩ := by
  have beating := Beating.run l own
  refine ⟨?_, ?_, beating.requests, fun orders => Tracker.orders_reach orders _ []⟩
  · intro before user score now after split
    exact beating.beats before (.sent (.highScore user score) now) after split
  · intro user score now inside
    obtain ⟨before, after, split⟩ := List.append_of_mem inside
    exact beating.beats before (.queued (.highScore user score) now) after split

-- Two scores are queued, the higher one first, and it is lost.
def lostScore : List Move :=
  [.signIn "ada", .answer 0 true, .offer 50, .offer 30, .flush, .answer 0 false]

theorem lostScore_beats :
    trace {} lostScore = (trace {} lostScore).dropLast ++
        [.sent (.highScore "ada" 30) (run lostScore.dropLast (.ofLink {})).1.tracker] ∧
      (∀ m ∈ lostScore, m.isOwn) ∧ ¬ Overtaken "ada" 30 (session (trace {} lostScore).dropLast) := by
  have last : trace {} lostScore = (trace {} lostScore).dropLast ++
      [.sent (.highScore "ada" 30) (run lostScore.dropLast (.ofLink {})).1.tracker] := by
    decide +kernel
  have own : ∀ m ∈ lostScore, m.isOwn := by decide
  have beats : (run lostScore.dropLast (.ofLink {})).1.tracker.stored "ada" < 30 := by decide +kernel
  exact ⟨last, own, ((beats_stored_iff {} lostScore own).1 _ _ _ _ [] last).mp beats⟩

-- The higher one arrives. The lower one is sent all the same.
def lowerScore : List Move :=
  [.signIn "ada", .answer 0 true, .offer 50, .offer 30, .flush, .answer 0 true, .answer 0 true]

theorem lowerScore_sent :
    (∃ before now after, trace {} lowerScore = before ++ .sent (.highScore "ada" 30) now :: after ∧
      now.stored "ada" = 50) ∧
    (∀ m ∈ lowerScore, m.isOwn) ∧
    (run lowerScore (.ofLink {})).1.tracker =
      [.signIn "ada", .offer 50, .offer 30, .flush].foldl Tracker.obey {} ∧
    ([.signIn "ada", .offer 50, .offer 30, .flush].foldl Tracker.obey {}).link.requests =
      [.get "ada", .set "ada" 50, .set "ada" 30] := by
  refine ⟨⟨(trace {} lowerScore).take 7,
    (run (lowerScore.take 5) (.ofLink {})).1.tracker.wrote (.highScore "ada" 50) true,
    (trace {} lowerScore).drop 8, ?_, ?_⟩, ?_, ?_, ?_⟩
  · decide +kernel
  · decide +kernel
  · decide
  · decide +kernel
  · decide +kernel

end Traffic
end ScriptArena.Progress
