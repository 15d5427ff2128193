import ScriptArena.Proofs.Run.Asides
import ScriptArena.Proofs.Run.Printing

namespace ScriptArena

-- Faults that tell of a resource that is used up.
def Fault.IsCeiling : Fault → Prop
  | .limit _ | .tooDeep => True
  | .failure _ | .noRule .. | .noTarget | .noOperator _ => False

-- The second machine has the variable put aside. What is counted, and what nothing depends on, is not
-- compared.
structure Machine.Beside (a : Option Aside) (m m' : Machine) : Prop where
  heap : m'.heap = m.heap.beside a
  depth : m'.depth = m.depth
  transcript : m'.transcript = m.transcript

theorem Machine.Beside.transcripts {a : Option Aside} {m m' : Machine} (beside : m.Beside a m')
    (t : Transcript) : ({ m with transcript := t } : Machine).Beside a { m' with transcript := t } :=
  ⟨beside.heap, beside.depth, rfl⟩

-- The variable is in a scope that is there, and no function sees it.
structure Heap.Shields (a : Option Aside) (h : Heap) : Prop where
  inside : ∀ p ∈ a, p.place < h.frames.size
  sits : h.Sits a

theorem Heap.Shields.widens {a : Option Aside} {h h' : Heap} (shields : h.Shields a) (widens : h.Widens h')
    (sits : h'.Sits a) : h'.Shields a :=
  ⟨fun p put => Nat.lt_of_lt_of_le (shields.inside p put) widens.frames, sits⟩

namespace Run

variable {α β γ δ σ σ' τ τ' : Type} {l : Limits} {a : Option Aside} {w : Heap} {m m' : Machine}

-- The run was not stopped by a ceiling.
def Calm : EStateM.Result Fault Machine α → Prop
  | .ok .. => True
  | .error e _ => ¬ e.IsCeiling

inductive Matches (a : Option Aside) (R : α → β → Prop) :
    EStateM.Result Fault Machine α → EStateM.Result Fault Machine β → Prop where
  | ok {u : α} {v : β} {m m' : Machine} (same : R u v) (beside : m.Beside a m') :
      Matches a R (.ok u m) (.ok v m')
  | error {e : Fault} {m m' : Machine} (beside : m.Beside a m') : Matches a R (.error e m) (.error e m')

-- However a run ends, scopes stay where they are, and no function comes to see the variable.
structure Shielded (a : Option Aside) (h : Heap) (r : EStateM.Result Fault Machine α) : Prop where
  widens : h.Widens (last r).heap
  sits : (last r).heap.Sits a

-- Steps, room and time are not short.
structure Enough (l : Limits) (enough room : Nat) (most : Int) : Prop where
  time : l.time = .ample
  room : enough ≤ room
  steps : (enough : Int) ≤ most

theorem Enough.less {less enough room : Nat} {most : Int} (given : Enough l enough room most)
    (fewer : less ≤ enough) : Enough l less room most := by
  have steps := given.steps
  exact ⟨given.time, Nat.le_trans fewer given.room, by omega⟩

-- With whatever room and steps, the run ends in this way or is stopped by a ceiling; and if they are not
-- short, it ends in this way.
def Settles (l : Limits) (y : Nat → Run β) (m : Machine) (s : EStateM.Result Fault Machine β) : Prop :=
  ∃ enough, ∀ room most, y room { l with maxSteps := most } m = s ∨
    ¬ Calm (y room { l with maxSteps := most } m) ∧ ¬ Enough l enough room most

theorem settles_same {y : Nat → Run β} {s : EStateM.Result Fault Machine β}
    (same : ∀ room most, y room { l with maxSteps := most } m = s) : Settles l y m s :=
  ⟨0, fun room most => .inl (same room most)⟩

theorem stopped_bind {x : Run α} {f : α → Run β} (stopped : ¬ Calm (x l m)) : ¬ Calm ((x >>= f) l m) := by
  rw [run_bind]
  cases ended : x l m with
  | ok b mid =>
    rw [ended] at stopped
    exact absurd trivial stopped
  | error e mid =>
    rw [ended] at stopped
    exact stopped

theorem settles_bind {y : Nat → Run β} {g : Nat → β → Run δ} {b : β}
    {s : EStateM.Result Fault Machine δ} (first : Settles l y m (.ok b m'))
    (rest : Settles l (fun k => g k b) m' s) : Settles l (fun k => y k >>= g k) m s := by
  rcases first with ⟨one, first⟩
  rcases rest with ⟨two, rest⟩
  refine ⟨max one two, fun room most => ?_⟩
  rcases first room most with given | ⟨stopped, short⟩
  · simp only [run_bind, given]
    exact (rest room most).imp id fun ⟨stopped, short⟩ =>
      ⟨stopped, fun given => short (given.less (Nat.le_max_right _ _))⟩
  · exact .inr ⟨stopped_bind stopped, fun given => short (given.less (Nat.le_max_left _ _))⟩

theorem settles_stopped {y : Nat → Run β} {g : Nat → β → Run δ} {e : Fault}
    (first : Settles l y m (.error e m')) : Settles l (fun k => y k >>= g k) m (.error e m') := by
  rcases first with ⟨enough, first⟩
  refine ⟨enough, fun room most => ?_⟩
  rcases first room most with given | ⟨stopped, short⟩
  · refine .inl ?_
    simp only [run_bind, given]
  · exact .inr ⟨stopped_bind stopped, short⟩

-- Room that a node takes.
theorem settles_further {y : Nat → Run β} {s : EStateM.Result Fault Machine β}
    (none : ∀ l m, ¬ Calm (y 0 l m)) (some : Settles l (fun k => y (k + 1)) m s) : Settles l y m s := by
  rcases some with ⟨enough, ends⟩
  refine ⟨enough + 1, fun room most => ?_⟩
  cases room with
  | zero => exact .inr ⟨none _ _, fun given => absurd given.room (Nat.not_succ_le_zero _)⟩
  | succ room =>
    refine (ends room most).imp id fun ⟨stopped, short⟩ => ⟨stopped, fun given => short ?_⟩
    have fewer := given.room
    have steps := given.steps
    exact ⟨given.time, by omega, by omega⟩

theorem checkTime_ends (l : Limits) (m : Machine) :
    checkTime l m = .ok () m ∨ ¬ Calm (checkTime l m) ∧ l.time ≠ .ample := by
  rw [run_checkTime]
  cases l.time with
  | ample => exact .inl rfl
  | spent seconds => exact .inr ⟨(absurd trivial ·), nofun⟩

theorem settles_checkTime (m : Machine) : Settles l (fun _ => checkTime) m (.ok () m) :=
  ⟨0, fun _ _ => (checkTime_ends _ m).imp id fun ⟨stopped, spent⟩ =>
    ⟨stopped, fun given => spent given.time⟩⟩

theorem settles_tick (m : Machine) : Settles l (fun _ => tick) m (.ok () m.counted) := by
  refine ⟨m.counted.steps, fun room most => ?_⟩
  simp only [run_tick]
  split
  · rename_i beyond
    exact .inr ⟨(absurd trivial ·), fun given => absurd given.steps (Int.not_le.mpr beyond)⟩
  · split
    · exact (checkTime_ends _ m.counted).imp id fun ⟨stopped, spent⟩ =>
        ⟨stopped, fun given => spent given.time⟩
    · exact .inl rfl

theorem calm_leaving {given stopped : Machine → Machine} {r : EStateM.Result Fault Machine α} :
    Calm (leaving given stopped r) ↔ Calm r := by
  cases r with
  | ok u m => exact Iff.rfl
  | error e m => exact Iff.rfl

theorem settles_leaving {given stopped : Machine → Machine} {y y' : Nat → Run β} {mid : Machine}
    {s : EStateM.Result Fault Machine β} (settles : Settles l y mid s)
    (leaves : ∀ room most, y' room { l with maxSteps := most } m =
      leaving given stopped (y room { l with maxSteps := most } mid)) :
    Settles l y' m (leaving given stopped s) := by
  rcases settles with ⟨enough, ends⟩
  refine ⟨enough, fun room most => ?_⟩
  rw [leaves, calm_leaving]
  exact (ends room most).imp (congrArg (leaving given stopped)) id

theorem Shielded.leaving {h : Heap} {given stopped : Machine → Machine}
    {r : EStateM.Result Fault Machine α} (shielded : Shielded a h r)
    (gave : ∀ m : Machine, m.heap.Agrees (given m).heap)
    (stops : ∀ m : Machine, m.heap.Agrees (stopped m).heap) :
    Shielded a h (leaving given stopped r) := by
  have kept : (last r).heap.Agrees (last (Run.leaving given stopped r)).heap := by
    cases r with
    | ok u m => exact gave m
    | error e m => exact stops m
  have widens := Heap.widens_same kept.frames
  exact ⟨shielded.widens.trans widens, shielded.sits.widens kept.closures widens⟩

theorem Matches.leaving {R : α → β → Prop} {given stopped : Machine → Machine}
    {r : EStateM.Result Fault Machine α} {s : EStateM.Result Fault Machine β} (matched : Matches a R r s)
    (gave : ∀ m m', m.Beside a m' → (given m).Beside a (given m'))
    (stops : ∀ m m', m.Beside a m' → (stopped m).Beside a (stopped m')) :
    Matches a R (leaving given stopped r) (leaving given stopped s) := by
  cases matched with
  | ok same beside => exact .ok same (gave _ _ beside)
  | error beside => exact .error (stops _ _ beside)

-- In every heap that the given one has grown to, the runs end alike.
def Mirrors (a : Option Aside) (w : Heap) (l : Limits) (R : α → β → Prop) (x : Run α) (y : Nat → Run β) :
    Prop :=
  ∀ m m', w.Widens m.heap → m.heap.Shields a → m.Beside a m' → Shielded a m.heap (x l m) ∧
    (Calm (x l m) → ∃ s, Settles l y m' s ∧ Matches a R (x l m) s)

theorem Mirrors.later {R : α → β → Prop} {x : Run α} {y : Nat → Run β} (mirrors : Mirrors a w l R x y)
    {w' : Heap} (widens : w.Widens w') : Mirrors a w' l R x y :=
  fun m m' grown => mirrors m m' (widens.trans grown)

theorem Mirrors.weaken {R Q : α → β → Prop} {x : Run α} {y : Nat → Run β} (mirrors : Mirrors a w l R x y)
    (weaker : ∀ u v, R u v → Q u v) : Mirrors a w l Q x y := by
  intro m m' grown shields beside
  rcases mirrors m m' grown shields beside with ⟨shielded, settles⟩
  refine ⟨shielded, fun calm => ?_⟩
  rcases settles calm with ⟨s, settles, matched⟩
  refine ⟨s, settles, ?_⟩
  generalize x l m = r at matched
  cases matched with
  | ok same beside => exact .ok (weaker _ _ same) beside
  | error beside => exact .error beside

-- What comes second may depend on how the first part has ended.
theorem mirrors_then {R : α → β → Prop} {Q : γ → δ → Prop} {x : Run α} {y : Nat → Run β} {f : α → Run γ}
    {g : Nat → β → Run δ} (first : Mirrors a w l R x y)
    (rest : ∀ m u v mid, w.Widens m.heap → m.heap.Shields a → x l m = .ok u mid →
      m.heap.Widens mid.heap → R u v → Mirrors a mid.heap l Q (f u) fun k => g k v) :
    Mirrors a w l Q (x >>= f) fun k => y k >>= g k := by
  intro m m' grown shields beside
  rcases first m m' grown shields beside with ⟨shielded, settles⟩
  rw [run_bind]
  cases ended : x l m with
  | error e mid =>
    rw [ended] at shielded settles
    refine ⟨⟨shielded.widens, shielded.sits⟩, fun calm => ?_⟩
    rcases settles calm with ⟨s, settles, ⟨-⟩ | ⟨beside'⟩⟩
    exact ⟨_, settles_stopped settles, .error beside'⟩
  | ok u mid =>
    rw [ended] at shielded settles
    rcases settles trivial with ⟨s, settles, ⟨same, beside'⟩ | ⟨-⟩⟩
    rcases rest m u _ mid grown shields ended shielded.widens same mid _ (.refl _)
      (shields.widens shielded.widens shielded.sits) beside' with ⟨later, further⟩
    refine ⟨⟨shielded.widens.trans later.widens, later.sits⟩, fun calm => ?_⟩
    rcases further calm with ⟨s, settles', matched⟩
    exact ⟨s, settles_bind settles settles', matched⟩

theorem mirrors_bind {R : α → β → Prop} {Q : γ → δ → Prop} {x : Run α} {y : Nat → Run β} {f : α → Run γ}
    {g : Nat → β → Run δ} (first : Mirrors a w l R x y)
    (rest : ∀ u v, R u v → Mirrors a w l Q (f u) fun k => g k v) :
    Mirrors a w l Q (x >>= f) fun k => y k >>= g k :=
  mirrors_then first fun _ u _ _ grown _ _ widens same => (rest u _ same).later (grown.trans widens)

theorem mirrors_step {Q : γ → δ → Prop} {x : Run α} {y : Nat → Run α} {f : α → Run γ}
    {g : Nat → α → Run δ} (first : Mirrors a w l Eq x y)
    (rest : ∀ u, Mirrors a w l Q (f u) fun k => g k u) :
    Mirrors a w l Q (x >>= f) fun k => y k >>= g k :=
  mirrors_bind first fun u _ same => same ▸ rest u

theorem mirrors_branch {R : α → β → Prop} {c : Prop} [Decidable c] {x x' : Run α} {y y' : Nat → Run β}
    (yes : Mirrors a w l R x y) (no : Mirrors a w l R x' y') :
    Mirrors a w l R (if c then x else x') fun k => if c then y k else y' k := by
  split
  · exact yes
  · exact no

-- What depends neither on steps nor on room.
theorem mirrors_plain {x : Run α}
    (plain : ∀ m m', w.Widens m.heap → m.heap.Shields a → m.Beside a m' → Shielded a m.heap (x l m) ∧
      (Calm (x l m) → ∃ s, (∀ most, x { l with maxSteps := most } m' = s) ∧ Matches a Eq (x l m) s)) :
    Mirrors a w l Eq x fun _ => x := by
  intro m m' grown shields beside
  rcases plain m m' grown shields beside with ⟨shielded, settles⟩
  refine ⟨shielded, fun calm => ?_⟩
  rcases settles calm with ⟨s, ends, matched⟩
  exact ⟨s, settles_same fun _ => ends, matched⟩

theorem mirrors_pure {R : α → β → Prop} {u : α} {v : β} (same : R u v) :
    Mirrors a w l R (pure u) fun _ => pure v := by
  intro m m' _ shields beside
  exact ⟨⟨.refl _, shields.sits⟩, fun _ => ⟨_, settles_same fun _ _ => rfl, .ok same beside⟩⟩

theorem mirrors_value (u : α) : Mirrors a w l Eq (pure u) fun _ => pure u := mirrors_pure rfl

theorem mirrors_stop {R : α → β → Prop} (e : Fault) :
    Mirrors a w l R (throw e : Run α) fun _ => (throw e : Run β) := by
  intro m m' _ shields beside
  exact ⟨⟨.refl _, shields.sits⟩, fun _ => ⟨_, settles_same fun _ _ => rfl, .error beside⟩⟩

-- Nothing is compared with a run that a ceiling stops for certain.
theorem mirrors_ceiling {R : α → β → Prop} {e : Fault} {y : Nat → Run β} (ceiling : e.IsCeiling) :
    Mirrors a w l R (throw e : Run α) y := by
  intro m m' _ shields _
  exact ⟨⟨.refl _, shields.sits⟩, fun calm => absurd ceiling calm⟩

theorem mirrors_guarded {g : Limits → Heap → Except Trouble α}
    (same : ∀ h most, w.Widens h → h.Shields a → g { l with maxSteps := most } (h.beside a) = g l h) :
    Mirrors a w l Eq (guarded g) fun _ => guarded g := by
  refine mirrors_plain fun m m' grown shields beside => ?_
  have alike : ∀ most, g { l with maxSteps := most } m'.heap = g l m.heap :=
    fun most => beside.heap ▸ same m.heap most grown shields
  simp only [run_guarded, alike]
  cases g l m.heap with
  | ok u => exact ⟨⟨.refl _, shields.sits⟩, fun _ => ⟨_, fun _ => rfl, .ok rfl beside⟩⟩
  | error e => exact ⟨⟨.refl _, shields.sits⟩, fun _ => ⟨_, fun _ => rfl, .error beside⟩⟩

theorem mirrors_look (f : Heap → α) [oblivious : Oblivious f] : Mirrors a w l Eq (look f) fun _ => look f := by
  refine mirrors_plain fun m m' _ shields beside => ⟨⟨.refl _, shields.sits⟩, fun _ => ?_⟩
  have alike : f m'.heap = f m.heap := beside.heap ▸ oblivious.same shields.sits.akin
  exact ⟨.ok (f m.heap) m', fun _ => congrArg (EStateM.Result.ok · m') alike, .ok rfl beside⟩

theorem mirrors_ask (f : Heap → Except Trouble α) [oblivious : Oblivious f] :
    Mirrors a w l Eq (ask f) fun _ => ask f :=
  mirrors_guarded (g := fun _ => f) fun _ _ _ shields => oblivious.same shields.sits.akin

theorem mirrors_change {f : Heap → Heap} (keeps : ∀ h : Heap, h.Agrees (f h))
    (apart : ∀ h frames, f { h with frames } = { f h with frames }) :
    Mirrors a w l Eq (change f) fun _ => change f := by
  refine mirrors_plain fun m m' _ shields beside => ?_
  have kept := keeps m.heap
  have widens : m.heap.Widens (f m.heap) := Heap.widens_same kept.frames
  refine ⟨⟨widens, shields.sits.widens kept.closures widens⟩, fun _ => ⟨_, fun _ => rfl, .ok rfl ?_⟩⟩
  refine ⟨?_, beside.depth, beside.transcript⟩
  change f m'.heap = (f m.heap).beside a
  rw [beside.heap, Heap.beside, apart, Heap.beside, kept.frames]

theorem mirrors_allocate {f : Heap → α × Heap} (keeps : ∀ h : Heap, h.Agrees (f h).2)
    (apart : ∀ h frames, f { h with frames } = ((f h).1, { (f h).2 with frames })) :
    Mirrors a w l Eq (allocate f) fun _ => allocate f := by
  refine mirrors_plain fun m m' _ shields beside => ?_
  have kept := keeps m.heap
  have widens : m.heap.Widens (f m.heap).2 := Heap.widens_same kept.frames
  refine ⟨⟨widens, shields.sits.widens kept.closures widens⟩, fun _ => ?_⟩
  have there : f m'.heap = ((f m.heap).1, (f m.heap).2.beside a) := by
    rw [beside.heap, Heap.beside, apart, Heap.beside, kept.frames]
  refine ⟨.ok (f m.heap).1 { m' with heap := (f m.heap).2.beside a }, fun _ => ?_, .ok rfl ?_⟩
  · rw [run_allocate, there]
  · exact ⟨rfl, beside.depth, beside.transcript⟩

theorem mirrors_own (v : Value) : Mirrors a w l Eq (own v) fun _ => own v :=
  mirrors_allocate (fun h => h.agrees_own v) fun h frames => h.own_apart v frames

theorem mirrors_checkTime : Mirrors a w l Eq checkTime fun _ => checkTime := by
  refine mirrors_plain fun m m' _ shields beside => ?_
  simp only [run_checkTime]
  cases l.time with
  | ample => exact ⟨⟨.refl _, shields.sits⟩, fun _ => ⟨_, fun _ => rfl, .ok rfl beside⟩⟩
  | spent seconds => exact ⟨⟨.refl _, shields.sits⟩, fun calm => absurd trivial calm⟩

theorem mirrors_checkDepth : Mirrors a w l Eq checkDepth fun _ => checkDepth := by
  refine mirrors_plain fun m m' _ shields beside => ?_
  simp only [run_checkDepth, beside.depth]
  split
  · exact ⟨⟨.refl _, shields.sits⟩, fun calm => absurd trivial calm⟩
  · exact ⟨⟨.refl _, shields.sits⟩, fun _ => ⟨_, fun _ => rfl, .ok rfl beside⟩⟩

theorem mirrors_emit (made : Made) : Mirrors a w l Eq (emit made) fun _ => emit made := by
  refine mirrors_plain fun m m' _ shields beside => ?_
  have sits := shields.sits
  have full : ∀ most, m.transcript.isFull { l with maxSteps := most } = m.transcript.isFull l := fun _ => rfl
  simp only [run_emit, beside.transcript, full]
  split
  · rename_i s
    exact ⟨⟨.refl _, sits⟩, fun _ =>
      ⟨.ok () { m' with transcript := m.transcript.print l s }, fun _ => rfl, .ok rfl (beside.transcripts _)⟩⟩
  · split
    · exact ⟨⟨.refl _, sits⟩, fun _ => ⟨.ok () { m' with
        transcript := { m.transcript with truncated := true, idle := true } }, fun _ => rfl,
        .ok rfl (beside.transcripts _)⟩⟩
    · exact ⟨⟨.refl _, sits⟩, fun _ => ⟨_, fun _ => rfl, .error beside⟩⟩

theorem mirrors_tick : Mirrors a w l Eq tick fun _ => tick := by
  intro m m' _ shields beside
  have kept : (last (tick l m)).heap = m.heap := by rw [last_tick, Machine.counted]
  refine ⟨⟨Heap.widens_same (congrArg Heap.frames kept), kept ▸ shields.sits⟩, fun calm => ?_⟩
  rcases settles_tick (l := l) m with ⟨_, settled⟩
  rcases settled 0 l.maxSteps with went | ⟨stopped, -⟩
  · have ticked : tick l m = .ok () m.counted := went
    rw [ticked]
    exact ⟨_, settles_tick m', .ok rfl ⟨beside.heap, beside.depth, beside.transcript⟩⟩
  · exact absurd calm stopped

theorem mirrors_enter : Mirrors a w l Eq enter fun _ => enter := by
  refine mirrors_plain fun m m' _ shields beside => ⟨⟨.refl _, shields.sits⟩, fun _ => ?_⟩
  exact ⟨.ok () m'.worked, fun _ => rfl, .ok rfl ⟨beside.heap, beside.depth, beside.transcript⟩⟩

theorem mirrors_deeper {R : α → β → Prop} {x : Run α} {y : Nat → Run β} (inner : Mirrors a w l R x y) :
    Mirrors a w l R (deeper x) fun k => deeper (y k) := by
  intro m m' grown shields beside
  have deepened : m.deepened.Beside a m'.deepened :=
    ⟨beside.heap, congrArg (· + 1) beside.depth, beside.transcript⟩
  rcases inner m.deepened m'.deepened grown shields deepened with ⟨shielded, settles⟩
  rw [run_deeper, calm_leaving]
  refine ⟨shielded.leaving (fun _ => ⟨rfl, rfl⟩) fun _ => ⟨rfl, rfl⟩, fun calm => ?_⟩
  rcases settles calm with ⟨s, settles, matched⟩
  refine ⟨_, settles_leaving settles fun room most => run_deeper _ m' (y room), ?_⟩
  exact matched.leaving (fun _ _ deep => ⟨deep.heap, congrArg (· - 1) deep.depth, deep.transcript⟩)
    fun _ _ deep => ⟨deep.heap, congrArg (· - 1) deep.depth, deep.transcript⟩

theorem mirrors_undoing {x : Run α} {undo : Heap → Heap} (keeps : ∀ h : Heap, h.Agrees (undo h))
    (apart : ∀ h frames, undo { h with frames } = { undo h with frames })
    (inner : Mirrors a w l Eq x fun _ => x) :
    Mirrors a w l Eq (undoing undo x) fun _ => undoing undo x := by
  intro m m' grown shields beside
  rcases inner m m' grown shields beside with ⟨shielded, settles⟩
  rw [run_undoing, calm_leaving]
  refine ⟨shielded.leaving (fun _ => ⟨rfl, rfl⟩) fun m => keeps m.heap, fun calm => ?_⟩
  rcases settles calm with ⟨s, settles, matched⟩
  refine ⟨_, settles_leaving settles fun room most => run_undoing _ m' undo x, ?_⟩
  refine matched.leaving (fun _ _ beside => beside) fun m m' beside => ?_
  refine ⟨?_, beside.depth, beside.transcript⟩
  rw [beside.heap, Heap.beside, apart, Heap.beside, (keeps m.heap).frames]

theorem mirrors_flushed {R : α → β → Prop} {x : Run α} {y : Nat → Run β} (inner : Mirrors a w l R x y) :
    Mirrors a w l R (flushed x) fun k => flushed (y k) := by
  let closed (m : Machine) : Machine := { m with transcript := m.transcript.flush l }
  have closes : ∀ m m' : Machine, m.Beside a m' → (closed m).Beside a (closed m') :=
    fun _ _ beside => ⟨beside.heap, beside.depth, congrArg (·.flush l) beside.transcript⟩
  intro m m' grown shields beside
  rcases inner m m' grown shields beside with ⟨shielded, settles⟩
  rw [run_flushed, calm_leaving]
  refine ⟨shielded.leaving (fun _ => ⟨rfl, rfl⟩) fun _ => ⟨rfl, rfl⟩, fun calm => ?_⟩
  rcases settles calm with ⟨s, settles, matched⟩
  have flushes : Settles l (fun k => flushed (y k)) m' (leaving closed closed s) :=
    settles_leaving settles fun room most => run_flushed _ m' (y room)
  exact ⟨_, flushes, matched.leaving closes closes⟩

-- What follows a round that has ended.
def proceed (probe : σ → Run (τ ⊕ α)) (body : τ → Run (σ ⊕ α)) (fuel : Nat) (l : Limits) :
    EStateM.Result Fault Machine (σ ⊕ α) → EStateM.Result Fault Machine α
  | .ok (.inr a) m => .ok a m
  | .ok (.inl s) m => rounds probe body fuel s l m
  | .error e m => .error e m

theorem run_rounds (probe : σ → Run (τ ⊕ α)) (body : τ → Run (σ ⊕ α)) (fuel : Nat) (s : σ) (l : Limits)
    (m : Machine) : rounds probe body (fuel + 1) s l m = proceed probe body fuel l (turn probe body s l m) := by
  rw [rounds, run_bind]
  cases turn probe body s l m with
  | error e mid => rfl
  | ok next mid =>
    cases next with
    | inl s => rfl
    | inr a => rfl

theorem stopped_proceed {probe : σ → Run (τ ⊕ α)} {body : τ → Run (σ ⊕ α)} {fuel : Nat}
    {t : EStateM.Result Fault Machine (σ ⊕ α)} (stopped : ¬ Calm t) : ¬ Calm (proceed probe body fuel l t) := by
  cases t with
  | ok next mid => exact absurd trivial stopped
  | error e mid => exact stopped

-- Rounds that there are no more of stop a run, as steps would.
def Rotates (l : Limits) (y : Nat → Nat → Limits → EStateM.Result Fault Machine β)
    (r : EStateM.Result Fault Machine β) : Prop :=
  ∃ enough, ∀ fuel room most, y fuel room { l with maxSteps := most } = r ∨
    ¬ Calm (y fuel room { l with maxSteps := most }) ∧ ¬ (enough ≤ fuel ∧ Enough l enough room most)

section
variable {S : σ → σ' → Prop} {T : τ → τ' → Prop} {Q : α → β → Prop} {probe : σ → Run (τ ⊕ α)}
  {body : τ → Run (σ ⊕ α)} {probe' : Nat → σ' → Run (τ' ⊕ β)} {body' : Nat → τ' → Run (σ' ⊕ β)}

theorem rotates_turn {s' : σ'} {t : EStateM.Result Fault Machine (σ' ⊕ β)}
    {r : EStateM.Result Fault Machine β}
    (first : Settles l (fun room => turn (probe' room) (body' room) s') m t)
    (rest : Rotates l (fun fuel room l => proceed (probe' room) (body' room) fuel l t) r) :
    Rotates l (fun fuel room l => rounds (probe' room) (body' room) fuel s' l m) r := by
  rcases first with ⟨one, first⟩
  rcases rest with ⟨two, rest⟩
  dsimp only at first rest
  refine ⟨max one two + 1, fun fuel room most => ?_⟩
  cases fuel with
  | zero => exact .inr ⟨(absurd trivial ·), fun given => absurd given.1 (Nat.not_succ_le_zero _)⟩
  | succ fuel =>
    simp only [run_rounds]
    rcases first room most with ends | ⟨stopped, short⟩
    · rw [ends]
      refine (rest fuel room most).imp id fun ⟨stopped, short⟩ => ⟨stopped, fun given => short ?_⟩
      exact ⟨by omega, given.2.less (by omega)⟩
    · exact .inr ⟨stopped_proceed stopped, fun given => short (given.2.less (by omega))⟩

variable (probes : ∀ s s', S s s' → Mirrors a w l (Sum.LiftRel T Q) (probe s) fun k => probe' k s')
  (bodies : ∀ t t', T t t' → Mirrors a w l (Sum.LiftRel S Q) (body t) fun k => body' k t')
include probes bodies

theorem mirrors_turn {s : σ} {s' : σ'} (same : S s s') :
    Mirrors a w l (Sum.LiftRel S Q) (turn probe body s) fun k => turn (probe' k) (body' k) s' := by
  refine mirrors_bind (probes s s' same) fun u v found => ?_
  cases found with
  | inr same => exact mirrors_pure (.inr same)
  | inl same => exact mirrors_step mirrors_tick fun _ => mirrors_step mirrors_enter fun _ => bodies _ _ same

theorem mirrors_rounds (fuel : Nat) {s : σ} {s' : σ'} (same : S s s') (grown : w.Widens m.heap)
    (shields : m.heap.Shields a) (beside : m.Beside a m') :
    Shielded a m.heap (rounds probe body fuel s l m) ∧ (Calm (rounds probe body fuel s l m) →
      ∃ r, Rotates l (fun fuel room l => rounds (probe' room) (body' room) fuel s' l m') r ∧
        Matches a Q (rounds probe body fuel s l m) r) := by
  induction fuel generalizing s s' m m' with
  | zero => exact ⟨⟨.refl _, shields.sits⟩, fun calm => absurd trivial calm⟩
  | succ fuel ih =>
    rcases mirrors_turn probes bodies same m m' grown shields beside with ⟨shielded, settles⟩
    rw [run_rounds]
    cases ended : turn probe body s l m with
    | error e mid =>
      rw [ended] at shielded settles
      refine ⟨⟨shielded.widens, shielded.sits⟩, fun calm => ?_⟩
      rcases settles calm with ⟨_, settles, ⟨-⟩ | ⟨beside'⟩⟩
      exact ⟨_, rotates_turn settles ⟨0, fun _ _ _ => .inl rfl⟩, .error beside'⟩
    | ok next mid =>
      rw [ended] at shielded settles
      rcases settles trivial with ⟨_, settles, ⟨same', beside'⟩ | ⟨-⟩⟩
      cases same' with
      | inr same' =>
        refine ⟨⟨shielded.widens, shielded.sits⟩, fun _ => ?_⟩
        exact ⟨_, rotates_turn settles ⟨0, fun _ _ _ => .inl rfl⟩, .ok same' beside'⟩
      | inl same' =>
        rcases ih same' (grown.trans shielded.widens) (shields.widens shielded.widens shielded.sits)
          beside' with ⟨later, further⟩
        refine ⟨⟨shielded.widens.trans later.widens, later.sits⟩, fun calm => ?_⟩
        rcases further calm with ⟨r, rotates, matched⟩
        exact ⟨r, rotates_turn settles rotates, matched⟩

theorem mirrors_loop {s : σ} {s' : σ'} (same : S s s') :
    Mirrors a w l Q (loop probe body s) fun k => loop (probe' k) (body' k) s' := by
  intro m m' grown shields beside
  rw [run_loop]
  rcases mirrors_rounds probes bodies _ same grown shields beside with ⟨shielded, settles⟩
  refine ⟨shielded, fun calm => ?_⟩
  rcases settles calm with ⟨r, ⟨enough, ends⟩, matched⟩
  refine ⟨r, ⟨enough + m'.steps, fun room most => ?_⟩, matched⟩
  simp only [run_loop]
  refine (ends _ room most).imp id fun ⟨stopped, short⟩ => ⟨stopped, fun given => short ?_⟩
  have steps := given.steps
  exact ⟨by omega, given.less (by omega)⟩

end

theorem mirrors_each {f : α → Run β} {g : Nat → α → Run β} (items : List α)
    (each : ∀ x ∈ items, Mirrors a w l Eq (f x) fun k => g k x) :
    Mirrors a w l Eq (items.mapM f) fun k => items.mapM (g k) := by
  induction items with
  | nil => exact mirrors_value []
  | cons x rest ih =>
    simp only [List.mapM_cons]
    rcases List.forall_mem_cons.mp each with ⟨first, others⟩
    exact mirrors_step first fun b => mirrors_step (ih others) fun bs => mirrors_value (b :: bs)

theorem mirrors_fold {f : β → α → Run β} {g : Nat → β → α → Run β} (items : List α) (b : β)
    (each : ∀ b, ∀ x ∈ items, Mirrors a w l Eq (f b x) fun k => g k b x) :
    Mirrors a w l Eq (items.foldlM f b) fun k => items.foldlM (g k) b := by
  induction items generalizing b with
  | nil => exact mirrors_value b
  | cons x rest ih =>
    simp only [List.foldlM_cons]
    refine mirrors_step (each b x List.mem_cons_self) fun b => ih b fun b y member => ?_
    exact each b y (List.mem_cons_of_mem _ member)

theorem mirrors_forIn {f : α → β → Run (ForInStep β)} {g : Nat → α → β → Run (ForInStep β)}
    (items : List α) (b : β) (each : ∀ b, ∀ x ∈ items, Mirrors a w l Eq (f x b) fun k => g k x b) :
    Mirrors a w l Eq (forIn items b f) fun k => forIn items b (g k) := by
  induction items generalizing b with
  | nil => exact mirrors_value b
  | cons x rest ih =>
    simp only [List.forIn_cons]
    refine mirrors_step (each b x List.mem_cons_self) fun s => ?_
    cases s with
    | done b => exact mirrors_value b
    | yield b => exact ih b fun b y member => each b y (List.mem_cons_of_mem _ member)

theorem mirrors_settle (x : Except Trouble α) : Mirrors a w l Eq (settle x) fun _ => settle x := by
  cases x with
  | ok u => exact mirrors_value u
  | error e => exact mirrors_stop _

theorem mirrors_settled {Q : γ → δ → Prop} {x : Except Trouble α} {f : α → Run γ} {g : Nat → α → Run δ}
    (rest : ∀ u, x = .ok u → Mirrors a w l Q (f u) fun k => g k u) :
    Mirrors a w l Q (settle x >>= f) fun k => settle x >>= g k := by
  cases x with
  | ok u => exact rest u rfl
  | error e => exact mirrors_stop _

-- Both visits go on, or both of them are the last one.
inductive Onward (S : σ → σ' → Prop) : ForInStep σ → ForInStep σ' → Prop where
  | done {s : σ} {s' : σ'} (same : S s s') : Onward S (.done s) (.done s')
  | yield {s : σ} {s' : σ'} (same : S s s') : Onward S (.yield s) (.yield s')

theorem mirrors_foldItems {S : σ → σ' → Prop} {visit : σ → Value → Run (ForInStep σ)}
    {visit' : Nat → σ' → Value → Run (ForInStep σ')}
    (visits : ∀ s s' v, S s s' → Mirrors a w l (Onward S) (visit s v) fun k => visit' k s' v) (v : Value)
    {s : σ} {s' : σ'} (same : S s s') :
    Mirrors a w l S (foldItems visit v s) fun k => foldItems (visit' k) v s' := by
  refine mirrors_step (mirrors_ask _) fun c => ?_
  refine mirrors_loop (S := fun s s' => s.1 = s'.1 ∧ S s.2 s'.2)
    (T := fun t t' => t.1 = t'.1 ∧ t.2.1 = t'.2.1 ∧ S t.2.2 t'.2.2) ?_ ?_ ⟨rfl, same⟩
  · rintro ⟨c, s⟩ ⟨_, s'⟩ ⟨rfl, same⟩
    refine mirrors_step (mirrors_ask _) fun found => ?_
    cases found with
    | none => exact mirrors_pure (.inr same)
    | some item => exact mirrors_step (mirrors_own _) fun v => mirrors_pure (.inl ⟨rfl, rfl, same⟩)
  · rintro ⟨v, c, s⟩ ⟨_, _, s'⟩ ⟨rfl, rfl, same⟩
    refine mirrors_bind (visits s s' v same) fun step step' onward => ?_
    cases onward with
    | done same => exact mirrors_pure (.inr same)
    | yield same => exact mirrors_pure (.inl ⟨rfl, same⟩)

-- What neither binds names nor evaluates anything.
def plainly : Licence := ⟨fun _ => True, fun _ => True, fun _ => False, False⟩

theorem mirrors_composed {x : Run α} (composed : Composed plainly x) : Mirrors a w l Eq x fun _ => x := by
  induction composed with
  | value u => exact mirrors_value u
  | step _ _ first rest => exact mirrors_step first rest
  | stop => exact mirrors_stop _
  | look f => exact mirrors_look f
  | inspect _ rest => exact mirrors_step (mirrors_look _) fun c => rest c fun _ _ => trivial
  | guarded _ impartial =>
    have same := impartial id
    exact mirrors_guarded fun h most _ shields => same.same l most shields.sits.akin
  | change keeps apart => exact mirrors_change keeps apart
  | allocate keeps apart => exact mirrors_allocate keeps apart
  | define _ may => exact may.elim
  | opened may => exact may.elim
  | bind may => exact may.elim
  | tick => exact mirrors_tick
  | enter may => exact may.elim
  | checkTime => exact mirrors_checkTime
  | checkDepth => exact mirrors_checkDepth
  | emit made => exact mirrors_emit made
  | loop s _ _ probes bodies =>
    refine mirrors_loop (S := Eq) (T := Eq) (fun s s' same => ?_) (fun t t' same => ?_) rfl
    · exact same ▸ (probes s).weaken fun u v same => same ▸ (by cases u <;> constructor <;> rfl)
    · exact same ▸ (bodies t).weaken fun u v same => same ▸ (by cases u <;> constructor <;> rfl)
  | called _ inner => exact mirrors_step mirrors_checkDepth fun _ => mirrors_deeper inner
  | undoing keeps _ apart inner => exact mirrors_undoing keeps apart inner

section
variable {Q : γ → δ → Prop}

theorem mirrors_lookUp {scope : Nat} {name : String} (hidden : w.Hidden a scope name) :
    Mirrors a w l Eq (lookUp scope name) fun _ => lookUp scope name := by
  rw [lookUp_asks]
  exact mirrors_guarded fun h _ grown _ => by rw [Heap.lookup_beside (hidden.widens grown)]

theorem mirrors_bindName {scope : Nat} {name : String} (hidden : w.Hidden a scope name) (v : Value) :
    Mirrors a w l Eq (bind scope name v) fun _ => bind scope name v := by
  refine mirrors_plain fun m m' grown shields beside => ⟨?_, fun _ => ?_⟩
  · have widens := m.heap.widens_bind scope name v
    exact ⟨widens, shields.sits.widens rfl widens⟩
  · refine ⟨.ok () (m'.bind scope name v), fun _ => rfl, .ok rfl ⟨?_, beside.depth, beside.transcript⟩⟩
    change m'.heap.bind scope name v = (m.heap.bind scope name v).beside a
    rw [beside.heap, Heap.bind_beside (hidden.widens grown)]

-- A new scope does not see the variable either, if the one around it does not.
theorem mirrors_opened {f : Frame} {x : Nat → Run γ} {y : Nat → Nat → Run δ}
    (rest : ∀ w' i, w.Widens w' → ((∀ q, f.parent = some q → w.Clear a q) → w'.Clear a i) →
      Mirrors a w' l Q (x i) fun k => y k i) :
    Mirrors a w l Q (newFrame f >>= x) fun k => newFrame f >>= y k := by
  have opens : Mirrors a w l Eq (newFrame f) fun _ => newFrame f := by
    refine mirrors_plain fun m m' _ shields beside => ⟨?_, fun _ => ?_⟩
    · have widens := m.heap.widens_newFrame f
      exact ⟨widens, shields.sits.widens rfl widens⟩
    · have size : m'.heap.frames.size = m.heap.frames.size := by rw [beside.heap, Heap.beside_size]
      refine ⟨.ok m'.heap.frames.size { m' with heap := (m'.heap.newFrame f).2 }, fun _ => rfl,
        .ok size.symm ⟨?_, beside.depth, beside.transcript⟩⟩
      change (m'.heap.newFrame f).2 = (m.heap.newFrame f).2.beside a
      rw [beside.heap, Heap.newFrame_beside shields.inside]
  refine mirrors_then opens fun m u v mid grown shields opened widens same => ?_
  cases opened
  subst same
  refine rest _ _ (grown.trans widens) fun around => ?_
  exact Heap.clear_newFrame shields.inside fun q up => (around q up).widens grown

theorem mirrors_inspect {at_ : Nat} {f : Closure → Run γ} {g : Nat → Closure → Run δ}
    (rest : ∀ w' c, w.Widens w' → w'.Clear a c.scope → Mirrors a w' l Q (f c) fun k => g k c) :
    Mirrors a w l Q (look (·.closureAt at_) >>= f) fun k => look (·.closureAt at_) >>= g k := by
  refine mirrors_then (mirrors_look _) fun m u v mid grown shields looked _ same => ?_
  cases looked
  subst same
  exact rest _ _ grown (shields.sits at_)

theorem mirrors_define {c : Closure} (clear : w.Clear a c.scope) :
    Mirrors a w l Eq (allocate (·.newClosure c) >>= bind c.scope c.name) fun _ =>
      allocate (·.newClosure c) >>= bind c.scope c.name := by
  refine mirrors_step (mirrors_plain fun m m' grown shields beside => ?_)
    fun v => mirrors_bindName (.inl clear) v
  refine ⟨⟨Heap.widens_same rfl, shields.sits.newClosure (clear.widens grown)⟩, fun _ => ?_⟩
  have size : m'.heap.closures = m.heap.closures := by rw [beside.heap, Heap.beside]
  refine ⟨.ok (.function m.heap.closures.size) { m' with heap := (m'.heap.newClosure c).2 }, fun _ => ?_,
    .ok rfl ⟨?_, beside.depth, beside.transcript⟩⟩
  · rw [run_allocate, Heap.newClosure, size]
  · change (m'.heap.newClosure c).2 = (m.heap.newClosure c).2.beside a
    rw [beside.heap]
    rfl

end

-- However the run goes on, this part of it gives the value, and the machine stays what it is.
def Traceless (a : Option Aside) (l : Limits) (z : Nat → Run γ) (c : γ) : Prop :=
  ∀ m m' : Machine, m.heap.Shields a → m.Beside a m' → ∃ mid, Settles l z m' (.ok c mid) ∧ m.Beside a mid

theorem traceless_bind {z : Nat → Run γ} {g : Nat → γ → Run δ} {c : γ} {d : δ} (first : Traceless a l z c)
    (rest : Traceless a l (fun k => g k c) d) : Traceless a l (fun k => z k >>= g k) d := by
  intro m m' shields beside
  rcases first m m' shields beside with ⟨mid, settles, beside'⟩
  rcases rest m mid shields beside' with ⟨last, settles', beside''⟩
  exact ⟨last, settles_bind settles settles', beside''⟩

theorem traceless_further {z : Nat → Run γ} {c : γ} (none : ∀ l m, ¬ Calm (z 0 l m))
    (some : Traceless a l (fun k => z (k + 1)) c) : Traceless a l z c := by
  intro m m' shields beside
  rcases some m m' shields beside with ⟨mid, settles, beside'⟩
  exact ⟨mid, settles_further none settles, beside'⟩

theorem traceless_value (c : γ) : Traceless a l (fun _ => pure c) c :=
  fun _ m' _ beside => ⟨m', settles_same fun _ _ => rfl, beside⟩

theorem traceless_enter : Traceless a l (fun _ => enter) () :=
  fun _ m' _ beside => ⟨m'.worked, settles_same fun _ _ => rfl, ⟨beside.heap, beside.depth, beside.transcript⟩⟩

theorem traceless_tick : Traceless a l (fun _ => tick) () :=
  fun _ m' _ beside => ⟨m'.counted, settles_tick m', ⟨beside.heap, beside.depth, beside.transcript⟩⟩

theorem traceless_checkTime : Traceless a l (fun _ => checkTime) () :=
  fun _ m' _ beside => ⟨m', settles_checkTime m', beside⟩

theorem traceless_lookUp {p : Aside} : Traceless (some p) l (fun _ => lookUp p.place p.name) p.value := by
  intro m m' shields beside
  refine ⟨m', settles_same fun _ _ => ?_, beside⟩
  rw [lookUp_asks, run_guarded, beside.heap, Heap.lookup_aside (shields.inside p rfl)]

section
variable {R : α → β → Prop} {x : Run α}

theorem mirrors_further {y : Nat → Run β} (none : ∀ l m, ¬ Calm (y 0 l m))
    (some : Mirrors a w l R x fun k => y (k + 1)) : Mirrors a w l R x y := by
  intro m m' grown shields beside
  rcases some m m' grown shields beside with ⟨shielded, settles⟩
  refine ⟨shielded, fun calm => ?_⟩
  rcases settles calm with ⟨s, settles, matched⟩
  exact ⟨s, settles_further none settles, matched⟩

-- What the second run does beside, without leaving a trace.
theorem mirrors_beside {z : Nat → Run γ} {g : Nat → γ → Run β} {c : γ} (traceless : Traceless a l z c)
    (rest : Mirrors a w l R x fun k => g k c) : Mirrors a w l R x fun k => z k >>= g k := by
  intro m m' grown shields beside
  rcases traceless m m' shields beside with ⟨mid, first, beside'⟩
  rcases rest m mid grown shields beside' with ⟨shielded, settles⟩
  refine ⟨shielded, fun calm => ?_⟩
  rcases settles calm with ⟨s, settles, matched⟩
  exact ⟨s, settles_bind first settles, matched⟩

-- The second run goes on where the first one has ended already, or the other way round.
theorem mirrors_after {Q : α → δ → Prop} {y : Nat → Run β} {g : Nat → β → Run δ}
    (first : Mirrors a w l R x y) (rest : ∀ u v, R u v → Mirrors a w l Q (pure u) fun k => g k v) :
    Mirrors a w l Q x fun k => y k >>= g k := by
  have both := mirrors_bind (f := pure) first rest
  rwa [bind_pure] at both

theorem mirrors_before {Q : γ → β → Prop} {y : Nat → Run β} {f : α → Run γ}
    (first : Mirrors a w l R x y) (rest : ∀ u v, R u v → Mirrors a w l Q (f u) fun _ => pure v) :
    Mirrors a w l Q (x >>= f) y := by
  have both := mirrors_bind (g := fun _ => pure) first rest
  simpa only [bind_pure] using both

-- A guard that only the first run has. Who is stopped by it is stopped by a ceiling.
theorem mirrors_passing {g : Limits → Heap → Except Trouble γ} {f : γ → Run α} {y : Nat → Run β}
    (ceiling : ∀ l h e, g l h = .error e → e.toFault.IsCeiling)
    (rest : ∀ u, Mirrors a w l R (f u) y) : Mirrors a w l R (guarded g >>= f) y := by
  intro m m' grown shields beside
  rw [run_bind, run_guarded]
  cases passed : g l m.heap with
  | error e => exact ⟨⟨.refl _, shields.sits⟩, fun calm => absurd (ceiling _ _ _ passed) calm⟩
  | ok u => exact rest u m m' grown shields beside

end

end Run
end ScriptArena
