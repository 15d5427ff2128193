import ScriptArena.Proofs.Run.Composed

namespace ScriptArena

variable {α β : Type}

-- What does not look at the ceilings.
theorem eases_same (f : Heap → Except Trouble α) : Eases fun _ h => f h :=
  fun _ _ _ _ _ passed => passed

theorem eases_bind {g : Limits → Heap → Except Trouble α}
    {f : α → Limits → Heap → Except Trouble β} (first : Eases g) (rest : ∀ a, Eases (f a)) :
    Eases fun l h => g l h >>= fun a => f a l h := by
  intro l l' h b looser passed
  cases here : g l h with
  | error e => simp [here, bind, Except.bind] at passed
  | ok a =>
    have continued : f a l h = .ok b := by simpa [here, bind, Except.bind] using passed
    have there := first l l' h a looser here
    simpa [there, bind, Except.bind] using rest a l l' h b looser continued

theorem eases_fold {f : Limits → Heap → β → α → Except Trouble β} (items : List α)
    (each : ∀ b x, Eases fun l h => f l h b x) (b : β) :
    Eases fun l h => items.foldlM (f l h) b := by
  induction items generalizing b with
  | nil => exact eases_same fun _ => .ok b
  | cons x rest ih =>
    simp only [List.foldlM_cons]
    exact eases_bind (each b x) ih

theorem eases_forIn {f : Limits → Heap → α → β → Except Trouble (ForInStep β)} (items : List α)
    (each : ∀ x b, Eases fun l h => f l h x b) (b : β) :
    Eases fun l h => forIn items b (f l h) := by
  induction items generalizing b with
  | nil => exact eases_same fun _ => .ok b
  | cons x rest ih =>
    simp only [List.forIn_cons]
    refine eases_bind (each x b) fun s => ?_
    cases s with
    | done b => exact eases_same fun _ => .ok b
    | yield b => exact ih b

-- A refusal of what is beyond one of the ceilings.
theorem eases_refuse {P : Limits → Prop} [∀ l, Decidable (P l)] {g : Limits → Heap → Except Trouble α}
    {e : Limits → Heap → Trouble} (tighter : ∀ l l' : Limits, l.Looser l' → P l' → P l)
    (rest : Eases g) : Eases fun l h => if P l then .error (e l h) else g l h := by
  intro l l' h a looser passed
  by_cases beyond : P l
  · simp [beyond] at passed
  · have within : ¬ P l' := fun beyond' => beyond (tighter l l' looser beyond')
    simp only [beyond, if_false] at passed
    simpa only [within, if_false] using rest l l' h a looser passed

namespace Guard

theorem eases_checkSize (what : Oversize) (size : Int) :
    Eases fun l _ => checkSize l what size :=
  eases_refuse (e := fun _ _ => .oversize what)
    (fun _ _ looser beyond => Int.lt_of_le_of_lt looser.maxSequenceLength beyond)
    (eases_same fun _ => .ok ())

theorem eases_listSize (what : Oversize) (at_ : Nat) :
    Eases fun l h => checkSize l what (h.listAt at_).size :=
  fun l l' h u looser => eases_checkSize what _ l l' h u looser

-- A higher limit comes with more fuel, and both only ever stop the count.
theorem sizeFrom_looser {h : Heap} {limit limit' : Int} (higher : limit ≤ limit') {fuel fuel' : Nat}
    (more : fuel ≤ fuel') {pending : List Value} {size n : Nat}
    (sized : sizeFrom h limit fuel pending size = .ok n) :
    sizeFrom h limit' fuel' pending size = .ok n := by
  induction fuel generalizing fuel' pending size with
  | zero => simp [sizeFrom] at sized
  | succ fuel ih =>
    cases fuel' with
    | zero => omega
    | succ fuel' =>
      cases pending with
      | nil => exact sized
      | cons v pending =>
        simp only [sizeFrom] at sized ⊢
        split at sized
        · cases sized
        · rename_i within
          have within' : ¬ limit' < (size + ownSize h v : Nat) := by omega
          rw [if_neg within']
          exact ih (Nat.le_of_succ_le_succ more) sized

theorem eases_textSize (v : Value) : Eases fun l h => textSize h l v := by
  intro l l' h n looser sized
  have higher := looser.maxSequenceLength
  exact sizeFrom_looser higher (by omega) sized

theorem eases_text (v : Value) : Eases fun l h => text h l v := by
  cases v with
  | str s => exact eases_same fun _ => .ok s
  | _ => exact eases_bind (eases_textSize _) fun _ => eases_same fun h => Value.text h _

theorem eases_power (base exponent : Value) : Eases fun l _ => power l base exponent := by
  intro l l' h u looser
  have exponents := looser.maxExponent
  have bits := looser.maxIntBits
  simp only [power]
  cases exponent.int? with
  | none => exact id
  | some e =>
    cases base.isReal with
    | false => exact id
    | true =>
      simp only [Bool.not_true, Bool.false_eq_true, if_false]
      by_cases large : l.maxExponent < e.natAbs ∧ exceedsOne base = true
      · rw [if_pos large]
        cases shownNumber exponent with
        | error e => exact nofun
        | ok text => exact nofun
      · have large' : ¬ (l'.maxExponent < e.natAbs ∧ exceedsOne base = true) :=
          fun both => large ⟨by omega, both.2⟩
        rw [if_neg large, if_neg large']
        cases base.int? with
        | none => exact id
        | some b =>
          dsimp only
          by_cases long : 0 < e ∧ l.maxIntBits < Number.bitLength b.natAbs * e
          · rw [if_pos long]
            exact nofun
          · have long' : ¬ (0 < e ∧ l'.maxIntBits < Number.bitLength b.natAbs * e) :=
              fun both => long ⟨both.1, by omega⟩
            rw [if_neg long, if_neg long']
            exact id

theorem eases_product (a b : Value) : Eases fun l h => product h l a b := by
  intro l l' h u looser
  have bits := looser.maxIntBits
  simp only [product]
  split
  · exact eases_checkSize _ _ l l' h u looser
  · exact eases_checkSize _ _ l l' h u looser
  · rename_i n m _ _ _ _
    by_cases long : l.maxIntBits < Number.bitLength m.natAbs + Number.bitLength n.natAbs
    · simp only [long, if_true]
      exact nofun
    · have long' : ¬ l'.maxIntBits < Number.bitLength m.natAbs + Number.bitLength n.natAbs := by omega
      simp only [long, long', if_false]
      exact id
  · exact id

theorem eases_join (a b : Value) : Eases fun l h => join h l a b := by
  intro l l' h u looser
  simp only [join]
  split
  · split
    · exact id
    · exact eases_checkSize _ _ l l' h u looser
  · exact id

theorem eases_addWidth (size : Nat) (width : Width) : Eases fun l _ => addWidth l size width := by
  cases width with
  | star => exact eases_same fun _ => .ok size
  | digits ds =>
    refine eases_bind (eases_same fun _ => readDigits ds) fun n => ?_
    exact eases_refuse (P := fun l => l.maxSequenceLength < n) (e := fun _ _ => .oversize .width)
      (fun _ _ looser beyond => Int.lt_of_le_of_lt looser.maxSequenceLength beyond)
      (eases_same fun _ => .ok (size + n))

theorem eases_addWidths (size : Nat) (ws : List Width) : Eases fun l _ => addWidths l size ws := by
  unfold addWidths
  split
  · exact eases_same fun _ => .error (.oversize .starWidth)
  · exact eases_fold ws eases_addWidth size

theorem eases_template (cs : List Char) (args : Value) : Eases fun l h => template h l cs args := by
  refine eases_bind (eases_fold _ eases_addWidths cs.length) fun size => ?_
  have each : ∀ (total : Int) v, Eases fun l h => do return total + (← textSize h l v) :=
    fun total v => eases_bind (eases_textSize v) fun n => eases_same fun _ => .ok (total + n)
  intro l l' h
  exact eases_bind (eases_fold _ each size) (eases_checkSize .formatted) l l' h

theorem eases_binary (op : Script.Operator) (a b : Value) : Eases fun l h => binary h l op a b := by
  cases op with
  | pow => exact eases_power a b
  | mul => exact eases_product a b
  | mod =>
    cases a with
    | str s => exact eases_template s.toList b
    | _ => exact eases_same fun _ => .ok ()
  | add => exact eases_join a b
  | _ => exact eases_same fun _ => .ok ()

theorem eases_formatSpec (spec : String) : Eases fun l _ => formatSpec l spec := by
  refine eases_bind (eases_forIn _ (fun ds _ => ?_) PUnit.unit) fun _ => eases_same fun _ => .ok ()
  refine eases_bind (eases_same fun _ => readDigits ds) fun n => ?_
  exact eases_refuse (P := fun l => l.maxSequenceLength < n) (e := fun _ _ => .oversize .width)
    (fun _ _ looser beyond => Int.lt_of_le_of_lt looser.maxSequenceLength beyond)
    (eases_same fun _ => pure (ForInStep.yield PUnit.unit))

theorem eases_joined (mark : Nat) (parts : List Value) : Eases fun l _ => joined l mark parts :=
  eases_checkSize .joined _

end Guard
end ScriptArena
