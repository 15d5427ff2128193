namespace ScriptArena.Progress

structure Record where
  user : String
  highScore : Int := 0
  -- The ids of the completed challenges in order, each once.
  completed : List String := []
deriving Repr, DecidableEq

namespace Record

def raise (score : Int) (r : Record) : Record := { r with highScore := max r.highScore score }

def complete (challenge : String) (r : Record) : Record :=
  if r.completed.contains challenge then r
  else { r with completed := r.completed ++ [challenge] }

@[simp] theorem raise_user (score : Int) (r : Record) : (r.raise score).user = r.user := rfl

@[simp] theorem complete_user (challenge : String) (r : Record) :
    (r.complete challenge).user = r.user := by
  unfold complete
  split <;> rfl

theorem mem_complete (challenge : String) (r : Record) :
    challenge ∈ (r.complete challenge).completed := by
  unfold complete
  split
  · rename_i present
    simpa using present
  · simp

theorem complete_of_mem {challenge : String} {r : Record} (present : challenge ∈ r.completed) :
    r.complete challenge = r := by
  simp [complete, present]

end Record

structure Store where
  records : List Record := []
deriving Repr, DecidableEq

namespace Store

-- A player without a record has an empty one.
def get (s : Store) (user : String) : Record :=
  (s.records.find? (·.user == user)).getD { user }

def put (s : Store) (r : Record) : Store :=
  ⟨r :: s.records.filter (·.user != r.user)⟩

def setHighScore (s : Store) (user : String) (score : Int) : Store :=
  s.put ((s.get user).raise score)

def addCompleted (s : Store) (user challenge : String) : Store :=
  s.put ((s.get user).complete challenge)

@[simp] theorem get_put_self (s : Store) (r : Record) : (s.put r).get r.user = r := by
  simp [get, put]

theorem get_put_other (s : Store) (r : Record) {user : String} (other : r.user ≠ user) :
    (s.put r).get user = s.get user := by
  have differs : (r.user == user) = false := by simpa using other
  have same : (fun q : Record => !decide (q.user = r.user) && decide (q.user = user)) =
      fun q => q.user == user := by
    funext q
    by_cases equal : q.user = user
    · simp [equal, other.symm]
    · simp [equal]
  simp [get, put, differs, same]

@[simp] theorem get_user (s : Store) (user : String) : (s.get user).user = user := by
  unfold get
  cases found : s.records.find? (·.user == user) with
  | none => rfl
  | some r => simpa using List.find?_some found

end Store
end ScriptArena.Progress
