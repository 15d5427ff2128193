import ScriptArena.Proofs.Service.Turns

namespace ScriptArena.Service
open Arena

namespace GameLoop

-- Nothing is shown, and the flag stays set.
structure Hidden (l m : GameLoop) : Prop where
  broadcasts : m.broadcasts = l.broadcasts
  changed : l.changed = true → m.changed = true

theorem Hidden.aside {l m : GameLoop} (broadcasts : m.broadcasts = l.broadcasts)
    (changed : m.changed = l.changed) : Hidden l m := ⟨broadcasts, changed.trans⟩

end GameLoop

namespace Stage

variable {s : Stage} {t : Turn} {since : Nat}

def busy : List Turn :=
  [.toggle, .arm, .mail (.signIn "ada"), .collect, .toggle, .mail (.answer 0 false), .touch, .snap,
    .toggle, .send, .touch, .send, .collect, .snap, .send]

end Stage
end ScriptArena.Service
