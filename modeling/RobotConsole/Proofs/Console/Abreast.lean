import RobotConsole.Proofs.Console.Deeds
import RobotConsole.Proofs.Editor.DialogAnswer

/-!
# Operations abreast

What an operation does after a wait depends on what it waits for, on the reply and on the
settings, and on nothing else. So two operations in two consoles that wait for the same thing
do the same from there on, as long as they get the same replies.
-/

namespace RobotConsole

/-- What can follow for an operation that runs alone: a reply to it, typing, and what the
transport and the clock bring. -/
inductive Ensuing where
  | reply (wait : Wait) (answer : wait.Reply)
  | edit (content : String)
  | feed (feed : Feed)

def Ensuing.move (task : Nat) : Ensuing -> Move
  | reply wait answer => .reply task wait answer
  | edit content => .edit content
  | feed f => f.move

namespace Console

/-- Two operations in two consoles wait for the same thing, and would do the same with it. -/
structure Abreast (a b : Console) (mine yours : Nat) : Prop where
  settings : b.settings = a.settings
  display : b.hasLogDisplay = a.hasLogDisplay
  waits : b.wait? yours = a.wait? mine
  numbered : a.Numbered ∧ b.Numbered

structure SameDeed (a b : Console) (m m' : Move) (mine yours : Nat) : Prop where
  deed : ofTask yours (b.deed? m').toList = ofTask mine (a.deed? m).toList
  change : (b.effect m').change = (a.effect m).change

section

variable {a b : Console} {mine yours : Nat}

theorem abreast_step {m m' : Move} (wait? : Option Wait) (settings : b.settings = a.settings)
    (display : b.hasLogDisplay = a.hasLogDisplay) (numbered : a.Numbered ∧ b.Numbered)
    (waits : (a.step m).wait? mine = wait?) (waits' : (b.step m').wait? yours = wait?) :
    (a.step m).Abreast (b.step m') mine yours := by
  constructor
  · rw [step_settings, step_settings, settings]
  · rw [step_hasLogDisplay, step_hasLogDisplay, display]
  · rw [waits, waits']
  · exact ⟨numbered.1.step m, numbered.2.step m'⟩

theorem Abreast.step (h : a.Abreast b mine yours) (ensuing : Ensuing) :
    a.SameDeed b (ensuing.move mine) (ensuing.move yours) mine yours ∧
      (a.step (ensuing.move mine)).Abreast (b.step (ensuing.move yours)) mine yours := by
  have untouched (m : Move) (nobody : forall c : Console, c.movedOn? m = none) :
      (a.step m).Abreast (b.step m) mine yours := by
    apply abreast_step (a.wait? mine) h.settings h.display h.numbered
    · rw [wait?_step a h.numbered.1, nobody]
    · rw [wait?_step b h.numbered.2, nobody, h.waits]
  cases ensuing with
  | reply wait answer =>
      by_cases applies : wait.isCall ∧ a.wait? mine = some wait
      · have applies' : wait.isCall ∧ b.wait? yours = some wait := by rwa [h.waits]
        refine ⟨⟨?_, ?_⟩, ?_⟩
        · simp [Ensuing.move, deed?, applies, applies', ofTask,
            nextDeed_congr h.settings h.display]
        · simp [Ensuing.move, effect, applies, applies', h.settings]
        · apply abreast_step (wait.next? answer) h.settings h.display h.numbered
          · simp [wait?_step a h.numbered.1, Ensuing.move, movedOn?, applies]
          · simp [wait?_step b h.numbered.2, Ensuing.move, movedOn?, applies']
      · have applies' : ¬ (wait.isCall ∧ b.wait? yours = some wait) := by rwa [h.waits]
        refine ⟨⟨?_, ?_⟩, ?_⟩
        · simp [Ensuing.move, deed?, applies, applies', ofTask]
        · simp [Ensuing.move, effect, applies, applies']
        · apply abreast_step (a.wait? mine) h.settings h.display h.numbered
          · simp [wait?_step a h.numbered.1, Ensuing.move, movedOn?, applies]
          · rw [← h.waits]
            simp [wait?_step b h.numbered.2, Ensuing.move, movedOn?, applies']
  | edit content => exact ⟨⟨rfl, rfl⟩, untouched _ fun _ => rfl⟩
  | feed f => cases f <;> exact ⟨⟨rfl, rfl⟩, untouched _ fun _ => rfl⟩

theorem Abreast.play (h : a.Abreast b mine yours) (ensuing : List Ensuing) :
    b.deeds (ensuing.map (Ensuing.move yours)) yours =
        a.deeds (ensuing.map (Ensuing.move mine)) mine ∧
      b.bufferChanges (ensuing.map (Ensuing.move yours)) =
        a.bufferChanges (ensuing.map (Ensuing.move mine)) := by
  induction ensuing generalizing a b with
  | nil => exact ⟨rfl, rfl⟩
  | cons next rest ih =>
      obtain ⟨same, later⟩ := h.step next
      obtain ⟨deeds, changes⟩ := ih later
      rw [List.map_cons, List.map_cons, deeds_cons, deeds_cons, bufferChanges_cons,
        bufferChanges_cons, same.deed, same.change, deeds, changes]
      exact ⟨rfl, rfl⟩

end

end Console
end RobotConsole
