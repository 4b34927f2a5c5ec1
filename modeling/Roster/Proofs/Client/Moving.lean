import Roster.Proofs.Client.Links
import Roster.Proofs.Client.Reaching

/-!
# A client at work moves

Moves leave open whose turn it is and how time goes by, and anything may happen between a client and its
bus. This module closes that: whatever a client does when it is asked for a manager, when it settles and
when its clock runs, it does by moves. So what holds after all moves holds of every client at work.
-/

namespace Roster.Client

/-- One client becomes the other one by moves, none of which changes what it was set up with. -/
def Travels (c c' : Client) : Prop :=
  Relation.ReflTransGen (fun c c' => Moves c c' ∧ c'.setup = c.setup) c c'

variable {c c' : Client}

/-- Whatever happens afterwards is added. -/
theorem Travels.trans {c₁ c₂ c₃ : Client} (h : Travels c₁ c₂) (h' : Travels c₂ c₃) :
    Travels c₁ c₃ := Relation.ReflTransGen.trans h h'

/-- What moves a client was made of. -/
theorem Travels.moves (h : Travels c c') : Relation.ReflTransGen Moves c c' :=
  Relation.ReflTransGen.mono (fun _ _ hstep => hstep.1) c c' h

/-- What leaves the ties to the bus alone is a move. -/
theorem Travels.around (h : c'.links = c.links) (hsetup : c'.setup = c.setup) : Travels c c' :=
  .single ⟨.around h, hsetup⟩

/-- Making a task ready changes nothing that the client was set up with. -/
theorem setup_wake (c : Client) (task : ClientTask) : (c.wake task).setup = c.setup :=
  congrArg Core.setup (core_wake c task)

/-- A command that is sent to a proxy is a move. -/
theorem travels_send (c : Client) (id : Nat) (command : Command) :
    Travels c (c.send id command) :=
  .single ⟨.sends id command, congrArg Core.setup (core_send c id command)⟩

/-- Asking for the proxy of a manager is nothing or makes one. -/
theorem travels_getManager (c : Client) (name : ServiceName) (setting : CacheSetting) :
    Travels c (c.getManager name setting).1 := by
  unfold getManager
  split
  · exact .refl
  · obtain ⟨_, path, hcore⟩ := core_spawn c name setting
    have hspawned : Travels c (c.spawn name setting).1 :=
      .single ⟨.makes name setting, congrArg Core.setup hcore⟩
    exact hspawned.trans (.around rfl rfl)

/-! ## Tasks -/

/-- The next thing that a discovery can do by itself is done by moves: it may ask for a proxy. -/
theorem travels_ownStep? {id : Nat} (h : c.ownStep? id = some c') : Travels c c' := by
  unfold ownStep? at h
  split at h
  · cases h
  · rename_i d _
    split at h
    · cases h
      exact .around rfl rfl
    · cases h
    · rename_i which busName rest _
      cases h
      unfold collect
      split
      · exact .around rfl rfl
      · rename_i name _
        exact (travels_getManager c name .search).trans (.around rfl rfl)
    · cases h
      exact .around rfl rfl
    · cases h
      exact .around rfl rfl
    · cases h
      exact .around (links_wake _ _) (setup_wake _ _)
    · cases h
      exact .around rfl rfl
    · split at h
      · cases h
        exact .around rfl rfl
      · cases h
    · cases h

/-- The next thing that a discovery can do is done by moves. -/
theorem travels_discoveryStep? {id : Nat} (h : c.discoveryStep? id = some c') : Travels c c' := by
  have hsetup := (reaches_discoveryStep? h).setup
  unfold discoveryStep? at h
  split at h
  · split at h
    · cases h
    · cases h
      refine .around ?_ hsetup
      unfold giveList
      split
      · rfl
      · split <;> rfl
  · exact travels_ownStep? h

/-- The next thing that a question can do is done by moves: it is a command, or it is counted. -/
theorem travels_questionStep? {id : Nat} (h : c.questionStep? id = some c') : Travels c c' := by
  have htask : c.taskStep? (.question id) = some c' := h
  have hsetup := (reaches_taskStep? htask).setup
  unfold questionStep? at h
  split at h
  · cases h
  · rename_i q _
    split at h
    · cases h
      let asked : Client := { c.freshWaiter.1 with
        questions := c.questions.set id { q with waiter := some c.freshWaiter.2 } }
      have hasked : Travels c asked := .around rfl rfl
      exact hasked.trans (travels_send asked q.proxy _)
    · split at h
      · cases h
        refine .around ?_ hsetup
        unfold countAnswer
        dsimp only
        split
        · rfl
        · split
          · exact links_wake _ _
          · rfl
      · cases h

/-- **The next thing that a task can do is done by moves.** -/
theorem travels_taskStep? {task : ClientTask} (h : c.taskStep? task = some c') : Travels c c' := by
  cases task with
  | proxy id => exact .single ⟨moves_proxyStep? h, (reaches_proxyStep? h).setup⟩
  | discovery id => exact travels_discoveryStep? h
  | question id => exact travels_questionStep? h

/-! ## Work -/

/-- Each small thing that a client does by itself is done by moves. -/
theorem work_travels : Work Travels where
  refl := fun _ => .refl
  trans := .trans
  steps := travels_taskStep?
  queues := fun _ _ => .around rfl rfl
  reads := fun c id _ => .around (links_modifyProxy_of_same c id fun _ => rfl) rfl
  waits := fun _ _ => .around rfl rfl
  holds := fun _ _ => .around rfl rfl

/-- **A client that settles does so by moves.** -/
theorem travels_settle (c : Client) : Travels c c.settle := work_travels.settle c

/-- **A client whose clock runs does all that it does by moves.** -/
theorem travels_advance (c : Client) (milliseconds : Nat) : Travels c (c.advance milliseconds) :=
  work_travels.advance c milliseconds

end Roster.Client
