import Roster.Proofs.Client.Lives
import Roster.Proofs.Client.Taking
import Roster.Proofs.Client.Work

/-!
# A client at work is a run

Runs leave open whose turn it is and how time goes by. This module closes that: whatever a client does
when it settles, when its clock runs and when somebody works with it, it does by a run of actions
(`Reaches`). So what holds after every run holds after every session with a client.

* `reaches_taskStep?`: the next thing that a task can do is an action, with changes that nobody notices
  around it.
* `reaches_settle`, `reaches_advance`, `reaches_releaseReads`: so is everything together
  (`work_reaches`).
-/

namespace Roster.Client

/-- One client becomes the other one in a run. -/
def Reaches (c c' : Client) : Prop := ∃ actions, c' = c.run actions

variable {c c' : Client}

/-! ## Runs one after another -/

/-- Nothing happens at the same time. -/
theorem Reaches.refl (c : Client) : Reaches c c := ⟨[], rfl⟩

/-- Whatever happens afterwards is added to the run. -/
theorem Reaches.trans {c₁ c₂ c₃ : Client} (h : Reaches c₁ c₂) (h' : Reaches c₂ c₃) :
    Reaches c₁ c₃ := by
  obtain ⟨before, rfl⟩ := h
  obtain ⟨after, rfl⟩ := h'
  refine ⟨before ++ after, ?_⟩
  unfold run
  rw [List.foldl_append]

/-- No run changes what a client was set up with. -/
theorem Reaches.setup (h : Reaches c c') : c'.setup = c.setup := by
  obtain ⟨actions, rfl⟩ := h
  induction actions generalizing c with
  | nil => rfl
  | cons a rest ih => exact (ih (c := c.act a)).trans (setup_act c a)

/-- What happens at once is a run. -/
theorem reaches_act (c : Client) (a : Action) : Reaches c (c.act a) := ⟨[a], rfl⟩

open Classical in
/-- What nobody notices is a run. -/
theorem Reaches.of_core (h : c'.core = c.core) : Reaches c c' := by
  -- the change to `c'` is one that is not noticed wherever it is made
  let change (x : Client) : Client := if x.core = c'.core then c' else x
  have hkeeps : ∀ x, (change x).core = x.core := by
    intro x
    by_cases hx : x.core = c'.core
    · rw [show change x = c' from if_pos hx, hx]
    · rw [show change x = x from if_neg hx]
  refine ⟨[.around change hkeeps], ?_⟩
  exact (if_pos h.symm).symm

/-! ## Proxies -/

variable (c)

/-- A proxy reacts to something. -/
theorem reaches_happen (id : Nat) {o : Manager.Occurrence} (own : ∀ command, o ≠ .sent command) :
    Reaches c (c.happen id o) :=
  reaches_act c (.proxy id o own)

/-- Nobody notices which proxies the bus has told something. -/
theorem core_wakeTold (before : Bus) : (c.wakeTold before).core = c.core :=
  core_foldl_wake c (fun p : Proxy × Nat => .proxy p.2) _

/-- A proxy sends its call. -/
theorem reaches_sendCall (id : Nat) (p : Proxy) (number : Nat) :
    Reaches c (c.sendCall id p number) := by
  obtain ⟨ready, hsend⟩ := sendCall_eq c id p number
  rw [hsend]
  dsimp only
  split
  · refine Reaches.trans ?_ (reaches_happen _ id fun _ h => by cases h)
    exact .of_core (core_modifyProxy_of_same _ id fun _ => rfl)
  · exact .of_core (core_modifyProxy_of_same _ id fun _ => rfl)

variable {c}

/-- A proxy takes a report, or learns that there will be none. -/
theorem reaches_watchStep? {id : Nat} {p : Proxy} (h : c.watchStep? id p = some c') :
    Reaches c c' := by
  obtain ⟨w, _, _, ⟨report, rest, _, rfl⟩ | ⟨_, rfl⟩⟩ := watchStep?_cases h
  · exact (Reaches.of_core (core_modifyWatch c id _)).trans
      (reaches_happen _ id fun _ h => by cases h)
  · exact reaches_happen c id fun _ h => by cases h

/-- The next thing that a proxy can do is a run. -/
theorem reaches_proxyStep? {id : Nat} (h : c.proxyStep? id = some c') : Reaches c c' := by
  obtain ⟨p, _, _, htakes⟩ := takes_of_proxyStep? h
  cases htakes with
  | report h => exact reaches_watchStep? h
  | call _ _ => exact reaches_sendCall c id p _
  | command _ | forsaken _ | answer _ _ _ | readEnd _ _ =>
    exact reaches_happen c id fun _ h => by cases h

/-! ## Tasks -/

/-- The next thing that a discovery can do is a run. -/
theorem reaches_discoveryStep? {id : Nat} (h : c.discoveryStep? id = some c') : Reaches c c' := by
  unfold discoveryStep? at h
  split at h
  · split at h
    · cases h
    · cases h
      exact reaches_act c (.list id _)
  · have hact : c.act (.discovery id) = c' := by
      rw [act, h]
      rfl
    exact hact ▸ reaches_act c (.discovery id)

/-- **The next thing that a task can do is a run.** -/
theorem reaches_taskStep? {task : ClientTask} (h : c.taskStep? task = some c') : Reaches c c' := by
  cases task with
  | proxy id => exact reaches_proxyStep? h
  | discovery id => exact reaches_discoveryStep? h
  | question id =>
    have hact : c.act (.question id) = c' := by
      rw [act, show c.questionStep? id = some c' from h]
      rfl
    exact hact ▸ reaches_act c (.question id)

/-! ## Work -/

/-- Each small thing that a client does by itself is a run. -/
theorem work_reaches : Work Reaches where
  refl := .refl
  trans := .trans
  steps := reaches_taskStep?
  queues := fun _ _ => .of_core rfl
  reads := fun c id _ => .of_core (core_modifyProxy_of_same c id fun _ => rfl)
  waits := fun _ _ => .of_core rfl
  holds := fun _ _ => .of_core rfl

variable (c)

/-- **A client that settles does so by a run.** -/
theorem reaches_settle : Reaches c c.settle := work_reaches.settle c

/-- **A client whose clock runs does all that it does by a run.** -/
theorem reaches_advance (milliseconds : Nat) : Reaches c (c.advance milliseconds) :=
  work_reaches.advance c milliseconds

/-- **A client that lets held cache reads end does so by a run.** -/
theorem reaches_releaseReads : Reaches c c.releaseReads := work_reaches.releaseReads c

/-! ## Sessions -/

/-- Whatever is done to the bus is a run of the client. -/
theorem reaches_onBus (f : Bus → Bus) : Reaches c (c.onBus f) :=
  .of_core (core_wakeTold { c with bus := f c.bus } c.bus)

/-- Reports to watches that the bus does not know are a run. -/
theorem reaches_changeWatches (f : Watch → Watch) (ids : List Nat) :
    Reaches c (c.changeWatches f ids) := by
  refine .of_core (core_foldl c (fun c i => ?_) ids)
  rw [core_wake, core_modifyWatch]

/-- Handles, observations, endings and logs are nothing that a client notices. -/
theorem reaches_looking (handle : String) (proxy : Nat) :
    Reaches c (c.hold handle proxy) ∧ Reaches c (c.dropHandle handle) ∧ Reaches c c.observe.1 ∧
      Reaches c c.takeEndings.1 ∧ Reaches c c.takeCalls.1 ∧ Reaches c c.takeReads.1 :=
  ⟨.of_core rfl, .of_core rfl, .of_core rfl, .of_core rfl, .of_core rfl, .of_core rfl⟩

end Roster.Client
