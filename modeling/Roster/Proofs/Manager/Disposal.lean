import Roster.Proofs.Manager.Ending

/-!
# How a proxy ends

A proxy ends when it takes the command to stop, or when nobody can send it commands any more
(`Ends`). The end is one step, whatever the proxy was doing:

* **What it leaves** (`step_of_ends`): those in the queue and those who are parked are told of the
  end, and everything that was on its way, due or held back is gone. All else stays as it was.
* **What comes later** (`run_of_stopped`): a proxy that has stopped tells whoever asks of the end, and
  changes in nothing else.
-/

namespace Roster.Manager

/-! ## Those who ask for a start -/

/-- Those in a queue who ask for the manager to be started, in order. -/
def starts (queue : List Command) : List Nat :=
  queue.filterMap fun c => match c with
    | .activate w => some w
    | _ => none

/-- Those who ask for the manager to be started in the course of a run, in order. -/
def askedToStart (occurrences : List Occurrence) : List Nat :=
  starts <| occurrences.filterMap fun o => match o with
    | .sent c => some c
    | _ => none

/-- Who asks for a start in two runs one after the other. -/
theorem askedToStart_append (before after : List Occurrence) :
    askedToStart (before ++ after) = askedToStart before ++ askedToStart after := by
  unfold askedToStart starts
  rw [List.filterMap_append, List.filterMap_append]

variable {m : Manager}

/-! ## The end -/

/-- What makes a proxy end, with what is left in its queue then. -/
inductive Ends (m : Manager) : Occurrence → List Command → Prop where
  /-- The proxy takes the command to stop. -/
  | told (found : Option Path) (behind : List Command) (hqueue : m.queue = .dispose :: behind) :
      Ends m (.command found) behind
  /-- Nobody can send commands any more. -/
  | forsaken : Ends m .forsaken m.queue

/-- What the end leaves of a proxy with these commands in its queue. -/
def ended (m : Manager) (behind : List Command) : Manager :=
  { m with
    queue := []
    call := none
    read := none
    deferred := []
    gate := { waiters := [], outcome := some (.failed .disposed), closed := true }
    heldFailure := none
    watching := false
    disposed := true
    answers := m.answers ++
      (requests behind ++ m.gate.waiters).map fun w => (w, .failed .disposed)
    activations := m.activations ++ (starts behind).map fun w => (w, false) }

/-- What the end leaves of a proxy whose gate was not closed. -/
theorem dispose_of_open (hopen : m.gate.closed = false) :
    m.dispose = m.ended m.queue := by
  have hanswers := answers_dispose hopen
  have hactivations : m.dispose.activations =
      m.activations ++ (starts m.queue).map fun w => (w, false) := by
    unfold dispose starts
    dsimp only
    rw [List.map_filterMap]
    refine congrArg (m.activations ++ List.filterMap · m.queue) (funext fun c => ?_)
    cases c <;> rfl
  unfold ended
  rw [← hanswers, ← hactivations]
  unfold dispose
  rw [Gate.close_of_open hopen]

/-- **What the end leaves of a proxy.** -/
theorem step_of_ends (hlive : m.disposed = false) (hopen : m.gate.closed = false)
    {o : Occurrence} {behind : List Command} (h : Ends m o behind) :
    m.step o = m.ended behind := by
  cases h with
  | told found behind hqueue =>
    have hreact : m.react (.command found) = { m with queue := behind }.dispose := by
      rw [react_command hlive, takeCommand, hqueue]
      rfl
    rw [step, hreact, dispose_of_open (m := { m with queue := behind }) hopen]
    exact runDeferred_of_idle rfl
  | forsaken =>
    rw [step, react_forsaken hlive, dispose_of_open hopen]
    exact runDeferred_of_idle rfl

/-! ## Afterwards -/

/-- What happens to a proxy that has stopped changes only what it told those who ask. -/
theorem step_of_stopped (h : Stopped m) (hd : m.disposed = true) (o : Occurrence) :
    m.step o = { m with
      answers := m.answers ++ (asked [o]).map fun w => (w, .failed .disposed)
      activations := m.activations ++ (askedToStart [o]).map fun w => (w, false) } := by
  have hsame : m = { m with
      answers := m.answers ++ [].map fun w => (w, .failed .disposed)
      activations := m.activations ++ [].map fun w => (w, false) } := by
    simp only [List.map_nil, List.append_nil]
  rw [step, (h.react hd o).runDeferred_eq]
  unfold Manager.react
  cases o with
  | sent c =>
    unfold send
    dsimp only
    rw [if_pos hd]
    cases c with
    | requestReady w => simp [asked, askedToStart, requests, starts]
    | activate w => simp [asked, askedToStart, requests, starts]
    | _ => exact hsame
  | _ =>
    rw [if_pos hd]
    exact hsame

/-- **A proxy that has stopped tells whoever asks of the end**, and changes in nothing else. -/
theorem run_of_stopped (h : Stopped m) (hd : m.disposed = true) (after : List Occurrence) :
    m.run after = { m with
      answers := m.answers ++ (asked after).map fun w => (w, .failed .disposed)
      activations := m.activations ++ (askedToStart after).map fun w => (w, false) } := by
  induction after using List.reverseRecOn with
  | nil => simp [run, asked, askedToStart, requests, starts]
  | append_singleton before o ih =>
    have hstopped : Stopped (m.run before) := by
      rw [ih]
      exact { h with }
    have hdisposed : (m.run before).disposed = true := by
      rw [ih]
      exact hd
    rw [run_concat, step_of_stopped hstopped hdisposed, ih, asked_append, askedToStart_append]
    simp only [List.map_append, List.append_assoc]

end Roster.Manager
