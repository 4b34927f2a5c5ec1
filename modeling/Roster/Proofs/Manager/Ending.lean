import Mathlib.Data.List.Induction
import Roster.Proofs.Manager.Answers

/-!
# After the end

A proxy that has stopped has nothing left (`Stopped`): its queue is empty, nobody is parked, nothing
is on its way or due, and the failure that tells of the end stands at the gate. Later occurrences
change none of that (`Stopped.react`), so it holds after every run in which the proxy stopped
(`stopped_run`).

With it, what was said of the answers of a proxy that goes on extends to all runs: every answer is
given in one of the four ways (`told_run`).
-/

namespace Roster.Manager

/-- What holds of a proxy that has stopped. -/
structure Stopped (m : Manager) : Prop where
  /-- The queue is empty. -/
  queue : m.queue = []
  /-- No call is on its way. -/
  call : m.call = none
  /-- No cache read is on its way. -/
  read : m.read = none
  /-- No step is due. -/
  deferred : m.deferred = []
  /-- Nobody is parked. -/
  waiters : m.gate.waiters = []
  /-- Whoever asks is told of the end. -/
  outcome : m.gate.outcome = some (.failed .disposed)

variable {m : Manager}

/-- A proxy that was told to stop has stopped. -/
theorem stopped_dispose (hopen : m.gate.closed = false) : Stopped m.dispose := by
  have hgate : m.dispose.gate =
      { waiters := [], outcome := some (.failed .disposed), closed := true } := by
    unfold dispose
    rw [Gate.close_of_open hopen]
  exact ⟨rfl, rfl, rfl, rfl, congrArg Gate.waiters hgate, congrArg Gate.outcome hgate⟩

/-- Nothing that happens gives a proxy anything back that has stopped. -/
theorem Stopped.react (h : Stopped m) (hd : m.disposed = true) (o : Occurrence) :
    Stopped (m.react o) := by
  cases o with
  | sent c =>
    unfold Manager.react send
    dsimp only
    rw [if_pos hd]
    cases c with
    | requestReady w => exact { h with }
    | activate w => exact { h with }
    | _ => exact h
  | _ =>
    unfold Manager.react
    rw [if_pos hd]
    exact h

/-- A proxy that has stopped answers whoever asks, at once. -/
theorem answers_react_of_disposed (hd : m.disposed = true) (o : Occurrence) :
    (m.react o).answers = m.answers ++ (asked [o]).map fun w => (w, .failed .disposed) := by
  unfold Manager.react
  cases o with
  | sent c =>
    unfold send
    dsimp only
    rw [if_pos hd]
    cases c with
    | requestReady w => rfl
    | _ => exact (List.append_nil _).symm
  | _ =>
    rw [if_pos hd]
    exact (List.append_nil _).symm

/-- After the end no step is due. -/
theorem Stopped.runDeferred_eq (h : Stopped m) : m.runDeferred = m :=
  runDeferred_of_idle h.deferred

/-- The one reaction that stops a proxy is to stop. -/
theorem Reaction.eq_dispose {o : Occurrence} {m' : Manager} (h : Reaction m o m')
    (hlive : m.disposed = false) (hd : m'.disposed = true) :
    ∃ queue, requests queue = requests m.queue ∧ m' = { m with queue := queue }.dispose := by
  cases h with
  | queued c ho hm' =>
    rw [hm'] at hd
    exact absurd (hlive.symm.trans hd) Bool.false_ne_true
  | admitted found w rest ho hqueue hm' =>
    have hstanding := standing_requestReady { m with queue := rest } w
    rw [hm', show (requestReady _ w).disposed = m.disposed from
      congrArg Standing.disposed hstanding] at hd
    exact absurd (hlive.symm.trans hd) Bool.false_ne_true
  | stopped queue ho hrequests hm' => exact ⟨queue, hrequests, hm'⟩
  | settled ho hrequests hlive' h => exact absurd (hlive'.symm.trans hd) Bool.false_ne_true

/-- A reaction that stops the proxy leaves nothing. -/
theorem Reaction.stopped_of_disposed {o : Occurrence} {m' : Manager} (h : Reaction m o m')
    (hlive : m.disposed = false) (hopen : m.gate.closed = false) (hd : m'.disposed = true) :
    Stopped m' := by
  obtain ⟨queue, _, hm'⟩ := h.eq_dispose hlive hd
  rw [hm']
  refine stopped_dispose ?_
  exact hopen

section run

variable {busName : String} {always : Bool} {path : Option Path}

/-- **A proxy that has stopped has nothing left**, after every run. -/
theorem stopped_run {occurrences : List Occurrence}
    (hd : ((start busName always path).run occurrences).disposed = true) :
    Stopped ((start busName always path).run occurrences) := by
  induction occurrences using List.reverseRecOn with
  | nil => cases hd
  | append_singleton before o ih =>
    rw [run_concat] at hd ⊢
    rcases hbefore : ((start busName always path).run before).disposed with _ | _
    · rw [disposed_step] at hd
      have hstopped := (reaction_run hbefore o).stopped_of_disposed hbefore
        (sound_run hbefore).opened hd
      rw [step, hstopped.runDeferred_eq]
      exact hstopped
    · have hstopped := (ih hbefore).react hbefore o
      rw [step, hstopped.runDeferred_eq]
      exact hstopped

/-- A proxy that is reading a cache file has not stopped. -/
theorem live_of_read_run {occurrences : List Occurrence}
    (hread : ((start busName always path).run occurrences).read ≠ none) :
    ((start busName always path).run occurrences).disposed = false := by
  rcases hd : ((start busName always path).run occurrences).disposed with _ | _
  · rfl
  · exact absurd (stopped_run hd).read hread

/-- A reaction after which the proxy has stopped leaves nothing, in every run. -/
theorem stopped_react_run {before : List Occurrence} {o : Occurrence}
    (hd : (((start busName always path).run before).react o).disposed = true) :
    Stopped (((start busName always path).run before).react o) := by
  rcases hbefore : ((start busName always path).run before).disposed with _ | _
  · exact (reaction_run hbefore o).stopped_of_disposed hbefore (sound_run hbefore).opened hd
  · exact (stopped_run hbefore).react hbefore o

/-- **Every answer of every run is given in one of the four ways.** -/
theorem told_run {before : List Occurrence} {o : Occurrence} {w : Nat}
    {outcome : Outcome ManagerError}
    (hmem : (w, outcome) ∈ newAnswers ((start busName always path).run before) o) :
    Told ((start busName always path).run before) o w outcome := by
  rcases hd : ((start busName always path).run before).disposed with _ | _
  · exact told_of_mem_newAnswers (sound_run hd).opened (reaction_run hd o) hmem
  · rw [newAnswers_of_append (answers_react_of_disposed hd o), List.mem_map] at hmem
    obtain ⟨v, _, hv⟩ := hmem
    cases hv
    exact .stopped (disposed_react hd o) ((stopped_run hd).react hd o).outcome

/-- **No answer is taken back**: a step of a run adds the new ones to the old ones. -/
theorem answers_step_run (before : List Occurrence) (o : Occurrence) :
    (((start busName always path).run before).step o).answers =
      ((start busName always path).run before).answers ++
        newAnswers ((start busName always path).run before) o := by
  rw [step, answers_runDeferred]
  rcases hd : ((start busName always path).run before).disposed with _ | _
  · obtain ⟨new, hnew⟩ := (reaction_run hd o).answers_grow (sound_run hd).opened
    rw [newAnswers_of_append hnew, hnew]
  · have hanswers := answers_react_of_disposed hd o
    rw [newAnswers_of_append hanswers, hanswers]

/-- What was answered in a run stays answered when the run goes on. -/
theorem answers_prefix_run (before after : List Occurrence) :
    ((start busName always path).run before).answers <+:
      ((start busName always path).run (before ++ after)).answers := by
  induction after using List.reverseRecOn with
  | nil => exact (List.append_nil before).symm ▸ List.prefix_refl _
  | append_singleton after o ih =>
    rw [← List.append_assoc, run_concat, answers_step_run]
    exact ih.trans (List.prefix_append _ _)

end run

end Roster.Manager
