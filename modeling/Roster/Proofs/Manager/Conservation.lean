import Roster.Proofs.Manager.Ending

/-!
# Nobody is lost and nobody is answered twice

Whoever asks for readiness is in one of three places: in the queue, parked at the gate, or among
those who were answered. `places m w` counts how often `w` is in any of them. A reaction moves people
from one place to another, and only the arrival of a request adds anyone (`places_react`). So after
every run the places hold exactly those who asked (`places_run`), each as often as it asked, and a
proxy that stops answers whoever is left (`everyone_answered_once_run`).
-/

namespace Roster.Manager

/-- How often someone is in the queue, parked, or answered. -/
def places (m : Manager) (w : Nat) : Nat :=
  (requests m.queue).count w + m.gate.waiters.count w + (m.answers.map Prod.fst).count w

variable {m : Manager}

/-! ## Reactions -/

/-- Those who are answered together are each answered once. -/
theorem map_fst_told (ws : List Nat) (outcome : Outcome ManagerError) :
    (ws.map fun w => (w, outcome)).map Prod.fst = ws := by
  rw [List.map_map]
  exact List.map_id ws

/-- Answering all who are parked moves them. -/
theorem Settles.count {why : ManagerError → Prop} {m' : Manager} (h : Settles why m m')
    (hopen : m.gate.closed = false) (w : Nat) :
    m'.gate.waiters.count w + (m'.answers.map Prod.fst).count w =
      m.gate.waiters.count w + (m.answers.map Prod.fst).count w := by
  have hmoved : ∀ outcome, m'.gate = (m.gate.resolve outcome).1 →
      m'.answers = m.answers ++ (m.gate.resolve outcome).2.map (fun v => (v, outcome)) →
      m'.gate.waiters.count w + (m'.answers.map Prod.fst).count w =
        m.gate.waiters.count w + (m.answers.map Prod.fst).count w := by
    intro outcome hgate hanswers
    rw [Gate.resolve_of_open hopen] at hgate hanswers
    rw [hgate, hanswers, List.map_append, map_fst_told, List.count_append]
    simp only [List.count_nil]
    omega
  cases h with
  | waits hgate hanswers => rw [hgate, hanswers]
  | ready hgate hanswers => exact hmoved .ready hgate hanswers
  | failed e hwhy hgate hanswers hsure => exact hmoved (.failed e) hgate hanswers

/-- **A reaction loses nobody and answers nobody twice**: it adds only those who ask just now. -/
theorem Reaction.places_eq {o : Occurrence} {m' : Manager} (h : Reaction m o m')
    (hopen : m.gate.closed = false) (w : Nat) :
    places m' w = places m w + (asked [o]).count w := by
  cases h with
  | queued c ho hm' =>
    rw [hm', ho]
    unfold places
    rw [requests_append, List.count_append, show asked [.sent c] = requests [c] from rfl]
    dsimp only
    omega
  | admitted found v rest ho hqueue hm' =>
    have hsplit : (requests m.queue).count w = [v].count w + (requests rest).count w := by
      rw [hqueue, ← List.count_append]
      rfl
    rw [ho, show asked [.command found] = [] from rfl, List.count_nil]
    have hrest : (requests m'.queue) = requests rest := by
      rw [hm']
      exact congrArg (fun s => requests s.queue)
        (standing_requestReady { m with queue := rest } v)
    unfold places
    rw [hrest, hsplit]
    rcases hbefore : m.gate.outcome with _ | outcome
    · have hgate := gate_requestReady_of_none { m with queue := rest } hbefore v
      have hanswers := answers_requestReady_of_none { m with queue := rest } hbefore v
      rw [hm', hgate, hanswers, List.count_append]
      dsimp only
      omega
    · rw [hm', requestReady_of_some { m with queue := rest } hbefore]
      simp only [List.map_append, List.count_append, List.map_cons, List.map_nil]
      omega
  | stopped queue ho hrequests hm' =>
    have hanswers := answers_dispose (m := { m with queue := queue }) hopen
    have hstopped := stopped_dispose (m := { m with queue := queue }) hopen
    rw [asked_of_not_sent ho, List.count_nil]
    unfold places
    rw [hm', hanswers, hstopped.queue, hstopped.waiters, List.map_append, map_fst_told,
      List.count_append, List.count_append, hrequests]
    simp only [requests, List.filterMap_nil, List.count_nil]
    omega
  | settled ho hrequests hlive h =>
    have hmoved := h.count hopen w
    rw [asked_of_not_sent ho, List.count_nil]
    unfold places
    rw [hrequests]
    omega

/-- Neither does a proxy that has stopped. -/
theorem Stopped.places_react (h : Stopped m) (hd : m.disposed = true) (o : Occurrence) (w : Nat) :
    places (m.react o) w = places m w + (asked [o]).count w := by
  have h' := h.react hd o
  unfold places
  rw [h'.queue, h'.waiters, h.queue, h.waiters, answers_react_of_disposed hd o, List.map_append,
    map_fst_told, List.count_append]
  omega

/-- The steps that are due leave everyone who is parked. -/
theorem waiters_runDeferred (m : Manager) : m.runDeferred.gate.waiters = m.gate.waiters := by
  refine runDeferred_frame (fun n => n.gate.waiters) (fun n s rest => ?_) m
  cases s with
  | readCacheFile =>
    exact congrArg Gate.waiters (readCacheFile_frame { n with deferred := rest }).1
  | introspect =>
    show (Manager.introspect _).gate.waiters = _
    rcases introspect_cases { n with deferred := rest } with hsame | ⟨_, hbegun⟩
    · rw [hsame]
    · rw [hbegun]
      exact Gate.waiters_reopen n.gate

/-- The steps that are due leave the queue alone. -/
theorem queue_runDeferred (m : Manager) : m.runDeferred.queue = m.queue :=
  runDeferred_frame Manager.queue
    (runStep_frame _ (fun _ _ => rfl) (fun _ _ _ => rfl) (fun _ _ _ _ => rfl)) m

/-- The steps that are due move nobody. -/
theorem places_runDeferred (m : Manager) (w : Nat) : places m.runDeferred w = places m w := by
  unfold places
  rw [waiters_runDeferred, queue_runDeferred, answers_runDeferred]

/-! ## Runs -/

section run

variable {busName : String} {always : Bool} {path : Option Path}

/-- **After every run the places hold exactly those who asked.** -/
theorem places_run (occurrences : List Occurrence) (w : Nat) :
    places ((start busName always path).run occurrences) w = (asked occurrences).count w := by
  induction occurrences using List.reverseRecOn with
  | nil => rfl
  | append_singleton before o ih =>
    rw [run_concat, step, places_runDeferred, asked_append, List.count_append, ← ih]
    rcases hd : ((start busName always path).run before).disposed with _ | _
    · exact (reaction_run hd o).places_eq (sound_run hd).opened w
    · exact (stopped_run hd).places_react hd o w

end run

/-- **Everyone is answered once.** After every run, someone who asked for readiness is as often in the
queue, parked or answered, taken together, as it asked, so whoever asked once is in exactly one of
these places and there once. Answers are never taken back. Once the proxy has stopped, nobody is in
the queue or parked; whoever was so when it stopped is then told that it has stopped, those in the
queue first. -/
theorem everyone_answered_once_run (busName : String) (always : Bool) (path : Option Path)
    (occurrences : List Occurrence) (o : Occurrence) :
    let m := (start busName always path).run occurrences
    (∀ w, (requests m.queue).count w + m.gate.waiters.count w + (m.answers.map Prod.fst).count w =
      (asked occurrences).count w) ∧
    (m.step o).answers = m.answers ++ newAnswers m o ∧
    (m.disposed = true → requests m.queue = [] ∧ m.gate.waiters = []) ∧
    (m.disposed = false → (m.step o).disposed = true →
      newAnswers m o = (requests m.queue ++ m.gate.waiters).map fun w => (w, .failed .disposed)) := by
  intro m
  refine ⟨places_run occurrences, answers_step_run occurrences o, fun hd => ?_, fun hlive hd => ?_⟩
  · rw [(stopped_run hd).queue]
    exact ⟨rfl, (stopped_run hd).waiters⟩
  · rw [disposed_step] at hd
    obtain ⟨queue, hrequests, hm'⟩ := (reaction_run hlive o).eq_dispose hlive hd
    refine newAnswers_of_append ?_
    have hanswers := answers_dispose (m := { m with queue := queue }) (sound_run hlive).opened
    rw [hm', hanswers, hrequests]

end Roster.Manager
