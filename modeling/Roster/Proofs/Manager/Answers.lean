import Roster.Proofs.Manager.Beginning
import Roster.Proofs.Manager.Readiness
import Roster.Proofs.Manager.Settling

/-!
# Who is answered, and with what

What a reaction can do to those who ask for readiness, said once.

* `requests` and `asked`: those who ask, in a queue and in the course of a run.
* `Reaction m o m'`: a reaction to `o` puts a command into the queue, or lets someone in at the gate,
  or stops the proxy, or settles with a cause. Every reaction of a proxy that has not stopped is one
  of these (`Handled.reaction`).
* `newAnswers m o`: the answers that the reaction to `o` gives. Each is given in one of four ways
  (`Told`, `told_of_mem_newAnswers`), and it is the outcome that stands at the gate afterwards
  (`Told.outcome`).
-/

namespace Roster.Manager

/-! ## Those who ask -/

/-- Those in a queue who ask for readiness, in order. -/
def requests (queue : List Command) : List Nat :=
  queue.filterMap fun c => match c with
    | .requestReady w => some w
    | _ => none

/-- Those who ask for readiness in the course of a run, in order. -/
def asked (occurrences : List Occurrence) : List Nat :=
  requests <| occurrences.filterMap fun o => match o with
    | .sent c => some c
    | _ => none

/-- Who asks in two queues one after the other. -/
theorem requests_append (first second : List Command) :
    requests (first ++ second) = requests first ++ requests second :=
  List.filterMap_append

/-- Who asks in two runs one after the other. -/
theorem asked_append (before after : List Occurrence) :
    asked (before ++ after) = asked before ++ asked after := by
  unfold asked
  rw [List.filterMap_append, requests_append]

/-- Nobody asks unless something is put into the queue. -/
theorem asked_of_not_sent {o : Occurrence} (ho : ∀ c, o ≠ .sent c) : asked [o] = [] := by
  cases o with
  | sent c => exact absurd rfl (ho c)
  | _ => rfl

/-- A command at the head of a queue is a request for readiness or no request at all. -/
theorem requests_cons_of_ne {c : Command} (hready : ∀ w, c ≠ .requestReady w)
    (rest : List Command) : requests (c :: rest) = requests rest := by
  cases c with
  | requestReady w => exact absurd rfl (hready w)
  | _ => rfl

variable {m : Manager}

/-! ## Reactions -/

/-- What a reaction of a proxy that has not stopped can do to those who ask for readiness. -/
inductive Reaction (m : Manager) (o : Occurrence) (m' : Manager) : Prop where
  /-- A command is put into the queue. -/
  | queued (c : Command) (ho : o = .sent c) (hm' : m' = { m with queue := m.queue ++ [c] })
  /-- The next one in the queue is let in at the gate. -/
  | admitted (found : Option Path) (w : Nat) (rest : List Command) (ho : o = .command found)
      (hqueue : m.queue = .requestReady w :: rest)
      (hm' : m' = { m with queue := rest }.requestReady w)
  /-- The proxy stops. -/
  | stopped (queue : List Command) (ho : ∀ c, o ≠ .sent c)
      (hrequests : requests queue = requests m.queue) (hm' : m' = { m with queue := queue }.dispose)
  /-- Nobody comes, and those who are parked stay or are answered. -/
  | settled (ho : ∀ c, o ≠ .sent c) (hrequests : requests m'.queue = requests m.queue)
      (hlive : m'.disposed = false) (h : Settles (Cause m o) m m')

/-- A reaction that keeps the queue and does not stop the proxy settles. -/
theorem Reaction.of_settles {o : Occurrence} {m' : Manager} (hlive : m.disposed = false)
    (ho : ∀ c, o ≠ .sent c) (hqueue : m'.queue = m.queue) (hdisposed : m'.disposed = m.disposed)
    (h : Settles (Cause m o) m m') : Reaction m o m' :=
  .settled ho (congrArg requests hqueue) (hdisposed.trans hlive) h

/-- Doing a command is one of the reactions. -/
theorem reaction_onCommand (hlive : m.disposed = false) (found : Option Path) {c : Command}
    {rest : List Command} (hqueue : m.queue = c :: rest) :
    Reaction m (.command found) ({ m with queue := rest }.onCommand found c) := by
  by_cases hready : ∃ w, c = .requestReady w
  · obtain ⟨w, rfl⟩ := hready
    exact .admitted found w rest rfl hqueue rfl
  have hnot : ∀ w, c ≠ .requestReady w := fun w h => hready ⟨w, h⟩
  have hrequests : requests rest = requests m.queue := by
    rw [hqueue, requests_cons_of_ne hnot]
  by_cases hstop : c = .dispose
  · rw [hstop]
    exact .stopped rest (fun _ h => by cases h) hrequests rfl
  obtain ⟨_, _, hstanding⟩ := standing_onCommand { m with queue := rest } found hstop
  have hqueue' := congrArg Standing.queue hstanding
  refine .settled (fun _ h => by cases h) ((congrArg requests hqueue').trans hrequests)
    ((congrArg Standing.disposed hstanding).trans hlive) ?_
  exact (settles_onCommand { m with queue := rest } _ found hnot hstop).of_eq rfl rfl

/-- **Every reaction of a proxy that has not stopped** puts a command into the queue, lets someone in
at the gate, stops the proxy or settles. -/
theorem Handled.reaction {o : Occurrence} {m' : Manager} (h : Handled m o m')
    (hlive : m.disposed = false) (hbegin : m.nameKnown = false → m.call = none) :
    Reaction m o m' := by
  cases h with
  | sent c => exact .queued c rfl rfl
  | nothing ho => exact .of_settles hlive ho rfl rfl (.waits rfl rfl)
  | command found c rest hqueue => exact reaction_onCommand hlive found hqueue
  | owner owner hwatching =>
    have hstanding := standing_onOwner m owner
    refine .of_settles hlive (fun _ h => by cases h) (congrArg Standing.queue hstanding)
      (congrArg Standing.disposed hstanding) ((settles_onOwner m hbegin owner).mono ?_)
    rintro _ ⟨hleft, hcall, rfl⟩
    exact .lost hwatching hleft hcall
  | closed hknown => exact .of_settles hlive (fun _ h => by cases h) rfl rfl (.waits rfl rfl)
  | closedUnknown hunknown =>
    have hstanding := standing_onOwner { m with watching := false } none
    have hsettles := settles_onOwner { m with watching := false } hbegin none
    refine .of_settles hlive (fun _ h => by cases h) (congrArg Standing.queue hstanding)
      (congrArg Standing.disposed hstanding) ?_
    -- no call is on its way before the owner is known, so there is no failure to tell
    exact (hsettles.mono fun e he => absurd (hbegin hunknown) he.2.1).of_eq rfl rfl
  | reply answer =>
    have hstanding := standing_onReply m answer
    exact .of_settles hlive (fun _ h => by cases h) (congrArg Standing.queue hstanding)
      (congrArg Standing.disposed hstanding) (settles_onReply m answer)
  | cacheRead result =>
    have hstanding := standing_onCacheRead m result
    exact .of_settles hlive (fun _ h => by cases h) (congrArg Standing.queue hstanding)
      (congrArg Standing.disposed hstanding) (settles_onCacheRead m result)
  | forsaken => exact .stopped m.queue (fun _ h => by cases h) rfl rfl

/-- A failure that stands at the gate after a reaction stood there before, or was told just now to
those who were parked. -/
theorem Reaction.failed_cases {o : Occurrence} {m' : Manager} (h : Reaction m o m')
    (hopen : m.gate.closed = false) (hlive : m'.disposed = false) {e : ManagerError}
    (hfailed : m'.gate.outcome = some (.failed e)) :
    m.gate.outcome = some (.failed e) ∨ Cause m o e ∧ m'.awaitsCacheFile = false := by
  cases h with
  | queued c ho hm' =>
    rw [hm'] at hfailed
    exact .inl hfailed
  | admitted found w rest ho hqueue hm' =>
    rw [hm'] at hfailed
    rcases hbefore : m.gate.outcome with _ | outcome
    · rw [gate_requestReady_of_none { m with queue := rest } hbefore] at hfailed
      exact absurd (hbefore.symm.trans hfailed) (by simp)
    · rw [requestReady_of_some { m with queue := rest } hbefore] at hfailed
      exact .inl (hbefore.symm.trans hfailed)
  | stopped queue ho hrequests hm' =>
    rw [hm'] at hlive
    cases hlive
  | settled ho hrequests _ hsettles =>
    cases hsettles with
    | waits hgate hanswers =>
      rw [hgate] at hfailed
      exact .inl hfailed
    | ready hgate hanswers =>
      rw [hgate, Gate.resolve_of_open hopen] at hfailed
      cases hfailed
    | failed e' hwhy hgate hanswers hsure =>
      rw [hgate, Gate.resolve_of_open hopen] at hfailed
      cases hfailed
      exact .inr ⟨hwhy, hsure⟩

/-- What a proxy does after a run is one of these reactions, unless it has stopped. -/
theorem reaction_run {busName : String} {always : Bool} {path : Option Path}
    {before : List Occurrence} (hd : ((start busName always path).run before).disposed = false)
    (o : Occurrence) :
    Reaction ((start busName always path).run before) o
      (((start busName always path).run before).react o) :=
  (handled_react hd o).reaction hd fun hk => (unbegun_run hd hk).call

/-! ## The answers that a reaction gives -/

/-- The answers that the reaction to an occurrence gives, in order. -/
def newAnswers (m : Manager) (o : Occurrence) : List (Nat × Outcome ManagerError) :=
  (m.react o).answers.drop m.answers.length

/-- The new answers are those after the old ones. -/
theorem newAnswers_of_append {o : Occurrence} {new : List (Nat × Outcome ManagerError)}
    (h : (m.react o).answers = m.answers ++ new) : newAnswers m o = new := by
  unfold newAnswers
  rw [h]
  exact List.drop_left

/-- A proxy that stops answers those in the queue and then those who are parked. -/
theorem answers_dispose (hopen : m.gate.closed = false) :
    m.dispose.answers =
      m.answers ++ (requests m.queue ++ m.gate.waiters).map fun w => (w, .failed .disposed) := by
  unfold dispose
  rw [Gate.close_of_open hopen]
  dsimp only
  rw [List.append_assoc, List.map_append]
  congr 2
  unfold requests
  rw [List.map_filterMap]
  refine congrArg (List.filterMap · m.queue) (funext fun c => ?_)
  cases c <;> rfl

/-- A reaction takes no answer back: it adds new ones to the old ones. -/
theorem Reaction.answers_grow {o : Occurrence} {m' : Manager} (h : Reaction m o m')
    (hopen : m.gate.closed = false) : ∃ new, m'.answers = m.answers ++ new := by
  have hsame : m'.answers = m.answers → ∃ new, m'.answers = m.answers ++ new := fun h =>
    ⟨[], h.trans (List.append_nil _).symm⟩
  cases h with
  | queued c ho hm' =>
    rw [hm'] at hsame ⊢
    exact hsame rfl
  | admitted found w rest ho hqueue hm' =>
    rcases hbefore : m.gate.outcome with _ | outcome
    · have hparked := answers_requestReady_of_none { m with queue := rest } hbefore w
      exact hsame ((congrArg Manager.answers hm').trans hparked)
    · rw [requestReady_of_some { m with queue := rest } hbefore] at hm'
      exact ⟨_, congrArg Manager.answers hm'⟩
  | stopped queue ho hrequests hm' =>
    have hanswers := answers_dispose (m := { m with queue := queue }) hopen
    exact ⟨_, (congrArg Manager.answers hm').trans hanswers⟩
  | settled ho hrequests hlive hsettles =>
    cases hsettles with
    | waits hgate hanswers => exact hsame hanswers
    | ready hgate hanswers => exact ⟨_, hanswers⟩
    | failed e hwhy hgate hanswers hsure => exact ⟨_, hanswers⟩

/-- How someone is answered when something happens. In each case the answer is the outcome that
stands at the gate afterwards. -/
inductive Told (m : Manager) (o : Occurrence) (w : Nat) : Outcome ManagerError → Prop where
  /-- An outcome stood at the gate already when the request was looked at. -/
  | remembered {outcome : Outcome ManagerError} {found : Option Path} {rest : List Command}
      (ho : o = .command found) (hqueue : m.queue = .requestReady w :: rest)
      (hbefore : m.gate.outcome = some outcome)
      (hafter : (m.react o).gate.outcome = some outcome) : Told m o w outcome
  /-- The proxy stopped. -/
  | stopped (hstop : (m.react o).disposed = true)
      (hafter : (m.react o).gate.outcome = some (.failed .disposed)) :
      Told m o w (.failed .disposed)
  /-- Whoever was parked is told that the manager is ready. -/
  | ready (hparked : w ∈ m.gate.waiters) (hafter : (m.react o).gate.outcome = some .ready) :
      Told m o w .ready
  /-- Whoever was parked is told a failure, and no cache read is left that could succeed. -/
  | failed {e : ManagerError} (hparked : w ∈ m.gate.waiters) (hwhy : Cause m o e)
      (hsure : (m.react o).awaitsCacheFile = false)
      (hafter : (m.react o).gate.outcome = some (.failed e)) : Told m o w (.failed e)

/-- The answer is the outcome that stands at the gate afterwards. -/
theorem Told.outcome {o : Occurrence} {w : Nat} {outcome : Outcome ManagerError}
    (h : Told m o w outcome) : (m.react o).gate.outcome = some outcome := by
  cases h <;> assumption

/-- **Whoever is answered is answered in one of the four ways.** -/
theorem told_of_mem_newAnswers (hopen : m.gate.closed = false) {o : Occurrence}
    (h : Reaction m o (m.react o)) {w : Nat} {outcome : Outcome ManagerError}
    (hmem : (w, outcome) ∈ newAnswers m o) : Told m o w outcome := by
  cases h with
  | queued c ho hm' =>
    have hnew : newAnswers m o = [] := newAnswers_of_append (by rw [hm', List.append_nil])
    rw [hnew] at hmem
    cases hmem
  | admitted found v rest ho hqueue hm' =>
    rcases hbefore : m.gate.outcome with _ | x
    · have hsame := answers_requestReady_of_none { m with queue := rest } hbefore v
      have hnew : newAnswers m o = [] :=
        newAnswers_of_append (by rw [hm', hsame, List.append_nil])
      rw [hnew] at hmem
      cases hmem
    · rw [requestReady_of_some { m with queue := rest } hbefore] at hm'
      have hnew : newAnswers m o = [(v, x)] := newAnswers_of_append (by rw [hm'])
      rw [hnew, List.mem_singleton] at hmem
      cases hmem
      refine .remembered ho hqueue hbefore ?_
      rw [hm']
      exact hbefore
  | stopped queue ho hrequests hm' =>
    have hanswers := answers_dispose (m := { m with queue := queue }) hopen
    rw [← hm'] at hanswers
    rw [newAnswers_of_append hanswers, List.mem_map] at hmem
    obtain ⟨v, _, hv⟩ := hmem
    cases hv
    refine .stopped (by rw [hm']; rfl) ?_
    rw [hm']
    show (m.gate.close .disposed).1.outcome = _
    rw [Gate.close_of_open hopen]
  | settled ho hrequests hlive hsettles =>
    cases hsettles with
    | waits hgate hanswers =>
      have hnew : newAnswers m o = [] := newAnswers_of_append (by rw [hanswers, List.append_nil])
      rw [hnew] at hmem
      cases hmem
    | ready hgate hanswers =>
      rw [Gate.resolve_of_open hopen] at hgate hanswers
      rw [newAnswers_of_append hanswers, List.mem_map] at hmem
      obtain ⟨v, hv, hpair⟩ := hmem
      cases hpair
      exact .ready hv (congrArg Gate.outcome hgate)
    | failed e hwhy hgate hanswers hsure =>
      rw [Gate.resolve_of_open hopen] at hgate hanswers
      rw [newAnswers_of_append hanswers, List.mem_map] at hmem
      obtain ⟨v, hv, hpair⟩ := hmem
      cases hpair
      exact .failed hv hwhy hsure (congrArg Gate.outcome hgate)

end Roster.Manager
