import Roster.Manager.Step

/-!
# Runs of a proxy

What every argument about whole runs of a proxy rests on.

* **Steps that are due** (`runDeferred_induct`): what each step that is due preserves, doing all of
  them preserves. Afterwards nothing is due (`deferred_runDeferred`).
* **Reactions** (`handled_react`): all that a proxy can do when something happens, said once.
* **Runs** (`run_induct`): what a reaction to an occurrence and a step that is due preserve holds
  after every run. `deferred_run` says that a run ends with nothing due.
-/

namespace Roster.Manager

/-! ## Steps that are due -/

/-- What a step that is due preserves, doing all of them preserves. -/
theorem runDeferred_induct {P : Manager → Prop}
    (hdue : ∀ m s rest, m.deferred = s :: rest → P m → P ({ m with deferred := rest }.runStep s))
    (m : Manager) (h : P m) : P m.runDeferred := by
  induction m using runDeferred.induct with
  | case1 m hm =>
    rw [runDeferred, hm]
    exact h
  | case2 m s rest hm ih =>
    rw [runDeferred, hm]
    exact ih (hdue m s rest hm h)

/-- A step that is due changes nothing but what is due, the call and the cache read on their way, how
many were begun, and the gate. -/
theorem runStep_frame {α : Type} (field : Manager → α)
    (hdeferred : ∀ m d, field { m with deferred := d } = field m)
    (hread : ∀ m r rs, field { m with read := r, readsStarted := rs } = field m)
    (hcall : ∀ m g n c, field { m with gate := g, callsStarted := n, call := c } = field m)
    (m : Manager) (s : Deferred) (rest : List Deferred) :
    field ({ m with deferred := rest }.runStep s) = field m := by
  rw [← hdeferred m rest]
  generalize { m with deferred := rest } = n
  cases s with
  | readCacheFile =>
    unfold runStep readCacheFile
    dsimp only
    split
    · rfl
    · split
      · unfold schedule
        split
        · rfl
        · exact hdeferred n _
      · exact hread n _ _
  | introspect =>
    unfold runStep introspect
    dsimp only
    split
    · rfl
    · exact hcall n _ _ _

/-- What no step that is due changes, doing all of them does not change. -/
theorem runDeferred_frame {α : Type} (field : Manager → α)
    (hdue : ∀ m s rest, field ({ m with deferred := rest }.runStep s) = field m) (m : Manager) :
    field m.runDeferred = field m :=
  runDeferred_induct (P := fun n => field n = field m)
    (fun n s rest _ hn => (hdue n s rest).trans hn) m rfl

/-- After the steps that were due, nothing is due. -/
theorem deferred_runDeferred (m : Manager) : m.runDeferred.deferred = [] := by
  induction m using runDeferred.induct with
  | case1 m hm =>
    rw [runDeferred, hm]
    exact hm
  | case2 m s rest hm ih =>
    rw [runDeferred, hm]
    exact ih

/-- Where nothing is due, nothing is done. -/
theorem runDeferred_of_idle {m : Manager} (hidle : m.deferred = []) : m.runDeferred = m := by
  rw [runDeferred, hidle]

/-- A step that was made due where none was is done. -/
theorem runDeferred_schedule {m : Manager} (hidle : m.deferred = []) (s : Deferred) :
    (m.schedule s).runDeferred = (m.runStep s).runDeferred := by
  have hdue : m.schedule s = { m with deferred := [s] } := by
    unfold schedule
    rw [hidle]
    rfl
  have hnone : { m with deferred := [] } = m := by
    rw [← hidle]
  rw [hdue, runDeferred]
  exact congrArg (fun n => (runStep n s).runDeferred) hnone

/-- The steps that are due answer nobody who waits for the manager to be ready. -/
theorem answers_runDeferred (m : Manager) : m.runDeferred.answers = m.answers :=
  runDeferred_frame Manager.answers
    (runStep_frame _ (fun _ _ => rfl) (fun _ _ _ => rfl) (fun _ _ _ _ => rfl)) m

/-- A step that is due stops nothing. -/
theorem disposed_runStep (m : Manager) (s : Deferred) (rest : List Deferred) :
    ({ m with deferred := rest }.runStep s).disposed = m.disposed :=
  runStep_frame _ (fun _ _ => rfl) (fun _ _ _ => rfl) (fun _ _ _ _ => rfl) m s rest

/-! ## Reactions of a proxy that has not stopped -/

section live

variable {m : Manager} (hd : m.disposed = false)
include hd

/-- What is sent goes to the end of the queue. -/
theorem react_sent (c : Command) : m.react (.sent c) = { m with queue := m.queue ++ [c] } := by
  simp [react, send, hd]

/-- The next command is taken from the queue. -/
theorem react_command (found : Option Path) : m.react (.command found) = m.takeCommand found := by
  simp [react, hd]

/-- A report is heard as long as the owner is watched. -/
theorem react_owner (owner : Option String) :
    m.react (.owner owner) = if m.watching then m.onOwner owner else m := by
  simp [react, hd]

/-- The end of the reports is noticed once. -/
theorem react_watchClosed :
    m.react .watchClosed = if m.watching then m.onWatchClosed else m := by
  simp [react, hd]

/-- The answer to a call is taken. -/
theorem react_reply (answer : Except BusError Json) :
    m.react (.reply answer) = m.onReply answer := by
  simp [react, hd]

/-- The end of a cache read is taken. -/
theorem react_cacheRead (result : ReadEnd) :
    m.react (.cacheRead result) = m.onCacheRead result := by
  simp [react, hd]

/-- A proxy that nobody can send commands to any more stops. -/
theorem react_forsaken : m.react .forsaken = m.dispose := by
  simp [react, hd]

end live

/-- All that a proxy that has not stopped can do when something happens. -/
inductive Handled (m : Manager) : Occurrence → Manager → Prop where
  /-- A command is put into the queue. -/
  | sent (c : Command) : Handled m (.sent c) { m with queue := m.queue ++ [c] }
  /-- There is nothing to do. -/
  | nothing {o : Occurrence} (ho : ∀ c, o ≠ .sent c) : Handled m o m
  /-- A command is done. -/
  | command (found : Option Path) (c : Command) (rest : List Command)
      (hqueue : m.queue = c :: rest) :
      Handled m (.command found) ({ m with queue := rest }.onCommand found c)
  /-- A report about the owner is heard. -/
  | owner (owner : Option String) (hwatching : m.watching = true) :
      Handled m (.owner owner) (m.onOwner owner)
  /-- The reports end. -/
  | closed (hknown : m.nameKnown = true) : Handled m .watchClosed { m with watching := false }
  /-- The reports end without any: the name counts as without an owner. -/
  | closedUnknown (hunknown : m.nameKnown = false) :
      Handled m .watchClosed ({ m with watching := false }.onOwner none)
  /-- The call on its way is answered. -/
  | reply (answer : Except BusError Json) : Handled m (.reply answer) (m.onReply answer)
  /-- The cache read on its way ends. -/
  | cacheRead (result : ReadEnd) : Handled m (.cacheRead result) (m.onCacheRead result)
  /-- The proxy stops, as nobody can send commands any more. -/
  | forsaken : Handled m .forsaken m.dispose

/-- **Every reaction** of a proxy that has not stopped is one of these. -/
theorem handled_react {m : Manager} (hd : m.disposed = false) (o : Occurrence) :
    Handled m o (m.react o) := by
  cases o with
  | sent c =>
    rw [react_sent hd]
    exact .sent c
  | command found =>
    rw [react_command hd, takeCommand]
    split
    · exact .nothing fun _ h => by cases h
    · rename_i c rest hqueue
      exact .command found c rest hqueue
  | owner owner =>
    rw [react_owner hd]
    split
    · rename_i hwatching
      exact .owner owner hwatching
    · exact .nothing fun _ h => by cases h
  | watchClosed =>
    rw [react_watchClosed hd]
    split
    · unfold onWatchClosed
      dsimp only
      split
      · rename_i hknown
        exact .closed hknown
      · rename_i hunknown
        exact .closedUnknown (Bool.eq_false_iff.mpr hunknown)
    · exact .nothing fun _ h => by cases h
  | reply answer =>
    rw [react_reply hd]
    exact .reply answer
  | cacheRead result =>
    rw [react_cacheRead hd]
    exact .cacheRead result
  | forsaken =>
    rw [react_forsaken hd]
    exact .forsaken

/-- A proxy that has stopped changes nothing but what it has answered. -/
theorem react_frame_of_disposed {α : Type} (field : Manager → α)
    (hanswers : ∀ m a, field { m with answers := a } = field m)
    (hactivations : ∀ m a, field { m with activations := a } = field m)
    {m : Manager} (hd : m.disposed = true) (o : Occurrence) : field (m.react o) = field m := by
  unfold react
  cases o with
  | sent c =>
    unfold send
    dsimp only
    rw [if_pos hd]
    cases c with
    | requestReady w => exact hanswers m _
    | activate w => exact hactivations m _
    | _ => rfl
  | _ => rw [if_pos hd]

/-- A proxy that has stopped stays so. -/
theorem disposed_react {m : Manager} (hd : m.disposed = true) (o : Occurrence) :
    (m.react o).disposed = true :=
  (react_frame_of_disposed Manager.disposed (fun _ _ => rfl) (fun _ _ => rfl) hd o).trans hd

/-! ## Runs -/

/-- A run is continued from where it ended. -/
theorem run_append (m : Manager) (before after : List Occurrence) :
    m.run (before ++ after) = (m.run before).run after := List.foldl_append

/-- A run with one more occurrence. -/
theorem run_concat (m : Manager) (before : List Occurrence) (o : Occurrence) :
    m.run (before ++ [o]) = (m.run before).step o := by
  rw [run_append]
  rfl

/-- What the reaction to each occurrence of a run and each step that is due preserve, the run
preserves. -/
theorem run_induct {P : Manager → Prop} {occurrences : List Occurrence}
    (hreact : ∀ o ∈ occurrences, ∀ m, P m → P (m.react o))
    (hdue : ∀ m s rest, m.deferred = s :: rest → P m → P ({ m with deferred := rest }.runStep s))
    (m : Manager) (h : P m) : P (m.run occurrences) := by
  induction occurrences generalizing m with
  | nil => exact h
  | cons o rest ih =>
    refine ih (fun o' ho' => hreact o' (List.mem_cons_of_mem o ho')) (m.step o) ?_
    exact runDeferred_induct hdue _ (hreact o List.mem_cons_self m h)

/-- A step stops the proxy exactly if the reaction does. -/
theorem disposed_step (m : Manager) (o : Occurrence) :
    (m.step o).disposed = (m.react o).disposed :=
  runDeferred_frame Manager.disposed disposed_runStep (m.react o)

/-- A proxy that has not stopped had not stopped before. -/
theorem disposed_of_step {m : Manager} {o : Occurrence} (hd : (m.step o).disposed = false) :
    m.disposed = false := by
  rw [disposed_step] at hd
  rcases hm : m.disposed with _ | _
  · rfl
  · rw [disposed_react hm] at hd
    cases hd

/-- What holds of a proxy that has not stopped, after every run: it is enough that it survives each
reaction that does not stop the proxy, and each step that is due. -/
theorem live_run_induct {P : Manager → Prop} {occurrences : List Occurrence}
    (hreact : ∀ o ∈ occurrences, ∀ m : Manager, m.disposed = false → (m.react o).disposed = false →
      P m → P (m.react o))
    (hdue : ∀ m s rest, m.deferred = s :: rest → P m → P ({ m with deferred := rest }.runStep s))
    {m : Manager} (h : P m) (hd : (m.run occurrences).disposed = false) :
    P (m.run occurrences) := by
  refine run_induct (P := fun n => n.disposed = false → P n) (fun o ho n hn hlive => ?_)
    (fun n s rest hdef hn hlive => ?_) m (fun _ => h) hd
  · have hbefore : n.disposed = false := by
      rcases hdn : n.disposed with _ | _
      · rfl
      · rw [disposed_react hdn] at hlive
        cases hlive
    exact hreact o ho n hbefore hlive (hn hbefore)
  · rw [disposed_runStep] at hlive
    exact hdue n s rest hdef (hn hlive)

/-- After a run nothing is due, if nothing was due before it. -/
theorem deferred_run (m : Manager) (h : m.deferred = []) (occurrences : List Occurrence) :
    (m.run occurrences).deferred = [] := by
  induction occurrences generalizing m with
  | nil => exact h
  | cons o rest ih => exact ih (m.step o) (deferred_runDeferred (m.react o))

end Roster.Manager
