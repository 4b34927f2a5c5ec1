import Roster.Proofs.Manager.Ownership

/-!
# Asking for a manager to be started

Whoever asks for a manager to be started is told whether it will be: no if it runs, yes if it does not.
What starts a manager is a call to it, so where the answer is yes a call should be on its way after the
steps that are due.

The command makes the call due, but the step that begins it looks only at what there is to learn
(`Callable`). So the answer is kept exactly if a call was on its way, nothing is known, or a running
manager is asked in any case (`start_kept_iff_run`). Otherwise it is not kept, and nobody can tell
afterwards that someone asked: `start_promised_only`.
-/

namespace Roster.Manager

/-- Whether a call that is made due will be on its way: one is already, or the step that is due begins
one, as there is something to learn or a running manager is asked in any case. -/
def Callable (m : Manager) : Prop := m.call ≠ none ∨ m.alwaysIntrospect = true ∨ m.source = .none

instance (m : Manager) : Decidable m.Callable :=
  inferInstanceAs (Decidable (m.call ≠ none ∨ m.alwaysIntrospect = true ∨ m.source = .none))

/-- The proxy after it has looked at the first command of its queue, which asked for the manager to be
started, and has answered it. -/
def toldOfStart (m : Manager) (w : Nat) (rest : List Command) (started : Bool) : Manager :=
  { m with queue := rest, activations := m.activations ++ [(w, started)] }

variable {m : Manager}

/-! ## The step that begins a call -/

/-- The step leaves everything as it is where a call cannot be begun. -/
theorem introspect_of_not_callable (h : ¬ m.Callable) : m.introspect = m := by
  rcases introspect_cases m with hsame | ⟨⟨_, hwhy⟩, _⟩
  · exact hsame
  · exact absurd (.inr hwhy) h

/-- Where a call can be begun, the one that was on its way is afterwards, or else a new one. -/
theorem call_introspect_of_callable (h : m.Callable) :
    m.introspect.call = m.call.or (some (m.callsStarted + 1)) := by
  rcases introspect_cases m with hsame | ⟨⟨hnone, _⟩, hbegun⟩
  · have hcall : m.call ≠ none := by
      rcases h with hcall | hwhy
      · exact hcall
      · rw [← hsame]
        exact call_introspect hwhy
    rw [hsame, Option.or_of_isSome (Option.isSome_iff_ne_none.mpr hcall)]
  · rw [hbegun, hnone]
    rfl

/-- Afterwards a call is on its way exactly where one was or could be begun. -/
theorem call_introspect_iff : m.introspect.call ≠ none ↔ m.Callable := by
  by_cases h : m.Callable
  · rw [call_introspect_of_callable h]
    simp [h]
  · rw [introspect_of_not_callable h]
    exact ⟨fun hcall => absurd (.inl hcall) h, fun hcallable => absurd hcallable h⟩

/-! ## The command -/

section step

variable (hd : m.disposed = false) (hidle : m.deferred = []) (hknown : m.nameKnown = true)
  {w : Nat} {rest : List Command} (hqueue : m.queue = .activate w :: rest) (found : Option Path)
include hd hidle hknown hqueue

/-- A manager that runs is not started again. -/
theorem step_activate_of_running (hrunning : m.running = true) :
    m.step (.command found) = m.toldOfStart w rest false := by
  have hreact : m.react (.command found) = m.toldOfStart w rest false := by
    rw [react_command hd, takeCommand, hqueue]
    show Manager.activate { m with queue := rest } w = _
    simp [activate, toldOfStart, hknown, hrunning]
  rw [step, hreact]
  exact runDeferred_of_idle hidle

/-- For a manager that does not run, the step that begins a call is done. -/
theorem step_activate_of_resting (hrunning : m.running = false) :
    m.step (.command found) = (m.toldOfStart w rest true).introspect := by
  have hreact : m.react (.command found) = (m.toldOfStart w rest true).schedule .introspect := by
    rw [react_command hd, takeCommand, hqueue]
    show Manager.activate { m with queue := rest } w = _
    simp [activate, toldOfStart, schedule, hknown, hrunning, hidle]
  have hidle' : (m.toldOfStart w rest true).deferred = [] := hidle
  rw [step, hreact, runDeferred_schedule hidle']
  refine runDeferred_of_idle ?_
  show (m.toldOfStart w rest true).introspect.deferred = []
  rcases introspect_cases (m.toldOfStart w rest true) with hsame | ⟨_, hbegun⟩
  · rw [hsame]
    exact hidle
  · rw [hbegun]
    exact hidle

end step

/-! ## Runs -/

/-- **What becomes of the answer to someone who asks for the manager to be started**, in every run, at
every moment at which the owner is known and the proxy has not stopped. The answer is yes exactly if
the manager does not run. Where it is yes, a call is on its way after the steps that are due exactly if
the proxy was `Callable`: the one that was, or else a new one. Where no call is, nothing has changed but
that the answer was given. -/
theorem start_kept_iff_run (busName : String) (always : Bool) (path : Option Path)
    (before : List Occurrence) (found : Option Path) (w : Nat) (rest : List Command) :
    let m := (start busName always path).run before
    let m' := m.step (.command found)
    m.disposed = false → m.nameKnown = true → m.queue = .activate w :: rest →
      m'.activations = m.activations ++ [(w, !m.running)] ∧
      (m.running = false → (m'.call ≠ none ↔ m.Callable)) ∧
      (m.running = false → m.Callable → m'.call = m.call.or (some (m.callsStarted + 1))) ∧
      (m.running = true ∨ ¬ m.Callable → m' = m.toldOfStart w rest (!m.running)) := by
  intro m m' hd hknown hqueue
  have hidle : m.deferred = [] := deferred_run _ rfl before
  rcases hrunning : m.running with _ | _
  · have hstep : m' = (m.toldOfStart w rest true).introspect :=
      step_activate_of_resting hd hidle hknown hqueue found hrunning
    rw [hstep]
    refine ⟨?_, fun _ => call_introspect_iff (m := m.toldOfStart w rest true),
      fun _ => call_introspect_of_callable (m := m.toldOfStart w rest true), ?_⟩
    · rcases introspect_cases (m.toldOfStart w rest true) with hsame | ⟨_, hbegun⟩
      · rw [hsame]
        rfl
      · rw [hbegun]
        rfl
    · rintro (hruns | hnot)
      · cases hruns
      · exact introspect_of_not_callable hnot
  · have hstep : m' = m.toldOfStart w rest false :=
      step_activate_of_running hd hidle hknown hqueue found hrunning
    rw [hstep]
    exact ⟨rfl, fun h => (by cases h), fun h => (by cases h), fun _ => rfl⟩

/-- A manager that a cache file described is started, as a running one is asked in any case. -/
theorem start_kept_iff_run_asked :
    let m := (start "x" true (some "a")).run
      [.owner none, .cacheRead (.described ⟨[], ∅⟩), .sent (.activate 0)]
    let m' := m.step (.command none)
    (m.source = .file ∧ m'.activations = [(0, true)]) ∧ (m'.call ≠ none ↔ m.Callable) ∧
      m'.call = some 1 := by
  intro m m'
  have hfacts : m.disposed = false ∧ m.nameKnown = true ∧ m.queue = [.activate 0] ∧
      m.running = false ∧ m.Callable ∧ m.source = .file ∧ m.activations = [] ∧ m.call = none ∧
      m.callsStarted = 0 := by
    decide +kernel
  obtain ⟨hd, hknown, hqueue, hrunning, hcallable, hsource, hnobody, hcall, hnone⟩ := hfacts
  obtain ⟨htold, hiff, hkept, _⟩ :=
    start_kept_iff_run "x" true (some "a") _ none 0 [] hd hknown hqueue
  refine ⟨⟨hsource, ?_⟩, hiff hrunning, ?_⟩
  · exact htold.trans (by rw [hnobody, hrunning]; rfl)
  · exact (hkept hrunning hcallable).trans (by rw [hcall, hnone]; rfl)

/-- A manager that a cache file described is not started, although whoever asked was told so. -/
theorem start_promised_only :
    let m := (start "x" false (some "a")).run
      [.owner none, .cacheRead (.described ⟨[], ∅⟩), .sent (.activate 0)]
    let m' := m.step (.command none)
    (m.disposed = false ∧ m.nameKnown = true ∧ m.queue = [.activate 0]) ∧
      m'.activations = [(0, true)] ∧ m'.call = none ∧ m'.callsStarted = 0 := by
  decide +kernel

end Roster.Manager
