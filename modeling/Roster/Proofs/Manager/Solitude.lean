import Roster.Proofs.Manager.Confluence

/-!
# A proxy whose manager nobody runs

The course of a proxy that is asked for readiness once, by a waiter with the number 0, while the name of
its manager has no owner and no service stands behind it. One equation for each step that there is:

* The request is parked (`parked`), and the first report makes the cache file be read, or without one
  the manager be called (`step_owner_parked`).
* A cache file that gives a description makes the manager ready (`step_described_reading`). One that
  gives none makes the manager be called (`step_failed_reading`).
* The answer to that call is an error, which whoever waits is told (`step_error_calling`).
-/

namespace Roster.Manager

variable (busName : String) (always : Bool) (path : Option Path)

/-- Someone was parked before anything was heard. -/
def parked : Manager := { start busName always path with gate := { waiters := [0] } }

/-- The name has no owner, and someone is parked; these cache files were read. -/
def unowned (reads : List Path) : Manager :=
  { parked busName always path with nameKnown := true, publications := 1, readsStarted := reads }

/-- The first cache read is on its way. -/
def reading (p : Path) : Manager := { unowned busName always (some p) [p] with read := some 1 }

/-- The first call is on its way. -/
def calling (m : Manager) : Manager := { m with callsStarted := 1, call := some 1 }

/-- The first call has failed, and whoever was parked was told. -/
def failed (m : Manager) (e : BusError) : Manager :=
  { m with
    callsStarted := 1
    events := [.exited, .gotInfo .none]
    gate := { outcome := some (.failed (.transport e)) }
    answers := [(0, .failed (.transport e))] }

/-- The first cache read has given a description, and whoever was parked was told. -/
def described (p : Path) (d : Description) : Manager :=
  { unowned busName always (some p) [p] with
    source := .file
    protocols := d.protocols
    interfaces := addNew [] d.interfaces
    gate := { outcome := some .ready }
    publications := 2
    snapshot := {
      source := .file
      protocols := d.protocols
      interfaces := addNew [] d.interfaces
      cacheFile := some p
      alwaysIntrospect := always }
    events := [.gotInfo .file]
    answers := [(0, .ready)] }

/-- Whoever asks first is parked. -/
theorem step_command_asked (found : Option Path) :
    ({ start busName always path with queue := [.requestReady 0] } : Manager).step
      (.command found) = parked busName always path :=
  runDeferred_of_idle rfl

/-- A call that is due begins, if nobody was called before and nothing is known. -/
theorem runDeferred_introspect {m : Manager} (hdue : m.deferred = [.introspect])
    (hcall : m.call = none) (hunknown : m.source = .none) (hfirst : m.callsStarted = 0)
    (hgate : m.gate.outcome = none) : m.runDeferred = calling { m with deferred := [] } := by
  have hbegins : ({ m with deferred := [] } : Manager).introspect =
      calling { m with deferred := [] } := by
    unfold introspect calling
    dsimp only
    rw [hcall, hunknown, hfirst, Gate.reopen_of_none hgate, if_neg (by simp)]
  rw [runDeferred]
  split
  · rename_i hnone
    exact absurd (hdue.symm.trans hnone) (by simp)
  · rename_i s rest hsome
    cases hdue.symm.trans hsome
    rw [runStep, hbegins]
    exact runDeferred_of_idle rfl

/-- With the first report the cache file is read; without one the manager is called. -/
theorem step_owner_parked :
    (parked busName always path).step (.owner none) =
      match path with
      | some p => reading busName always p
      | none => calling (unowned busName always none []) := by
  have hlearnt : (parked busName always path).react (.owner none) =
      (unowned busName always path []).schedule .readCacheFile := rfl
  rw [step, hlearnt, runDeferred_schedule rfl]
  cases path with
  | none => exact runDeferred_introspect rfl rfl rfl rfl rfl
  | some p => exact runDeferred_of_idle rfl

/-- A cache file that gives a description makes the manager ready. -/
theorem step_described_reading (p : Path) (d : Description) :
    (reading busName always p).step (.cacheRead (.described d)) = described busName always p d :=
  runDeferred_of_idle rfl

/-- A cache file that gives none makes the manager be called. -/
theorem step_failed_reading (p : Path) :
    (reading busName always p).step (.cacheRead .failed) =
      calling (unowned busName always (some p) [p]) :=
  runDeferred_introspect rfl rfl rfl rfl rfl

/-- If that fails too, whoever waits is told the error. -/
theorem step_error_calling (reads : List Path) (e : BusError) :
    (calling (unowned busName always path reads)).step (.reply (.error e)) =
      failed (unowned busName always path reads) e :=
  runDeferred_of_idle rfl

end Roster.Manager
