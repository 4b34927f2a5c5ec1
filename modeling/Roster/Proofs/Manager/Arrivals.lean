import Roster.Proofs.Manager.Standing

/-!
# What arrives, case by case

A proxy waits for two things, the answer to its call and the end of its cache read, and each may
arrive in several forms. Here is what the proxy does then, one equation for each form: an answer
that can be understood or not, and a cache read that tells something new, comes too late, or fails
with or without a failure that was held back for it.
-/

namespace Roster.Manager

variable {m : Manager}

/-! ## Answering those who wait -/

/-- Where something is known, an error does not matter. -/
theorem resolveReady_of_known (hknown : m.source ≠ .none) (error : Option ManagerError) :
    m.resolveReady error = { m with heldFailure := none }.openGate .ready := by
  unfold resolveReady
  rw [if_neg hknown]

/-- Where nothing is known, a failure is held back as long as a cache read may succeed. -/
theorem resolveReady_of_awaits (hunknown : m.source = .none) (hawaits : m.awaitsCacheFile = true)
    (e : ManagerError) : m.resolveReady (some e) = { m with heldFailure := some e } := by
  unfold resolveReady
  rw [if_pos hunknown]
  dsimp only [Option.getD_some]
  rw [if_pos hawaits]

/-- Where nothing is known and no cache read may succeed, a failure is told. -/
theorem resolveReady_of_sure (hunknown : m.source = .none) (hsure : m.awaitsCacheFile = false)
    (e : ManagerError) : m.resolveReady (some e) = m.openGate (.failed e) := by
  unfold resolveReady
  rw [if_pos hunknown]
  dsimp only [Option.getD_some]
  rw [hsure]
  rfl

/-! ## The answer to a call -/

/-- Without a call on its way there is nothing to answer. -/
theorem onReply_of_idle (hcall : m.call = none) (answer : Except BusError Json) :
    m.onReply answer = m := by
  unfold onReply
  rw [hcall]
  rfl

/-- An answer that can be understood is taken over. -/
theorem onReply_of_ok (hcall : m.call ≠ none) {answer : Except BusError Json} {d : Description}
    (hdecode : decode answer = .ok d) :
    m.onReply answer = ({ m with call := none }.install .live d).endIntrospection none := by
  have hsome : ¬m.call.isNone := fun hnone => hcall (Option.isNone_iff_eq_none.mp hnone)
  unfold onReply
  rw [if_neg hsome, hdecode]

/-- An answer that cannot be understood ends the call; if the manager was to be started by it, then
it counts as having left. -/
theorem onReply_of_error (hcall : m.call ≠ none) {answer : Except BusError Json} {e : ManagerError}
    (hdecode : decode answer = .error e) :
    m.onReply answer =
      (if m.source = InfoSource.none ∧ m.running = false then { m with call := none }.emit .exited
        else { m with call := none }).endIntrospection (some e) := by
  have hsome : ¬m.call.isNone := fun hnone => hcall (Option.isNone_iff_eq_none.mp hnone)
  unfold onReply
  rw [if_neg hsome, hdecode]

/-! ## The end of a cache read -/

/-- Without a cache read on its way none can end. -/
theorem onCacheRead_of_idle (hread : m.read = none) (result : ReadEnd) :
    m.onCacheRead result = m := by
  unfold onCacheRead
  rw [hread]
  rfl

/-- A cache file that tells something new is taken over. -/
theorem onCacheRead_described (hread : m.read ≠ none) (hunknown : m.source = .none)
    (d : Description) :
    m.onCacheRead (.described d) =
      (({ m with read := none }.install .file d).emit (.gotInfo .file)).resolveReady none := by
  have hsome : ¬m.read.isNone := fun hnone => hread (Option.isNone_iff_eq_none.mp hnone)
  unfold onCacheRead
  rw [if_neg hsome]
  simp only [install, publish, hunknown]
  rfl

/-- A cache file that comes too late is put aside. -/
theorem onCacheRead_superseded (hread : m.read ≠ none) (hknown : m.source ≠ .none)
    (d : Description) : m.onCacheRead (.described d) = { m with read := none } := by
  have hsome : ¬m.read.isNone := fun hnone => hread (Option.isNone_iff_eq_none.mp hnone)
  have hfile : ¬InfoSource.file.supersedes m.source = true := by
    simpa [InfoSource.supersedes] using hknown
  unfold onCacheRead
  rw [if_neg hsome]
  dsimp only
  rw [if_neg hfile]

/-- A cache read that fails lets the failure out that was held back for it. -/
theorem onCacheRead_released (hread : m.read ≠ none) {e : ManagerError}
    (hheld : m.heldFailure = some e) :
    m.onCacheRead .failed =
      { m with read := none, heldFailure := none }.resolveReady (some e) := by
  have hsome : ¬m.read.isNone := fun hnone => hread (Option.isNone_iff_eq_none.mp hnone)
  unfold onCacheRead
  rw [if_neg hsome]
  dsimp only
  rw [hheld]

/-- A cache read that fails while no failure is held back makes a call due, if nothing is known. -/
theorem onCacheRead_failed (hread : m.read ≠ none) (hheld : m.heldFailure = none) :
    m.onCacheRead .failed =
      if m.source = .none then { m with read := none }.schedule .introspect
      else { m with read := none } := by
  have hsome : ¬m.read.isNone := fun hnone => hread (Option.isNone_iff_eq_none.mp hnone)
  unfold onCacheRead
  rw [if_neg hsome]
  dsimp only
  rw [hheld]

/-- A cache read that was cancelled is over, and that is all. -/
theorem onCacheRead_cancelled (hread : m.read ≠ none) :
    m.onCacheRead .cancelled = { m with read := none } := by
  have hsome : ¬m.read.isNone := fun hnone => hread (Option.isNone_iff_eq_none.mp hnone)
  unfold onCacheRead
  rw [if_neg hsome]

end Roster.Manager
