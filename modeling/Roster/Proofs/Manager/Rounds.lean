import Roster.Proofs.Manager.Ending
import Roster.Proofs.Manager.Underway

/-!
# Whose failure is told

Calls follow one another, and each ends with an error or without one (`roundEnd`, `rounds`). What is
told to those who wait should be the error with which the last of them ended (`lastFailure`), at a
moment when no further call is on its way (`TellsLast`).

The failure that is held back for a cache read is not dropped when a further call begins. So the one
thing that can go wrong is that such a failure is still there when the cache read fails, although
another call has been begun or has ended since (`HoldsLast`). Nothing else goes wrong:
`tellsLast_iff_holdsLast`. It does happen: `older_failure_told`.
-/

namespace Roster.Manager

/-! ## The calls of a run -/

/-- How the call on its way ends when something happens, if it ends: with an error or without one. -/
def roundEnd (m : Manager) (o : Occurrence) : Option (Option ManagerError) :=
  if m.call.isSome ∧ (m.react o).call.isNone then
    some <| match o with
      | .reply answer =>
        match decode answer with
        | .error e => some e
        | .ok _ => none
      | .owner _ => some m.lostError
      | _ => none
  else none

/-- How the calls of a run end, in order. -/
def rounds (m : Manager) : List Occurrence → List (Option ManagerError)
  | [] => []
  | o :: rest => (roundEnd m o).toList ++ rounds (m.step o) rest

/-- The error with which the last call of a run ended, if it ended with one. -/
def lastFailure (m : Manager) (occurrences : List Occurrence) : Option ManagerError :=
  (rounds m occurrences).getLast?.join

/-- The calls that end in a run with one more occurrence. -/
theorem rounds_concat (m : Manager) (before : List Occurrence) (o : Occurrence) :
    rounds m (before ++ [o]) = rounds m before ++ (roundEnd (m.run before) o).toList := by
  induction before generalizing m with
  | nil => exact List.append_nil _
  | cons first rest ih =>
    show (roundEnd m first).toList ++ rounds (m.step first) (rest ++ [o]) = _
    rw [ih, ← List.append_assoc]
    rfl

/-- The last failure of a run with one more occurrence is the one that this one gives, if a call ends
just now. -/
theorem lastFailure_concat (m : Manager) (before : List Occurrence) (o : Occurrence) :
    lastFailure m (before ++ [o]) =
      (roundEnd (m.run before) o).getD (lastFailure m before) := by
  unfold lastFailure
  rw [rounds_concat]
  rcases roundEnd (m.run before) o with _ | ended
  · simp
  · simp

variable {m : Manager}

/-- Without a call on its way, none ends. -/
theorem roundEnd_of_idle (hcall : m.call = none) (o : Occurrence) : roundEnd m o = none := by
  unfold roundEnd
  rw [hcall]
  rfl

/-! ## What is told -/

/-- A failure is told when something happens: to someone who waits, or to whoever asks right
afterwards. -/
def Tells (m : Manager) (o : Occurrence) (e : ManagerError) : Prop :=
  (∃ w, (w, .failed e) ∈ newAnswers m o) ∨
    ∀ w, ((m.react o).requestReady w).answers = (m.react o).answers ++ [(w, .failed e)]

/-- A failure that stands at the gate is told. -/
theorem tells_of_outcome {o : Occurrence} {e : ManagerError}
    (h : (m.react o).gate.outcome = some (.failed e)) : Tells m o e := by
  refine .inr fun w => ?_
  rw [requestReady_of_some _ h]

/-- Whenever the failure of a call is told in a run, no call is on its way, and it is the failure with
which the last call ended. -/
def TellsLast (m₀ : Manager) (occurrences : List Occurrence) : Prop :=
  ∀ before o e, before ++ [o] <+: occurrences → e.isCallError → Tells (m₀.run before) o e →
    ((m₀.run before).react o).call = none ∧ lastFailure m₀ (before ++ [o]) = some e

/-- Whenever a cache read fails in a run for which a failure was held back, no call is on its way, and
the failure is the one with which the last call ended. -/
def HoldsLast (m₀ : Manager) (occurrences : List Occurrence) : Prop :=
  ∀ before e, before ++ [.cacheRead .failed] <+: occurrences → (m₀.run before).read ≠ none →
    (m₀.run before).heldFailure = some e →
    (m₀.run before).call = none ∧ lastFailure m₀ before = some e

/-! ## What a reaction does to the failure at the gate -/

/-- A failure that is told for the end of a call is the one with which it ended. -/
theorem Cause.call_eq_none (hlive : m.disposed = false) {o : Occurrence} {e : ManagerError}
    (h : Cause m o e) (ho : o ≠ .cacheRead .failed) :
    (m.react o).call = none ∧ roundEnd m o = some (some e) := by
  cases h with
  | @replied answer e hcall hdecode =>
    have hended : (m.react (.reply answer)).call = none := by
      rw [react_reply hlive]
      exact call_onReply m answer
    refine ⟨hended, ?_⟩
    unfold roundEnd
    rw [if_pos ⟨Option.isSome_iff_ne_none.mpr hcall, Option.isNone_iff_eq_none.mpr hended⟩]
    dsimp only
    rw [hdecode]
  | @lost owner hwatching hleft hcall =>
    have hended : (m.react (.owner owner)).call = none := by
      rw [react_owner hlive, if_pos hwatching]
      exact call_onOwner_of_left m hleft
    refine ⟨hended, ?_⟩
    unfold roundEnd
    rw [if_pos ⟨Option.isSome_iff_ne_none.mpr hcall, Option.isNone_iff_eq_none.mpr hended⟩]
  | released hread hheld => exact absurd rfl ho

/-- If the failure that stood at the gate, and the one that is let out now, are of the last call and
no call is on its way, then so is the failure that stands at the gate afterwards. -/
theorem failed_react {o : Occurrence} {last : Option ManagerError} {e : ManagerError}
    (hsound : Sound m) (hlive : m.disposed = false) (hreaction : Reaction m o (m.react o))
    (hlive' : (m.react o).disposed = false)
    (hpast : m.gate.outcome = some (.failed e) → m.call = none ∧ last = some e)
    (hheld : o = .cacheRead .failed → m.read ≠ none → m.heldFailure = some e →
      m.call = none ∧ last = some e)
    (hfailed : (m.react o).gate.outcome = some (.failed e)) :
    (m.react o).call = none ∧ (roundEnd m o).getD last = some e := by
  have hstays : m.call = none ∧ last = some e →
      (m.react o).call = none ∧ (roundEnd m o).getD last = some e := fun ⟨hcall, hlast⟩ => by
    rw [roundEnd_of_idle hcall]
    rcases (handled_react hlive o).beginsNothing.call with hnone | hsame
    · exact ⟨hnone, hlast⟩
    · exact ⟨hsame.trans hcall, hlast⟩
  rcases hreaction.failed_cases hsound.opened hlive' hfailed with hold | ⟨hcause, _⟩
  · exact hstays (hpast hold)
  · by_cases ho : o = .cacheRead .failed
    · subst ho
      cases hcause with
      | released hread hheld' => exact hstays (hheld rfl hread hheld')
    · obtain ⟨hcall, hend⟩ := hcause.call_eq_none hlive ho
      rw [hend]
      exact ⟨hcall, rfl⟩

/-- A failure that was held back stands at the gate when the cache read has failed, and the call on
its way, if there is one, goes on. -/
theorem released_react (hsound : Sound m) (hlive : m.disposed = false) (hidle : m.deferred = [])
    (hread : m.read ≠ none) {e : ManagerError} (hheld : m.heldFailure = some e) :
    (m.react (.cacheRead .failed)).gate.outcome = some (.failed e) ∧
      (m.react (.cacheRead .failed)).call = m.call := by
  have hunknown : m.source = .none := hsound.unknown_of_held (by rw [hheld]; simp)
  have hsure : { m with read := none, heldFailure := none }.awaitsCacheFile = false := by
    simp [awaitsCacheFile, hidle]
  have hreleased := (onCacheRead_released hread hheld).trans
    (resolveReady_of_sure (m := { m with read := none, heldFailure := none }) hunknown hsure e)
  rw [react_cacheRead hlive, hreleased]
  refine ⟨?_, rfl⟩
  show (m.gate.resolve (.failed e)).1.outcome = _
  rw [Gate.resolve_of_open hsound.opened]

/-! ## Runs -/

section run

variable {busName : String} {always : Bool} {path : Option Path}

/-- Whatever failure is told when something happens in a run, it stands at the gate afterwards. -/
theorem outcome_of_tells_run {before : List Occurrence} {o : Occurrence} {e : ManagerError}
    (h : Tells ((start busName always path).run before) o e) :
    (((start busName always path).run before).react o).gate.outcome = some (.failed e) := by
  rcases h with ⟨w, hmem⟩ | hasked
  · exact (told_run hmem).outcome
  · have hfirst := hasked 0
    rcases hgate : (((start busName always path).run before).react o).gate.outcome with _ | outcome
    · rw [answers_requestReady_of_none _ hgate] at hfirst
      simp at hfirst
    · rw [requestReady_of_some _ hgate] at hfirst
      simpa using hfirst

/-- If only failures of the last call are let out, then the failure at the gate of a proxy that goes
on is that of the last call, and no call is on its way. -/
theorem failed_run_of_holdsLast {occurrences before : List Occurrence} {e : ManagerError}
    (h : HoldsLast (start busName always path) occurrences) (hpre : before <+: occurrences)
    (hd : ((start busName always path).run before).disposed = false)
    (hfailed : ((start busName always path).run before).gate.outcome = some (.failed e)) :
    ((start busName always path).run before).call = none ∧
      lastFailure (start busName always path) before = some e := by
  induction before using List.reverseRecOn with
  | nil => cases hfailed
  | append_singleton before o ih =>
    have hbefore : before <+: occurrences := (List.prefix_append before [o]).trans hpre
    rw [run_concat] at hd hfailed ⊢
    have hlive := disposed_of_step hd
    have hsound := sound_run hlive
    have hlive' := (disposed_step _ o).symm.trans hd
    obtain ⟨hreact, hcall⟩ := (hsound.react hlive hlive').failed_of_runDeferred hfailed
    rw [lastFailure_concat, step, hcall]
    refine failed_react hsound hlive (reaction_run hlive o) hlive' (ih hbefore hlive) ?_ hreact
    rintro rfl
    exact h before e hpre

/-- **The failures that are told are those of the last call**, and told when no call is on its way,
exactly in those runs in which every failure that is let out after it was held back is one. -/
theorem tellsLast_iff_holdsLast (busName : String) (always : Bool) (path : Option Path)
    (occurrences : List Occurrence) :
    TellsLast (start busName always path) occurrences ↔
      HoldsLast (start busName always path) occurrences := by
  constructor
  · intro h before e hpre hread hheld
    have hlive : ((start busName always path).run before).disposed = false := by
      rcases hd : ((start busName always path).run before).disposed with _ | _
      · rfl
      · exact absurd (stopped_run hd).read hread
    have hsound := sound_run hlive
    obtain ⟨hfailed, hcall⟩ :=
      released_react hsound hlive (deferred_run _ rfl before) hread hheld
    obtain ⟨hidle, hlast⟩ := h before _ e hpre (hsound.callError_of_held e hheld)
      (tells_of_outcome hfailed)
    rw [hcall] at hidle
    rw [lastFailure_concat, roundEnd_of_idle hidle] at hlast
    exact ⟨hidle, hlast⟩
  · intro h before o e hpre herror htells
    have hfailed := outcome_of_tells_run htells
    have hbefore : before <+: occurrences := (List.prefix_append before [o]).trans hpre
    have hlive' : (((start busName always path).run before).react o).disposed = false := by
      rcases hd : (((start busName always path).run before).react o).disposed with _ | _
      · rfl
      · rw [(stopped_react_run hd).outcome] at hfailed
        cases hfailed
        cases herror
    have hlive : ((start busName always path).run before).disposed = false := by
      rw [← disposed_step] at hlive'
      exact disposed_of_step hlive'
    rw [lastFailure_concat]
    refine failed_react (sound_run hlive) hlive (reaction_run hlive o) hlive'
      (failed_run_of_holdsLast h hbefore hlive) ?_ hfailed
    rintro rfl
    exact h before e hpre

end run

/-- The failure of the first call is held back for a cache read that is given up. The second call
fails, which is told to those who wait then. When a later cache read fails, the first failure is let
out after all, and told to whoever comes next. -/
theorem older_failure_told :
    let first := BusError.timeout "first"
    let second := BusError.timeout "second"
    let m₀ := start "x" false (some "a")
    let before : List Occurrence :=
      [.owner none, .sent (.activate 0), .command none, .reply (.error first),
        .sent (.setCacheFile .disabled), .command none, .reply (.error second),
        .sent (.setCacheFile (.path "b")), .command none, .cacheRead .failed,
        .sent (.requestReady 1)]
    newAnswers (m₀.run before) (.command none) = [(1, .failed (.transport first))] ∧
      lastFailure m₀ (before ++ [.command none]) = some (.transport second) ∧
      ManagerError.transport first ≠ .transport second := by
  decide +kernel

/-- A failure that is let out while the next call is on its way already. -/
example :
    let m := (start "x" false (some "a")).run
      [.sent (.requestReady 1), .command none, .owner none, .sent (.activate 0), .command none,
        .reply (.error (.timeout "first")), .sent (.activate 0), .command none]
    newAnswers m (.cacheRead .failed) = [(1, .failed (.transport (.timeout "first")))] ∧
      (m.react (.cacheRead .failed)).call = some 2 := by
  decide +kernel

end Roster.Manager
