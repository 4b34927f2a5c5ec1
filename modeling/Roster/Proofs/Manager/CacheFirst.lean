import Roster.Proofs.Manager.Ending
import Roster.Proofs.Manager.Underway

/-!
# A failure waits for the cache file

A call may fail while the cache file is still being read. Whoever is parked is then not told: the
read may yet succeed. Only a failure that had been told earlier, and that the gate remembers, is told
at once to whoever asks, also while a read is on its way that began since.

* `FailedBefore m₀ m e`: a failure `e` that `m` remembers stood at the gate of `m₀` already, when no
  cache read was on its way; one that `m` has on its way began later.
* `failed_run`: every failure that is remembered after a run stood at the gate before the cache read
  on its way began.
* `failure_waits_for_cacheFile_run` is the statement about all answers, and
  `failure_told_during_cacheRead` shows why it has to except those who come later.
-/

namespace Roster.Manager

/-- A failure that stands at the gate of `m` stood at the gate of `m₀`, when no cache read was on its
way, and a cache read that `m` has on its way began later. -/
structure FailedBefore (m₀ m : Manager) (e : ManagerError) : Prop where
  /-- The failure stood at the gate. -/
  outcome : m₀.gate.outcome = some (.failed e)
  /-- No cache read was on its way. -/
  read : m₀.read = none
  /-- A cache read that is on its way has a number that none had before. -/
  later : ∀ k, m.read = some k → m₀.readsStarted.length < k
  /-- No cache read was taken back. -/
  grown : m₀.readsStarted.length ≤ m.readsStarted.length

/-- A failure that stood at the gate stays in the past. -/
theorem FailedBefore.step {m₀ m : Manager} {e : ManagerError} (h : FailedBefore m₀ m e)
    (hlive : m.disposed = false) (o : Occurrence) : FailedBefore m₀ (m.step o) e := by
  obtain ⟨hgrown, hread⟩ := reads_step m hlive o
  have hpast := h.grown
  refine { h with later := fun k hk => ?_, grown := by omega }
  rcases hread k hk with hsame | hnew
  · exact h.later k hsame
  · omega

/-- While a cache read is on its way, nobody is told a failure for another reason than that this read
has failed. -/
theorem Cause.eq_cacheRead {m : Manager} (hlive : m.disposed = false) (hread : m.read ≠ none)
    {o : Occurrence} {e : ManagerError} (h : Cause m o e)
    (hsure : (m.react o).awaitsCacheFile = false) : o = .cacheRead .failed := by
  have hgone : (m.react o).read ≠ m.read := fun hsame => by
    rw [awaitsCacheFile, Bool.or_eq_false_iff, hsame] at hsure
    exact hread (by simpa using hsure.1)
  cases h with
  | replied hcall hdecode =>
    rw [react_reply hlive] at hgone
    exact absurd (keeps_onReply m _).read hgone
  | lost hwatching hleft hcall =>
    rw [react_owner hlive, if_pos hwatching] at hgone
    exact absurd (keeps_onOwner m _).read hgone
  | released hread' hheld => rfl

/-- What the end of a cache read gives that tells something new. -/
theorem newAnswers_described {m : Manager} (hopen : m.gate.closed = false)
    (hlive : m.disposed = false) (hread : m.read ≠ none) (hunknown : m.source = .none)
    (d : Description) :
    (m.react (.cacheRead (.described d))).source = .file ∧
      newAnswers m (.cacheRead (.described d)) = m.gate.waiters.map fun w => (w, .ready) := by
  have hmerge : m.source.merge .file = .file := by
    rw [hunknown]
    rfl
  have hknown : m.source.merge .file ≠ .none := by
    rw [hmerge]
    decide
  have hreact : m.react (.cacheRead (.described d)) = { (({ m with read := none }.install .file
      d).emit (.gotInfo .file)) with heldFailure := none }.openGate .ready := by
    rw [react_cacheRead hlive, onCacheRead_described hread hunknown, resolveReady_of_known]
    exact hknown
  refine ⟨?_, newAnswers_of_append ?_⟩
  · rw [hreact]
    exact hmerge
  · rw [hreact]
    show m.answers ++ (m.gate.resolve .ready).2.map _ = _
    rw [Gate.resolve_of_open hopen]

section run

variable {busName : String} {always : Bool} {path : Option Path}

/-- **Every failure that is remembered** after a run stood at the gate before the cache read that is
on its way began. -/
theorem failed_run {before : List Occurrence} {e : ManagerError}
    (hd : ((start busName always path).run before).disposed = false)
    (hfailed : ((start busName always path).run before).gate.outcome = some (.failed e)) :
    ∃ earlier, earlier <+: before ∧
      FailedBefore ((start busName always path).run earlier)
        ((start busName always path).run before) e := by
  induction before using List.reverseRecOn with
  | nil => cases hfailed
  | append_singleton before o ih =>
    rw [run_concat] at hd hfailed
    have hlive := disposed_of_step hd
    have hsound := sound_run hlive
    have hlive' := (disposed_step _ o).symm.trans hd
    have hreact := ((hsound.react hlive hlive').failed_of_runDeferred hfailed).1
    rcases (reaction_run hlive o).failed_cases hsound.opened hlive' hreact with hold | ⟨_, hsure⟩
    · obtain ⟨earlier, hpre, hpast⟩ := ih hlive hold
      refine ⟨earlier, hpre.trans (List.prefix_append before [o]), ?_⟩
      rw [run_concat]
      exact hpast.step hlive o
    · -- told just now, so no cache read is on its way or due
      have hnone := awaitsCacheFile_runDeferred _ hsure
      rw [awaitsCacheFile, Bool.or_eq_false_iff] at hnone
      have hread : (((start busName always path).run before).step o).read = none :=
        Option.not_isSome_iff_eq_none.mp (Bool.eq_false_iff.mp hnone.1)
      refine ⟨before ++ [o], List.prefix_rfl, ?_⟩
      rw [run_concat]
      refine ⟨hfailed, hread, fun k hk => ?_, Nat.le_refl _⟩
      rw [hread] at hk
      cases hk

end run

/-- **A failure waits for the cache file.** In every run, someone who is told a failure, other than
that the proxy has stopped, was parked, and no cache read is on its way or due any more: if one was
on its way, it has just failed. Or there was nothing to wait for, as the failure was told before:
whoever comes while the gate remembers it has it at once, but then it stood there before the cache
read that is on its way began. And everyone who is parked is told that the manager is ready when a
cache read ends with the first information. -/
theorem failure_waits_for_cacheFile_run (busName : String) (always : Bool) (path : Option Path)
    (before : List Occurrence) (o : Occurrence) :
    let m := (start busName always path).run before
    (∀ w e, (w, .failed e) ∈ newAnswers m o → e ≠ .disposed →
      (w ∈ m.gate.waiters ∧ (m.react o).awaitsCacheFile = false ∧
        (m.read ≠ none → o = .cacheRead .failed)) ∨
      (∃ found rest, o = .command found ∧ m.queue = .requestReady w :: rest ∧
        m.gate.outcome = some (.failed e) ∧
        ∃ earlier, earlier <+: before ∧
          FailedBefore ((start busName always path).run earlier) m e)) ∧
    (∀ d, m.read ≠ none → m.source = .none →
      (m.react (.cacheRead (.described d))).source = .file ∧
        newAnswers m (.cacheRead (.described d)) = m.gate.waiters.map fun w => (w, .ready)) := by
  intro m
  have hlive_of_read : m.read ≠ none → m.disposed = false := fun hread => by
    rcases hd : m.disposed with _ | _
    · rfl
    · exact absurd (stopped_run hd).read hread
  refine ⟨fun w e hmem hne => ?_, fun d hread hunknown => ?_⟩
  · cases told_run hmem with
    | remembered ho hqueue hbefore hafter =>
      have hlive : m.disposed = false := by
        rcases hd : m.disposed with _ | _
        · rfl
        · exact absurd (hqueue.symm.trans (stopped_run hd).queue) (by simp)
      exact .inr ⟨_, _, ho, hqueue, hbefore, failed_run hlive hbefore⟩
    | stopped hstop hafter => exact absurd rfl hne
    | failed hparked hwhy hsure hafter =>
      exact .inl ⟨hparked, hsure, fun hread => hwhy.eq_cacheRead (hlive_of_read hread) hread hsure⟩
  · have hlive := hlive_of_read hread
    exact newAnswers_described (sound_run hlive).opened hlive hread hunknown d

/-- The call failed while the cache file was being read, so the one who is parked is told only when
the read has failed too. -/
theorem failure_told_after_cacheRead :
    let e := BusError.timeout "no answer"
    let m := (start "x" false (some "a")).run
      [.sent (.requestReady 1), .command none, .owner none, .sent (.activate 2), .command none,
        .reply (.error e)]
    m.read ≠ none ∧ m.call = none ∧ m.answers = [] ∧
      (1, .failed (.transport e)) ∈ newAnswers m (.cacheRead .failed) ∧
      (m.react (.cacheRead .failed)).awaitsCacheFile = false := by
  intro e m
  have htold : (1, .failed (.transport e)) ∈ newAnswers m (.cacheRead .failed) := by
    decide +kernel
  refine ⟨by decide +kernel, by decide +kernel, by decide +kernel, htold, ?_⟩
  rcases (failure_waits_for_cacheFile_run "x" false (some "a") _ (.cacheRead .failed)).1 1
    (.transport e) htold (by decide) with ⟨_, hsure, _⟩ | ⟨_, _, ho, _⟩
  · exact hsure
  · cases ho

/-- Someone who comes while a cache read is on its way is told a failure at once, if the gate
remembers it from before. -/
theorem failure_told_during_cacheRead :
    let e := BusError.timeout "no answer"
    let m := (start "x" false none).run
      [.owner none, .reply (.error e), .sent (.setCacheFile (.path "a")), .command none,
        .sent (.requestReady 1)]
    (1, .failed (.transport e)) ∈ newAnswers m (.command none) ∧ ManagerError.transport e ≠ .disposed ∧
      (m.react (.command none)).awaitsCacheFile = true ∧ (m.react (.command none)).read = some 1 := by
  decide +kernel

end Roster.Manager
