import Roster.Proofs.Manager.Knowledge

/-!
# Readiness agrees with the information, and success is final

Whoever is told that the manager is ready can look at what is known of it, and whoever is told a
failure misses nothing: success stands at the gate exactly when something is known. This is one half
of `Sound`; the other half is that what is known never becomes unknown (`source_le_run`). So once
somebody was told that the manager is ready, something is known ever after (`known_of_told_ready`),
and whoever asks later is told the same at once (`readiness_agrees_run`).

The error that nothing is there to learn from is never told: each failure at the gate is the failure
of a call.
-/

namespace Roster.Manager

section run

variable {busName : String} {always : Bool} {path : Option Path}

/-- A proxy that goes on is sound after a reaction, too, before the steps that are due. -/
theorem sound_react_run {before : List Occurrence} {o : Occurrence}
    (hd : (((start busName always path).run before).react o).disposed = false) :
    Sound (((start busName always path).run before).react o) := by
  have hlive : ((start busName always path).run before).disposed = false :=
    disposed_of_step ((disposed_step _ o).trans hd)
  exact (sound_run hlive).react hlive hd

/-- Whoever is told anything but the end is told it by a proxy that goes on. -/
theorem disposed_of_told {before : List Occurrence} {o : Occurrence} {w : Nat}
    {outcome : Outcome ManagerError}
    (hmem : (w, outcome) ∈ newAnswers ((start busName always path).run before) o)
    (hne : outcome ≠ .failed .disposed) :
    (((start busName always path).run before).react o).disposed = false := by
  rcases hd : (((start busName always path).run before).react o).disposed with _ | _
  · rfl
  · have houtcome := (told_run hmem).outcome
    rw [(stopped_react_run hd).outcome] at houtcome
    cases houtcome
    exact absurd rfl hne

/-- Who is told that the manager is ready is told so when something is known. -/
theorem known_of_ready_told {before : List Occurrence} {o : Occurrence} {w : Nat}
    (hmem : (w, .ready) ∈ newAnswers ((start busName always path).run before) o) :
    (((start busName always path).run before).react o).source ≠ .none := by
  have hlive := disposed_of_told hmem (by simp)
  exact (sound_react_run hlive).known_of_ready (told_run hmem).outcome

/-- Who is told a failure, other than the end, is told the failure of a call, and when nothing is
known. -/
theorem unknown_of_failed_told {before : List Occurrence} {o : Occurrence} {w : Nat}
    {e : ManagerError} (hmem : (w, .failed e) ∈ newAnswers ((start busName always path).run before) o)
    (hne : e ≠ .disposed) :
    e.isCallError ∧ (((start busName always path).run before).react o).source = .none := by
  have hsound := sound_react_run (disposed_of_told hmem (by simpa using hne))
  have houtcome := (told_run hmem).outcome
  refine ⟨hsound.callError_of_failed e houtcome, ?_⟩
  by_contra hknown
  rw [hsound.ready_of_known hknown] at houtcome
  cases houtcome

/-- **What was told once stays true**: where somebody was told that the manager is ready, something
is known. -/
theorem known_of_told_ready {occurrences : List Occurrence} {v : Nat}
    (h : (v, .ready) ∈ ((start busName always path).run occurrences).answers) :
    ((start busName always path).run occurrences).source ≠ .none := by
  induction occurrences using List.reverseRecOn with
  | nil => cases h
  | append_singleton before o ih =>
    rw [run_concat, answers_step_run, List.mem_append] at h
    rcases h with hold | hnew
    · exact InfoSource.ne_none_of_le (source_le_run _ _ _ before [o]) (ih hold)
    · rw [run_concat, source_step]
      exact known_of_ready_told hnew

/-- Where something is known, whoever is told a failure is told the end. -/
theorem stopped_of_failed_told {before : List Occurrence} {o : Occurrence} {w : Nat}
    {e : ManagerError} (hmem : (w, .failed e) ∈ newAnswers ((start busName always path).run before) o)
    (hknown : ((start busName always path).run before).source ≠ .none) :
    e = .disposed ∧ (((start busName always path).run before).react o).disposed = true := by
  have he : e = .disposed := by
    by_contra hne
    have hle := source_le_run busName always path before [o]
    rw [run_concat, source_step] at hle
    exact InfoSource.ne_none_of_le hle hknown (unknown_of_failed_told hmem hne).2
  refine ⟨he, ?_⟩
  by_contra hgoes
  have hsound := sound_react_run (Bool.eq_false_iff.mpr hgoes)
  have hcall := hsound.callError_of_failed e (told_run hmem).outcome
  rw [he] at hcall
  cases hcall

end run

/-- **Readiness agrees with the information.** After every run of a proxy that has not stopped,
success stands at the gate exactly if something is known, and then no failure is held back. Whoever
is told that the manager is ready is told so when something is known, and whoever is told a failure,
other than the end, when nothing is, and never that there is nothing to learn from. And success is
final: once somebody was told so, nobody is parked any more, nobody is told anything else before the
end, and whoever asks is told so at once. -/
theorem readiness_agrees_run (busName : String) (always : Bool) (path : Option Path)
    (before : List Occurrence) (o : Occurrence) :
    let m := (start busName always path).run before
    (m.disposed = false →
      (m.gate.outcome = some .ready ↔ m.source ≠ .none) ∧
      (m.source ≠ .none → m.heldFailure = none)) ∧
    (∀ w, (w, .ready) ∈ newAnswers m o → (m.react o).source ≠ .none) ∧
    (∀ w e, (w, .failed e) ∈ newAnswers m o → e ≠ .disposed →
      e ≠ .noInformation ∧ (m.react o).source = .none) ∧
    ∀ v, (v, .ready) ∈ m.answers →
      (∀ w outcome, (w, outcome) ∈ newAnswers m o → outcome = .ready ∨
        outcome = .failed .disposed ∧ (m.react o).disposed = true) ∧
      (m.disposed = false → m.gate.waiters = [] ∧
        ∀ found w rest, m.queue = .requestReady w :: rest →
          newAnswers m (.command found) = [(w, .ready)]) := by
  intro m
  refine ⟨fun hlive => ?_, fun w hmem => known_of_ready_told hmem, fun w e hmem hne => ?_,
    fun v htold => ?_⟩
  · have hsound : Sound m := sound_run hlive
    refine ⟨⟨hsound.known_of_ready, hsound.ready_of_known⟩, fun hknown => ?_⟩
    by_contra hheld
    exact hknown (hsound.unknown_of_held hheld)
  · obtain ⟨hcall, hunknown⟩ := unknown_of_failed_told hmem hne
    refine ⟨?_, hunknown⟩
    rintro rfl
    cases hcall
  · have hknown : m.source ≠ .none := known_of_told_ready htold
    refine ⟨fun w outcome hmem => ?_, fun hlive => ?_⟩
    · cases outcome with
      | ready => exact .inl rfl
      | failed e =>
        obtain ⟨rfl, hstop⟩ := stopped_of_failed_told hmem hknown
        exact .inr ⟨rfl, hstop⟩
    · have hsound : Sound m := sound_run hlive
      have hready := hsound.ready_of_known hknown
      refine ⟨hsound.exclusive (by rw [hready]; simp), fun found w rest hqueue => ?_⟩
      refine newAnswers_of_append ?_
      rw [react_command hlive, takeCommand, hqueue]
      show (requestReady _ w).answers = _
      rw [requestReady_of_some { m with queue := rest } hready]

/-- The manager answered and left, a cache file was set, and the next call failed: whoever asks now
is told that the manager is ready. -/
theorem readiness_agrees_run_left :
    let m := (start "x" true none).run
      [.sent (.requestReady 1), .command none, .owner (some ":1.1"), .reply (.ok (.obj [])),
        .owner none, .sent (.setCacheFile (.path "a")), .command none, .owner (some ":1.2"),
        .reply (.error (.timeout "no answer")), .sent (.requestReady 2)]
    (1, .ready) ∈ m.answers ∧ m.disposed = false ∧
      newAnswers m (.command none) = [(2, .ready)] := by
  intro m
  have htold : (1, .ready) ∈ m.answers := by decide +kernel
  have hlive : m.disposed = false := by decide +kernel
  have hqueue : m.queue = .requestReady 2 :: [] := by decide +kernel
  refine ⟨htold, hlive, ?_⟩
  exact ((((readiness_agrees_run "x" true none _ (.command none)).2.2.2 1 htold).2 hlive).2
    none 2 [] hqueue)

end Roster.Manager
