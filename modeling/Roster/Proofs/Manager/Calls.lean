import Roster.Proofs.Manager.Knowledge
import Roster.Proofs.Manager.Underway

/-!
# When a call is begun

A call becomes due on many occasions, but it is begun in one place, the step `introspect`. Whatever
makes it due, a step of a run begins at most one call (`calls_step_run`), and only

* where no call is on its way,
* after the owner was told for the first time (`tellsOwner_of_nameKnown`),
* and if there is something to learn: nothing is known, or a running manager is asked in any case.

A proxy that was never told to ask in any case (`Undemanding`) begins no call any more once
something is known (`callsStarted_run_of_known`).
-/

namespace Roster.Manager

/-- Whether an occurrence tells something about the owner of the name: a report, or that there will
be no more. -/
def Occurrence.tellsOwner : Occurrence → Bool
  | .owner _ | .watchClosed => true
  | _ => false

variable {m n m' : Manager}

/-! ## Steps that are due -/

/-- What steps that are due do about calls: they begin none, or one where none is on its way and
there is something to learn. -/
inductive AtMostOneCall (m m' : Manager) : Prop where
  /-- The call on its way is the same. -/
  | same (hcall : m'.call = m.call) (hstarted : m'.callsStarted = m.callsStarted)
  /-- A call was begun. -/
  | begun (hidle : m.call = none) (hwhy : m.alwaysIntrospect = true ∨ m.source = .none)
      (hcall : m'.call = some (m.callsStarted + 1)) (hstarted : m'.callsStarted = m.callsStarted + 1)

/-- Steps one after the other begin at most one call, as the second finds the call of the first on
its way. -/
theorem AtMostOneCall.trans (h : AtMostOneCall m n) (h' : AtMostOneCall n m')
    (halways : n.alwaysIntrospect = m.alwaysIntrospect) (hsource : n.source = m.source) :
    AtMostOneCall m m' := by
  cases h' with
  | same hcall hstarted =>
    cases h with
    | same hcall' hstarted' => exact .same (hcall.trans hcall') (hstarted.trans hstarted')
    | begun hidle hwhy hcall' hstarted' =>
      exact .begun hidle hwhy (hcall.trans hcall') (hstarted.trans hstarted')
  | begun hidle hwhy hcall hstarted =>
    cases h with
    | same hcall' hstarted' =>
      rw [hstarted'] at hcall hstarted
      rw [halways, hsource] at hwhy
      exact .begun (hcall'.symm.trans hidle) hwhy hcall hstarted
    | begun _ _ hcall' _ =>
      rw [hcall'] at hidle
      cases hidle

/-- A step that is due begins at most one call. -/
theorem atMostOneCall_runStep (m : Manager) (s : Deferred) (rest : List Deferred) :
    AtMostOneCall m ({ m with deferred := rest }.runStep s) := by
  cases s with
  | readCacheFile =>
    show AtMostOneCall m (readCacheFile _)
    unfold readCacheFile
    split
    · exact .same rfl rfl
    · split
      · unfold schedule
        split <;> exact .same rfl rfl
      · exact .same rfl rfl
  | introspect =>
    show AtMostOneCall m (introspect _)
    rcases introspect_cases { m with deferred := rest } with hsame | ⟨⟨hidle, hwhy⟩, hbegun⟩
    · rw [hsame]
      exact .same rfl rfl
    · rw [hbegun]
      exact .begun hidle hwhy rfl rfl

/-- **The steps that are due begin at most one call**, all of them together. -/
theorem atMostOneCall_runDeferred (m : Manager) : AtMostOneCall m m.runDeferred := by
  refine (runDeferred_induct
    (P := fun n => AtMostOneCall m n ∧ n.alwaysIntrospect = m.alwaysIntrospect ∧
      n.source = m.source)
    (fun n s rest _ hn => ?_) m ⟨.same rfl rfl, rfl, rfl⟩).1
  obtain ⟨h, halways, hsource⟩ := hn
  refine ⟨h.trans (atMostOneCall_runStep n s rest) halways hsource, ?_, ?_⟩
  · exact (runStep_frame Manager.alwaysIntrospect (fun _ _ => rfl) (fun _ _ _ => rfl)
      (fun _ _ _ _ => rfl) n s rest).trans halways
  · exact (runStep_frame Manager.source (fun _ _ => rfl) (fun _ _ _ => rfl)
      (fun _ _ _ _ => rfl) n s rest).trans hsource

/-! ## The owner is told first -/

/-- Nothing but a report, or the end of the reports, makes the owner known. -/
theorem Handled.nameKnown_eq {o : Occurrence} (h : Handled m o m') (ho : o.tellsOwner = false) :
    m'.nameKnown = m.nameKnown := by
  cases h with
  | sent c => rfl
  | nothing _ => rfl
  | command found c rest hqueue => exact nameKnown_onCommand { m with queue := rest } found c
  | owner owner hwatching => cases ho
  | closed hknown => rfl
  | closedUnknown hunknown => cases ho
  | reply answer => exact congrArg Standing.nameKnown (standing_onReply m answer)
  | cacheRead result => exact congrArg Standing.nameKnown (standing_onCacheRead m result)
  | forsaken => rfl

section run

variable {busName : String} {always : Bool} {path : Option Path}

/-- Where the owner is known it was told. -/
theorem tellsOwner_of_nameKnown {occurrences : List Occurrence}
    (hk : ((start busName always path).run occurrences).nameKnown = true) :
    ∃ o ∈ occurrences, o.tellsOwner = true := by
  induction occurrences using List.reverseRecOn with
  | nil => cases hk
  | append_singleton before o ih =>
    rcases ho : o.tellsOwner with _ | _
    · have hsame : (((start busName always path).run before).react o).nameKnown =
          ((start busName always path).run before).nameKnown := by
        rcases hd : ((start busName always path).run before).disposed with _ | _
        · exact (handled_react hd o).nameKnown_eq ho
        · exact react_frame_of_disposed Manager.nameKnown (fun _ _ => rfl) (fun _ _ => rfl) hd o
      rw [run_concat, step, runDeferred_frame Manager.nameKnown nameKnown_runStep, hsame] at hk
      obtain ⟨o', hmem, ho'⟩ := ih hk
      exact ⟨o', List.mem_append_left [o] hmem, ho'⟩
    · exact ⟨o, by simp, ho⟩

/-- Where a call is on its way the owner was told. -/
theorem tellsOwner_of_call {occurrences : List Occurrence}
    (hcall : ((start busName always path).run occurrences).call ≠ none) :
    ∃ o ∈ occurrences, o.tellsOwner = true := by
  have hk : ((start busName always path).run occurrences).nameKnown = true := by
    by_contra hunknown
    rcases hd : ((start busName always path).run occurrences).disposed with _ | _
    · exact hcall (unbegun_run hd (Bool.eq_false_iff.mpr hunknown)).call
    · exact hcall (stopped_run hd).call
  exact tellsOwner_of_nameKnown hk

variable (busName always path) in
/-- **A step of a run begins at most one call**, where none is on its way, after the owner was told,
and if there is something to learn. If it begins none, the call on its way goes on or ends. -/
theorem calls_step_run (before : List Occurrence) (o : Occurrence) :
    let m := (start busName always path).run before
    ((m.step o).callsStarted = m.callsStarted ∧
      ((m.step o).call = none ∨ (m.step o).call = m.call)) ∨
    ((m.step o).callsStarted = m.callsStarted + 1 ∧ (m.step o).call = some (m.callsStarted + 1) ∧
      (m.react o).call = none ∧ (∃ o' ∈ before ++ [o], o'.tellsOwner = true) ∧
      ((m.react o).alwaysIntrospect = true ∨ (m.react o).source = .none)) := by
  intro m
  have hreact : (m.react o).callsStarted = m.callsStarted ∧
      ((m.react o).call = none ∨ (m.react o).call = m.call) := by
    rcases hd : m.disposed with _ | _
    · exact ⟨(handled_react hd o).started.1, (handled_react hd o).beginsNothing.call⟩
    · exact ⟨react_frame_of_disposed Manager.callsStarted (fun _ _ => rfl) (fun _ _ => rfl) hd o,
        .inr (react_frame_of_disposed Manager.call (fun _ _ => rfl) (fun _ _ => rfl) hd o)⟩
  rw [← hreact.1]
  cases atMostOneCall_runDeferred (m.react o) with
  | same hcall hstarted =>
    refine .inl ⟨hstarted, ?_⟩
    rw [step, hcall]
    exact hreact.2
  | begun hidle hwhy hcall hstarted =>
    have honway : ((start busName always path).run (before ++ [o])).call ≠ none := by
      rw [run_concat]
      show (m.react o).runDeferred.call ≠ none
      rw [hcall]
      simp
    exact .inr ⟨hstarted, hcall, hidle, tellsOwner_of_call honway, hwhy⟩

end run

/-! ## Proxies that are never told to ask in any case -/

/-- A running manager is asked only if nothing is known, and no command in the queue changes that.
-/
structure Undemanding (m : Manager) : Prop where
  /-- A running manager is asked only if nothing is known. -/
  off : m.alwaysIntrospect = false
  /-- No command in the queue changes that. -/
  queue : .setAlwaysIntrospect true ∉ m.queue

/-- Commands come into the queue only when they are sent. -/
theorem Handled.mem_queue {o : Occurrence} (h : Handled m o m') {c : Command} (hc : c ∈ m'.queue) :
    c ∈ m.queue ∨ o = .sent c := by
  have hof : m'.queue = m.queue → c ∈ m.queue ∨ o = .sent c := fun hqueue => .inl (hqueue ▸ hc)
  cases h with
  | sent c' =>
    rcases List.mem_append.mp hc with hold | hnew
    · exact .inl hold
    · rw [List.mem_singleton.mp hnew]
      exact .inr rfl
  | nothing _ => exact .inl hc
  | command found c' rest hqueue =>
    have hrest : c ∈ rest := by
      by_cases hstop : c' = .dispose
      · rw [hstop] at hc
        cases hc
      · obtain ⟨_, _, hstanding⟩ := standing_onCommand { m with queue := rest } found hstop
        rwa [show (onCommand _ found c').queue = rest from congrArg Standing.queue hstanding] at hc
    rw [hqueue]
    exact .inl (List.mem_cons_of_mem c' hrest)
  | owner owner hwatching => exact hof (congrArg Standing.queue (standing_onOwner m owner))
  | closed hknown => exact .inl hc
  | closedUnknown hunknown =>
    exact hof (congrArg Standing.queue (standing_onOwner { m with watching := false } none))
  | reply answer => exact hof (congrArg Standing.queue (standing_onReply m answer))
  | cacheRead result => exact hof (congrArg Standing.queue (standing_onCacheRead m result))
  | forsaken => cases hc

/-- A proxy stays undemanding unless it is told otherwise. -/
theorem Undemanding.react (h : Undemanding m) {o : Occurrence}
    (ho : o ≠ .sent (.setAlwaysIntrospect true)) : Undemanding (m.react o) := by
  rcases hd : m.disposed with _ | _
  · have hhandled := handled_react hd o
    refine ⟨?_, fun hmem => (hhandled.mem_queue hmem).elim h.queue ho⟩
    by_cases hcommand : ∃ found, o = .command found
    · obtain ⟨found, rfl⟩ := hcommand
      rw [react_command hd, takeCommand]
      split
      · exact h.off
      · rename_i c rest hqueue
        rw [alwaysIntrospect_onCommand]
        cases c with
        | setAlwaysIntrospect always =>
          cases always with
          | false => rfl
          | true => exact absurd (hqueue ▸ List.mem_cons_self) h.queue
        | _ => exact h.off
    · have hsettings := hhandled.settings fun found hfound => hcommand ⟨found, hfound⟩
      exact hsettings.2.trans h.off
  · have halways :=
      react_frame_of_disposed Manager.alwaysIntrospect (fun _ _ => rfl) (fun _ _ => rfl) hd o
    have hqueue := react_frame_of_disposed Manager.queue (fun _ _ => rfl) (fun _ _ => rfl) hd o
    exact ⟨halways.trans h.off, hqueue ▸ h.queue⟩

section run

variable {busName : String} {path : Option Path}

/-- A proxy that was never told otherwise is undemanding. -/
theorem undemanding_run {occurrences : List Occurrence}
    (hnever : .sent (.setAlwaysIntrospect true) ∉ occurrences) :
    Undemanding ((start busName false path).run occurrences) := by
  refine run_induct (fun o ho n hn => hn.react fun htold => hnever (htold ▸ ho))
    (fun n s rest _ hn => ⟨?_, ?_⟩) _ ⟨rfl, by simp [start]⟩
  · exact (runStep_frame Manager.alwaysIntrospect (fun _ _ => rfl) (fun _ _ _ => rfl)
      (fun _ _ _ _ => rfl) n s rest).trans hn.off
  · rw [runStep_frame Manager.queue (fun _ _ => rfl) (fun _ _ _ => rfl) (fun _ _ _ _ => rfl) n s
      rest]
    exact hn.queue

/-- **Once something is known no call is begun**, if the proxy was never told to ask in any case. -/
theorem callsStarted_run_of_known {before after : List Occurrence}
    (hnever : .sent (.setAlwaysIntrospect true) ∉ before ++ after)
    (hknown : ((start busName false path).run before).source ≠ .none) :
    ((start busName false path).run (before ++ after)).callsStarted =
      ((start busName false path).run before).callsStarted := by
  induction after using List.reverseRecOn with
  | nil => rw [List.append_nil]
  | append_singleton after o ih =>
    rw [← List.append_assoc] at hnever ⊢
    rw [List.mem_append, not_or] at hnever
    rw [← ih hnever.1, run_concat]
    rcases calls_step_run busName false path (before ++ after) o with ⟨hsame, _⟩ | ⟨_, _, _, _, hwhy⟩
    · exact hsame
    · have hquiet : Undemanding (((start busName false path).run (before ++ after)).react o) :=
        (undemanding_run hnever.1).react fun htold => hnever.2 (htold ▸ List.mem_singleton_self _)
      rcases hwhy with halways | hunknown
      · exact absurd (halways.symm.trans hquiet.off) (by simp)
      · have hle := source_le_run busName false path before (after ++ [o])
        rw [← List.append_assoc, run_concat, source_step] at hle
        exact absurd hunknown (InfoSource.ne_none_of_le hle hknown)

end run

end Roster.Manager
