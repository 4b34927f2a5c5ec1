import Roster.Proofs.Manager.Knowledge

/-!
# The events mirror the state

Whoever has seen all events of a proxy knows whether the manager runs and where the information about
it comes from (`Mirrors`): the last event about the manager's presence says the one, the last event
about information says the other. And everyone can see the present state.

* **Each event moves the mirror** together with the state: `Mirrors.gotInfo`, `Mirrors.exited` and
  `Mirrors.activated`. An activation is told only where the manager does not run, so that two of them
  never follow each other.
* **What shows of a handler** is said by one equation for each (`outlook_endIntrospection`,
  `outlook_onNameLost`, …): the events that it tells, what it changes, and whether it publishes that.
* **Between handlers** the mirror is true and everyone sees the present state (`Faithful`), after
  every run (`faithful_run`). In the middle of a handler that hears of the owner neither need be.
-/

namespace Roster

namespace ManagerEvent

/-- Whether the event is about the manager's presence. -/
def isPresence : ManagerEvent → Bool
  | activated | exited => true
  | gotInfo _ => false

/-- The source of information that the event tells, if it is about information. -/
def source? : ManagerEvent → Option InfoSource
  | gotInfo source => some source
  | activated | exited => none

end ManagerEvent

namespace Manager

/-! ## What an observer knows -/

/-- Whether the last event about the manager's presence is that it was activated. -/
def SeenRunning (events : List ManagerEvent) : Prop :=
  (events.filter ManagerEvent.isPresence).getLast? = some .activated

/-- The source that the last event about information tells. -/
def seenSource (events : List ManagerEvent) : InfoSource :=
  ((events.filterMap ManagerEvent.source?).getLast?).getD .none

/-- The events agree with whether the manager runs, and with the source of information. -/
structure Mirrors (running : Bool) (source : InfoSource) (events : List ManagerEvent) : Prop where
  /-- The last event about the manager's presence says whether it runs. -/
  running : running = true ↔ SeenRunning events
  /-- The last event about information says where it comes from. -/
  source : source = seenSource events
  /-- Between two activations the manager exited. -/
  between : ∀ first middle last,
    events = first ++ .activated :: middle ++ .activated :: last → .exited ∈ middle

namespace Mirrors

variable {running : Bool} {source : InfoSource} {events : List ManagerEvent}

/-- Where no exit was told after an activation, the manager is seen running. -/
theorem seenRunning_of_not_exited (first : List ManagerEvent) {middle : List ManagerEvent}
    (hmissing : .exited ∉ middle) : SeenRunning (first ++ .activated :: middle) := by
  have hmiddle : ∀ e ∈ middle.filter ManagerEvent.isPresence, e = .activated := by
    intro e hmem
    obtain ⟨he, hpresence⟩ := List.mem_filter.mp hmem
    cases e with
    | activated => rfl
    | exited => exact absurd he hmissing
    | gotInfo source => cases hpresence
  rw [SeenRunning, List.filter_append, List.filter_cons_of_pos rfl, List.getLast?_append,
    List.getLast?_cons]
  rcases hlast : (middle.filter ManagerEvent.isPresence).getLast? with _ | e
  · rfl
  · rw [hmiddle e (List.mem_of_getLast? hlast)]
    rfl

/-- One more event is no activation that follows another one without an exit. -/
theorem between_concat (h : Mirrors running source events) {event : ManagerEvent}
    (hevent : event = .activated → running = false) (first middle last : List ManagerEvent)
    (hsplit : events ++ [event] = first ++ .activated :: middle ++ .activated :: last) :
    .exited ∈ middle := by
  rcases List.eq_nil_or_concat last with rfl | ⟨last, e, rfl⟩
  · obtain ⟨hevents, he⟩ := List.append_inj' hsplit rfl
    rw [List.singleton_inj] at he
    by_contra hmissing
    have hseen : SeenRunning events := by
      rw [hevents]
      exact seenRunning_of_not_exited first hmissing
    exact absurd ((hevent he).symm.trans (h.running.mpr hseen)) Bool.false_ne_true
  · rw [List.concat_eq_append, ← List.cons_append, ← List.append_assoc] at hsplit
    exact h.between first middle last (List.append_inj' hsplit rfl).1

/-- Information is told with its source, whatever the source was before. -/
theorem gotInfo (h : Mirrors running source events) (source' : InfoSource) :
    Mirrors running source' (events ++ [.gotInfo source']) where
  running := by
    have hpresence : (events ++ [ManagerEvent.gotInfo source']).filter ManagerEvent.isPresence =
        events.filter ManagerEvent.isPresence := by simp [ManagerEvent.isPresence]
    rw [SeenRunning, hpresence]
    exact h.running
  source := by simp [seenSource, ManagerEvent.source?]
  between := h.between_concat (by simp)

/-- When an exit is told, the manager does not run. -/
theorem exited (h : Mirrors running source events) :
    Mirrors false source (events ++ [.exited]) where
  running := by simp [SeenRunning, ManagerEvent.isPresence]
  source := by simpa [seenSource, ManagerEvent.source?] using h.source
  between := h.between_concat (by simp)

/-- When an activation is told, the manager runs, and it did not before. -/
theorem activated (h : Mirrors false source events) :
    Mirrors true source (events ++ [.activated]) where
  running := by simp [SeenRunning, ManagerEvent.isPresence]
  source := by simpa [seenSource, ManagerEvent.source?] using h.source
  between := h.between_concat fun _ => rfl

end Mirrors

/-! ## What shows of a proxy -/

/-- The present state as everyone should see it. -/
def present (m : Manager) : Snapshot where
  running := m.running
  source := m.source
  protocols := m.protocols
  interfaces := m.interfaces
  cacheFile := m.cachePath
  alwaysIntrospect := m.alwaysIntrospect

/-- What shows of a proxy, and what should show. -/
structure Outlook where
  /-- The events. -/
  events : List ManagerEvent
  /-- The state as everyone should see it. -/
  present : Snapshot
  /-- The state as everyone sees it. -/
  snapshot : Snapshot

/-- What shows of a proxy. -/
def outlook (m : Manager) : Outlook := ⟨m.events, m.present, m.snapshot⟩

/-- The events agree with the state, and everyone sees the present state. -/
structure Faithful (v : Outlook) : Prop where
  /-- The events agree with the state. -/
  mirrors : Mirrors v.present.running v.present.source v.events
  /-- Everyone sees the present state. -/
  current : v.snapshot = v.present

/-- After the present state was published, everyone sees it. -/
theorem faithful_publish {m : Manager} (h : Mirrors m.running m.source m.events) :
    Faithful m.publish.outlook := ⟨h, rfl⟩

section handlers

variable (m : Manager)

/-! ## Handlers that tell nothing -/

/-- Making a step due does not show. -/
@[simp] theorem outlook_schedule (s : Deferred) : (m.schedule s).outlook = m.outlook := by
  unfold schedule
  split <;> rfl

/-- After a step was made due and the present state was published, everyone sees it. -/
theorem faithful_publish_schedule {m : Manager} (h : Mirrors m.running m.source m.events)
    (s : Deferred) : Faithful (m.schedule s).publish.outlook := by
  have hsame := outlook_schedule m s
  apply faithful_publish
  rw [show (m.schedule s).running = m.running from congrArg (·.present.running) hsame,
    show (m.schedule s).source = m.source from congrArg (·.present.source) hsame,
    show (m.schedule s).events = m.events from congrArg Outlook.events hsame]
  exact h

/-- Answering those who wait does not show. -/
@[simp] theorem outlook_resolveReady (error : Option ManagerError) :
    (m.resolveReady error).outlook = m.outlook := by
  unfold resolveReady
  split
  · dsimp only
    split <;> rfl
  · rfl

/-- Letting someone in at the gate does not show. -/
@[simp] theorem outlook_requestReady (w : Nat) : (m.requestReady w).outlook = m.outlook := by
  have hprepare : ∀ n : Manager, n.prepare.outlook = n.outlook := by
    intro n
    unfold prepare
    split
    · rfl
    · exact outlook_schedule n .introspect
  rcases ho : m.gate.outcome with _ | outcome
  · rw [requestReady_of_none m ho]
    split
    · rw [hprepare]
      rfl
    · rfl
  · rw [requestReady_of_some m ho]
    rfl

/-- Asking for the manager to be started does not show. -/
@[simp] theorem outlook_activate (w : Nat) : (m.activate w).outlook = m.outlook := by
  unfold activate
  dsimp only
  split
  · rfl
  · split
    · rfl
    · exact outlook_schedule m .introspect

/-- Learning the owner for the first time does not show. -/
@[simp] theorem outlook_learnName : m.learnName.outlook = m.outlook := by
  unfold learnName
  split
  · rfl
  · dsimp only
    split
    · exact (outlook_schedule _ .introspect).trans (outlook_schedule m .readCacheFile)
    · exact outlook_schedule m .readCacheFile

/-! ## Handlers that tell something -/

/-- The end of a call is told with the source of what is known then. -/
theorem outlook_endIntrospection (error : Option ManagerError) :
    (m.endIntrospection error).outlook =
      { m.outlook with events := m.events ++ [.gotInfo m.source] } := by
  unfold endIntrospection
  rw [outlook_resolveReady]
  rfl

/-- The loss of the owner is told if the owner is known, and before it the end of the call on its
way. It is not published yet. -/
theorem outlook_onNameLost :
    m.onNameLost.outlook =
      { m.outlook with
        events := m.events ++ (if m.call.isSome then [.gotInfo m.source] else []) ++
          if m.nameKnown then [.exited] else []
        present := { m.present with running := false } } := by
  have hlost : { m with running := false }.loseCall.outlook =
      { m.outlook with
        events := m.events ++ if m.call.isSome then [.gotInfo m.source] else []
        present := { m.present with running := false } } := by
    unfold loseCall
    by_cases hcall : m.call.isSome
    · rw [if_pos hcall, if_pos hcall, outlook_endIntrospection]
      rfl
    · rw [if_neg hcall, if_neg hcall, List.append_nil]
      rfl
  have hknown : { m with running := false }.loseCall.nameKnown = m.nameKnown := by
    unfold loseCall
    split
    · exact congrArg Standing.nameKnown (standing_endIntrospection { m with running := false } _)
    · rfl
  unfold onNameLost
  dsimp only
  rw [hknown]
  split
  · exact congrArg (fun v : Outlook => { v with events := v.events ++ [ManagerEvent.exited] }) hlost
  · rw [List.append_nil]
    exact hlost

end handlers

variable {m : Manager}

/-- The loss of the owner is told if the owner is known; else the manager was not seen to run. -/
theorem Mirrors.onNameLost (h : Mirrors m.running m.source m.events)
    (hbegin : m.nameKnown = false → m.running = false) :
    Mirrors false m.onNameLost.source m.onNameLost.events := by
  have hended : Mirrors m.running m.source
      (m.events ++ if m.call.isSome then [.gotInfo m.source] else []) := by
    split
    · exact h.gotInfo m.source
    · rw [List.append_nil]
      exact h
  have hlost := outlook_onNameLost m
  rw [show m.onNameLost.source = m.source from congrArg (·.present.source) hlost,
    show m.onNameLost.events = _ from congrArg Outlook.events hlost]
  dsimp only
  rcases hk : m.nameKnown with _ | _
  · rw [if_neg Bool.false_ne_true, List.append_nil, ← hbegin hk]
    exact hended
  · exact hended.exited

/-- A new owner is told after the loss of the one before. -/
theorem Mirrors.onNameGained (h : Mirrors m.running m.source m.events)
    (hbegin : m.nameKnown = false → m.running = false) :
    Mirrors m.onNameGained.running m.onNameGained.source m.onNameGained.events := by
  have hfree : Mirrors false (if m.running then m.onNameLost else m).source
      (if m.running then m.onNameLost else m).events := by
    split
    · exact h.onNameLost hbegin
    · rename_i hrunning
      rwa [Bool.eq_false_iff.mpr hrunning] at h
  have hdue := outlook_schedule ({ (if m.running then m.onNameLost else m) with
    running := true }.emit .activated) .introspect
  rw [show m.onNameGained.running = true from congrArg (·.present.running) hdue,
    show m.onNameGained.source = _ from congrArg (·.present.source) hdue,
    show m.onNameGained.events = _ from congrArg Outlook.events hdue]
  exact hfree.activated

/-! ## Reactions -/

namespace Faithful

/-- The answer to a call is told. -/
theorem onReply (h : Faithful m.outlook) (answer : Except BusError Json) :
    Faithful (m.onReply answer).outlook := by
  by_cases hcall : m.call = none
  · rw [onReply_of_idle hcall]
    exact h
  rcases hdecode : decode answer with e | d
  · rw [onReply_of_error hcall hdecode, outlook_endIntrospection]
    refine ⟨?_, ?_⟩
    · split
      · rename_i hstarting
        have hexit : Mirrors m.running m.source (m.events ++ [.exited]) := by
          rw [hstarting.2]
          exact h.mirrors.exited
        exact hexit.gotInfo m.source
      · exact h.mirrors.gotInfo m.source
    · split <;> exact h.current
  · rw [onReply_of_ok hcall hdecode, outlook_endIntrospection]
    exact ⟨h.mirrors.gotInfo .live, rfl⟩

/-- The end of a cache read is told if it brings news. -/
theorem onCacheRead (h : Faithful m.outlook) (result : ReadEnd) :
    Faithful (m.onCacheRead result).outlook := by
  by_cases hread : m.read = none
  · rw [onCacheRead_of_idle hread]
    exact h
  cases result with
  | described d =>
    by_cases hunknown : m.source = .none
    · have hmerge : m.source.merge .file = .file := by
        rw [hunknown]
        rfl
      rw [onCacheRead_described hread hunknown, outlook_resolveReady]
      refine ⟨?_, rfl⟩
      show Mirrors m.running (m.source.merge .file) (m.events ++ [.gotInfo .file])
      rw [hmerge]
      exact h.mirrors.gotInfo .file
    · rw [onCacheRead_superseded hread hunknown]
      exact h
  | failed =>
    rcases hheld : m.heldFailure with _ | e
    · rw [onCacheRead_failed hread hheld]
      split
      · rw [outlook_schedule]
        exact h
      · exact h
    · rw [onCacheRead_released hread hheld, outlook_resolveReady]
      exact h
  | cancelled =>
    rw [onCacheRead_cancelled hread]
    exact h

/-- What a report says about the owner is told and published. -/
theorem onOwner (h : Mirrors m.running m.source m.events)
    (hbegin : m.nameKnown = false → m.running = false) (owner : Option String) :
    Faithful (m.onOwner owner).outlook := by
  have hlearn : ∀ n : Manager, Mirrors n.running n.source n.events →
      Faithful n.learnName.publish.outlook := by
    intro n hn
    have hsame := outlook_learnName n
    apply faithful_publish
    rw [show n.learnName.running = n.running from congrArg (·.present.running) hsame,
      show n.learnName.source = n.source from congrArg (·.present.source) hsame,
      show n.learnName.events = n.events from congrArg Outlook.events hsame]
    exact hn
  unfold Manager.onOwner
  dsimp only
  split
  · have hrunning : m.onNameLost.running = false :=
      congrArg (·.present.running) (outlook_onNameLost m)
    refine hlearn _ ?_
    rw [hrunning]
    exact h.onNameLost hbegin
  · exact hlearn _ (h.onNameGained hbegin)

/-- A command publishes what it changes. -/
theorem onCommand (h : Faithful m.outlook) (found : Option Path) (c : Command) :
    Faithful (m.onCommand found c).outlook := by
  cases c with
  | requestReady w =>
    show Faithful (m.requestReady w).outlook
    rw [outlook_requestReady]
    exact h
  | activate w =>
    show Faithful (m.activate w).outlook
    rw [outlook_activate]
    exact h
  | setAlwaysIntrospect always =>
    show Faithful (m.setAlwaysIntrospect always).outlook
    unfold setAlwaysIntrospect
    dsimp only
    split
    · exact faithful_publish_schedule (m := { m with alwaysIntrospect := always }) h.mirrors
        .introspect
    · exact faithful_publish h.mirrors
  | setCacheFile setting =>
    show Faithful (m.setCacheFile (setting.resolve found)).outlook
    unfold setCacheFile
    dsimp only
    split
    · exact faithful_publish_schedule
        (m := { m with cachePath := setting.resolve found, read := none }) h.mirrors .readCacheFile
    · exact faithful_publish h.mirrors
  | dispose => exact h

/-- What a proxy does when something happens is told and published. -/
theorem handled (h : Faithful m.outlook) (hbegin : m.nameKnown = false → m.running = false)
    {o : Occurrence} {m' : Manager} (hm' : Handled m o m') : Faithful m'.outlook := by
  cases hm' with
  | sent c => exact h
  | nothing ho => exact h
  | command found c rest hqueue => exact onCommand (m := { m with queue := rest }) h found c
  | owner owner hwatching => exact onOwner h.mirrors hbegin owner
  | closed hknown => exact h
  | closedUnknown hunknown => exact onOwner (m := { m with watching := false }) h.mirrors hbegin none
  | reply answer => exact h.onReply answer
  | cacheRead result => exact h.onCacheRead result
  | forsaken => exact h

end Faithful

/-! ## Runs -/

section run

variable (busName : String) (always : Bool) (path : Option Path)

/-- **The events agree with the state and everyone sees the present state**, after every run. -/
theorem faithful_run (occurrences : List Occurrence) :
    Faithful ((start busName always path).run occurrences).outlook := by
  induction occurrences using List.reverseRecOn with
  | nil =>
    refine ⟨⟨?_, rfl, ?_⟩, rfl⟩
    · constructor
      · intro hrunning
        cases hrunning
      · intro hseen
        cases hseen
    · intro first middle last hsplit
      simp [outlook, start, run] at hsplit
  | append_singleton before o ih =>
    have hdue : ∀ n : Manager, n.runDeferred.outlook = n.outlook :=
      runDeferred_frame outlook
        (runStep_frame _ (fun _ _ => rfl) (fun _ _ _ => rfl) (fun _ _ _ _ => rfl))
    rw [run_concat, step, hdue]
    rcases hd : ((start busName always path).run before).disposed with _ | _
    · exact ih.handled (fun hk => (unbegun_run hd hk).running) (handled_react hd o)
    · rw [react_frame_of_disposed outlook (fun _ _ => rfl) (fun _ _ => rfl) hd o]
      exact ih

/-- **Events mirror the snapshot.** After every run, whoever saw all events knows what everyone may
see: the manager runs if and only if the last event about its presence is that it was activated, what
is known comes from where the last event about information says, or from nowhere if there was none,
and everyone sees the present state as a whole. Between two activations the manager exited. -/
theorem events_mirror_snapshot_run (occurrences : List Occurrence) :
    let m := (start busName always path).run occurrences
    (m.running = true ↔ (m.events.filter ManagerEvent.isPresence).getLast? = some .activated) ∧
      m.source = ((m.events.filterMap ManagerEvent.source?).getLast?).getD .none ∧
      m.snapshot =
        { running := m.running
          source := m.source
          protocols := m.protocols
          interfaces := m.interfaces
          cacheFile := m.cachePath
          alwaysIntrospect := m.alwaysIntrospect } ∧
      ∀ first middle last, m.events = first ++ .activated :: middle ++ .activated :: last →
        .exited ∈ middle := by
  intro m
  have h := faithful_run busName always path occurrences
  exact ⟨h.mirrors.running, h.mirrors.source, h.current, h.mirrors.between⟩

end run

end Manager

end Roster
