import Roster.Proofs.Manager.Standing

/-!
# The gate agrees with the information held

The outcome at the gate, the source of the information and the failure that is held back are three
separate pieces of the state. Two properties tie them together.

* `Sane` holds at every moment, also in the middle of a handler: the gate is open and exclusive,
  success stands only where something is known, and failures are failures of calls.
* `Sound` holds between handlers: moreover, success stands as soon as something is known, and a
  failure is held back only while nothing is.

New information (`install`) and a failure that is taken out leave a state that is only sane;
`resolveReady` makes it sound again (`Sane.resolveReady`). So each handler keeps `Sound`, and so does
each step that is due; a proxy that has not stopped is sound after every run (`sound_run`).
-/

namespace Roster

/-- Whether an error is one that a call to the manager ended with. -/
def ManagerError.isCallError : ManagerError → Bool
  | transport _ | nameOwnerLost _ | malformedReply _ => true
  | noInformation | disposed => false

namespace Manager

/-- What holds at every moment of a proxy that has not stopped. -/
structure Sane (m : Manager) : Prop where
  /-- The gate is not closed. -/
  opened : m.gate.closed = false
  /-- Nobody is parked while there is an outcome. -/
  exclusive : m.gate.Exclusive
  /-- Success stands only where something is known. -/
  known_of_ready : m.gate.outcome = some .ready → m.source ≠ .none
  /-- A failure that stands is the failure of a call. -/
  callError_of_failed : ∀ e, m.gate.outcome = some (.failed e) → e.isCallError
  /-- A failure that is held back is the failure of a call. -/
  callError_of_held : ∀ e, m.heldFailure = some e → e.isCallError

/-- What holds between handlers of a proxy that has not stopped. -/
structure Sound (m : Manager) : Prop extends Sane m where
  /-- Success stands as soon as something is known. -/
  ready_of_known : m.source ≠ .none → m.gate.outcome = some .ready
  /-- A failure is held back only while nothing is known. -/
  unknown_of_held : m.heldFailure ≠ none → m.source = .none

variable {m : Manager}

/-! ## Small operations -/

/-- Telling an event keeps a state sane. -/
theorem Sane.emit (h : Sane m) (event : ManagerEvent) : Sane (m.emit event) := { h with }

/-- Telling an event keeps a state sound. -/
theorem Sound.emit (h : Sound m) (event : ManagerEvent) : Sound (m.emit event) := { h with }

/-- Publishing keeps a state sound. -/
theorem Sound.publish (h : Sound m) : Sound m.publish := { h with }

/-- Making a step due keeps a state sound. -/
theorem Sound.schedule (h : Sound m) (s : Deferred) : Sound (m.schedule s) := by
  unfold Manager.schedule
  split
  · exact h
  · exact { h with }

/-- Taking over new information keeps a state sane. -/
theorem Sane.install (h : Sane m) {source : InfoSource} (hsource : source ≠ .none)
    (d : Description) : Sane (m.install source d) where
  opened := h.opened
  exclusive := h.exclusive
  known_of_ready hr := by
    have hm := h.known_of_ready hr
    show m.source.merge source ≠ .none
    unfold InfoSource.merge
    split
    · exact hsource
    · exact hm
  callError_of_failed := h.callError_of_failed
  callError_of_held := h.callError_of_held

/-- Success at the gate of a sane proxy that knows something makes it sound. -/
theorem Sane.openGate_ready (h : Sane m) (hknown : m.source ≠ .none) (hheld : m.heldFailure = none) :
    Sound (m.openGate .ready) where
  opened := by
    show (m.gate.resolve .ready).1.closed = false
    rw [Gate.resolve_of_open h.opened]
    exact h.opened
  exclusive := h.exclusive.resolve .ready
  known_of_ready _ := hknown
  callError_of_failed e he := by
    change (m.gate.resolve .ready).1.outcome = _ at he
    rw [Gate.resolve_of_open h.opened] at he
    cases he
  callError_of_held := h.callError_of_held
  ready_of_known _ := by
    show (m.gate.resolve .ready).1.outcome = _
    rw [Gate.resolve_of_open h.opened]
  unknown_of_held hne := absurd hheld hne

/-- The failure of a call at the gate of a sane proxy that knows nothing makes it sound. -/
theorem Sane.openGate_failed (h : Sane m) (hunknown : m.source = .none) {e : ManagerError}
    (he : e.isCallError) : Sound (m.openGate (.failed e)) where
  opened := by
    show (m.gate.resolve (.failed e)).1.closed = false
    rw [Gate.resolve_of_open h.opened]
    exact h.opened
  exclusive := h.exclusive.resolve (.failed e)
  known_of_ready hr := by
    change (m.gate.resolve (.failed e)).1.outcome = _ at hr
    rw [Gate.resolve_of_open h.opened] at hr
    cases hr
  callError_of_failed e' he' := by
    change (m.gate.resolve (.failed e)).1.outcome = _ at he'
    rw [Gate.resolve_of_open h.opened] at he'
    cases he'
    exact he
  callError_of_held := h.callError_of_held
  ready_of_known hne := absurd hunknown hne
  unknown_of_held _ := hunknown

/-- Answering those who wait makes a sane state sound, if nothing is known only after a call
failed. -/
theorem Sane.resolveReady (h : Sane m) {error : Option ManagerError}
    (herror : m.source = .none → ∃ e, error = some e ∧ e.isCallError) :
    Sound (m.resolveReady error) := by
  unfold Manager.resolveReady
  split
  · rename_i hunknown
    obtain ⟨e, rfl, he⟩ := herror hunknown
    have hnot : m.gate.outcome ≠ some .ready := fun hr => h.known_of_ready hr hunknown
    split
    · exact { h with
        callError_of_held := fun e' he' => by
          cases he'
          exact he
        ready_of_known := fun hne => absurd hunknown hne
        unknown_of_held := fun _ => hunknown }
    · exact h.openGate_failed hunknown he
  · rename_i hknown
    have hsane : Sane { m with heldFailure := none } :=
      { h with callError_of_held := fun e he => by cases he }
    exact hsane.openGate_ready hknown rfl

/-- Ending the call on its way makes a sane state sound, if nothing is known only after the call
failed. -/
theorem Sane.endIntrospection (h : Sane m) {error : Option ManagerError}
    (herror : m.source = .none → ∃ e, error = some e ∧ e.isCallError) :
    Sound (m.endIntrospection error) := by
  have hsane : Sane ({ m with call := none }.emit (.gotInfo m.source)) := { h with }
  exact hsane.resolveReady herror

/-! ## Answers to calls and ends of cache reads -/

/-- What cannot be taken from the answer to a call is the failure of that call. -/
theorem isCallError_of_decode {answer : Except BusError Json} {e : ManagerError}
    (h : decode answer = .error e) : e.isCallError := by
  unfold decode at h
  split at h
  · cases h
    rfl
  · split at h <;> cases h
    rfl

/-- Information from the manager itself is known after it was taken over. -/
theorem source_install_live (m : Manager) (d : Description) : (m.install .live d).source = .live := rfl

/-- Taking the answer to a call keeps a state sound. -/
theorem Sound.onReply (h : Sound m) (answer : Except BusError Json) : Sound (m.onReply answer) := by
  unfold Manager.onReply
  split
  · exact h
  · have hsane : Sane { m with call := none } := { h with }
    rcases hd : decode answer with e | d
    · have he := isCallError_of_decode hd
      dsimp only
      split
      · exact (hsane.emit .exited).endIntrospection fun _ => ⟨e, rfl, he⟩
      · exact hsane.endIntrospection fun _ => ⟨e, rfl, he⟩
    · refine (hsane.install (by decide) d).endIntrospection fun hnone => ?_
      rw [source_install_live] at hnone
      cases hnone

/-- Taking the end of a cache read keeps a state sound. -/
theorem Sound.onCacheRead (h : Sound m) (result : ReadEnd) : Sound (m.onCacheRead result) := by
  unfold Manager.onCacheRead
  split
  · exact h
  · have hsound : Sound { m with read := none } := { h with }
    cases result with
    | described d =>
      dsimp only
      split
      · rename_i hfile
        have hsome : InfoSource.file ≠ .none := by decide
        have hsane := (hsound.toSane.install hsome d).emit
          (.gotInfo ({ m with read := none }.install .file d).source)
        refine hsane.resolveReady fun hnone => ?_
        change m.source.merge .file = .none at hnone
        rw [InfoSource.merge, if_pos hfile] at hnone
        cases hnone
      · exact hsound
    | failed =>
      dsimp only
      split
      · rename_i e hheld
        have hsane : Sane { m with read := none, heldFailure := none } :=
          { h with callError_of_held := fun e he => by cases he }
        exact hsane.resolveReady fun _ => ⟨e, rfl, h.callError_of_held e hheld⟩
      · split
        · exact hsound.schedule .introspect
        · exact hsound
    | cancelled => exact hsound

/-! ## Reports about the owner -/

/-- Losing the call on its way keeps a state sound. -/
theorem Sound.loseCall (h : Sound m) : Sound m.loseCall := by
  unfold Manager.loseCall
  split
  · exact h.toSane.endIntrospection fun _ => ⟨_, rfl, rfl⟩
  · exact h

/-- Losing the owner keeps a state sound. -/
theorem Sound.onNameLost (h : Sound m) : Sound m.onNameLost := by
  have hidle : Sound { m with running := false } := { h with }
  unfold Manager.onNameLost
  dsimp only
  split
  · exact hidle.loseCall.emit .exited
  · exact hidle.loseCall

/-- Getting an owner keeps a state sound. -/
theorem Sound.onNameGained (h : Sound m) : Sound m.onNameGained := by
  have hfree : Sound (if m.running then m.onNameLost else m) := by
    split
    · exact h.onNameLost
    · exact h
  have hrun : Sound { (if m.running then m.onNameLost else m) with running := true } :=
    { hfree with }
  exact (hrun.emit .activated).schedule .introspect

/-- Learning the owner for the first time keeps a state sound. -/
theorem Sound.learnName (h : Sound m) : Sound m.learnName := by
  unfold Manager.learnName
  split
  · exact h
  · dsimp only
    split
    · exact { (h.schedule .readCacheFile).schedule .introspect with }
    · exact { h.schedule .readCacheFile with }

/-- A report about the owner keeps a state sound. -/
theorem Sound.onOwner (h : Sound m) (owner : Option String) : Sound (m.onOwner owner) := by
  unfold Manager.onOwner
  dsimp only
  split
  · exact h.onNameLost.learnName.publish
  · exact h.onNameGained.learnName.publish

/-! ## Commands -/

/-- Making sure that someone will be answered keeps a state sound. -/
theorem Sound.prepare (h : Sound m) : Sound m.prepare := by
  unfold Manager.prepare
  split
  · exact h
  · exact h.schedule .introspect

/-- Letting someone in at the gate keeps a state sound. -/
theorem Sound.requestReady (h : Sound m) (w : Nat) : Sound (m.requestReady w) := by
  rcases ho : m.gate.outcome with _ | outcome
  · have hparked : Sound { m with gate := { m.gate with waiters := m.gate.waiters ++ [w] } } :=
      { h with exclusive := fun hne => absurd ho hne }
    rw [requestReady_of_none m ho]
    split
    · exact hparked.prepare
    · exact hparked
  · rw [requestReady_of_some m ho]
    exact { h with }

/-- Asking for the manager to be started keeps a state sound. -/
theorem Sound.activate (h : Sound m) (w : Nat) : Sound (m.activate w) := by
  unfold Manager.activate
  dsimp only
  split
  · exact { h with }
  · split
    · exact { h with }
    · exact { h.schedule .introspect with }

/-- Setting whether a running manager is asked keeps a state sound. -/
theorem Sound.setAlwaysIntrospect (h : Sound m) (always : Bool) :
    Sound (m.setAlwaysIntrospect always) := by
  have hset : Sound { m with alwaysIntrospect := always } := { h with }
  unfold Manager.setAlwaysIntrospect
  dsimp only
  split
  · exact (hset.schedule .introspect).publish
  · exact hset.publish

/-- Setting the cache file keeps a state sound. -/
theorem Sound.setCacheFile (h : Sound m) (path : Option Path) : Sound (m.setCacheFile path) := by
  have hset : Sound { m with cachePath := path } := { h with }
  unfold Manager.setCacheFile
  dsimp only
  split
  · have hdropped : Sound { m with cachePath := path, read := none } := { h with }
    exact (hdropped.schedule .readCacheFile).publish
  · exact hset.publish

/-- A command keeps a state sound, unless it stops the proxy. -/
theorem Sound.onCommand (h : Sound m) (found : Option Path) {c : Command}
    (hd : (m.onCommand found c).disposed = false) : Sound (m.onCommand found c) := by
  cases c with
  | requestReady w => exact h.requestReady w
  | activate w => exact h.activate w
  | setAlwaysIntrospect always => exact h.setAlwaysIntrospect always
  | setCacheFile setting => exact h.setCacheFile _
  | dispose => cases hd

/-! ## Reactions, steps that are due, and runs -/

/-- A reaction keeps a state sound, unless it stops the proxy. -/
theorem Sound.handled (h : Sound m) {o : Occurrence} {m' : Manager} (hm' : Handled m o m')
    (hd : m'.disposed = false) : Sound m' := by
  cases hm' with
  | sent c => exact { h with }
  | nothing ho => exact h
  | command found c rest hqueue =>
    have hrest : Sound { m with queue := rest } := { h with }
    exact hrest.onCommand found hd
  | owner owner hwatching => exact h.onOwner owner
  | closed hknown => exact { h with }
  | closedUnknown hunknown =>
    have hclosed : Sound { m with watching := false } := { h with }
    exact hclosed.onOwner none
  | reply answer => exact h.onReply answer
  | cacheRead result => exact h.onCacheRead result
  | forsaken => cases hd

/-- Whatever happens keeps a state sound, unless it stops the proxy. -/
theorem Sound.react (h : Sound m) {o : Occurrence} (hlive : m.disposed = false)
    (hd : (m.react o).disposed = false) : Sound (m.react o) :=
  h.handled (handled_react hlive o) hd

/-- Beginning to read the cache file keeps a state sound. -/
theorem Sound.readCacheFile (h : Sound m) : Sound m.readCacheFile := by
  unfold Manager.readCacheFile
  split
  · exact h
  · split
    · exact h.schedule .introspect
    · exact { h with }

/-- Beginning a call keeps a state sound: it makes the gate forget a failure, not a success. -/
theorem Sound.introspect (h : Sound m) : Sound m.introspect := by
  unfold Manager.introspect
  split
  · exact h
  · by_cases hready : m.gate.outcome = some .ready
    · rw [Gate.reopen_of_ready hready]
      exact { h with }
    · have hnone : m.gate.reopen.outcome = none := Gate.outcome_reopen_of_ne_ready h.opened hready
      exact { h with
        opened := (Gate.closed_reopen m.gate).trans h.opened
        exclusive := h.exclusive.reopen
        known_of_ready := fun hr => by
          rw [hnone] at hr
          cases hr
        callError_of_failed := fun e he => by
          rw [hnone] at he
          cases he
        ready_of_known := fun hknown => absurd (h.ready_of_known hknown) hready }

/-- A step that is due keeps a state sound. -/
theorem Sound.runStep (h : Sound m) (s : Deferred) (rest : List Deferred) :
    Sound ({ m with deferred := rest }.runStep s) := by
  have hrest : Sound { m with deferred := rest } := { h with }
  cases s with
  | readCacheFile => exact hrest.readCacheFile
  | introspect => exact hrest.introspect

/-- Beginning to read the cache file leaves the gate and the call on its way alone. -/
theorem readCacheFile_frame (m : Manager) :
    m.readCacheFile.gate = m.gate ∧ m.readCacheFile.call = m.call := by
  unfold Manager.readCacheFile
  split
  · exact ⟨rfl, rfl⟩
  · split
    · unfold Manager.schedule
      split <;> exact ⟨rfl, rfl⟩
    · exact ⟨rfl, rfl⟩

/-- A step that calls the manager changes nothing, or begins a call where none is on its way and there
is something to learn, and makes the gate forget a failure. -/
theorem introspect_cases (m : Manager) :
    m.introspect = m ∨
      (m.call = none ∧ (m.alwaysIntrospect = true ∨ m.source = .none)) ∧
        m.introspect =
          { m with
            gate := m.gate.reopen
            callsStarted := m.callsStarted + 1
            call := some (m.callsStarted + 1) } := by
  unfold Manager.introspect
  split
  · exact .inl rfl
  · rename_i hneeded
    refine .inr ⟨⟨Option.not_isSome_iff_eq_none.mp fun hcall => hneeded (.inl hcall), ?_⟩, rfl⟩
    rcases halways : m.alwaysIntrospect with _ | _
    · exact .inr (Decidable.not_not.mp fun hknown => hneeded (.inr ⟨halways, hknown⟩))
    · exact .inl rfl

/-- A failure that stands after the steps that were due stood before them, and they began no call:
that would have made the gate forget the failure. -/
theorem Sound.failed_of_runDeferred (h : Sound m) {e : ManagerError}
    (hfailed : m.runDeferred.gate.outcome = some (.failed e)) :
    m.gate.outcome = some (.failed e) ∧ m.runDeferred.call = m.call := by
  refine (runDeferred_induct
    (P := fun n => Sound n ∧ (n.gate.outcome = some (.failed e) →
      m.gate.outcome = some (.failed e) ∧ n.call = m.call))
    (fun n s rest _ hn => ⟨hn.1.runStep s rest, fun he => ?_⟩)
    m ⟨h, fun he => ⟨he, rfl⟩⟩).2 hfailed
  cases s with
  | readCacheFile =>
    obtain ⟨hgate, hcall⟩ := readCacheFile_frame { n with deferred := rest }
    change (Manager.readCacheFile _).gate.outcome = _ at he
    rw [hgate] at he
    obtain ⟨hfailed', hcall'⟩ := hn.2 he
    exact ⟨hfailed', hcall.trans hcall'⟩
  | introspect =>
    change (Manager.introspect _).gate.outcome = _ at he
    show _ ∧ (Manager.introspect _).call = _
    rcases introspect_cases { n with deferred := rest } with hsame | ⟨_, hbegun⟩
    · rw [hsame] at he ⊢
      exact hn.2 he
    · rw [hbegun] at he
      change n.gate.reopen.outcome = _ at he
      by_cases hready : n.gate.outcome = some .ready
      · rw [Gate.reopen_of_ready hready, hready] at he
        cases he
      · rw [Gate.outcome_reopen_of_ne_ready hn.1.opened hready] at he
        cases he

/-- A proxy of which nothing is known yet is sound. -/
theorem sound_start (busName : String) (always : Bool) (path : Option Path) :
    Sound (start busName always path) where
  opened := rfl
  exclusive hne := absurd rfl hne
  known_of_ready hr := by cases hr
  callError_of_failed e he := by cases he
  callError_of_held e he := by cases he
  ready_of_known hne := absurd rfl hne
  unknown_of_held hne := absurd rfl hne

/-- **A proxy that has not stopped is sound after every run.** -/
theorem sound_run {busName : String} {always : Bool} {path : Option Path}
    {occurrences : List Occurrence}
    (hd : ((start busName always path).run occurrences).disposed = false) :
    Sound ((start busName always path).run occurrences) :=
  live_run_induct (fun _ _ _ hlive hd h => h.react hlive hd) (fun _ s rest _ h => h.runStep s rest)
    (sound_start busName always path) hd

end Manager

end Roster
