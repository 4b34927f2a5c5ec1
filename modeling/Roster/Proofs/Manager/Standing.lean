import Roster.Proofs.Gate.Laws
import Roster.Proofs.Manager.Runs

/-!
# What calls and cache reads leave alone

The *standing* part of a proxy's state (`Standing`) is what neither the answer to a call nor the end
of a cache read changes, nor whatever the proxy does on account of them: the queue, the settings,
whether the owner is known and watched, whether the proxy has stopped, what was told to those who
asked for the manager to be started, and what was begun. Of the reactions only commands and reports
about the owner change it, each in the one place that its definition shows.
-/

namespace Roster

/-- The part of a proxy's state that calls and cache reads leave alone. -/
structure Standing where
  /-- The manager's name on the bus. -/
  busName : String
  /-- What was asked and not looked at yet. -/
  queue : List Command
  /-- Whether the owner is known. -/
  nameKnown : Bool
  /-- Whether starting the manager was asked for before the owner was known. -/
  wantsActivation : Bool
  /-- Whether a running manager is asked even if a cache file was read. -/
  alwaysIntrospect : Bool
  /-- The cache file in effect. -/
  cachePath : Option Path
  /-- Whether the owner of the name is still watched. -/
  watching : Bool
  /-- Whether the proxy has stopped. -/
  disposed : Bool
  /-- The answers to those who asked for the manager to be started. -/
  activations : List (Nat × Bool)
  /-- How many calls were begun. -/
  callsStarted : Nat
  /-- The cache files of all reads that were begun. -/
  readsStarted : List Path

namespace Manager

/-- The standing part of the state. -/
def standing (m : Manager) : Standing where
  busName := m.busName
  queue := m.queue
  nameKnown := m.nameKnown
  wantsActivation := m.wantsActivation
  alwaysIntrospect := m.alwaysIntrospect
  cachePath := m.cachePath
  watching := m.watching
  disposed := m.disposed
  activations := m.activations
  callsStarted := m.callsStarted
  readsStarted := m.readsStarted

variable (m : Manager)

/-! ## Small operations -/

/-- Telling an event leaves the standing part alone. -/
@[simp] theorem standing_emit (event : ManagerEvent) : (m.emit event).standing = m.standing := rfl

/-- Publishing leaves the standing part alone. -/
@[simp] theorem standing_publish : m.publish.standing = m.standing := rfl

/-- Making a step due leaves the standing part alone. -/
@[simp] theorem standing_schedule (s : Deferred) : (m.schedule s).standing = m.standing := by
  unfold schedule
  split <;> rfl

/-- Answering those who wait leaves the standing part alone. -/
@[simp] theorem standing_resolveReady (error : Option ManagerError) :
    (m.resolveReady error).standing = m.standing := by
  unfold resolveReady
  split
  · dsimp only
    split <;> rfl
  · rfl

/-- Ending the call on its way leaves the standing part alone. -/
@[simp] theorem standing_endIntrospection (error : Option ManagerError) :
    (m.endIntrospection error).standing = m.standing := by
  unfold endIntrospection
  rw [standing_resolveReady]
  rfl

/-! ## Calls and cache reads -/

/-- The answer to a call leaves the standing part alone. -/
@[simp] theorem standing_onReply (answer : Except BusError Json) :
    (m.onReply answer).standing = m.standing := by
  unfold onReply
  split
  · rfl
  · dsimp only
    split
    · rw [standing_endIntrospection]
      rfl
    · rw [standing_endIntrospection]
      split <;> rfl

/-- The end of a cache read leaves the standing part alone. -/
@[simp] theorem standing_onCacheRead (result : ReadEnd) :
    (m.onCacheRead result).standing = m.standing := by
  unfold onCacheRead
  split
  · rfl
  · cases result with
    | described d =>
      dsimp only
      split
      · rw [standing_resolveReady]
        rfl
      · rfl
    | failed =>
      dsimp only
      split
      · rw [standing_resolveReady]
        rfl
      · split
        · rw [standing_schedule]
          rfl
        · rfl
    | cancelled => rfl

/-- Losing the owner leaves the standing part alone. -/
@[simp] theorem standing_onNameLost : m.onNameLost.standing = m.standing := by
  have hlost : { m with running := false }.loseCall.standing = m.standing := by
    unfold loseCall
    split
    · rw [standing_endIntrospection]
      rfl
    · rfl
  unfold onNameLost
  dsimp only
  split
  · rw [standing_emit, hlost]
  · exact hlost

/-- Getting an owner leaves the standing part alone. -/
@[simp] theorem standing_onNameGained : m.onNameGained.standing = m.standing := by
  unfold onNameGained
  rw [standing_schedule]
  split
  · exact standing_onNameLost m
  · rfl

/-! ## Reports about the owner -/

/-- Of the standing part, a report about the owner changes only that the owner is known. -/
theorem standing_onOwner (owner : Option String) :
    (m.onOwner owner).standing = { m.standing with nameKnown := true } := by
  have hlearn : ∀ n : Manager,
      n.learnName.publish.standing = { n.standing with nameKnown := true } := fun n => by
    rw [standing_publish]
    unfold learnName
    split
    · rename_i hk
      unfold standing
      rw [hk]
    · dsimp only
      split
      · show { ((n.schedule .readCacheFile).schedule .introspect).standing with
          nameKnown := true } = _
        rw [standing_schedule, standing_schedule]
      · show { (n.schedule .readCacheFile).standing with nameKnown := true } = _
        rw [standing_schedule]
  unfold onOwner
  dsimp only
  rw [hlearn]
  split
  · rw [standing_onNameLost]
  · rw [standing_onNameGained]

/-- A report about the owner makes it known. -/
theorem nameKnown_onOwner (owner : Option String) : (m.onOwner owner).nameKnown = true :=
  congrArg Standing.nameKnown (standing_onOwner m owner)

/-! ## Commands -/

/-- Whoever asks while there is an outcome is answered with it. -/
theorem requestReady_of_some {outcome : Outcome ManagerError} (h : m.gate.outcome = some outcome)
    (w : Nat) : m.requestReady w = { m with answers := m.answers ++ [(w, outcome)] } := by
  unfold requestReady
  rw [Gate.enter_of_some h]

/-- Whoever asks while there is no outcome is parked; the first one starts the preparation. -/
theorem requestReady_of_none (h : m.gate.outcome = none) (w : Nat) :
    m.requestReady w =
      if m.gate.waiters = [] then
        { m with gate := { m.gate with waiters := m.gate.waiters ++ [w] } }.prepare
      else { m with gate := { m.gate with waiters := m.gate.waiters ++ [w] } } := by
  unfold requestReady
  rw [Gate.enter_of_none h]
  rcases hw : m.gate.waiters with _ | ⟨first, others⟩
  · rfl
  · rfl

/-- Making sure that someone will be answered leaves the standing part alone. -/
@[simp] theorem standing_prepare : m.prepare.standing = m.standing := by
  unfold prepare
  split
  · rfl
  · exact standing_schedule m .introspect

/-- Letting someone in at the gate leaves the standing part alone. -/
@[simp] theorem standing_requestReady (w : Nat) : (m.requestReady w).standing = m.standing := by
  rcases ho : m.gate.outcome with _ | outcome
  · rw [requestReady_of_none m ho]
    split
    · rw [standing_prepare]
      rfl
    · rfl
  · rw [requestReady_of_some m ho]
    rfl

/-- Of the standing part, a command that does not stop the proxy changes at most whether starting the
manager is asked for and was answered, and the setting that it is about. -/
theorem standing_onCommand (found : Option Path) {c : Command} (hc : c ≠ .dispose) :
    ∃ wants activations, (m.onCommand found c).standing =
      { m.standing with
        wantsActivation := wants
        alwaysIntrospect :=
          match c with
          | .setAlwaysIntrospect always => always
          | _ => m.alwaysIntrospect
        cachePath :=
          match c with
          | .setCacheFile setting => setting.resolve found
          | _ => m.cachePath
        activations := activations } := by
  cases c with
  | requestReady w => exact ⟨_, _, standing_requestReady m w⟩
  | activate w =>
    show ∃ wants activations, (m.activate w).standing = _
    unfold activate
    dsimp only
    split
    · exact ⟨_, _, rfl⟩
    · split
      · exact ⟨_, _, rfl⟩
      · refine ⟨m.wantsActivation, m.activations ++ [(w, true)], ?_⟩
        show { (m.schedule .introspect).standing with
          activations := (m.schedule .introspect).standing.activations ++ [(w, true)] } = _
        rw [standing_schedule]
        rfl
  | setAlwaysIntrospect always =>
    show ∃ wants activations, (m.setAlwaysIntrospect always).standing = _
    unfold setAlwaysIntrospect
    dsimp only
    rw [standing_publish]
    split
    · exact ⟨_, _, standing_schedule _ .introspect⟩
    · exact ⟨_, _, rfl⟩
  | setCacheFile setting =>
    show ∃ wants activations, (m.setCacheFile (setting.resolve found)).standing = _
    unfold setCacheFile
    dsimp only
    rw [standing_publish]
    split
    · exact ⟨_, _, standing_schedule _ .readCacheFile⟩
    · exact ⟨_, _, rfl⟩
  | dispose => exact absurd rfl hc

/-- Commands make no owner known. -/
theorem nameKnown_onCommand (found : Option Path) (c : Command) :
    (m.onCommand found c).nameKnown = m.nameKnown := by
  by_cases hc : c = .dispose
  · rw [hc]
    rfl
  · obtain ⟨_, _, h⟩ := standing_onCommand m found hc
    exact congrArg Standing.nameKnown h

/-- The command that sets the cache file is the only one that changes it. -/
theorem cachePath_onCommand (found : Option Path) (c : Command) :
    (m.onCommand found c).cachePath =
      match c with
      | .setCacheFile setting => setting.resolve found
      | _ => m.cachePath := by
  by_cases hc : c = .dispose
  · rw [hc]
    rfl
  · obtain ⟨_, _, h⟩ := standing_onCommand m found hc
    exact congrArg Standing.cachePath h

/-- The command that sets whether a running manager is asked is the only one that changes it. -/
theorem alwaysIntrospect_onCommand (found : Option Path) (c : Command) :
    (m.onCommand found c).alwaysIntrospect =
      match c with
      | .setAlwaysIntrospect always => always
      | _ => m.alwaysIntrospect := by
  by_cases hc : c = .dispose
  · rw [hc]
    rfl
  · obtain ⟨_, _, h⟩ := standing_onCommand m found hc
    exact congrArg Standing.alwaysIntrospect h

variable {m} in
/-- Only commands change the settings. -/
theorem Handled.settings {o : Occurrence} {m' : Manager} (h : Handled m o m')
    (ho : ∀ found, o ≠ .command found) :
    m'.cachePath = m.cachePath ∧ m'.alwaysIntrospect = m.alwaysIntrospect := by
  cases h with
  | sent c => exact ⟨rfl, rfl⟩
  | nothing hsent => exact ⟨rfl, rfl⟩
  | command found c rest hqueue => exact absurd rfl (ho found)
  | owner owner hwatching =>
    have hstanding := standing_onOwner m owner
    exact ⟨congrArg Standing.cachePath hstanding, congrArg Standing.alwaysIntrospect hstanding⟩
  | closed hknown => exact ⟨rfl, rfl⟩
  | closedUnknown hunknown =>
    have hstanding := standing_onOwner { m with watching := false } none
    exact ⟨congrArg Standing.cachePath hstanding, congrArg Standing.alwaysIntrospect hstanding⟩
  | reply answer =>
    have hstanding := standing_onReply m answer
    exact ⟨congrArg Standing.cachePath hstanding, congrArg Standing.alwaysIntrospect hstanding⟩
  | cacheRead result =>
    have hstanding := standing_onCacheRead m result
    exact ⟨congrArg Standing.cachePath hstanding, congrArg Standing.alwaysIntrospect hstanding⟩
  | forsaken => exact ⟨rfl, rfl⟩

/-! ## Steps that are due -/

/-- A step that is due makes no owner known. -/
theorem nameKnown_runStep (s : Deferred) (rest : List Deferred) :
    ({ m with deferred := rest }.runStep s).nameKnown = m.nameKnown :=
  runStep_frame _ (fun _ _ => rfl) (fun _ _ _ => rfl) (fun _ _ _ _ => rfl) m s rest

end Manager

end Roster
