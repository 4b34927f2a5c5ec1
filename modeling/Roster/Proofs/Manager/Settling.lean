import Roster.Proofs.Manager.Arrivals

/-!
# What happens to those who are parked

The ways in which a handler can treat those who are parked at the gate.

* `Cause m o e`: the three ways in which a failure can reach them when `o` happens: the answer to the
  call on its way is a failure, the manager leaves during the call, or a cache read fails for which
  the failure was held back.
* `Settles`: they are left alone, or all of them are answered at once, with success or with a
  failure. A failure is told only when no cache read is on its way or due.

Every handler settles, but for the two commands that let someone in and that stop the proxy.
-/

namespace Roster.Manager

/-- Why a failure reaches those who are parked when something happens. -/
inductive Cause (m : Manager) : Occurrence → ManagerError → Prop where
  /-- The call on its way is answered with a failure. -/
  | replied {answer : Except BusError Json} {e : ManagerError} (hcall : m.call ≠ none)
      (hdecode : decode answer = .error e) : Cause m (.reply answer) e
  /-- The manager leaves while a call is on its way: there is no owner any more, or another one. -/
  | lost {owner : Option String} (hwatching : m.watching = true)
      (hleft : owner.filter (· ≠ "") = none ∨ m.running = true) (hcall : m.call ≠ none) :
      Cause m (.owner owner) m.lostError
  /-- A cache read fails for which the failure was held back. -/
  | released {e : ManagerError} (hread : m.read ≠ none) (hheld : m.heldFailure = some e) :
      Cause m (.cacheRead .failed) e

/-- What happens to those who are parked: they stay, or all of them are answered, with a failure only
if no cache read is left that could succeed, and only for a reason. -/
inductive Settles (why : ManagerError → Prop) (m m' : Manager) : Prop where
  /-- They stay as they are. -/
  | waits (hgate : m'.gate = m.gate) (hanswers : m'.answers = m.answers)
  /-- They are told that the manager is ready. -/
  | ready (hgate : m'.gate = (m.gate.resolve .ready).1)
      (hanswers : m'.answers = m.answers ++ (m.gate.resolve .ready).2.map fun w => (w, .ready))
  /-- They are told a failure. -/
  | failed (e : ManagerError) (hwhy : why e) (hgate : m'.gate = (m.gate.resolve (.failed e)).1)
      (hanswers :
        m'.answers = m.answers ++ (m.gate.resolve (.failed e)).2.map fun w => (w, .failed e))
      (hsure : m'.awaitsCacheFile = false)

namespace Settles

variable {why why' : ManagerError → Prop} {m n m' : Manager}

/-- A reason may be given in other words. -/
theorem mono (h : Settles why m m') (hwhy : ∀ e, why e → why' e) : Settles why' m m' := by
  cases h with
  | waits hgate hanswers => exact .waits hgate hanswers
  | ready hgate hanswers => exact .ready hgate hanswers
  | failed e hw hgate hanswers hsure => exact .failed e (hwhy e hw) hgate hanswers hsure

/-- What precedes may change everything but the gate and the answers. -/
theorem of_eq (h : Settles why n m') (hgate : n.gate = m.gate) (hanswers : n.answers = m.answers) :
    Settles why m m' := by
  cases h with
  | waits hg ha => exact .waits (hg.trans hgate) (ha.trans hanswers)
  | ready hg ha =>
    rw [hgate] at hg ha
    rw [hanswers] at ha
    exact .ready hg ha
  | failed e hw hg ha hsure =>
    rw [hgate] at hg ha
    rw [hanswers] at ha
    exact .failed e hw hg ha hsure

/-- What follows may change everything but the gate and the answers, if it makes no cache read
due. -/
theorem then_eq (h : Settles why m n) (hgate : m'.gate = n.gate) (hanswers : m'.answers = n.answers)
    (hsure : n.awaitsCacheFile = false → m'.awaitsCacheFile = false) : Settles why m m' := by
  cases h with
  | waits hg ha => exact .waits (hgate.trans hg) (hanswers.trans ha)
  | ready hg ha => exact .ready (hgate.trans hg) (hanswers.trans ha)
  | failed e hw hg ha hs => exact .failed e hw (hgate.trans hg) (hanswers.trans ha) (hsure hs)

end Settles

variable (m : Manager)

/-! ## Small operations -/

/-- Making a step due leaves the gate alone. -/
@[simp] theorem gate_schedule (s : Deferred) : (m.schedule s).gate = m.gate := by
  unfold schedule
  split <;> rfl

/-- Making a step due answers nobody. -/
@[simp] theorem answers_schedule (s : Deferred) : (m.schedule s).answers = m.answers := by
  unfold schedule
  split <;> rfl

/-- Making a call due makes no cache read due. -/
@[simp] theorem awaitsCacheFile_schedule_introspect :
    (m.schedule .introspect).awaitsCacheFile = m.awaitsCacheFile := by
  unfold schedule
  split
  · rfl
  · simp [awaitsCacheFile]

/-- Where something is known, those who wait are told that the manager is ready. -/
theorem settles_resolveReady_of_known (why : ManagerError → Prop) (hknown : m.source ≠ .none)
    (error : Option ManagerError) : Settles why m (m.resolveReady error) := by
  rw [resolveReady_of_known hknown]
  exact .ready rfl rfl

/-- Those who wait are told that the manager is ready, or the failure of a call, or they stay. -/
theorem settles_resolveReady_some (e : ManagerError) :
    Settles (fun e' => e' = e) m (m.resolveReady (some e)) := by
  unfold resolveReady
  split
  · dsimp only
    split
    · exact .waits rfl rfl
    · rename_i hsure
      refine .failed e rfl rfl rfl ?_
      show m.awaitsCacheFile = false
      simpa using hsure
  · exact .ready rfl rfl

/-! ## Reactions other than to commands -/

/-- The answer to a call settles, with its failure. -/
theorem settles_onReply (answer : Except BusError Json) :
    Settles (Cause m (.reply answer)) m (m.onReply answer) := by
  unfold onReply
  split
  · exact .waits rfl rfl
  · rename_i hcall
    have hsome : m.call ≠ none := fun hnone => hcall (by rw [hnone]; rfl)
    rcases hd : decode answer with e | d
    · dsimp only
      refine Settles.of_eq (Settles.mono (settles_resolveReady_some _ e) ?_) ?_ ?_
      · rintro _ rfl
        exact .replied hsome hd
      · split <;> rfl
      · split <;> rfl
    · exact Settles.of_eq (settles_resolveReady_of_known _ _ (by simp [emit, install,
        publish, InfoSource.merge, InfoSource.supersedes]) none) rfl rfl

/-- The end of a cache read settles, with the failure that was held back. -/
theorem settles_onCacheRead (result : ReadEnd) :
    Settles (Cause m (.cacheRead result)) m (m.onCacheRead result) := by
  unfold onCacheRead
  split
  · exact .waits rfl rfl
  · rename_i hread
    have hsome : m.read ≠ none := fun hnone => hread (by rw [hnone]; rfl)
    cases result with
    | described d =>
      dsimp only
      split
      · rename_i hfile
        refine Settles.of_eq (settles_resolveReady_of_known _ _ ?_ none) rfl rfl
        show m.source.merge .file ≠ .none
        rw [InfoSource.merge, if_pos hfile]
        decide
      · exact .waits rfl rfl
    | failed =>
      dsimp only
      split
      · rename_i e hheld
        refine Settles.of_eq (Settles.mono (settles_resolveReady_some _ e) ?_) rfl rfl
        rintro _ rfl
        exact .released hsome hheld
      · split
        · exact .waits (gate_schedule _ _) (answers_schedule _ _)
        · exact .waits rfl rfl
    | cancelled => exact .waits rfl rfl

/-- Losing the owner settles, with the failure of the call on its way. -/
theorem settles_onNameLost :
    Settles (fun e => m.call ≠ none ∧ e = m.lostError) m m.onNameLost := by
  have hlost : Settles (fun e => m.call ≠ none ∧ e = m.lostError) m
      { m with running := false }.loseCall := by
    unfold loseCall
    split
    · rename_i hcall
      refine Settles.of_eq (Settles.mono (settles_resolveReady_some _ m.lostError) ?_) rfl rfl
      rintro _ rfl
      exact ⟨Option.isSome_iff_ne_none.mp hcall, rfl⟩
    · exact .waits rfl rfl
  unfold onNameLost
  dsimp only
  split
  · exact hlost.then_eq rfl rfl id
  · exact hlost

/-- Getting an owner settles, with the failure of the call on its way to the one before. -/
theorem settles_onNameGained :
    Settles (fun e => m.running = true ∧ m.call ≠ none ∧ e = m.lostError) m m.onNameGained := by
  unfold onNameGained
  dsimp only
  split
  · rename_i hrunning
    have hlost := (settles_onNameLost m).mono fun e he => And.intro hrunning he
    refine hlost.then_eq (gate_schedule _ _) (answers_schedule _ _) ?_
    rw [awaitsCacheFile_schedule_introspect]
    exact id
  · exact .waits (gate_schedule _ _) (answers_schedule _ _)

/-- Learning the owner for the first time leaves the gate alone. -/
@[simp] theorem gate_learnName : m.learnName.gate = m.gate := by
  unfold learnName
  split
  · rfl
  · dsimp only
    split
    · exact (gate_schedule _ .introspect).trans (gate_schedule m .readCacheFile)
    · exact gate_schedule m .readCacheFile

/-- Learning the owner for the first time answers nobody. -/
@[simp] theorem answers_learnName : m.learnName.answers = m.answers := by
  unfold learnName
  split
  · rfl
  · dsimp only
    split
    · exact (answers_schedule _ .introspect).trans (answers_schedule m .readCacheFile)
    · exact answers_schedule m .readCacheFile

/-- A report about the owner settles, with the failure of the call on its way if the manager has left.
The first report makes a cache read due, but nobody is told a failure then, as no call is on its
way. -/
theorem settles_onOwner (hbegin : m.nameKnown = false → m.call = none) (owner : Option String) :
    Settles (fun e => (owner.filter (· ≠ "") = none ∨ m.running = true) ∧ m.call ≠ none ∧
      e = m.lostError) m (m.onOwner owner) := by
  have hsettles : ∀ (n : Manager) (why : ManagerError → Prop), n.nameKnown = m.nameKnown →
      (∀ e, why e → m.call ≠ none) → Settles why m n → Settles why m n.learnName.publish := by
    intro n why hk hwhy h
    have hgate : n.learnName.publish.gate = n.gate := gate_learnName n
    have hanswers : n.learnName.publish.answers = n.answers := answers_learnName n
    cases h with
    | waits hg ha => exact .waits (hgate.trans hg) (hanswers.trans ha)
    | ready hg ha => exact .ready (hgate.trans hg) (hanswers.trans ha)
    | failed e he hg ha hsure =>
      refine .failed e he (hgate.trans hg) (hanswers.trans ha) ?_
      have hknown : n.nameKnown = true := by
        rw [hk]
        rcases hm : m.nameKnown with _ | _
        · exact absurd (hbegin hm) (hwhy e he)
        · rfl
      rw [learnName, if_pos hknown]
      exact hsure
  unfold onOwner
  dsimp only
  split
  · rename_i hnone
    have hk := congrArg Standing.nameKnown (standing_onNameLost m)
    refine (hsettles _ _ hk (fun e he => he.1) (settles_onNameLost m)).mono fun e he => ?_
    exact ⟨.inl hnone, he⟩
  · have hk := congrArg Standing.nameKnown (standing_onNameGained m)
    refine (hsettles _ _ hk (fun e he => he.2.1) (settles_onNameGained m)).mono fun e he => ?_
    exact ⟨.inr he.1, he.2⟩

/-! ## Commands -/

/-- Making sure that someone will be answered leaves the gate alone. -/
@[simp] theorem gate_prepare : m.prepare.gate = m.gate := by
  unfold prepare
  split
  · rfl
  · exact gate_schedule m .introspect

/-- Making sure that someone will be answered answers nobody yet. -/
@[simp] theorem answers_prepare : m.prepare.answers = m.answers := by
  unfold prepare
  split
  · rfl
  · exact answers_schedule m .introspect

/-- Without an outcome, whoever asks is parked behind the others. -/
theorem gate_requestReady_of_none (h : m.gate.outcome = none) (w : Nat) :
    (m.requestReady w).gate = { m.gate with waiters := m.gate.waiters ++ [w] } := by
  rw [requestReady_of_none m h]
  split
  · exact gate_prepare _
  · rfl

/-- Without an outcome, whoever asks is not answered yet. -/
theorem answers_requestReady_of_none (h : m.gate.outcome = none) (w : Nat) :
    (m.requestReady w).answers = m.answers := by
  rw [requestReady_of_none m h]
  split
  · exact answers_prepare _
  · rfl

/-- A command that neither asks for readiness nor stops the proxy settles nothing. -/
theorem settles_onCommand (why : ManagerError → Prop) (found : Option Path) {c : Command}
    (hready : ∀ w, c ≠ .requestReady w) (hc : c ≠ .dispose) :
    Settles why m (m.onCommand found c) := by
  cases c with
  | requestReady w => exact absurd rfl (hready w)
  | activate w =>
    show Settles why m (m.activate w)
    unfold activate
    dsimp only
    split
    · exact .waits rfl rfl
    · split
      · exact .waits rfl rfl
      · exact .waits (gate_schedule m .introspect) (answers_schedule m .introspect)
  | setAlwaysIntrospect always =>
    show Settles why m (m.setAlwaysIntrospect always)
    unfold setAlwaysIntrospect
    dsimp only
    split
    · exact .waits (gate_schedule _ .introspect) (answers_schedule _ .introspect)
    · exact .waits rfl rfl
  | setCacheFile setting =>
    show Settles why m (m.setCacheFile (setting.resolve found))
    unfold setCacheFile
    dsimp only
    split
    · exact .waits (gate_schedule _ .readCacheFile) (answers_schedule _ .readCacheFile)
    · exact .waits rfl rfl
  | dispose => exact absurd rfl hc

end Roster.Manager
