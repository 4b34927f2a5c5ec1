import Roster.Proofs.Manager.Standing

/-!
# What is on its way

A proxy begins a call or a cache read only in a step that is due, never while it reacts to an
occurrence.

* **Keeps** (`Keeps`): what is not about the cache file leaves a cache read alone that is on its way,
  and keeps the call or ends it. The answer to a call ends it (`call_onReply`), and so does the
  manager's leaving (`call_onOwner_of_left`).
* **Begins nothing** (`BeginsNothing`): what was on its way before any reaction is still on its way
  or has ended (`Handled.beginsNothing`).
* **Steps that are due** (`awaitsCacheFile_runDeferred`): they begin no cache read unless one is due.
* **A step** (`reads_step`): a cache read on its way after a step was on its way before, or has a
  number that none had before.
-/

namespace Roster.Manager

/-- What was on its way is still on its way, or has ended. -/
structure BeginsNothing (m m' : Manager) : Prop where
  /-- The call has ended or is the same. -/
  call : m'.call = none ∨ m'.call = m.call
  /-- The cache read has ended or is the same. -/
  read : m'.read = none ∨ m'.read = m.read

/-- The call on its way is the same or has ended, and the cache read is the same. -/
structure Keeps (m m' : Manager) : Prop where
  /-- The call has ended or is the same. -/
  call : m'.call = none ∨ m'.call = m.call
  /-- The cache read is the same. -/
  read : m'.read = m.read

namespace Keeps

variable {m n m' : Manager}

/-- Nothing ended. -/
theorem same (hcall : m'.call = m.call) (hread : m'.read = m.read) : Keeps m m' :=
  ⟨.inr hcall, hread⟩

/-- One after the other. -/
theorem trans (h : Keeps m n) (h' : Keeps n m') : Keeps m m' where
  call := by
    rcases h'.call with hnone | hsame
    · exact .inl hnone
    · rw [hsame]
      exact h.call
  read := h'.read.trans h.read

/-- What precedes may change everything else. -/
theorem of_eq (h : Keeps n m') (hcall : n.call = m.call) (hread : n.read = m.read) : Keeps m m' :=
  (same hcall hread).trans h

/-- What follows may change everything else. -/
theorem then_eq (h : Keeps m n) (hcall : m'.call = n.call) (hread : m'.read = n.read) :
    Keeps m m' :=
  h.trans (same hcall hread)

/-- What keeps the cache read begins nothing. -/
theorem beginsNothing (h : Keeps m m') : BeginsNothing m m' := ⟨h.call, .inr h.read⟩

/-- What gives the cache read up and keeps the rest begins nothing. -/
theorem beginsNothing_of_read (h : Keeps n m') (hcall : n.call = m.call) (hread : n.read = none) :
    BeginsNothing m m' := by
  refine ⟨?_, .inl (h.read.trans hread)⟩
  rw [← hcall]
  exact h.call

end Keeps

variable (m : Manager)

/-! ## Small operations -/

/-- Making a step due ends nothing. -/
theorem keeps_schedule (s : Deferred) : Keeps m (m.schedule s) := by
  unfold schedule
  split <;> exact .same rfl rfl

/-- Answering those who wait ends nothing. -/
theorem keeps_resolveReady (error : Option ManagerError) : Keeps m (m.resolveReady error) := by
  unfold resolveReady
  split
  · dsimp only
    split <;> exact .same rfl rfl
  · exact .same rfl rfl

/-- Ending the call on its way keeps the cache read. -/
theorem keeps_endIntrospection (error : Option ManagerError) : Keeps m (m.endIntrospection error) :=
  Keeps.trans (n := { m with call := none }.emit (.gotInfo m.source)) ⟨.inl rfl, rfl⟩
    (keeps_resolveReady _ error)

/-- After the call on its way was ended, none is. -/
theorem call_endIntrospection (error : Option ManagerError) :
    (m.endIntrospection error).call = none := by
  rcases (keeps_resolveReady ({ m with call := none }.emit (.gotInfo m.source)) error).call with h | h
  · exact h
  · exact h

/-! ## Reactions -/

/-- The answer to a call leaves the cache read alone. -/
theorem keeps_onReply (answer : Except BusError Json) : Keeps m (m.onReply answer) := by
  unfold onReply
  split
  · exact .same rfl rfl
  · have hended : Keeps m { m with call := none } := ⟨.inl rfl, rfl⟩
    dsimp only
    split
    · exact hended.trans ((keeps_endIntrospection _ none).of_eq rfl rfl)
    · refine hended.trans ((keeps_endIntrospection _ _).of_eq ?_ ?_) <;> split <;> rfl

/-- After the answer to a call, no call is on its way. -/
theorem call_onReply (answer : Except BusError Json) : (m.onReply answer).call = none := by
  unfold onReply
  split
  · rename_i hnone
    exact Option.isNone_iff_eq_none.mp hnone
  · dsimp only
    split <;> exact call_endIntrospection _ _

/-- The end of a cache read begins nothing. -/
theorem beginsNothing_onCacheRead (result : ReadEnd) : BeginsNothing m (m.onCacheRead result) := by
  unfold onCacheRead
  split
  · exact ⟨.inr rfl, .inr rfl⟩
  · have hended : BeginsNothing m { m with read := none } := ⟨.inr rfl, .inl rfl⟩
    cases result with
    | described d =>
      dsimp only
      split
      · exact (keeps_resolveReady _ none).beginsNothing_of_read rfl rfl
      · exact hended
    | failed =>
      dsimp only
      split
      · exact (keeps_resolveReady _ _).beginsNothing_of_read rfl rfl
      · split
        · exact (keeps_schedule _ .introspect).beginsNothing_of_read rfl rfl
        · exact hended
    | cancelled => exact hended

/-- Losing the owner leaves the cache read alone. -/
theorem keeps_onNameLost : Keeps m m.onNameLost := by
  have hlost : Keeps m { m with running := false }.loseCall := by
    unfold loseCall
    split
    · exact (keeps_endIntrospection _ _).of_eq rfl rfl
    · exact .same rfl rfl
  unfold onNameLost
  dsimp only
  split
  · exact hlost.then_eq rfl rfl
  · exact hlost

/-- After the owner was lost, no call is on its way. -/
theorem call_onNameLost : m.onNameLost.call = none := by
  have hlost : { m with running := false }.loseCall.call = none := by
    unfold loseCall
    split
    · exact call_endIntrospection _ _
    · rename_i hnone
      exact Option.not_isSome_iff_eq_none.mp hnone
  unfold onNameLost
  dsimp only
  split <;> exact hlost

/-- Getting an owner leaves the cache read alone. -/
theorem keeps_onNameGained : Keeps m m.onNameGained := by
  unfold onNameGained
  dsimp only
  split
  · exact (keeps_onNameLost m).trans ((keeps_schedule _ .introspect).of_eq rfl rfl)
  · exact (keeps_schedule _ .introspect).of_eq rfl rfl

/-- Learning the owner for the first time leaves the cache read alone. -/
theorem keeps_learnName : Keeps m m.learnName := by
  unfold learnName
  split
  · exact .same rfl rfl
  · have hread := keeps_schedule m .readCacheFile
    dsimp only
    split
    · exact (hread.trans (keeps_schedule _ .introspect)).then_eq rfl rfl
    · exact hread.then_eq rfl rfl

/-- A report about the owner leaves the cache read alone. -/
theorem keeps_onOwner (owner : Option String) : Keeps m (m.onOwner owner) := by
  unfold onOwner
  dsimp only
  split
  · exact ((keeps_onNameLost m).trans (keeps_learnName _)).then_eq rfl rfl
  · exact ((keeps_onNameGained m).trans (keeps_learnName _)).then_eq rfl rfl

/-- After a report that the manager has left, no call is on its way. -/
theorem call_onOwner_of_left {owner : Option String}
    (hleft : owner.filter (· ≠ "") = none ∨ m.running = true) : (m.onOwner owner).call = none := by
  have hkept : ∀ n : Manager, n.call = none → n.learnName.publish.call = none := fun n hn => by
    rcases (keeps_learnName n).call with h | h
    · exact h
    · exact h.trans hn
  unfold onOwner
  dsimp only
  split
  · exact hkept _ (call_onNameLost m)
  · rename_i hsome
    refine hkept _ ?_
    rcases hleft with hnone | hrunning
    · rw [hsome] at hnone
      cases hnone
    · unfold onNameGained
      rw [if_pos hrunning]
      rcases (keeps_schedule ({ m.onNameLost with running := true }.emit .activated)
        .introspect).call with h | h
      · exact h
      · exact h.trans (call_onNameLost m)

/-- A command begins nothing. -/
theorem beginsNothing_onCommand (found : Option Path) (c : Command) :
    BeginsNothing m (m.onCommand found c) := by
  cases c with
  | requestReady w =>
    show BeginsNothing m (m.requestReady w)
    unfold requestReady
    dsimp only
    split
    · exact ⟨.inr rfl, .inr rfl⟩
    · unfold prepare
      split
      · exact ⟨.inr rfl, .inr rfl⟩
      · exact Keeps.beginsNothing ((keeps_schedule _ .introspect).of_eq rfl rfl)
    · exact ⟨.inr rfl, .inr rfl⟩
  | activate w =>
    show BeginsNothing m (m.activate w)
    unfold activate
    dsimp only
    split
    · exact ⟨.inr rfl, .inr rfl⟩
    · split
      · exact ⟨.inr rfl, .inr rfl⟩
      · exact Keeps.beginsNothing ((keeps_schedule m .introspect).then_eq rfl rfl)
  | setAlwaysIntrospect always =>
    show BeginsNothing m (m.setAlwaysIntrospect always)
    have hdue := keeps_schedule { m with alwaysIntrospect := always } .introspect
    unfold setAlwaysIntrospect
    dsimp only
    split
    · exact Keeps.beginsNothing ((hdue.of_eq (m := m) rfl rfl).then_eq rfl rfl)
    · exact ⟨.inr rfl, .inr rfl⟩
  | setCacheFile setting =>
    show BeginsNothing m (m.setCacheFile (setting.resolve found))
    have hdue := keeps_schedule
      { m with cachePath := setting.resolve found, read := none } .readCacheFile
    unfold setCacheFile
    dsimp only
    split
    · exact Keeps.beginsNothing_of_read (hdue.then_eq rfl rfl) rfl rfl
    · exact ⟨.inr rfl, .inr rfl⟩
  | dispose => exact ⟨.inl rfl, .inl rfl⟩

/-- **A reaction begins nothing.** -/
theorem Handled.beginsNothing {o : Occurrence} {m' : Manager} (h : Handled m o m') :
    BeginsNothing m m' := by
  cases h with
  | sent c => exact ⟨.inr rfl, .inr rfl⟩
  | nothing ho => exact ⟨.inr rfl, .inr rfl⟩
  | command found c rest hqueue =>
    obtain ⟨hcall, hread⟩ := beginsNothing_onCommand { m with queue := rest } found c
    exact ⟨hcall, hread⟩
  | owner owner hwatching => exact (keeps_onOwner m owner).beginsNothing
  | closed hknown => exact ⟨.inr rfl, .inr rfl⟩
  | closedUnknown hunknown =>
    exact Keeps.beginsNothing ((keeps_onOwner _ none).of_eq rfl rfl)
  | reply answer => exact (keeps_onReply m answer).beginsNothing
  | cacheRead result => exact beginsNothing_onCacheRead m result
  | forsaken => exact ⟨.inl rfl, .inl rfl⟩

/-- A reaction does not change how many calls and which cache reads were begun. -/
theorem Handled.started {o : Occurrence} {m' : Manager} (h : Handled m o m') :
    m'.callsStarted = m.callsStarted ∧ m'.readsStarted = m.readsStarted := by
  have hof : ∀ {n n' : Manager} {s : Standing}, n'.standing = s →
      s.callsStarted = n.callsStarted → s.readsStarted = n.readsStarted →
      n'.callsStarted = n.callsStarted ∧ n'.readsStarted = n.readsStarted := fun hs hcalls hreads =>
    ⟨(congrArg Standing.callsStarted hs).trans hcalls,
      (congrArg Standing.readsStarted hs).trans hreads⟩
  cases h with
  | sent c => exact ⟨rfl, rfl⟩
  | nothing ho => exact ⟨rfl, rfl⟩
  | command found c rest hqueue =>
    by_cases hc : c = .dispose
    · rw [hc]
      exact ⟨rfl, rfl⟩
    · obtain ⟨_, _, hstanding⟩ := standing_onCommand { m with queue := rest } found hc
      exact hof hstanding rfl rfl
  | owner owner hwatching => exact hof (standing_onOwner m owner) rfl rfl
  | closed hknown => exact ⟨rfl, rfl⟩
  | closedUnknown hunknown => exact hof (standing_onOwner { m with watching := false } none) rfl rfl
  | reply answer => exact hof (standing_onReply m answer) rfl rfl
  | cacheRead result => exact hof (standing_onCacheRead m result) rfl rfl
  | forsaken => exact ⟨rfl, rfl⟩

/-! ## Steps that are due -/

/-- Beginning a call makes no cache read due and begins none. -/
theorem awaitsCacheFile_introspect : m.introspect.awaitsCacheFile = m.awaitsCacheFile := by
  unfold introspect
  split <;> rfl

/-- **The steps that are due begin no cache read** unless one is due. -/
theorem awaitsCacheFile_runDeferred (h : m.awaitsCacheFile = false) :
    m.runDeferred.awaitsCacheFile = false := by
  refine runDeferred_induct (P := fun n => n.awaitsCacheFile = false) (fun n s rest hdue hn => ?_) m h
  have hrest : { n with deferred := rest }.awaitsCacheFile = false := by
    unfold awaitsCacheFile at hn ⊢
    rw [hdue] at hn
    simp only [Bool.or_eq_false_iff, decide_eq_false_iff_not, List.mem_cons, not_or] at hn ⊢
    exact ⟨hn.1, hn.2.2⟩
  cases s with
  | readCacheFile => simp [awaitsCacheFile, hdue] at hn
  | introspect => exact (awaitsCacheFile_introspect _).trans hrest

/-- The steps that are due take back no cache read that was begun, and one that they begin has a number
that none had before. -/
theorem reads_runDeferred :
    m.readsStarted.length ≤ m.runDeferred.readsStarted.length ∧
      ∀ k, m.runDeferred.read = some k → m.read = some k ∨ m.readsStarted.length < k := by
  refine runDeferred_induct
    (P := fun n => m.readsStarted.length ≤ n.readsStarted.length ∧
      ∀ k, n.read = some k → m.read = some k ∨ m.readsStarted.length < k)
    (fun n s rest _ hn => ?_) m ⟨Nat.le_refl _, fun k hk => .inl hk⟩
  have hle := hn.1
  cases s with
  | readCacheFile =>
    show _ ≤ (readCacheFile _).readsStarted.length ∧ ∀ k, (readCacheFile _).read = some k → _
    unfold readCacheFile
    split
    · exact hn
    · split
      · unfold schedule
        split <;> exact hn
      · refine ⟨?_, fun k hk => ?_⟩
        · simp only [List.length_append, List.length_singleton]
          omega
        · simp only [Option.some.injEq] at hk
          exact .inr (by omega)
  | introspect =>
    show _ ≤ (introspect _).readsStarted.length ∧ ∀ k, (introspect _).read = some k → _
    unfold introspect
    split <;> exact hn

/-- **A step** takes back no cache read that was begun, and one that is on its way afterwards was so
before or has a number that none had before. -/
theorem reads_step (hlive : m.disposed = false) (o : Occurrence) :
    m.readsStarted.length ≤ (m.step o).readsStarted.length ∧
      ∀ k, (m.step o).read = some k → m.read = some k ∨ m.readsStarted.length < k := by
  obtain ⟨hle, hread⟩ := reads_runDeferred (m.react o)
  rw [(handled_react hlive o).started.2] at hle hread
  refine ⟨hle, fun k hk => ?_⟩
  rcases hread k hk with hreact | hnew
  · rcases (handled_react hlive o).beginsNothing.read with hnone | hsame
    · rw [hnone] at hreact
      cases hreact
    · exact .inl (hsame.symm.trans hreact)
  · exact .inr hnew

end Roster.Manager
