import Roster.Proofs.Manager.Beginning
import Roster.Proofs.Manager.Readiness

/-!
# Nobody waits in vain

Someone who is parked at the gate is answered only by something that is still to come: a report
about the owner, the answer to a call, the end of a cache read. The invariant is `Outstanding`: once
the owner is known, the gate has an outcome, or a call or a cache read is on its way, or a step is
due. It is kept by every reaction (`Outstanding.handled`), since whatever takes the last of these away
either answers at the gate or makes a step due, and by every step that is due
(`Sound.outstanding_runStep`). The one exception is a cache read that is cancelled from outside,
which gives nothing and leads to nothing.

Before the owner is known the watch is open (`unbegun_run`). Together: nobody is stranded
(`nobody_stranded_run`).
-/

namespace Roster.Manager

/-- Once the owner is known there is an outcome at the gate, or something that leads to one. -/
def Outstanding (m : Manager) : Prop :=
  m.nameKnown = true →
    m.gate.outcome ≠ none ∨ m.call ≠ none ∨ m.read ≠ none ∨ m.deferred ≠ []

variable {m : Manager}

/-! ## What makes something outstanding -/

/-- A step that was made due is due. -/
theorem mem_deferred_schedule (m : Manager) (s : Deferred) : s ∈ (m.schedule s).deferred := by
  unfold schedule
  split
  · assumption
  · simp

/-- Making a step due leaves something outstanding. -/
theorem outstanding_schedule (m : Manager) (s : Deferred) : Outstanding (m.schedule s) :=
  fun _ => .inr (.inr (.inr (List.ne_nil_of_mem (mem_deferred_schedule m s))))

/-- Where something is known, the outcome at the gate is enough. -/
theorem Sound.outstanding (h : Sound m) (hknown : m.source ≠ .none) : Outstanding m := by
  intro _
  rw [h.ready_of_known hknown]
  exact .inl (by simp)

/-- Answering those who wait leaves something outstanding: the outcome, or the cache read for which
the failure is held back. -/
theorem outstanding_resolveReady (hopen : m.gate.closed = false) (error : Option ManagerError) :
    Outstanding (m.resolveReady error) := by
  intro _
  have hresolved : ∀ outcome, (m.gate.resolve outcome).1.outcome ≠ none := fun outcome => by
    rw [Gate.resolve_of_open hopen]
    simp
  unfold resolveReady
  split
  · dsimp only
    split
    · rename_i hawaits
      rw [awaitsCacheFile, Bool.or_eq_true, decide_eq_true_eq] at hawaits
      rcases hawaits with hread | hdue
      · exact .inr (.inr (.inl (Option.isSome_iff_ne_none.mp hread)))
      · exact .inr (.inr (.inr (List.ne_nil_of_mem hdue)))
    · exact .inl (hresolved _)
  · exact .inl (hresolved _)

/-- Ending the call on its way leaves something outstanding. -/
theorem outstanding_endIntrospection (hopen : m.gate.closed = false)
    (error : Option ManagerError) : Outstanding (m.endIntrospection error) := by
  refine outstanding_resolveReady ?_ error
  exact hopen

/-! ## Reactions -/

/-- Taking the answer to a call leaves something outstanding. -/
theorem Outstanding.onReply (h : Outstanding m) (hs : Sound m) (answer : Except BusError Json) :
    Outstanding (m.onReply answer) := by
  unfold Manager.onReply
  split
  · exact h
  · dsimp only
    split
    · refine outstanding_endIntrospection ?_ none
      exact hs.opened
    · refine outstanding_endIntrospection ?_ _
      split <;> exact hs.opened

/-- Taking the end of a cache read that was not cancelled leaves something outstanding. -/
theorem Outstanding.onCacheRead (h : Outstanding m) (hs : Sound m) {result : ReadEnd}
    (hresult : result ≠ .cancelled) : Outstanding (m.onCacheRead result) := by
  have hidle : Sound { m with read := none } := { hs with }
  unfold Manager.onCacheRead
  split
  · exact h
  · cases result with
    | described d =>
      dsimp only
      split
      · refine outstanding_resolveReady ?_ none
        exact hs.opened
      · rename_i hfile
        refine hidle.outstanding fun hnone => hfile ?_
        rw [show m.source = .none from hnone]
        rfl
    | failed =>
      dsimp only
      split
      · refine outstanding_resolveReady ?_ _
        exact hs.opened
      · split
        · exact outstanding_schedule _ _
        · rename_i hknown
          exact hidle.outstanding hknown
    | cancelled => exact absurd rfl hresult

/-- Losing the owner leaves something outstanding. -/
theorem Outstanding.onNameLost (h : Outstanding m) (hs : Sound m) : Outstanding m.onNameLost := by
  have hlost : Outstanding { m with running := false }.loseCall := by
    unfold loseCall
    split
    · refine outstanding_endIntrospection ?_ _
      exact hs.opened
    · exact h
  unfold Manager.onNameLost
  dsimp only
  split
  · exact hlost
  · exact hlost

/-- Learning the owner for the first time leaves something outstanding. -/
theorem Outstanding.learnName (h : Outstanding m) : Outstanding m.learnName := by
  unfold Manager.learnName
  split
  · exact h
  · dsimp only
    have hread := List.ne_nil_of_mem (mem_deferred_schedule m .readCacheFile)
    split
    · exact fun _ => .inr (.inr (.inr (List.ne_nil_of_mem (mem_deferred_schedule _ .introspect))))
    · exact fun _ => .inr (.inr (.inr hread))

/-- A report about the owner leaves something outstanding. -/
theorem Outstanding.onOwner (h : Outstanding m) (hs : Sound m) (owner : Option String) :
    Outstanding (m.onOwner owner) := by
  unfold Manager.onOwner
  dsimp only
  split
  · exact (h.onNameLost hs).learnName
  · exact (outstanding_schedule _ .introspect : Outstanding m.onNameGained).learnName

/-- Letting someone in at the gate leaves something outstanding. -/
theorem Outstanding.requestReady (h : Outstanding m) (w : Nat) : Outstanding (m.requestReady w) := by
  rcases ho : m.gate.outcome with _ | outcome
  · rw [requestReady_of_none m ho]
    split
    · unfold prepare
      split
      · exact h
      · exact outstanding_schedule _ _
    · exact h
  · rw [requestReady_of_some m ho]
    exact h

/-- Asking for the manager to be started leaves something outstanding. -/
theorem Outstanding.activate (h : Outstanding m) (w : Nat) : Outstanding (m.activate w) := by
  unfold Manager.activate
  dsimp only
  split
  · exact h
  · split
    · exact h
    · exact outstanding_schedule m .introspect

/-- Setting whether a running manager is asked leaves something outstanding. -/
theorem Outstanding.setAlwaysIntrospect (h : Outstanding m) (always : Bool) :
    Outstanding (m.setAlwaysIntrospect always) := by
  unfold Manager.setAlwaysIntrospect
  dsimp only
  split
  · exact outstanding_schedule _ .introspect
  · exact h

/-- Setting the cache file leaves something outstanding: a read that is given up makes way for one
that is due. -/
theorem Outstanding.setCacheFile (h : Outstanding m) (path : Option Path) :
    Outstanding (m.setCacheFile path) := by
  unfold Manager.setCacheFile
  dsimp only
  split
  · exact outstanding_schedule _ .readCacheFile
  · exact h

/-- A command leaves something outstanding, unless it stops the proxy. -/
theorem Outstanding.onCommand (h : Outstanding m) (found : Option Path) {c : Command}
    (hd : (m.onCommand found c).disposed = false) : Outstanding (m.onCommand found c) := by
  cases c with
  | requestReady w => exact h.requestReady w
  | activate w => exact h.activate w
  | setAlwaysIntrospect always => exact h.setAlwaysIntrospect always
  | setCacheFile setting => exact h.setCacheFile _
  | dispose => cases hd

/-- A reaction leaves something outstanding, unless it stops the proxy or a cache read was
cancelled. -/
theorem Outstanding.handled (h : Outstanding m) (hs : Sound m) {o : Occurrence} {m' : Manager}
    (hm' : Handled m o m') (ho : o ≠ .cacheRead .cancelled) (hd : m'.disposed = false) :
    Outstanding m' := by
  cases hm' with
  | sent c => exact h
  | nothing _ => exact h
  | command found c rest hqueue =>
    have hrest : Outstanding { m with queue := rest } := h
    exact hrest.onCommand found hd
  | owner owner hwatching => exact h.onOwner hs owner
  | closed hknown => exact h
  | closedUnknown hunknown =>
    have hclosed : Outstanding { m with watching := false } := h
    exact hclosed.onOwner { hs with } none
  | reply answer => exact h.onReply hs answer
  | cacheRead result => exact h.onCacheRead hs fun hresult => ho (by rw [hresult])
  | forsaken => cases hd

/-! ## Steps that are due -/

/-- After a step that was due something is outstanding, whatever was before. -/
theorem Sound.outstanding_runStep (hs : Sound m) (s : Deferred) : Outstanding (m.runStep s) := by
  cases s with
  | readCacheFile =>
    show Outstanding m.readCacheFile
    unfold Manager.readCacheFile
    split
    · rename_i hnothing
      rcases hnothing with hknown | hread
      · exact hs.outstanding hknown
      · exact fun _ => .inr (.inr (.inl (Option.isSome_iff_ne_none.mp hread)))
    · split
      · exact outstanding_schedule m .introspect
      · exact fun _ => .inr (.inr (.inl (by simp)))
  | introspect =>
    show Outstanding m.introspect
    unfold Manager.introspect
    split
    · rename_i hnothing
      rcases hnothing with hcall | ⟨_, hknown⟩
      · exact fun _ => .inr (.inl (Option.isSome_iff_ne_none.mp hcall))
      · exact hs.outstanding hknown
    · exact fun _ => .inr (.inl (by simp))

/-! ## Runs -/

/-- **After every run of a proxy that has not stopped something is outstanding.** -/
theorem outstanding_run {busName : String} {always : Bool} {path : Option Path}
    {occurrences : List Occurrence} (hread : ∀ o ∈ occurrences, o ≠ .cacheRead .cancelled)
    (hd : ((start busName always path).run occurrences).disposed = false) :
    Outstanding ((start busName always path).run occurrences) := by
  refine (live_run_induct (P := fun n => Sound n ∧ Outstanding n) (fun o ho n hlive hlive' h => ?_)
    (fun n s rest _ h => ?_) ⟨sound_start busName always path, fun hk => ?_⟩ hd).2
  · exact ⟨h.1.react hlive hlive', h.2.handled h.1 (handled_react hlive o) (hread o ho) hlive'⟩
  · have hrest : Sound { n with deferred := rest } := { h.1 with }
    exact ⟨h.1.runStep s rest, hrest.outstanding_runStep s⟩
  · cases hk

/-- **Nobody is stranded.** After every run of a proxy that has not stopped, and in which no cache
read was cancelled from outside: once the owner is known the gate has an outcome, or a call or a
cache read is on its way; before that the owner is watched. So whoever is parked waits for a call, a
cache read or the first report. -/
theorem nobody_stranded_run (busName : String) (always : Bool) (path : Option Path)
    {occurrences : List Occurrence} (hread : ∀ o ∈ occurrences, o ≠ .cacheRead .cancelled)
    (hd : ((start busName always path).run occurrences).disposed = false) :
    let m := (start busName always path).run occurrences
    (m.nameKnown = true → m.gate.outcome ≠ none ∨ m.call ≠ none ∨ m.read ≠ none) ∧
      (m.nameKnown = false → m.watching = true) ∧
      (m.gate.waiters ≠ [] →
        m.call ≠ none ∨ m.read ≠ none ∨ m.nameKnown = false ∧ m.watching = true) := by
  intro m
  have hsound : Sound m := sound_run hd
  have hidle : m.deferred = [] := deferred_run _ rfl occurrences
  have hknown : m.nameKnown = true → m.gate.outcome ≠ none ∨ m.call ≠ none ∨ m.read ≠ none := by
    intro hk
    rcases outstanding_run hread hd hk with h | h | h | h
    · exact .inl h
    · exact .inr (.inl h)
    · exact .inr (.inr h)
    · exact absurd hidle h
  have hunknown : m.nameKnown = false → m.watching = true := fun hk => (unbegun_run hd hk).watching
  refine ⟨hknown, hunknown, fun hparked => ?_⟩
  rcases hk : m.nameKnown with _ | _
  · exact .inr (.inr ⟨rfl, hunknown hk⟩)
  · rcases hknown hk with h | h | h
    · exact absurd (hsound.exclusive h) hparked
    · exact .inl h
    · exact .inr (.inl h)

/-- The manager came and left, and then the cache file was taken away: whoever is parked waits for
the call that was begun instead. -/
theorem nobody_stranded_run_left :
    let m := (start "x" false (some "a")).run
      [.sent (.requestReady 1), .command none, .owner (some ":1.1"), .owner none,
        .sent (.setCacheFile .disabled), .command none]
    m.gate.waiters = [1] ∧
      (m.call ≠ none ∨ m.read ≠ none ∨ m.nameKnown = false ∧ m.watching = true) := by
  intro m
  have hparked : m.gate.waiters = [1] := by decide +kernel
  refine ⟨hparked, (nobody_stranded_run "x" false (some "a") (by simp) (by decide +kernel)).2.2 ?_⟩
  rw [hparked]
  decide

end Roster.Manager
