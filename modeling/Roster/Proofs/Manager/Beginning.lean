import Roster.Proofs.Manager.Standing

/-!
# Before the owner is known

A proxy begins nothing before the first report about the owner, or the end of the reports: no call,
no cache read, and no step is due (`Unbegun`). The report makes the owner known for good
(`Handled.nameKnown`), so an unknown owner means that nothing has begun yet, after every run of a proxy
that has not stopped (`unbegun_run`).
-/

namespace Roster.Manager

/-- What holds as long as the owner is not known: nothing has begun and nothing is due. -/
structure Unbegun (m : Manager) : Prop where
  /-- The owner is watched. -/
  watching : m.watching = true
  /-- The manager is not seen to run. -/
  running : m.running = false
  /-- No call is on its way. -/
  call : m.call = none
  /-- No cache read is on its way. -/
  read : m.read = none
  /-- No step is due. -/
  deferred : m.deferred = []

variable {m : Manager}

/-! ## Reactions -/

/-- Nothing makes the owner unknown again. -/
theorem Handled.nameKnown {o : Occurrence} {m' : Manager} (h : Handled m o m')
    (hk : m.nameKnown = true) : m'.nameKnown = true := by
  cases h with
  | sent c => exact hk
  | nothing ho => exact hk
  | command found c rest hqueue =>
    rw [nameKnown_onCommand]
    exact hk
  | owner owner hwatching => exact nameKnown_onOwner m owner
  | closed hknown => exact hk
  | closedUnknown hunknown => exact nameKnown_onOwner _ none
  | reply answer => exact (congrArg Standing.nameKnown (standing_onReply m answer)).trans hk
  | cacheRead result => exact (congrArg Standing.nameKnown (standing_onCacheRead m result)).trans hk
  | forsaken => exact hk

/-- As long as the owner is not known, commands begin nothing. -/
theorem Unbegun.onCommand (h : Unbegun m) (hk : m.nameKnown = false) (found : Option Path)
    {c : Command} (hd : (m.onCommand found c).disposed = false) : Unbegun (m.onCommand found c) := by
  cases c with
  | requestReady w =>
    show Unbegun (m.requestReady w)
    rcases ho : m.gate.outcome with _ | outcome
    · rw [requestReady_of_none m ho]
      split
      · unfold Manager.prepare
        simp only [hk, Bool.not_false, Bool.true_or, if_true]
        exact { h with }
      · exact { h with }
    · rw [requestReady_of_some m ho]
      exact { h with }
  | activate w =>
    show Unbegun (m.activate w)
    simp only [Manager.activate, hk, Bool.not_false, if_true]
    exact { h with }
  | setAlwaysIntrospect always =>
    show Unbegun (m.setAlwaysIntrospect always)
    unfold Manager.setAlwaysIntrospect
    dsimp only
    split
    · rename_i hdue
      rw [h.running, Bool.and_false] at hdue
      cases hdue
    · exact { h with }
  | setCacheFile setting =>
    show Unbegun (m.setCacheFile (setting.resolve found))
    simp only [Manager.setCacheFile, hk, Bool.false_eq_true, if_false]
    exact { h with }
  | dispose => cases hd

/-- As long as the owner is not known, reactions begin nothing. -/
theorem Unbegun.handled (h : Unbegun m) {o : Occurrence} {m' : Manager} (hm' : Handled m o m')
    (hd : m'.disposed = false) (hk : m.nameKnown = false) (hk' : m'.nameKnown = false) :
    Unbegun m' := by
  cases hm' with
  | sent c => exact { h with }
  | nothing ho => exact h
  | command found c rest hqueue =>
    have hrest : Unbegun { m with queue := rest } := { h with }
    exact hrest.onCommand hk found hd
  | owner owner hwatching =>
    rw [nameKnown_onOwner] at hk'
    cases hk'
  | closed hknown => exact absurd (hk.symm.trans hknown) Bool.false_ne_true
  | closedUnknown hunknown =>
    rw [nameKnown_onOwner] at hk'
    cases hk'
  | reply answer =>
    rw [Manager.onReply, h.call]
    exact h
  | cacheRead result =>
    rw [Manager.onCacheRead, h.read]
    exact h
  | forsaken => cases hd

/-! ## Runs -/

/-- **As long as the owner is not known nothing has begun**, after every run of a proxy that has not
stopped. -/
theorem unbegun_run {busName : String} {always : Bool} {path : Option Path}
    {occurrences : List Occurrence}
    (hd : ((start busName always path).run occurrences).disposed = false)
    (hk : ((start busName always path).run occurrences).nameKnown = false) :
    Unbegun ((start busName always path).run occurrences) := by
  refine live_run_induct (P := fun n => n.nameKnown = false → Unbegun n)
    (fun o _ n hlive hlive' h hk' => ?_) (fun n s rest hdue h hk' => ?_)
    (fun _ => ⟨rfl, rfl, rfl, rfl, rfl⟩) hd hk
  · have hunknown : n.nameKnown = false := by
      rcases hn : n.nameKnown with _ | _
      · rfl
      · rw [(handled_react hlive o).nameKnown hn] at hk'
        cases hk'
    exact (h hunknown).handled (handled_react hlive o) hlive' hunknown hk'
  · rw [nameKnown_runStep] at hk'
    rw [(h hk').deferred] at hdue
    cases hdue

end Roster.Manager
