import Roster.Proofs.Manager.Mirror

/-!
# Whether the manager is there

What a proxy knows of the presence of its manager (`Presence`): whether it runs, and whether the proxy
still hears of that. Only the reports about the owner say whether it runs, each one anew: a report of
an owner that it does, a report of none that it does not (`presence_step_owner`). Everything else that
happens to a proxy leaves that alone, until the proxy stops (`presence_step_of_unreported`).

So a proxy that hears a number of reports one after another knows what the last one says
(`running_run_reports`).
-/

namespace Roster

/-- What a proxy knows of the presence of its manager. -/
structure Presence where
  /-- The manager's name on the bus. -/
  busName : String
  /-- Whether the name has an owner, as far as reported. -/
  running : Bool
  /-- Whether the owner is still watched. -/
  watching : Bool
  /-- Whether the proxy has stopped. -/
  disposed : Bool
  deriving DecidableEq

/-- Where a proxy stands towards its manager: the name it watches, whether it still does, and whether it
has stopped. -/
def Standing.place (s : Standing) : String × Bool × Bool := (s.busName, s.watching, s.disposed)

namespace Manager

/-- What a proxy knows of the presence of its manager. -/
def presence (m : Manager) : Presence where
  busName := m.busName
  running := m.running
  watching := m.watching
  disposed := m.disposed

/-- Whether a report tells of an owner; one without a name is none. -/
def namesOwner (report : Option String) : Bool := (report.filter (· ≠ "")).isSome

/-- Whether the manager runs after a number of reports, where it is known whether it did before. -/
def runsAfter (reports : List (Option String)) (running : Bool) : Bool :=
  reports.foldl (fun _ report => namesOwner report) running

/-- The last report is the one that counts. -/
theorem runsAfter_concat (reports : List (Option String)) (report : Option String)
    (running : Bool) : runsAfter (reports ++ [report]) running = namesOwner report := by
  unfold runsAfter
  rw [List.foldl_append]
  rfl

/-- The first report is what is known before the others. -/
theorem runsAfter_cons (report : Option String) (reports : List (Option String))
    (running : Bool) :
    runsAfter (report :: reports) running = runsAfter reports (namesOwner report) := rfl

variable (m : Manager)

/-! ## Whether the manager runs -/

/-- The answer to a call does not say whether the manager runs. -/
theorem running_onReply (answer : Except BusError Json) :
    (m.onReply answer).running = m.running := by
  have hend : ∀ (n : Manager) (error : Option ManagerError),
      (n.endIntrospection error).running = n.running := fun n error =>
    congrArg (·.present.running) (outlook_endIntrospection n error)
  unfold onReply
  split
  · rfl
  · dsimp only
    split
    · rw [hend]
      rfl
    · rw [hend]
      split <;> rfl

/-- The end of a cache read does not say whether the manager runs. -/
theorem running_onCacheRead (result : ReadEnd) : (m.onCacheRead result).running = m.running := by
  have hresolve : ∀ (n : Manager) (error : Option ManagerError),
      (n.resolveReady error).running = n.running := fun n error =>
    congrArg (·.present.running) (outlook_resolveReady n error)
  unfold onCacheRead
  split
  · rfl
  · cases result with
    | described d =>
      dsimp only
      split
      · rw [hresolve]
        rfl
      · rfl
    | failed =>
      dsimp only
      split
      · rw [hresolve]
      · split
        · exact congrArg (·.present.running) (outlook_schedule _ .introspect)
        · rfl
    | cancelled => rfl

/-- No command says whether the manager runs. -/
theorem running_onCommand (found : Option Path) (c : Command) :
    (m.onCommand found c).running = m.running := by
  have hschedule : ∀ (n : Manager) (s : Deferred), (n.schedule s).running = n.running := fun n s =>
    congrArg (·.present.running) (outlook_schedule n s)
  cases c with
  | requestReady w => exact congrArg (·.present.running) (outlook_requestReady m w)
  | activate w => exact congrArg (·.present.running) (outlook_activate m w)
  | setAlwaysIntrospect always =>
    show (m.setAlwaysIntrospect always).running = m.running
    unfold setAlwaysIntrospect
    dsimp only
    split
    · exact hschedule _ .introspect
    · rfl
  | setCacheFile setting =>
    show (m.setCacheFile (setting.resolve found)).running = m.running
    unfold setCacheFile
    dsimp only
    split
    · exact hschedule _ .readCacheFile
    · rfl
  | dispose => rfl

/-- A report says whether the manager runs. -/
theorem running_onOwner (owner : Option String) :
    (m.onOwner owner).running = namesOwner owner := by
  have hlearn : ∀ n : Manager, n.learnName.publish.running = n.running := fun n =>
    congrArg (·.present.running) (outlook_learnName n)
  unfold onOwner namesOwner
  dsimp only
  rw [hlearn]
  split
  · rename_i hnone
    rw [hnone]
    exact congrArg (·.present.running) (outlook_onNameLost m)
  · rename_i unique hsome
    rw [hsome]
    unfold onNameGained
    split <;> exact congrArg (·.present.running) (outlook_schedule _ .introspect)

/-! ## Steps -/

/-- The steps that are due say nothing of the presence of the manager. -/
theorem presence_runDeferred : m.runDeferred.presence = m.presence :=
  runDeferred_frame presence
    (runStep_frame _ (fun _ _ => rfl) (fun _ _ _ => rfl) (fun _ _ _ _ => rfl)) m

variable {m}

/-- What a proxy knows of the presence is part of how it stands, but for whether the manager runs. -/
theorem presence_of_standing {m' : Manager} {running : Bool} (hrunning : m'.running = running)
    (h : m'.standing.place = m.standing.place) :
    m'.presence = { m.presence with running := running } := by
  have hname : m'.busName = m.busName := congrArg Prod.fst h
  have hwatching : m'.watching = m.watching := congrArg (·.2.1) h
  have hdisposed : m'.disposed = m.disposed := congrArg (·.2.2) h
  unfold presence
  rw [hrunning, hname, hwatching, hdisposed]

/-- **Only reports say whether the manager runs**: whatever else happens to a proxy leaves that alone,
as long as the proxy does not stop. -/
theorem presence_step_of_unreported (hd : m.disposed = false) {o : Occurrence}
    (howner : ∀ owner, o ≠ .owner owner) (hclosed : o ≠ .watchClosed)
    (hlive : (m.step o).disposed = false) : (m.step o).presence = m.presence := by
  rw [disposed_step] at hlive
  rw [step, presence_runDeferred]
  have hhandled := handled_react hd o
  generalize m.react o = m' at hlive hhandled
  cases hhandled with
  | sent c => rfl
  | nothing ho => rfl
  | command found c rest hqueue =>
    have hc : c ≠ .dispose := by
      rintro rfl
      cases hlive
    obtain ⟨wants, activations, hstanding⟩ := standing_onCommand { m with queue := rest } found hc
    have hplace := congrArg Standing.place hstanding
    exact presence_of_standing (running_onCommand { m with queue := rest } found c) hplace
  | owner owner hwatching => exact absurd rfl (howner owner)
  | closed hknown => exact absurd rfl hclosed
  | closedUnknown hunknown => exact absurd rfl hclosed
  | reply answer =>
    exact presence_of_standing (running_onReply m answer)
      (congrArg Standing.place (standing_onReply m answer))
  | cacheRead result =>
    exact presence_of_standing (running_onCacheRead m result)
      (congrArg Standing.place (standing_onCacheRead m result))
  | forsaken => cases hlive

/-- **Nothing changes the name** that a proxy watches. -/
theorem busName_step (m : Manager) (o : Occurrence) : (m.step o).busName = m.busName := by
  rw [step]
  refine (congrArg Presence.busName (presence_runDeferred (m.react o))).trans ?_
  show (m.react o).busName = m.busName
  rcases hd : m.disposed with _ | _
  · have hhandled := handled_react hd o
    generalize m.react o = m' at hhandled
    cases hhandled with
    | sent c => rfl
    | nothing ho => rfl
    | command found c rest hqueue =>
      by_cases hc : c = .dispose
      · rw [hc]
        rfl
      · obtain ⟨_, _, hstanding⟩ := standing_onCommand { m with queue := rest } found hc
        exact congrArg Standing.busName hstanding
    | owner owner hwatching => exact congrArg Standing.busName (standing_onOwner m owner)
    | closed hknown => rfl
    | closedUnknown hunknown =>
      exact congrArg Standing.busName (standing_onOwner { m with watching := false } none)
    | reply answer => exact congrArg Standing.busName (standing_onReply m answer)
    | cacheRead result => exact congrArg Standing.busName (standing_onCacheRead m result)
    | forsaken => rfl
  · exact react_frame_of_disposed Manager.busName (fun _ _ => rfl) (fun _ _ => rfl) hd o

/-- A proxy watches the same name all its life. -/
theorem busName_run (m : Manager) (occurrences : List Occurrence) :
    (m.run occurrences).busName = m.busName := by
  induction occurrences generalizing m with
  | nil => rfl
  | cons o rest ih => exact (ih (m.step o)).trans (busName_step m o)

/-- **A report says whether the manager runs**, as long as the proxy hears it. -/
theorem presence_step_owner (hd : m.disposed = false) (hwatching : m.watching = true)
    (owner : Option String) :
    (m.step (.owner owner)).presence = { m.presence with running := namesOwner owner } := by
  have hplace := congrArg Standing.place (standing_onOwner m owner)
  rw [step, presence_runDeferred, react_owner hd, if_pos hwatching]
  exact presence_of_standing (running_onOwner m owner) hplace

/-- **A proxy that hears reports one after another knows what the last one says.** -/
theorem running_run_reports (hd : m.disposed = false) (hwatching : m.watching = true)
    (reports : List (Option String)) :
    (m.run (reports.map .owner)).running = runsAfter reports m.running := by
  induction reports generalizing m with
  | nil => rfl
  | cons report rest ih =>
    have hstep := presence_step_owner hd hwatching report
    have hheard := ih (m := m.step (.owner report)) ((congrArg Presence.disposed hstep).trans hd)
      ((congrArg Presence.watching hstep).trans hwatching)
    rw [runsAfter_cons]
    refine hheard.trans (congrArg (runsAfter rest) ?_)
    exact congrArg Presence.running hstep

end Manager

end Roster
