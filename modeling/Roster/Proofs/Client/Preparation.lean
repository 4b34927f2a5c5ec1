import Roster.Client.Preparation
import Roster.Proofs.Manager.Solitude

/-!
# Preparing one manager, step by step

What a client does from the moment it is asked for its only manager, on a bus where nobody is, until
nothing is left to do. Of such a client only a few things ever change; they make a `Scene`, and a client
that prepares a manager is the client of a scene all along.

* First come the equations for turns, for any client: what a task does in its turn, and what comes when
  no task is ready.
* Then, for the client of a scene, one equation for each thing that the proxy can look at: its commands,
  its watch, its call and its cache read (`proxyStep?_command`, `watchStep?_first`, …).
* The course itself goes through `asked`, `parked`, `reading`, `calling`, `described` and `refused`, one
  equation `taskStep?_…` for each step, with the reactions of the proxy from
  `Roster.Proofs.Manager.Solitude`.
* `settled` is where it ends, and `prepared_eq` says that the client always gets there. It ends by
  itself: no bound on the number of steps is met on the way.
-/

namespace Roster.Client

open Manager (Occurrence)

/-! ## Turns -/

variable {c c' : Client} {task : ClientTask}

/-- A task that can do something does it, and goes on. -/
theorem runSteps_of_some (h : c.taskStep? task = some c') (fuel : Nat) :
    c.runSteps task (fuel + 1) = c'.runSteps task fuel := by
  rw [runSteps, h]

/-- A task that can do nothing is done. -/
theorem runSteps_of_none (h : c.taskStep? task = none) (fuel : Nat) : c.runSteps task fuel = c := by
  cases fuel with
  | zero => rfl
  | succ fuel => rw [runSteps, h]

/-- The task that is ready first has its turn. -/
theorem runReady_of_ready (rest : List ClientTask) (h : c.ready = task :: rest) (fuel : Nat) :
    c.runReady (fuel + 1) =
      (({ c with ready := rest }.runTask task).wakeForsaken).runReady fuel := by
  rw [runReady, h]

/-- When no task is ready, the cache reads that have begun end. -/
theorem runReady_of_reading (h : c.ready = []) (hholds : c.holdsReads = false)
    (hreading : c.proxies.any isReading = true) (fuel : Nat) :
    c.runReady (fuel + 1) = c.finishReads.runReady fuel := by
  rw [runReady, h]
  dsimp only
  rw [hholds, hreading]
  rfl

/-- When no task is ready and no cache read has begun, there is nothing to do now. -/
theorem runReady_of_quiet (h : c.ready = []) (hquiet : c.proxies.any isReading = false)
    (fuel : Nat) : c.runReady fuel = c := by
  cases fuel with
  | zero => rfl
  | succ fuel =>
    rw [runReady, h]
    dsimp only
    rw [hquiet, Bool.and_false]
    rfl

/-! ## A client with one proxy -/

/-- What changes while a client prepares its only manager on a bus where nobody is. -/
structure Scene where
  /-- The proxy of the manager. -/
  manager : Manager
  /-- How many reports the proxy took. -/
  taken : Nat := 0
  /-- The call that was sent last. -/
  sent : Option SentCall := none
  /-- The cache read that ended last. -/
  finished : Option FinishedRead := none
  /-- How often each name was called. -/
  calls : OrderedMap String Nat := ∅
  /-- The calls that were sent. -/
  callLog : List MethodCall := []
  /-- The cache reads that were begun. -/
  readLog : List (ServiceName × Path) := []
  /-- The tasks that are ready. -/
  ready : List ClientTask := []
  /-- The time. -/
  now : Nat := 0

variable (setup : Setup) (tree : FileTree) (name : ServiceName)

/-- The proxy of a scene. -/
def Scene.proxy (s : Scene) : Proxy where
  name := name
  manager := s.manager
  watch := .onBus 1
  sent := s.sent
  finished := s.finished

/-- The watch of the proxy; it was told once that the name has no owner. -/
def Scene.watch (s : Scene) : Watch where
  id := 1
  busName := setup.config.busName name
  told := [none]
  taken := s.taken

/-- The client of a scene. -/
def Scene.client (s : Scene) : Client where
  setup := setup
  tree := tree
  bus := { watches := [s.watch setup name], calls := s.calls }
  now := s.now
  proxies := [s.proxy name]
  managers := OrderedMap.insert ∅ name 0
  ready := s.ready
  waiters := 1
  callLog := s.callLog
  readLog := s.readLog

variable {setup tree name} {s : Scene}

/-- The registry holds the proxy. -/
theorem isHeld_client : (s.client setup tree name).isHeld 0 = true := rfl

/-- Nobody is woken for a proxy that the registry holds. -/
theorem wakeForsaken_client : (s.client setup tree name).wakeForsaken = s.client setup tree name := by
  have hnone : ((List.range 1).filter fun i =>
      !(s.client setup tree name).isDisposed i && !(s.client setup tree name).isHeld i) = [] := by
    rw [List.filter_eq_nil_iff]
    intro i hi
    have hzero : i = 0 := by
      have hlt := List.mem_range.mp hi
      omega
    rw [hzero, isHeld_client]
    simp
  unfold wakeForsaken
  show List.foldl _ _ ((List.range 1).filter _) = _
  rw [hnone]
  rfl

/-- The proxy reacts to something and goes on; of the client, only it and the log of cache reads
change. -/
theorem happen_client {o : Occurrence} {m : Manager} (new : List Path)
    (hstep : s.manager.step o = m) (hlive : m.disposed = false)
    (hreads : m.readsStarted = s.manager.readsStarted ++ new) :
    (s.client setup tree name).happen 0 o =
      { s with
        manager := m
        readLog := s.readLog ++ new.map fun path => (name, path) : Scene }.client setup tree name := by
  cases hstep
  unfold happen
  show (wakeAsked (if (s.manager.step o).disposed = true ∧ s.manager.disposed = false then _ else
    modifyProxy { (s.client setup tree name) with
      readLog := s.readLog ++ ((s.manager.step o).readsStarted.drop
        s.manager.readsStarted.length).map fun path => (name, path) } 0 _) _) = _
  rw [if_neg fun hstop => Bool.false_ne_true (hlive.symm.trans hstop.1), hreads, List.drop_left]
  rfl

/-- A reaction that begins no cache read changes only the proxy. -/
theorem happen_client_quiet {o : Occurrence} {m : Manager} (hstep : s.manager.step o = m)
    (hlive : m.disposed = false) (hreads : m.readsStarted = s.manager.readsStarted) :
    (s.client setup tree name).happen 0 o = { s with manager := m }.client setup tree name := by
  rw [happen_client [] hstep hlive (hreads.trans (List.append_nil _).symm), List.map_nil,
    List.append_nil]

/-! ## What the proxy can do next -/

/-- A proxy with a command takes it. -/
theorem proxyStep?_command (hlive : s.manager.disposed = false) (hqueue : s.manager.queue ≠ []) :
    (s.client setup tree name).proxyStep? 0 = some ((s.client setup tree name).happen 0
      (.command (CacheFile.find? tree setup.config setup.searchDirs name))) := by
  show (if s.manager.disposed = true then none else if s.manager.queue ≠ [] then _ else _) = _
  rw [hlive, if_neg Bool.false_ne_true, if_pos hqueue]
  rfl

/-- A proxy without a command looks at its watch, its call and its cache read. -/
theorem proxyStep?_idle (hlive : s.manager.disposed = false) (hqueue : s.manager.queue = []) :
    (s.client setup tree name).proxyStep? 0 =
      ((s.client setup tree name).watchStep? 0 (s.proxy name) <|>
        (s.client setup tree name).callStep? 0 (s.proxy name) <|>
          (s.client setup tree name).readStep? 0 (s.proxy name)) := by
  show (if s.manager.disposed = true then none else if s.manager.queue ≠ [] then _ else
    if (!(s.client setup tree name).isHeld 0) = true then _ else _) = _
  rw [hlive, if_neg Bool.false_ne_true, hqueue, if_neg (fun h => h rfl), isHeld_client]
  rfl

/-- The proxy looks at its watch only while it watches. -/
theorem watchOf_client (watching : Bool) :
    ((s.client setup tree name).watchOf (s.proxy name)).filter (fun _ => watching) =
      if watching then some (s.watch setup name) else none := rfl

/-- The first report says that the name has no owner. -/
theorem watchStep?_first (hwatching : s.manager.watching = true) (htaken : s.taken = 0) :
    (s.client setup tree name).watchStep? 0 (s.proxy name) =
      some (({ s with taken := 1 }.client setup tree name).happen 0 (.owner none)) := by
  have htake : (s.watch setup name).take? =
      some (none, { s with taken := 1 : Scene }.watch setup name) := by
    unfold Watch.take? Scene.watch
    rw [htaken]
    rfl
  unfold watchStep?
  rw [watchOf_client, show (s.proxy name).manager.watching = true from hwatching, if_pos rfl]
  dsimp only
  rw [htake]
  rfl

/-- There is no second report. -/
theorem watchStep?_later (htaken : s.taken = 1) :
    (s.client setup tree name).watchStep? 0 (s.proxy name) = none := by
  have htake : (s.watch setup name).take? = none := by
    unfold Watch.take? Scene.watch
    rw [htaken]
    rfl
  unfold watchStep?
  rw [watchOf_client]
  cases (s.proxy name).manager.watching with
  | false => rfl
  | true =>
    rw [if_pos rfl]
    dsimp only
    rw [htake]
    rfl

/-- Nobody is woken for a change of the bus that no watch was told. -/
theorem wakeTold_of_same (before : Bus) (h : before.watches = c.bus.watches) :
    c.wakeTold before = c := by
  have hsame (n : Nat) : before.watch? n = c.bus.watch? n := congrArg (List.find? _) h
  unfold wakeTold
  rw [List.filter_eq_nil_iff.mpr ?none]
  · rfl
  · rintro ⟨p, i⟩ _
    dsimp only
    split
    · rw [hsame, decide_eq_false (not_not.mpr rfl), Bool.and_false]
      exact Bool.false_ne_true
    · exact Bool.false_ne_true

/-- What becomes of the scene when the proxy calls its manager. -/
def Scene.called (s : Scene) (setup : Setup) (name : ServiceName) (number : Nat) : Scene :=
  let busName := setup.config.busName name
  { s with
    sent := some ⟨number, s.now, .error (.serviceUnknown busName)⟩
    calls := s.calls.insert busName ((s.calls.get? busName).getD 0 + 1)
    callLog := s.callLog ++ [callOf setup.config name] }

/-- A call is answered at once: nobody knows the service. -/
theorem sendCall_client (number : Nat) :
    (s.client setup tree name).sendCall 0 (s.proxy name) number =
      ((s.called setup name number).client setup tree name).happen 0
        (.reply (.error (.serviceUnknown (setup.config.busName name)))) := by
  have hanswer : (s.client setup tree name).bus.call (callOf setup.config name) =
      (((s.called setup name number).client setup tree name).bus,
        { value := .error (.serviceUnknown (setup.config.busName name)) }) := rfl
  have hintime : ∀ what : String, inTime what setup.config.callTimeout
      { value := .error (.serviceUnknown (setup.config.busName name)) } =
        (0, .error (.serviceUnknown (setup.config.busName name))) := fun what =>
    if_pos (Nat.zero_le _)
  unfold sendCall
  dsimp only
  rw [show (s.client setup tree name).setup.config = setup.config from rfl,
    show (s.proxy name).name = name from rfl, hanswer]
  dsimp only
  rw [hintime]
  dsimp only
  rw [if_pos rfl, wakeTold_of_same (s.client setup tree name).bus ?same]
  · rfl
  · rfl

/-- A call that was not sent yet is sent. -/
theorem callStep?_unsent {number : Nat} (hcall : s.manager.call = some number)
    (hsent : s.sent = none) :
    (s.client setup tree name).callStep? 0 (s.proxy name) =
      some (((s.called setup name number).client setup tree name).happen 0
        (.reply (.error (.serviceUnknown (setup.config.busName name))))) := by
  have hunsent : sentCall? (s.proxy name) = none := by
    unfold sentCall?
    rw [show (s.proxy name).sent = none from hsent]
    rfl
  unfold callStep?
  rw [show (s.proxy name).manager.call = some number from hcall]
  dsimp only
  rw [hunsent, sendCall_client]

/-- Without a call there is none to send and none to be answered. -/
theorem callStep?_none (hcall : s.manager.call = none) :
    (s.client setup tree name).callStep? 0 (s.proxy name) = none := by
  unfold callStep?
  rw [show (s.proxy name).manager.call = none from hcall]

/-- A cache read that has ended is noticed. -/
theorem readStep?_finished {number : Nat} {result : ReadEnd} (hread : s.manager.read = some number)
    (hfinished : s.finished = some ⟨number, result⟩) :
    (s.client setup tree name).readStep? 0 (s.proxy name) =
      some ((s.client setup tree name).happen 0 (.cacheRead result)) := by
  have hkept : (s.proxy name).finished.filter
      (fun f => (s.proxy name).manager.read = some f.number) = some ⟨number, result⟩ := by
    rw [show (s.proxy name).finished = some ⟨number, result⟩ from hfinished]
    exact if_pos (decide_eq_true hread)
  unfold readStep?
  rw [hkept]

/-- A cache read that has not ended is not noticed. -/
theorem readStep?_none (hread : s.manager.read = none ∨ s.finished = none) :
    (s.client setup tree name).readStep? 0 (s.proxy name) = none := by
  have hnone : (s.proxy name).finished.filter
      (fun f => (s.proxy name).manager.read = some f.number) = none := by
    rw [Option.filter_eq_none_iff]
    intro f hf hsome
    rcases hread with hread | hfinished
    · exact absurd (hread.symm.trans (of_decide_eq_true hsome)) (by simp)
    · exact absurd (hfinished.symm.trans hf) (by simp)
  unfold readStep?
  rw [hnone]

/-- A proxy that has taken its report, that has no call and no cache read that ended, waits. -/
theorem taskStep?_none (hlive : s.manager.disposed = false) (hqueue : s.manager.queue = [])
    (htaken : s.taken = 1) (hcall : s.manager.call = none)
    (hread : s.manager.read = none ∨ s.finished = none) :
    (s.client setup tree name).taskStep? (.proxy 0) = none := by
  rw [taskStep?, proxyStep?_idle hlive hqueue, watchStep?_later htaken, callStep?_none hcall,
    readStep?_none hread]
  rfl

/-! ## The turns of the proxy -/

section Turns

variable (setup name)

/-- The manager was asked whether it is ready, and nothing has happened yet. -/
def asked (path : Option Path) : Scene where
  manager := { Manager.start (setup.config.busName name) setup.config.alwaysIntrospect path with
    queue := [.requestReady 0] }

/-- Whoever asked is parked, and the report has not come yet. -/
def parked (path : Option Path) : Scene where
  manager := Manager.parked (setup.config.busName name) setup.config.alwaysIntrospect path

/-- The cache file is being read, or was read with the given result. -/
def reading (p : Path) (finished : Option FinishedRead) : Scene where
  manager := Manager.reading (setup.config.busName name) setup.config.alwaysIntrospect p
  taken := 1
  finished := finished
  readLog := [(name, p)]

/-- The cache file has given a description. -/
def described (p : Path) (d : Description) : Scene :=
  { reading setup name p (some ⟨1, .described d⟩) with
    manager := Manager.described (setup.config.busName name) setup.config.alwaysIntrospect p d }

/-- The manager is to be called, with this cache read behind it. -/
def calling (path : Option Path) (finished : Option FinishedRead) : Scene where
  manager := Manager.calling (Manager.unowned (setup.config.busName name)
    setup.config.alwaysIntrospect path path.toList)
  taken := 1
  finished := finished
  readLog := path.toList.map fun p => (name, p)

/-- The manager was called and nobody knew it. -/
def refused (path : Option Path) (finished : Option FinishedRead) : Scene :=
  { (calling setup name path finished).called setup name 1 with
    manager := Manager.failed
      (Manager.unowned (setup.config.busName name) setup.config.alwaysIntrospect path path.toList)
      (.serviceUnknown (setup.config.busName name)) }

/-- What the first report brings about: the cache file is read, and without one the manager is
called. -/
def begun : Option Path → Scene
  | some p => reading setup name p none
  | none => calling setup name none none

variable {setup name}

/-- The request is parked. -/
theorem taskStep?_asked (path : Option Path) :
    ((asked setup name path).client setup tree name).taskStep? (.proxy 0) =
      some ((parked setup name path).client setup tree name) := by
  have hstep : (asked setup name path).manager.step
      (.command (CacheFile.find? tree setup.config setup.searchDirs name)) =
        (parked setup name path).manager := Manager.step_command_asked _ _ _ _
  rw [taskStep?, proxyStep?_command rfl (List.cons_ne_nil _ _),
    happen_client_quiet hstep rfl rfl]
  rfl

/-- The first report begins a cache read or a call. -/
theorem taskStep?_parked (path : Option Path) :
    ((parked setup name path).client setup tree name).taskStep? (.proxy 0) =
      some ((begun setup name path).client setup tree name) := by
  have hstep := Manager.step_owner_parked (setup.config.busName name)
    setup.config.alwaysIntrospect path
  rw [taskStep?, proxyStep?_idle rfl rfl, watchStep?_first rfl rfl]
  cases path with
  | none =>
    rw [happen_client_quiet (s := { parked setup name none with taken := 1 }) hstep rfl rfl]
    rfl
  | some p =>
    rw [happen_client (s := { parked setup name (some p) with taken := 1 }) [p] hstep rfl rfl]
    rfl

/-- A call is answered. -/
theorem taskStep?_calling (path : Option Path) (finished : Option FinishedRead) :
    ((calling setup name path finished).client setup tree name).taskStep? (.proxy 0) =
      some ((refused setup name path finished).client setup tree name) := by
  have hstep : ((calling setup name path finished).called setup name 1).manager.step
      (.reply (.error (.serviceUnknown (setup.config.busName name)))) =
        (refused setup name path finished).manager := Manager.step_error_calling _ _ _ _ _
  rw [taskStep?, proxyStep?_idle rfl rfl, watchStep?_later rfl, callStep?_unsent rfl rfl,
    happen_client_quiet hstep rfl rfl]
  rfl

/-- A description makes the manager ready. -/
theorem taskStep?_described (p : Path) (d : Description) :
    ((reading setup name p (some ⟨1, .described d⟩)).client setup tree name).taskStep? (.proxy 0) =
      some ((described setup name p d).client setup tree name) := by
  have hstep : (reading setup name p (some ⟨1, .described d⟩)).manager.step
      (.cacheRead (.described d)) = (described setup name p d).manager :=
    Manager.step_described_reading _ _ _ _
  rw [taskStep?, proxyStep?_idle rfl rfl, watchStep?_later rfl, callStep?_none rfl,
    readStep?_finished rfl rfl, happen_client_quiet hstep rfl rfl]
  rfl

/-- A cache file without one makes the manager be called. -/
theorem taskStep?_failed (p : Path) :
    ((reading setup name p (some ⟨1, .failed⟩)).client setup tree name).taskStep? (.proxy 0) =
      some ((calling setup name (some p) (some ⟨1, .failed⟩)).client setup tree name) := by
  have hstep : (reading setup name p (some ⟨1, .failed⟩)).manager.step (.cacheRead .failed) =
      (calling setup name (some p) (some ⟨1, .failed⟩)).manager :=
    Manager.step_failed_reading _ _ _
  rw [taskStep?, proxyStep?_idle rfl rfl, watchStep?_later rfl, callStep?_none rfl,
    readStep?_finished rfl rfl, happen_client_quiet hstep rfl rfl]
  rfl

/-! ## Until nothing is left to do -/

variable (setup tree name) in
/-- What the preparation comes to, with the path at which the cache file is found. -/
def settled : Option Path → Scene
  | none => refused setup name none none
  | some p =>
    match CacheFile.read tree p with
    | .ok d => described setup name p d
    | .error _ => refused setup name (some p) (some ⟨1, .failed⟩)

theorem settled_of_ok {p : Path} {d : Description} (h : CacheFile.read tree p = .ok d) :
    settled setup tree name (some p) = described setup name p d := by
  rw [settled, h]

theorem settled_of_error {p : Path} {e : CacheFault} (h : CacheFile.read tree p = .error e) :
    settled setup tree name (some p) = refused setup name (some p) (some ⟨1, .failed⟩) := by
  rw [settled, h]

/-- The proxy of a scene lives and waits for nothing. -/
structure Scene.Over (s : Scene) : Prop where
  /-- No task is ready. -/
  ready : s.ready = []
  /-- The report was taken. -/
  taken : s.taken = 1
  /-- The proxy has not stopped. -/
  disposed : s.manager.disposed = false
  /-- No command was sent. -/
  queue : s.manager.queue = []
  /-- No call is on its way. -/
  call : s.manager.call = none
  /-- No cache read is on its way. -/
  read : s.manager.read = none

/-- Time changes nothing about it. -/
theorem Scene.Over.later (h : s.Over) (time : Nat) : { s with now := time : Scene }.Over :=
  ⟨h.ready, h.taken, h.disposed, h.queue, h.call, h.read⟩

variable (setup tree name)

theorem refused_over (path : Option Path) (finished : Option FinishedRead) :
    (refused setup name path finished).Over := ⟨rfl, rfl, rfl, rfl, rfl, rfl⟩

theorem described_over (p : Path) (d : Description) : (described setup name p d).Over :=
  ⟨rfl, rfl, rfl, rfl, rfl, rfl⟩

/-- A preparation comes to an end. -/
theorem settled_over (path : Option Path) : (settled setup tree name path).Over := by
  unfold settled
  split
  · exact refused_over _ _ _ _
  · split
    · exact described_over _ _ _ _
    · exact refused_over _ _ _ _

variable {setup tree name}

/-- No time has passed until then. -/
theorem now_settled (path : Option Path) : (settled setup tree name path).now = 0 := by
  unfold settled
  split
  · rfl
  · split <;> rfl

/-- Once a scene is over, the proxy does nothing in its turn. -/
theorem Scene.Over.runSteps (h : s.Over) (fuel : Nat) :
    (s.client setup tree name).runSteps (.proxy 0) fuel = s.client setup tree name :=
  runSteps_of_none (taskStep?_none h.disposed h.queue h.taken h.call (.inl h.read)) fuel

/-- Once a scene is over, there is nothing to do at the present time. -/
theorem Scene.Over.runReady (h : s.Over) (fuel : Nat) :
    (s.client setup tree name).runReady fuel = s.client setup tree name := by
  refine runReady_of_quiet h.ready ?_ fuel
  show (isReading (s.proxy name) || false) = false
  unfold isReading
  rw [show (s.proxy name).manager.read = none from h.read]
  rfl

/-- Once a scene is over, nothing is due later. -/
theorem Scene.Over.dueTimes (h : s.Over) : (s.client setup tree name).dueTimes = [] := by
  have hunsent : sentCall? (s.proxy name) = none := by
    unfold sentCall?
    rw [Option.filter_eq_none_iff]
    intro call _ hcall
    exact absurd (h.call.symm.trans (of_decide_eq_true hcall)) (Option.some_ne_none _).symm
  have hproxies : ∀ x ∈ (s.client setup tree name).proxies.zipIdx, sentCall? x.1 = none := by
    intro x hx
    cases List.mem_singleton.mp hx
    exact hunsent
  refine List.append_eq_nil_iff.mpr ⟨List.filterMap_eq_nil_iff.mpr fun x hx => ?_, rfl⟩
  dsimp only
  rw [hproxies x hx, Option.bind_none]

/-- Once a scene is over, moving the clock does nothing else. -/
theorem Scene.Over.moveClock (h : s.Over) (time : Nat) :
    (s.client setup tree name).moveClock time =
      { s with now := time : Scene }.client setup tree name := by
  unfold Client.moveClock
  rw [h.dueTimes]
  rfl

/-- What reading a cache file gives, if reading does not break down. -/
theorem readResult_client (hsound : setup.brokenReader = false) (p : Path) :
    (s.client setup tree name).readResult p =
      match CacheFile.read tree p with
      | .ok d => .described d
      | .error _ => .failed := by
  unfold readResult
  rw [show (s.client setup tree name).setup.brokenReader = false from hsound]
  rfl

/-- A cache read that has begun ends when no task is ready. -/
theorem finishReads_reading (p : Path) :
    ((reading setup name p none).client setup tree name).finishReads =
      { reading setup name p (some ⟨1, ((reading setup name p none).client setup tree
          name).readResult p⟩) with ready := [.proxy 0] }.client setup tree name := rfl

/-- The turn after the question, without a cache file. -/
theorem runSteps_asked_none (fuel : Nat) :
    ((asked setup name none).client setup tree name).runSteps (.proxy 0) (fuel + 3) =
      (settled setup tree name none).client setup tree name := by
  rw [runSteps_of_some (taskStep?_asked none), runSteps_of_some (taskStep?_parked none), begun,
    runSteps_of_some (taskStep?_calling none none)]
  exact (refused_over _ _ none none).runSteps fuel

/-- The turn after the question, with a cache file. -/
theorem runSteps_asked_some (p : Path) (fuel : Nat) :
    ((asked setup name (some p)).client setup tree name).runSteps (.proxy 0) (fuel + 2) =
      (reading setup name p none).client setup tree name := by
  rw [runSteps_of_some (taskStep?_asked (some p)), runSteps_of_some (taskStep?_parked (some p)),
    begun]
  exact runSteps_of_none (taskStep?_none rfl rfl rfl rfl (.inr rfl)) fuel

/-- The turn in which the cache read is noticed. -/
theorem runSteps_read (hsound : setup.brokenReader = false) (p : Path) (fuel : Nat) :
    ((reading setup name p (some ⟨1, ((reading setup name p none).client setup tree
      name).readResult p⟩)).client setup tree name).runSteps (.proxy 0) (fuel + 2) =
        (settled setup tree name (some p)).client setup tree name := by
  rw [readResult_client hsound]
  cases hread : CacheFile.read tree p with
  | ok d =>
    rw [settled_of_ok hread, runSteps_of_some (taskStep?_described p d)]
    exact (described_over _ _ p d).runSteps _
  | error e =>
    rw [settled_of_error hread, runSteps_of_some (taskStep?_failed p),
      runSteps_of_some (taskStep?_calling _ _)]
    exact (refused_over _ _ _ _).runSteps _

/-- A turn of the proxy that leads from one scene to another; no task is ready but this one. -/
theorem runReady_turn {t : Scene} (hs : s.ready = []) (ht : t.ready = [])
    (hturn : (s.client setup tree name).runSteps (.proxy 0) stepBound = t.client setup tree name)
    (fuel : Nat) :
    ({ s with ready := [.proxy 0] }.client setup tree name).runReady (fuel + 1) =
      (t.client setup tree name).runReady fuel := by
  have hsame : ({ s with ready := [] } : Scene) = s := by rw [← hs]
  have htask : (s.client setup tree name).runTask (.proxy 0) = t.client setup tree name := by
    unfold runTask
    rw [hturn]
    refine if_neg ?_
    show ClientTask.proxy 0 ∉ t.ready
    rw [ht]
    exact List.not_mem_nil
  rw [runReady_of_ready [] rfl]
  show (((({ s with ready := [] }.client setup tree name).runTask (.proxy 0)).wakeForsaken).runReady
    fuel) = _
  rw [hsame, htask, wakeForsaken_client]

/-- All turns of the proxy: one without a cache file, and with one a second turn for its end. -/
theorem runReady_asked (hsound : setup.brokenReader = false) (path : Option Path) (fuel : Nat) :
    ({ asked setup name path with ready := [.proxy 0] }.client setup tree name).runReady
      (fuel + 3) = (settled setup tree name path).client setup tree name := by
  have hover := settled_over setup tree name path
  cases path with
  | none =>
    rw [runReady_turn rfl hover.ready (runSteps_asked_none (stepBound - 3))]
    exact hover.runReady _
  | some p =>
    rw [runReady_turn rfl rfl (runSteps_asked_some p (stepBound - 2)),
      runReady_of_reading rfl rfl rfl, finishReads_reading,
      runReady_turn rfl hover.ready (runSteps_read hsound p (stepBound - 2))]
    exact hover.runReady _

/-- Settling takes a millisecond in which nothing more happens. -/
theorem settle_asked (hsound : setup.brokenReader = false) (path : Option Path) :
    ({ asked setup name path with ready := [.proxy 0] }.client setup tree name).settle =
      { settled setup tree name path with now := 1 }.client setup tree name := by
  have hover := settled_over setup tree name path
  unfold settle
  rw [wakeForsaken_client]
  show Client.runUntil _ (0 + 1) (stepBound - 2 + 1 + 1) = _
  rw [runUntil, show stepBound = stepBound - 3 + 3 from rfl, runReady_asked hsound]
  dsimp only
  rw [show ((settled setup tree name path).client setup tree name).now = 0 from now_settled path,
    if_neg (by omega), nextDue?, hover.dueTimes]
  show Client.runUntil (Client.moveClock _ 1) 1 _ = _
  rw [hover.moveClock, runUntil, (hover.later 1).runReady]
  exact if_pos (Nat.le_refl 1)

end Turns

/-! ## The preparation as a whole -/

section Whole

variable (setup : Setup) (tree : FileTree) (name : ServiceName)

/-- The client in which a manager was prepared. -/
def prepared : Client :=
  let (c, id) := Client.getManager { setup := setup, tree := tree } name .search
  let (c, waiter) := c.freshWaiter
  (c.send id (.requestReady waiter)).settle

variable {setup}

/-- It is the client that the preparation tells of. -/
theorem prepare_eq (hbus : setup.watchMode = .bus) :
    prepare setup tree name =
      ⟨(prepared setup tree name).answer? 0 0, (prepared setup tree name).snapshot 0⟩ := by
  obtain ⟨config, dirs, mode, activatableDelay, ownedDelay, broken⟩ := setup
  cases hbus
  rfl

/-- A preparation on a bus where nobody is ends in one of three ways: the cache file gave a description,
it gave none, or there is none. -/
theorem prepared_eq (hbus : setup.watchMode = .bus) (hsound : setup.brokenReader = false) :
    prepared setup tree name =
      { settled setup tree name (CacheFile.find? tree setup.config setup.searchDirs name) with
        now := 1 }.client setup tree name := by
  rw [← settle_asked hsound]
  obtain ⟨config, dirs, mode, activatableDelay, ownedDelay, broken⟩ := setup
  cases hbus
  rfl

end Whole

end Roster.Client
