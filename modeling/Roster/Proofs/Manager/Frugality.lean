import Roster.Proofs.Manager.Disposal
import Roster.Proofs.Manager.Presence
import Roster.Proofs.Manager.Progress
import Roster.Proofs.Manager.Provenance

/-!
# No call without need

Calling a manager starts it, so a proxy that can learn everything from a cache file must not call. A
run is *undisturbed* (`Undisturbed`) as long as nobody asks for a start, every report says that the
name has no owner, and every cache file that is set can be read. Then no call is ever begun, and whoever
is answered before the end is told that the manager is ready (`no_needless_start_run`).

The invariant is `Spared`. What carries it is that whenever the owner is known, something is known of the
manager or a cache read is on its way or due: so nothing that makes a call due as a last resort is ever
reached, in whatever order commands, reports and ends of reads come.
-/

namespace Roster.Manager

/-- There is a cache file, and it is one of those that can be read. -/
def Readable (legible : Path → Prop) (path : Option Path) : Prop := ∃ p, path = some p ∧ legible p

/-- What happens gives no reason to call the manager. -/
structure Undisturbed (legible : Path → Prop) (m : Manager) (o : Occurrence) : Prop where
  /-- A report says that the name has no owner. -/
  unowned : ∀ owner, o = .owner owner → namesOwner owner = false
  /-- Nobody asks for a start. -/
  unasked : ∀ w, o ≠ .sent (.activate w)
  /-- A cache file that is set can be read. -/
  readable : ∀ path, setting m o = some path → Readable legible path
  /-- Reading a cache file that can be read gives a description, not always the same. -/
  reads : ∀ result p, o = .cacheRead result → m.readingPath = some p → legible p →
    ∃ d, result = .described d

/-- Nothing that happens one after another gives a reason to call the manager. -/
def UndisturbedRun (legible : Path → Prop) : Manager → List Occurrence → Prop
  | _, [] => True
  | m, o :: rest => Undisturbed legible m o ∧ UndisturbedRun legible (m.step o) rest

/-- A run with one more occurrence is undisturbed if the run is and this one gives no reason either. -/
theorem undisturbedRun_concat {legible : Path → Prop} {m : Manager} {before : List Occurrence}
    {o : Occurrence} (h : UndisturbedRun legible m (before ++ [o])) :
    UndisturbedRun legible m before ∧ Undisturbed legible (m.run before) o := by
  induction before generalizing m with
  | nil => exact ⟨trivial, h.1⟩
  | cons first rest ih =>
    obtain ⟨hrest, hlast⟩ := ih h.2
    exact ⟨⟨h.1, hrest⟩, hlast⟩

/-- What holds of a proxy as long as nothing gave it a reason to call. -/
structure Spared (legible : Path → Prop) (m : Manager) : Prop where
  /-- The manager does not run. -/
  running : m.running = false
  /-- Nobody asked for a start. -/
  unwanted : m.wantsActivation = false
  /-- Nobody in the queue asks for a start. -/
  unasked : ∀ w, .activate w ∉ m.queue
  /-- No call is on its way. -/
  call : m.call = none
  /-- No call was ever begun. -/
  calls : m.callsStarted = 0
  /-- No call is due. -/
  due : .introspect ∉ m.deferred
  /-- The cache file in effect can be read. -/
  readable : Readable legible m.cachePath
  /-- Once the owner is known, something is known or will be read. -/
  served : m.nameKnown = true → m.source ≠ .none ∨ m.awaitsCacheFile = true
  /-- No failure stands at the gate. -/
  unfailed : ∀ e, m.gate.outcome ≠ some (.failed e)
  /-- Everyone who was answered was told that the manager is ready. -/
  answers : ∀ w outcome, (w, outcome) ∈ m.answers → outcome = .ready

variable {legible : Path → Prop} {m : Manager}

/-! ## Commands -/

/-- A cache read that becomes due will be done. -/
theorem awaitsCacheFile_schedule (m : Manager) :
    (m.schedule .readCacheFile).awaitsCacheFile = true := by
  rw [awaitsCacheFile, Bool.or_eq_true, decide_eq_true_eq]
  exact .inr (mem_deferred_schedule m .readCacheFile)

/-- A cache read that becomes due is no reason to call, also if it is that of another file and the
one on its way is given up. -/
theorem Spared.schedule_readCacheFile (h : Spared legible m) {path : Option Path}
    (hpath : Readable legible path) (read : Option Nat) :
    Spared legible ({ m with cachePath := path, read := read }.schedule .readCacheFile) := by
  have hawaits := awaitsCacheFile_schedule { m with cachePath := path, read := read }
  unfold Manager.schedule at hawaits ⊢
  split at hawaits
  · rename_i hdue
    rw [if_pos hdue]
    exact { h with readable := hpath, served := fun _ => .inr hawaits }
  · rename_i hdue
    rw [if_neg hdue]
    refine { h with readable := hpath, served := fun _ => .inr hawaits, due := fun hmem => ?_ }
    rcases List.mem_append.mp hmem with hold | hnew
    · exact h.due hold
    · cases List.mem_singleton.mp hnew

/-- Making sure that someone will be answered makes no call due: something is known, or a cache file
will be read. -/
theorem Spared.prepare_eq (h : Spared legible m) : m.prepare = m := by
  unfold Manager.prepare
  rcases hk : m.nameKnown with _ | _
  · rfl
  · rcases h.served hk with hknown | hawaits
    · rw [if_pos]
      rw [decide_eq_true hknown, Bool.or_true]
    · rw [if_pos]
      rw [hawaits, Bool.or_true, Bool.true_or]

/-- Whoever asks for readiness is no reason to call. -/
theorem Spared.requestReady (h : Spared legible m) (w : Nat) : Spared legible (m.requestReady w) := by
  rcases ho : m.gate.outcome with _ | outcome
  · have hparked : Spared legible
        { m with gate := { m.gate with waiters := m.gate.waiters ++ [w] } } := { h with }
    rw [requestReady_of_none m ho, hparked.prepare_eq, ite_self]
    exact hparked
  · rw [requestReady_of_some m ho]
    refine { h with answers := fun v x hmem => ?_ }
    rcases List.mem_append.mp hmem with hold | hnew
    · exact h.answers v x hold
    · cases List.mem_singleton.mp hnew
      cases outcome with
      | ready => rfl
      | failed e => exact absurd ho (h.unfailed e)

/-- Letting everyone see the present state is no reason to call. -/
theorem Spared.publish (h : Spared legible m) : Spared legible m.publish := { h with }

/-- Whether a running manager is to be asked does not matter where none runs. -/
theorem Spared.setAlwaysIntrospect (h : Spared legible m) (always : Bool) :
    Spared legible (m.setAlwaysIntrospect always) := by
  have hidle : (always && !m.alwaysIntrospect && m.running) = false := by
    rw [h.running, Bool.and_false]
  unfold Manager.setAlwaysIntrospect
  dsimp only
  rw [hidle, if_neg Bool.false_ne_true]
  exact Spared.publish { h with }

/-- Another cache file that can be read is no reason to call: it will be read. -/
theorem Spared.setCacheFile (h : Spared legible m) {path : Option Path}
    (hpath : Readable legible path) : Spared legible (m.setCacheFile path) := by
  unfold Manager.setCacheFile
  dsimp only
  by_cases hk : m.nameKnown = true
  · rw [if_pos hk]
    exact (h.schedule_readCacheFile hpath none).publish
  · rw [if_neg hk]
    exact Spared.publish { h with readable := hpath }

/-- A command is no reason to call, unless it asks for a start or sets a cache file that cannot be
read. -/
theorem Spared.onCommand (h : Spared legible m) (found : Option Path) {c : Command}
    (hunasked : ∀ w, c ≠ .activate w)
    (hreadable : ∀ setting, c = .setCacheFile setting → Readable legible (setting.resolve found))
    (hd : (m.onCommand found c).disposed = false) : Spared legible (m.onCommand found c) := by
  cases c with
  | requestReady w => exact h.requestReady w
  | activate w => exact absurd rfl (hunasked w)
  | setAlwaysIntrospect always => exact h.setAlwaysIntrospect always
  | setCacheFile setting => exact h.setCacheFile (hreadable setting rfl)
  | dispose => cases hd

/-! ## Reports and cache reads -/

/-- A report that the name has no owner is no reason to call. The first one makes the cache file be
read. -/
theorem Spared.onOwner (h : Spared legible m) {owner : Option String}
    (hnone : namesOwner owner = false) : Spared legible (m.onOwner owner) := by
  have hlost : Spared legible m.onNameLost := by
    have hcall : { m with running := false }.loseCall = { m with running := false } := by
      unfold loseCall
      rw [show ({ m with running := false } : Manager).call = none from h.call]
      rfl
    unfold onNameLost
    dsimp only
    rw [hcall]
    split
    · exact { h with running := rfl }
    · exact { h with running := rfl }
  have hlearn : ∀ n : Manager, Spared legible n → Spared legible n.learnName := by
    intro n hn
    unfold learnName
    split
    · exact hn
    · have hdue : Spared legible (n.schedule .readCacheFile) :=
        hn.schedule_readCacheFile hn.readable n.read
      dsimp only
      rw [hdue.unwanted, if_neg Bool.false_ne_true]
      exact { hdue with served := fun _ => .inr (awaitsCacheFile_schedule n) }
  unfold Manager.onOwner
  dsimp only
  split
  · exact (hlearn _ hlost).publish
  · rename_i unique hsome
    rw [namesOwner, hsome] at hnone
    cases hnone

/-- Telling everyone who is parked that the manager is ready is no reason to call. -/
theorem Spared.openGate (h : Spared legible m) (hopen : m.gate.closed = false) :
    Spared legible (m.openGate .ready) := by
  unfold Manager.openGate
  rw [Gate.resolve_of_open hopen]
  refine { h with unfailed := fun e hfailed => ?_, answers := fun w outcome hmem => ?_ }
  · cases hfailed
  · rcases List.mem_append.mp hmem with hold | hnew
    · exact h.answers w outcome hold
    · obtain ⟨v, _, hpair⟩ := List.mem_map.mp hnew
      exact (congrArg Prod.snd hpair).symm

/-- A cache read that gives a description is no reason to call: then something is known. -/
theorem Spared.onCacheRead (h : Spared legible m) (hopen : m.gate.closed = false) (d : Description) :
    Spared legible (m.onCacheRead (.described d)) := by
  by_cases hread : m.read = none
  · rw [onCacheRead_of_idle hread]
    exact h
  by_cases hunknown : m.source = .none
  · have hfile : m.source.merge .file ≠ .none := by
      rw [hunknown]
      decide
    rw [onCacheRead_described hread hunknown, resolveReady_of_known hfile]
    refine Spared.openGate ?_ hopen
    exact { h with served := fun _ => .inl hfile }
  · rw [onCacheRead_superseded hread hunknown]
    exact { h with served := fun _ => .inl hunknown }

/-! ## Reactions and steps that are due -/

/-- **Whatever happens that gives no reason to call, no call is on its way or due.** -/
theorem Spared.handled (h : Spared legible m) (hopen : m.gate.closed = false)
    (hreads : ReadsInEffect m) {o : Occurrence} {m' : Manager} (hm' : Handled m o m')
    (ho : Undisturbed legible m o) (hd : m'.disposed = false) : Spared legible m' := by
  cases hm' with
  | sent c =>
    refine { h with unasked := fun w hmem => ?_ }
    rcases List.mem_append.mp hmem with hold | hnew
    · exact h.unasked w hold
    · exact ho.unasked w (congrArg _ (List.mem_singleton.mp hnew).symm)
  | nothing hsent => exact h
  | command found c rest hqueue =>
    have hrest : Spared legible { m with queue := rest } := by
      refine { h with unasked := fun w hmem => h.unasked w ?_ }
      rw [hqueue]
      exact List.mem_cons_of_mem c hmem
    refine hrest.onCommand found (fun w hc => h.unasked w ?_) (fun setting hc => ?_) hd
    · rw [hqueue, hc]
      exact List.mem_cons_self
    · refine ho.readable (setting.resolve found) ?_
      unfold Manager.setting
      rw [hqueue, hc]
  | owner owner hwatching => exact h.onOwner (ho.unowned owner rfl)
  | closed hknown => exact { h with }
  | closedUnknown hunknown =>
    have hleft : Spared legible { m with watching := false } := { h with }
    exact hleft.onOwner (show namesOwner none = false from rfl)
  | reply answer =>
    rw [onReply_of_idle h.call]
    exact h
  | cacheRead result =>
    by_cases hread : m.read = none
    · rw [onCacheRead_of_idle hread]
      exact h
    · -- the file that is read is the one in effect, which can be read
      obtain ⟨p, hp, hreading⟩ := hreads hread
      obtain ⟨q, hq, hlegible⟩ := h.readable
      cases Option.some.inj (hp.symm.trans hq)
      obtain ⟨d, rfl⟩ := ho.reads result p rfl hreading hlegible
      exact h.onCacheRead hopen d
  | forsaken => cases hd

/-- A cache read that is due begins, or something is known. No other step is due. -/
theorem Spared.runStep (h : Spared legible m) {s : Deferred} {rest : List Deferred}
    (hdue : m.deferred = s :: rest) : Spared legible ({ m with deferred := rest }.runStep s) := by
  have hrest : .introspect ∉ rest := fun hmem => h.due (hdue ▸ List.mem_cons_of_mem s hmem)
  cases s with
  | introspect => exact absurd (hdue ▸ List.mem_cons_self) h.due
  | readCacheFile =>
    obtain ⟨p, hp, _⟩ := h.readable
    unfold Manager.runStep readCacheFile
    dsimp only
    split
    · rename_i hdone
      refine { h with due := hrest, served := fun _ => ?_ }
      rcases hdone with hknown | hreading
      · exact .inl hknown
      · refine .inr ?_
        rw [awaitsCacheFile, Bool.or_eq_true]
        exact .inl hreading
    · split
      · rename_i hnone
        exact absurd (hp.symm.trans hnone) (by simp)
      · exact { h with due := hrest, served := fun _ => .inr rfl }

/-! ## Runs -/

/-- Nothing gave a new proxy a reason to call, if its cache file can be read. -/
theorem spared_start (busName : String) (always : Bool) {path : Option Path}
    (hpath : Readable legible path) : Spared legible (start busName always path) where
  running := rfl
  unwanted := rfl
  unasked := fun _ hmem => by cases hmem
  call := rfl
  calls := rfl
  due := fun hmem => by cases hmem
  readable := hpath
  served := fun hknown => by cases hknown
  unfailed := fun _ hfailed => by cases hfailed
  answers := fun _ _ hmem => by cases hmem

section run

variable {busName : String} {always : Bool} {path : Option Path} {occurrences : List Occurrence}

/-- Nothing gives a proxy a reason to call in an undisturbed run, until it stops. -/
theorem spared_run (hpath : Readable legible path)
    (hquiet : UndisturbedRun legible (start busName always path) occurrences)
    (hd : ((start busName always path).run occurrences).disposed = false) :
    Spared legible ((start busName always path).run occurrences) := by
  induction occurrences using List.reverseRecOn with
  | nil => exact spared_start busName always hpath
  | append_singleton before o ih =>
    obtain ⟨hbefore, ho⟩ := undisturbedRun_concat hquiet
    rw [run_concat] at hd ⊢
    have hlive := disposed_of_step hd
    rw [disposed_step] at hd
    refine runDeferred_induct (fun n s rest hdue hn => hn.runStep hdue) _ ?_
    exact (ih hbefore hlive).handled (sound_run hlive).opened (readsInEffect_run hlive)
      (handled_react hlive o) ho hd

/-- **No needless start.** As long as every report says that the name has no owner, or the reports end,
nobody asks for a start, and every cache file that is set can be read, no call is ever begun, whoever
asks for readiness and whatever is set, in any order and at any time. Whoever is answered before the
proxy stops is told that the manager is ready. -/
theorem no_needless_start_run (hpath : Readable legible path)
    (hquiet : UndisturbedRun legible (start busName always path) occurrences) :
    let m := (start busName always path).run occurrences
    m.callsStarted = 0 ∧ m.call = none ∧
      ∀ w outcome, (w, outcome) ∈ m.answers →
        outcome = .ready ∨ m.disposed = true ∧ outcome = .failed .disposed := by
  induction occurrences using List.reverseRecOn with
  | nil => exact ⟨rfl, rfl, fun _ _ hmem => by cases hmem⟩
  | append_singleton before o ih =>
    intro m
    rcases hd : m.disposed with _ | _
    · have hspared := spared_run hpath hquiet hd
      exact ⟨hspared.calls, hspared.call, fun w outcome hmem =>
        .inl (hspared.answers w outcome hmem)⟩
    · obtain ⟨hbefore, _⟩ := undisturbedRun_concat hquiet
      have hm : m = ((start busName always path).run before).step o := run_concat _ before o
      rw [hm] at hd ⊢
      rcases hlive : ((start busName always path).run before).disposed with _ | _
      · -- the proxy stops just now, and those whom it still had to answer are told of the end
        have hspared := spared_run hpath hbefore hlive
        rw [disposed_step] at hd
        obtain ⟨queue, _, hstop⟩ := (reaction_run hlive o).eq_dispose hlive hd
        rw [step, (stopped_react_run hd).runDeferred_eq, hstop]
        refine ⟨hspared.calls, rfl, fun w outcome hmem => ?_⟩
        rw [answers_dispose (m := { (start busName always path).run before with queue := queue })
          (sound_run hlive).opened] at hmem
        rcases List.mem_append.mp hmem with hold | hnew
        · exact .inl (hspared.answers w outcome hold)
        · obtain ⟨v, _, hpair⟩ := List.mem_map.mp hnew
          exact .inr ⟨rfl, (congrArg Prod.snd hpair).symm⟩
      · obtain ⟨hcalls, _, hanswers⟩ := ih hbefore
        have hstopped := stopped_run hlive
        rw [step_of_stopped hstopped hlive]
        refine ⟨hcalls, hstopped.call, fun w outcome hmem => ?_⟩
        rcases List.mem_append.mp hmem with hold | hnew
        · rcases hanswers w outcome hold with hready | ⟨_, hfailed⟩
          · exact .inl hready
          · exact .inr ⟨rfl, hfailed⟩
        · obtain ⟨v, _, hpair⟩ := List.mem_map.mp hnew
          exact .inr ⟨rfl, (congrArg Prod.snd hpair).symm⟩

end run

/-- Someone asks for readiness, and that a running manager be asked. The name has no owner, and the
cache file can be read: whoever asks is told that the manager is ready, and no call is begun. -/
theorem no_needless_start_run_cached :
    let m := (start "org.example.salut" false (some "salut.manager")).run
      [.sent (.requestReady 0), .command none, .sent (.setAlwaysIntrospect true), .owner none,
        .cacheRead (.described ⟨[], ∅⟩), .command none]
    m.callsStarted = 0 ∧ m.answers = [(0, .ready)] := by
  intro m
  let legible (p : Path) : Prop := p = "salut.manager"
  have hpath : Readable legible (some "salut.manager") := ⟨_, rfl, rfl⟩
  have hundisturbed : ∀ {n : Manager} {o : Occurrence}, (∀ owner, o = .owner owner → owner = none) →
      (∀ w, o ≠ .sent (.activate w)) → setting n o = none →
      (∀ result, o = .cacheRead result → ∃ d, result = .described d) →
      Undisturbed legible n o := by
    intro n o howner hstart hset hread
    refine ⟨fun owner ho => ?_, hstart, fun path hpath => ?_, fun result p ho _ _ => hread result ho⟩
    · rw [howner owner ho]
      rfl
    · rw [hset] at hpath
      cases hpath
  have hquiet : UndisturbedRun legible (start "org.example.salut" false (some "salut.manager"))
      [.sent (.requestReady 0), .command none, .sent (.setAlwaysIntrospect true), .owner none,
        .cacheRead (.described ⟨[], ∅⟩), .command none] := by
    refine ⟨?_, ?_, ?_, ?_, ?_, ?_, trivial⟩
    · exact hundisturbed (by simp) (by simp) rfl (by simp)
    · exact hundisturbed (by simp) (by simp) (by decide +kernel) (by simp)
    · exact hundisturbed (by simp) (by simp) rfl (by simp)
    · exact hundisturbed (by simp) (by simp) rfl (by simp)
    · exact hundisturbed (by simp) (by simp) rfl (by simp)
    · exact hundisturbed (by simp) (by simp) (by decide +kernel) (by simp)
  obtain ⟨hcalls, _, _⟩ := no_needless_start_run hpath hquiet
  exact ⟨hcalls, by decide +kernel⟩

end Roster.Manager
