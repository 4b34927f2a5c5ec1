import Roster.Proofs.Client.Keeping
import Roster.Proofs.Manager.Stopping

/-!
# Proxies that were told to stop

Telling a proxy to stop puts a command into its queue, and the proxy stops when it takes the command.
In between the proxy is doomed: it goes on, but whoever asks it from now on is told of the end. The
registry only looks at whether the proxy has stopped, so it still gives a doomed one to whoever asks for
its name.

* `toldToStop` and `isForsaken`: whether a run brings one of the two ends upon a proxy.
* `Befalls` is what happens to one proxy in the course of a run, with these two ends kept in sight;
  `befalls_run` and `life_run` find it for a proxy that there is and for one that the run makes.
* `isDoomed_eq_told` and `ended_iff_isDoomed`: when a proxy that goes on is doomed, and what follows for
  those who ask it from then on.
* `doomed_iff_told_run`: the proxy that the registry gives was told to stop exactly if it is doomed, and
  exactly then whoever asks it is told of the end though nobody tells it to stop any more.
-/

namespace Roster.Client

open Manager (Occurrence)

/-! ## The two ends of a proxy -/

/-- Whether the command to stop waits in the queue of the proxy of a number. -/
def isDoomed (c : Client) (id : Nat) : Bool :=
  (c.proxy? id).any fun p => p.manager.queue.any (· = .dispose)

/-- Whether an action tells the proxy of a number to stop, through a handle on it. -/
def tellsToStop (c : Client) (id : Nat) : Action → Bool
  | .tell handle .dispose _ => c.held? handle = some id && (c.proxy? id).isSome
  | _ => false

/-- Whether any of the actions tells the proxy of a number to stop. -/
def toldToStop (id : Nat) (c : Client) : List Action → Bool
  | [] => false
  | a :: rest => c.tellsToStop id a || toldToStop id (c.act a) rest

/-- Whether any of the actions is that nobody holds the proxy of a number any more. -/
def isForsaken (id : Nat) (actions : List Action) : Bool :=
  actions.any fun a => match a with
    | .proxy id' .forsaken _ => id' = id
    | _ => false

variable {c : Client} {id : Nat} {name : ServiceName} {m : Manager}

/-- What is told in a run and then in another one. -/
theorem toldToStop_append (before after : List Action) :
    toldToStop id c (before ++ after) =
      (toldToStop id c before || toldToStop id (c.run before) after) := by
  induction before generalizing c with
  | nil => rfl
  | cons a rest ih =>
    rw [List.cons_append, toldToStop, ih, toldToStop, Bool.or_assoc]
    rfl

/-- Only a proxy that there is can be told to stop. -/
theorem tellsToStop_of_none (hnone : c.known? id = none) (a : Action) : c.tellsToStop id a = false := by
  have hproxy : c.proxy? id = none := Option.map_eq_none_iff.mp hnone
  unfold tellsToStop
  split
  · rw [hproxy, Option.isSome_none, Bool.and_false]
  · rfl

/-- A proxy is told to stop through a handle on it. -/
theorem of_tellsToStop {a : Action} (h : c.tellsToStop id a = true) :
    ∃ handle silent, a = .tell handle .dispose silent ∧ c.held? handle = some id := by
  unfold tellsToStop at h
  split at h
  · rename_i handle silent
    rw [Bool.and_eq_true, decide_eq_true_iff] at h
    exact ⟨handle, silent, rfl, h.1⟩
  · cases h

/-- The command to stop comes from nowhere else. -/
theorem Brings.tellsToStop {a : Action} (h : Brings c id a (.sent .dispose))
    (hm : c.known? id = some (name, m)) : c.tellsToStop id a = true := by
  have hproxy : (c.proxy? id).isSome := by
    obtain ⟨p, hp, _⟩ := Option.map_eq_some_iff.mp hm
    rw [hp]
    rfl
  cases h with
  | tells handle command silent hheld => simp [Client.tellsToStop, hheld, hproxy]
  | asks a command w hwaiter => cases hwaiter
  | happens o own => exact absurd rfl (own .dispose)

/-! ## What a run brings upon a proxy -/

/-- What befalls the proxy of a manager in the course of a number of actions. -/
structure Befalls (c : Client) (id : Nat) (name : ServiceName) (m : Manager) (actions : List Action)
    (occurrences : List Occurrence) : Prop where
  /-- The proxy goes on by it. -/
  known : (c.run actions).known? id = some (name, m.run occurrences)
  /-- Those who ask have numbers that were given meanwhile. -/
  numbered : Numbered c.waiters (c.run actions).waiters occurrences
  /-- The command to stop is sent exactly if somebody tells the proxy to stop. -/
  told : .sent .dispose ∈ occurrences ↔ toldToStop id c actions = true
  /-- It is forsaken only if nobody holds it any more. -/
  forsaken : .forsaken ∈ occurrences → isForsaken id actions = true

/-- Something befalls a proxy in one action. -/
theorem befalls_act (hc : AllLived c) (hm : c.known? id = some (name, m)) (a : Action) :
    ∃ occurrences, Befalls c id name m [a] occurrences := by
  have htold : toldToStop id c [a] = c.tellsToStop id a := Bool.or_false _
  rcases htells : c.tellsToStop id a with _ | _
  · have hthere := hm
    rw [known?_eq] at hthere
    obtain ⟨occurrences, hnumbered, hknown, hbrings⟩ := ((happens_act c a).stirs hc).known hthere
    refine ⟨occurrences, ⟨(known?_eq _ _).trans hknown, hnumbered, ?_, fun hleft => ?_⟩⟩
    · rw [htold]
      exact ⟨fun hstop => (hbrings _ hstop).tellsToStop hm, fun h => by rw [htells] at h; cases h⟩
    · cases hbrings _ hleft
      simp [isForsaken]
  · obtain ⟨handle, silent, rfl, hheld⟩ := of_tellsToStop htells
    have hact : c.run [.tell handle .dispose silent] = c.send id .dispose := by
      show c.tell handle .dispose = _
      rw [tell, hheld]
    refine ⟨[.sent .dispose], ⟨?_, numbered_of_none rfl, by simp [htold, htells], by simp⟩⟩
    rw [known?_eq, hact, core_send, step_sent_of_lived hc]
    rw [known?_eq] at hm
    simp [hm, Manager.run]

/-- What befalls a proxy later is added. -/
theorem Befalls.append (hc : AllLived c) {before after : List Action}
    {first later : List Occurrence} (h : Befalls c id name m before first)
    (h' : Befalls (c.run before) id name (m.run first) after later) :
    Befalls c id name m (before ++ after) (first ++ later) where
  known := by
    rw [run_append, Manager.run_append]
    exact h'.known
  numbered := by
    obtain ⟨hlived, hgoes⟩ := hc.run before
    rw [run_append]
    exact h.numbered.append h'.numbered hgoes.waiters (hlived.run after).2.waiters
  told := by
    rw [List.mem_append, h.told, h'.told, toldToStop_append, Bool.or_eq_true]
  forsaken := by
    intro hleft
    unfold isForsaken
    rw [List.any_append, Bool.or_eq_true]
    exact (List.mem_append.mp hleft).imp h.forsaken h'.forsaken

/-- **Something befalls a proxy in every run.** -/
theorem befalls_run (hc : AllLived c) (hm : c.known? id = some (name, m)) (actions : List Action) :
    ∃ occurrences, Befalls c id name m actions occurrences := by
  induction actions generalizing c m with
  | nil => exact ⟨[], hm, numbered_of_none rfl, by simp [toldToStop], by simp⟩
  | cons a rest ih =>
    obtain ⟨first, hfirst⟩ := befalls_act hc hm a
    obtain ⟨later, hlater⟩ := ih (hc.run [a]).1 hfirst.known
    exact ⟨first ++ later, hfirst.append hc hlater⟩

/-- **A proxy that a run makes** is what a new one becomes by what befalls it in the run. -/
theorem life_run (hc : AllLived c) (hnone : c.known? id = none) (actions : List Action)
    (hm : (c.run actions).known? id = some (name, m)) :
    ∃ path occurrences, m = (Manager.start (c.setup.config.busName name)
        c.setup.config.alwaysIntrospect path).run occurrences ∧
      (∀ w ∈ Manager.asked occurrences, w < (c.run actions).waiters) ∧
      (.sent .dispose ∈ occurrences ↔ toldToStop id c actions = true) := by
  induction actions generalizing c with
  | nil =>
    rw [show c.run [] = c from rfl, hnone] at hm
    cases hm
  | cons a rest ih =>
    have hstirs := (happens_act c a).stirs hc
    have hc' := hc.of_stirs hstirs
    have hsetup : (c.act a).setup = c.setup := setup_act c a
    rw [toldToStop, tellsToStop_of_none hnone a, Bool.false_or]
    rcases hnext : (c.act a).known? id with _ | ⟨name', m'⟩
    · have hlife := ih hc' hnext hm
      rwa [hsetup] at hlife
    · rw [known?_eq] at hnone
      obtain ⟨path, hstart⟩ := hstirs.new hnone (by rw [← hnext, known?_eq]; rfl)
      obtain ⟨occurrences, hbefalls⟩ := befalls_run hc' hnext rest
      have hsame : some (name, m) = some (name', m'.run occurrences) :=
        hm.symm.trans hbefalls.known
      cases hsame
      refine ⟨path, occurrences, ?_, fun w hw => (hbefalls.numbered.range w hw).2, hbefalls.told⟩
      rw [hstart]
      rfl

/-! ## What the registry gives -/

/-- What is doomed is so by a command in its queue. -/
theorem isDoomed_iff (hm : c.known? id = some (name, m)) :
    c.isDoomed id = true ↔ .dispose ∈ m.queue := by
  obtain ⟨p, hp, hpair⟩ := Option.map_eq_some_iff.mp hm
  cases hpair
  simp [isDoomed, hp]

/-- An answer is one of those that the proxy gave. -/
theorem mem_answers_of_answer? (hm : c.known? id = some (name, m)) {w : Nat}
    {outcome : Outcome ManagerError} (hanswer : c.answer? id w = some outcome) :
    (w, outcome) ∈ m.answers := by
  obtain ⟨p, hp, hpair⟩ := Option.map_eq_some_iff.mp hm
  cases hpair
  rw [answer?, hp, Option.bind_some, List.lookup_eq_some_iff] at hanswer
  obtain ⟨before, after, hsplit, _⟩ := hanswer
  rw [hsplit]
  exact List.mem_append_right _ List.mem_cons_self

/-- The proxy that the registry holds for a name is known under the name, and has not stopped. -/
theorem Holds.known (h : Holds c name id) (hkept : Kept c) :
    ∃ m, c.known? id = some (name, m) ∧ m.disposed = false := by
  obtain ⟨m, hm⟩ := hkept name id h.kept
  refine ⟨m, hm, ?_⟩
  have hlive := h.live
  rw [isDisposed_eq, ← known?_eq, hm] at hlive
  exact hlive

section run

variable {setup : Setup} {tree : FileTree} {actions : List Action}

/-- **A proxy that goes on is doomed exactly if it was told to stop.** -/
theorem isDoomed_eq_told (hm : ((start setup tree).run actions).known? id = some (name, m))
    (hlive : m.disposed = false) :
    ((start setup tree).run actions).isDoomed id = toldToStop id (start setup tree) actions := by
  obtain ⟨path, life, rfl, _, htold⟩ := life_run (allLived_start setup tree) rfl actions hm
  rw [Bool.eq_iff_iff, isDoomed_iff hm, ← htold]
  exact Manager.mem_queue_iff_told hlive

/-- **Whoever asks a proxy from now on is told of the end exactly if it is doomed**, if nobody tells it
to stop any more and somebody holds it. -/
theorem ended_iff_isDoomed (hm : ((start setup tree).run actions).known? id = some (name, m))
    (hlive : m.disposed = false) {after : List Action}
    (huntold : toldToStop id ((start setup tree).run actions) after = false)
    (hheld : isForsaken id after = false) {w : Nat} {outcome : Outcome ManagerError}
    (hlate : ((start setup tree).run actions).waiters ≤ w)
    (hanswer : (((start setup tree).run actions).run after).answer? id w = some outcome) :
    outcome = .failed .disposed ↔ ((start setup tree).run actions).isDoomed id = true := by
  obtain ⟨later, hlater⟩ := befalls_run (lived_run setup tree actions) hm after
  have hmem := mem_answers_of_answer? hlater.known hanswer
  obtain ⟨path, life, rfl, hearlier, htold⟩ := life_run (allLived_start setup tree) rfl actions hm
  rw [← Manager.run_append] at hmem
  rw [isDoomed_iff hm, Manager.mem_queue_iff_told hlive]
  constructor
  · rintro rfl
    by_contra hnot
    have hgoes : ((Manager.start (setup.config.busName name) setup.config.alwaysIntrospect path).run
        (life ++ later)).disposed = false := by
      refine Manager.live_of_untold hlive (fun hstop => ?_) fun hleft => ?_
      · rcases List.mem_append.mp hstop with hstop | hstop
        · exact hnot hstop
        · rw [hlater.told, huntold] at hstop
          cases hstop
      · rw [hlater.forsaken hleft] at hheld
        cases hheld
    exact Manager.not_ended_of_live hgoes w hmem
  · intro hstop
    exact Manager.ended_of_asked_late hstop
      (fun hasked => Nat.not_lt.mpr hlate (hearlier w hasked)) hmem

end run

/-- **The registry gives a proxy that goes on, but may be doomed**, in every run of a client. The proxy
was told to stop before exactly if it is doomed. If nobody tells it to stop from then on and somebody
holds it, then whoever asks it from then on is told of the end exactly if it was doomed when it was
given. -/
theorem doomed_iff_told_run (setup : Setup) (tree : FileTree) (before : List Action)
    (name : ServiceName) (setting : CacheSetting) :
    let given := ((start setup tree).run before).getManager name setting
    Holds given.1 name given.2 ∧
      given.1.isDoomed given.2 = toldToStop given.2 (start setup tree) before ∧
      ∀ after, toldToStop given.2 given.1 after = false → isForsaken given.2 after = false →
        ∀ w outcome, given.1.waiters ≤ w → (given.1.run after).answer? given.2 w = some outcome →
          (outcome = .failed .disposed ↔ given.1.isDoomed given.2 = true) := by
  intro given
  have hholds : Holds given.1 name given.2 :=
    (gives_getManager ((start setup tree).run before) name setting).holds
  have hrun : given.1 = (start setup tree).run (before ++ [.getManager name setting]) :=
    (run_concat before (.getManager name setting)).symm
  have hkept : Kept given.1 := by
    rw [hrun]
    exact kept_run setup tree _
  obtain ⟨m, hm, hlive⟩ := hholds.known hkept
  -- asking the registry tells nobody to stop
  have htold : toldToStop given.2 (start setup tree) (before ++ [.getManager name setting]) =
      toldToStop given.2 (start setup tree) before := by
    rw [toldToStop_append]
    exact Bool.or_false _
  rw [hrun] at hm ⊢
  refine ⟨hrun ▸ hholds, (isDoomed_eq_told hm hlive).trans htold, ?_⟩
  intro after huntold hheld w outcome hlate hanswer
  exact ended_iff_isDoomed hm hlive huntold hheld hlate hanswer

/-- Somebody tells a proxy to stop and asks the registry for the name before the proxy has stopped: the
registry gives the proxy that was told to stop. Whoever asks it then is told of the end, though nobody
tells it to stop again and it is held. -/
theorem stopping_proxy_given :
    let gabble : ServiceName := ⟨"gabble", by decide⟩
    let before : List Action := [.getManager gabble .search,
      .around (fun c => c.hold "gabble" 0) (fun _ => rfl), .tell "gabble" .dispose rfl]
    let given := ((start {} ⟨.dir [], []⟩).run before).getManager gabble .search
    let after : List Action := [.around (fun c => c.hold "again" given.2) (fun _ => rfl),
      .request "again" "r" .ready, .proxy given.2 (.command none) (by simp)]
    toldToStop given.2 (start {} ⟨.dir [], []⟩) before = true ∧
      toldToStop given.2 given.1 after = false ∧ isForsaken given.2 after = false ∧
      (given.1.run after).answer? given.2 given.1.waiters = some (.failed .disposed) := by
  decide +kernel

/-- A proxy was told to stop and has stopped when somebody asks the registry for the name. The registry
gives another proxy, which nobody told to stop, and whoever asks it is told that there is no such
service. -/
theorem doomed_iff_told_run_stopped :
    let gabble : ServiceName := ⟨"gabble", by decide⟩
    let unknown : BusError := .serviceUnknown "org.freedesktop.Telepathy.ConnectionManager.gabble"
    let before : List Action := [.getManager gabble .search,
      .around (fun c => c.hold "gabble" 0) (fun _ => rfl), .tell "gabble" .dispose rfl,
      .proxy 0 (.command none) (by simp)]
    let given := ((start {} ⟨.dir [], []⟩).run before).getManager gabble .search
    let after : List Action := [.around (fun c => c.hold "again" given.2) (fun _ => rfl),
      .request "again" "r" .ready, .proxy given.2 (.command none) (by simp),
      .proxy given.2 (.owner none) (by simp), .proxy given.2 (.reply (.error unknown)) (by simp)]
    given.2 = 1 ∧ toldToStop 0 (start {} ⟨.dir [], []⟩) before = true ∧
      toldToStop given.2 given.1 after = false ∧ isForsaken given.2 after = false ∧
      (given.1.run after).answer? given.2 given.1.waiters = some (.failed (.transport unknown)) ∧
      toldToStop given.2 (start {} ⟨.dir [], []⟩) before = false := by
  intro gabble unknown before given after
  have hgiven : given.2 = 1 := by decide +kernel
  have htold : toldToStop 0 (start {} ⟨.dir [], []⟩) before = true := by decide +kernel
  have huntold : toldToStop given.2 given.1 after = false := by decide +kernel
  have hheld : isForsaken given.2 after = false := by decide +kernel
  have hanswer : (given.1.run after).answer? given.2 given.1.waiters =
      some (.failed (.transport unknown)) := by
    decide +kernel
  obtain ⟨_, hdoomed, hended⟩ := doomed_iff_told_run {} ⟨.dir [], []⟩ before gabble .search
  have hother : (.failed (.transport unknown) : Outcome ManagerError) ≠ .failed .disposed := by
    simp
  have hnot := mt (hended after huntold hheld given.1.waiters _ (Nat.le_refl _) hanswer).mpr hother
  refine ⟨hgiven, htold, huntold, hheld, hanswer, ?_⟩
  rw [← hdoomed]
  exact Bool.eq_false_iff.mpr hnot

end Roster.Client
