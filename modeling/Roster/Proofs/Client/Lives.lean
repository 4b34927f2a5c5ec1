import Mathlib.Data.List.Nodup
import Roster.Proofs.Client.Steps
import Roster.Proofs.Manager.Conservation

/-!
# The proxies of a client

A client holds many proxies and lets all of them go on by themselves. So each proxy is what a new one
becomes by a run of its own (`Lived`), whatever else the client does, and all that is known of the
runs of one proxy holds of the proxies of a client.

* `Brings` says which steps an action can bring upon which proxy, and `Happens.stirs` that whatever
  happens to a client, at most one proxy takes one such step, or a new one is made.
* `GoesOn`: what one client adds to the runs of the proxies of another one. Whoever asks for readiness
  does so under a number that nobody had before (`Numbered`).
* `lived_run` and `goesOn_run`: so it is in every run of a client. An answer that was given stays
  (`GoesOn.answer?`).
-/

namespace Roster

/-- What a client knows of its proxies. -/
structure Census where
  /-- What the client was set up with. -/
  setup : Setup
  /-- How many numbers were given to those who await answers. -/
  waiters : Nat
  /-- Every proxy that was ever made, with its manager's name. -/
  known : List (ServiceName × Manager)

/-- What a client knows of its proxies. -/
def Core.census (core : Core) : Census where
  setup := core.setup
  waiters := core.waiters
  known := core.known

namespace Client

open Manager (Occurrence asked)

/-! ## Numbers of those who ask -/

/-- Those who ask for readiness have different numbers, from the first to before the last. -/
structure Numbered (first last : Nat) (occurrences : List Occurrence) : Prop where
  /-- No number is used twice. -/
  nodup : (asked occurrences).Nodup
  /-- The numbers are in the range. -/
  range : ∀ w ∈ asked occurrences, first ≤ w ∧ w < last

/-- Where nobody asks, there are no numbers. -/
theorem numbered_of_none {first last : Nat} {occurrences : List Occurrence}
    (hnone : asked occurrences = []) : Numbered first last occurrences := by
  constructor
  · rw [hnone]
    exact List.nodup_nil
  · intro w hw
    rw [hnone] at hw
    cases hw

/-- Those who ask later have later numbers. -/
theorem Numbered.append {first middle last : Nat} {before after : List Occurrence}
    (h : Numbered first middle before) (h' : Numbered middle last after) (hle : first ≤ middle)
    (hle' : middle ≤ last) : Numbered first last (before ++ after) := by
  constructor
  · rw [Manager.asked_append, List.nodup_append]
    refine ⟨h.nodup, h'.nodup, fun v hv w hw heq => ?_⟩
    have hbelow := (h.range v hv).2
    have habove := (h'.range w hw).1
    omega
  · intro w hw
    rw [Manager.asked_append, List.mem_append] at hw
    rcases hw with hw | hw
    · obtain ⟨hfirst, hlast⟩ := h.range w hw
      exact ⟨hfirst, by omega⟩
    · obtain ⟨hfirst, hlast⟩ := h'.range w hw
      exact ⟨by omega, hlast⟩

/-! ## Lives -/

/-- The proxy of a manager is what a new one becomes when these things happen to it. -/
structure Lived (c : Client) (name : ServiceName) (m : Manager) (occurrences : List Occurrence) :
    Prop where
  /-- It is what a new proxy becomes. -/
  run : ∃ path, m = (Manager.start (c.setup.config.busName name) c.setup.config.alwaysIntrospect
    path).run occurrences
  /-- Those who asked it have numbers that the client gave. -/
  numbered : Numbered 0 c.waiters occurrences

/-- Every proxy of the client is what a new one becomes. -/
def AllLived (c : Client) : Prop :=
  ∀ id name m, c.known? id = some (name, m) → ∃ occurrences, Lived c name m occurrences

/-- Every proxy of a client is one of another client later. -/
structure GoesOn (c c' : Client) : Prop where
  /-- The client was set up with the same. -/
  setup : c'.setup = c.setup
  /-- Numbers were given since. -/
  waiters : c.waiters ≤ c'.waiters
  /-- Things happened to the proxies since. -/
  known : ∀ id name m, c.known? id = some (name, m) →
    ∃ occurrences, Numbered c.waiters c'.waiters occurrences ∧
      c'.known? id = some (name, m.run occurrences)

/-- Nothing happens at the same time. -/
theorem GoesOn.refl (c : Client) : GoesOn c c :=
  ⟨rfl, Nat.le_refl _, fun _ _ _ h => ⟨[], numbered_of_none rfl, h⟩⟩

/-- What happens later is added. -/
theorem GoesOn.trans {c₁ c₂ c₃ : Client} (h : GoesOn c₁ c₂) (h' : GoesOn c₂ c₃) :
    GoesOn c₁ c₃ where
  setup := h'.setup.trans h.setup
  waiters := Nat.le_trans h.waiters h'.waiters
  known := by
    intro id name m hm
    obtain ⟨before, hbefore, hm₂⟩ := h.known id name m hm
    obtain ⟨after, hafter, hm₃⟩ := h'.known id name _ hm₂
    refine ⟨before ++ after, hbefore.append hafter h.waiters h'.waiters, ?_⟩
    rw [Manager.run_append]
    exact hm₃

/-- What a proxy has answered it has answered later. -/
theorem GoesOn.answer? {c c' : Client} (h : GoesOn c c') (hc : AllLived c) {id w : Nat}
    {outcome : Outcome ManagerError} (hanswer : c.answer? id w = some outcome) :
    c'.answer? id w = some outcome := by
  obtain ⟨p, hp, hlookup⟩ := Option.bind_eq_some_iff.mp hanswer
  have hknown := known?_of_proxy? c hp
  obtain ⟨before, ⟨path, hm⟩, _⟩ := hc id p.name p.manager hknown
  obtain ⟨after, _, hknown'⟩ := h.known id p.name p.manager hknown
  obtain ⟨p', hp', hsame⟩ := Option.map_eq_some_iff.mp hknown'
  have hm' : p'.manager = p.manager.run after := congrArg Prod.snd hsame
  rw [Client.answer?, hp']
  show p'.manager.answers.lookup w = some outcome
  rw [hm] at hm' hlookup
  rw [hm', ← Manager.run_append]
  obtain ⟨later, hlater⟩ := @Manager.answers_prefix_run (c.setup.config.busName p.name)
    c.setup.config.alwaysIntrospect path before after
  rw [← hlater, List.lookup_append, hlookup]
  rfl

/-- A life goes on. -/
theorem Lived.goesOn {c c' : Client} {name : ServiceName} {m : Manager}
    {before after : List Occurrence} (h : Lived c name m before) (hc : GoesOn c c')
    (hafter : Numbered c.waiters c'.waiters after) :
    Lived c' name (m.run after) (before ++ after) where
  run := by
    obtain ⟨path, hm⟩ := h.run
    refine ⟨path, ?_⟩
    rw [hc.setup, Manager.run_append, ← hm]
  numbered := h.numbered.append hafter (Nat.zero_le _) hc.waiters

/-! ## What happens to proxies -/

/-- What an action can bring upon the proxy of a number. -/
inductive Brings (c : Client) (id : Nat) : Action → Occurrence → Prop where
  /-- Somebody sends it a command through a handle. -/
  | tells (handle : String) (command : Command) (silent : command.waiter? = none)
      (hheld : c.held? handle = some id) :
      Brings c id (.tell handle command silent) (.sent command)
  /-- Somebody asks it something. -/
  | asks (a : Action) (command : Command) (w : Nat) (hwaiter : command.waiter? = some w) :
      Brings c id a (.sent command)
  /-- It takes a step by itself. -/
  | happens (o : Occurrence) (own : ∀ command, o ≠ .sent command) : Brings c id (.proxy id o own) o

/-- What can become of the proxies of a client when something happens that may bring these occurrences
upon them. -/
inductive Stirs (may : Nat → Occurrence → Prop) (s : Census) : Census → Prop where
  /-- Nothing happens to them. -/
  | rests : Stirs may s s
  /-- One of them takes a step. -/
  | reacts (id : Nat) (o : Occurrence) (waiters : Nat) (hle : s.waiters ≤ waiters)
      (hnumbered : Numbered s.waiters waiters [o]) (hmay : may id o) :
      Stirs may s
        { s with
          waiters := waiters
          known := s.known.modify id fun p => (p.1, p.2.step o) }
  /-- There is a new one. -/
  | made (name : ServiceName) (path : Option Path) :
      Stirs may s
        { s with
          known := s.known ++ [(name, Manager.start (s.setup.config.busName name)
            s.setup.config.alwaysIntrospect path)] }

variable {c : Client} {may : Nat → Occurrence → Prop}

/-- A proxy that takes a command does nothing else in that step. -/
theorem step_sent_of_lived (h : AllLived c) (id : Nat) (command : Command) :
    (c.core.known.modify id fun p => (p.1, p.2.react (.sent command))) =
      c.core.known.modify id fun p => (p.1, p.2.step (.sent command)) := by
  apply List.ext_getElem?
  intro i
  rw [List.getElem?_modify, List.getElem?_modify]
  rcases hp : c.core.known[i]? with _ | ⟨name, m⟩
  · rfl
  · obtain ⟨occurrences, ⟨path, hm⟩, _⟩ := h i name m (by rw [known?_eq, hp])
    have hidle : m.deferred = [] := by
      rw [hm]
      exact Manager.deferred_run _ rfl occurrences
    have hreact : (m.react (.sent command)).deferred = [] := by
      unfold Manager.react Manager.send
      dsimp only
      split
      · cases command <;> exact hidle
      · exact hidle
    simp only [Manager.step, Manager.runDeferred_of_idle hreact, Option.map_eq_map, Option.map_some]

/-- Sending a command to a proxy, for somebody with a new number or for nobody, is a step of that
proxy. -/
theorem stirs_send (h : AllLived c) (id : Nat) {command : Command} {waiters : Nat}
    (hle : c.waiters ≤ waiters) (hnumbered : Numbered c.waiters waiters [.sent command])
    (hmay : may id (.sent command)) :
    Stirs may c.core.census
      { c.core.census with
        waiters := waiters
        known := c.core.known.modify id fun p => (p.1, p.2.react (.sent command)) } := by
  rw [step_sent_of_lived h]
  exact .reacts id (.sent command) waiters hle hnumbered hmay

/-- A command that is sent under a number is sent under a new one. -/
theorem numbered_sent {first last : Nat} {command : Command}
    (hwaiter : ∀ w, command.waiter? = some w → first ≤ w ∧ w < last) :
    Numbered first last [.sent command] := by
  cases command with
  | requestReady waiter =>
    have hasked : asked [.sent (.requestReady waiter)] = [waiter] := rfl
    constructor
    · rw [hasked]
      exact List.nodup_singleton waiter
    · intro w hw
      rw [hasked, List.mem_singleton] at hw
      exact hwaiter w (congrArg some hw.symm)
  | _ => exact numbered_of_none rfl

/-- What the registry does to the proxies when it gives one. -/
theorem Gives.stirs {name : ServiceName} {c' : Client} {id : Nat} (h : Gives c name c' id) :
    Stirs may c.core.census c'.core.census := by
  cases h with
  | kept id hkept hlive => exact .rests
  | made c' path hcore =>
    rw [hcore]
    exact .made name path

/-- What a discovery does to the proxies by itself. -/
theorem OwnStep.stirs {id : Nat} {d : Discovery} {c' : Client} (h : OwnStep c id d c') :
    Stirs may c.core.census c'.core.census := by
  cases h with
  | finds which busName rest name hstage hname hnew hcore =>
    rw [hcore]
    exact (gives_getManager c name .search).stirs
  | asks which due timely hstage hcore
  | passes which busName rest hstage hold hcore
  | counts hstage hcore
  | questions proxy rest countdown hstage hcore
  | waits countdown hstage hcore
  | concludes hanswered hcore =>
    rw [hcore]
    exact .rests

/-- What a question does to the proxies. -/
theorem QuestionStep.stirs (h : AllLived c) {id : Nat} {q : Question} {c' : Client}
    (hstep : QuestionStep c id q c') (a : Action) :
    Stirs (c.Brings · a) c.core.census c'.core.census := by
  cases hstep with
  | sends hunsent hcore =>
    rw [hcore]
    refine stirs_send h q.proxy (Nat.le_succ c.waiters) (numbered_sent fun w hw => ?_)
      (.asks a _ c.waiters rfl)
    cases hw
    exact ⟨Nat.le_refl _, Nat.lt_succ_self _⟩
  | counts waiter hsent hanswer hcore =>
    rw [hcore]
    exact .rests

/-- **Whatever happens to a client**, at most one proxy takes one step, or a new one is made. -/
theorem Happens.stirs (h : AllLived c) {c' : Client} {a : Action} (hhappens : Happens c c' a) :
    Stirs (c.Brings · a) c.core.census c'.core.census := by
  cases hhappens with
  | gives name setting id h => exact h.stirs
  | sends a id command waiters hle hwaiter hcore htold =>
    rw [hcore]
    refine stirs_send h id hle (numbered_sent hwaiter) ?_
    rcases hasks : command.waiter? with _ | w
    · obtain ⟨handle, silent, rfl, hheld⟩ := htold hasks
      exact .tells handle command silent hheld
    · exact .asks a command w hasks
  | reacts id o own hcore =>
    rw [hcore]
    exact .reacts id o c.waiters (Nat.le_refl _) (numbered_of_none (Manager.asked_of_not_sent own))
      (.happens o own)
  | own j d hd h => exact h.stirs
  | question i q hq hmissing hquestion => exact hquestion.stirs h _
  | nothing a hcore
  | evicts name hcore
  | begins label caller callback hcore
  | comes name hcore
  | goes name hcore
  | hears j d which due timely answer hd hstage hcore =>
    rw [hcore]
    exact .rests

/-! ## Steps and runs -/

/-- Nothing changes what the client was set up with. -/
theorem Stirs.setup {s s' : Census} (h : Stirs may s s') : s'.setup = s.setup := by
  cases h <;> rfl

/-- No number is taken back. -/
theorem Stirs.waiters_le {s s' : Census} (h : Stirs may s s') : s.waiters ≤ s'.waiters := by
  cases h with
  | reacts id o waiters hle hnumbered hmay => exact hle
  | _ => exact Nat.le_refl _

/-- A proxy takes a step that something may bring upon it, or none. -/
theorem Stirs.known {s s' : Census} (h : Stirs may s s') {id : Nat} {name : ServiceName} {m : Manager}
    (hm : s.known[id]? = some (name, m)) :
    ∃ occurrences, Numbered s.waiters s'.waiters occurrences ∧
      s'.known[id]? = some (name, m.run occurrences) ∧ ∀ o ∈ occurrences, may id o := by
  have hnone : ∀ o ∈ ([] : List Occurrence), may id o := fun _ ho => absurd ho List.not_mem_nil
  cases h with
  | rests => exact ⟨[], numbered_of_none rfl, hm, hnone⟩
  | reacts i o waiters hle hnumbered hmay =>
    by_cases hi : i = id
    · subst hi
      refine ⟨[o], hnumbered, ?_, fun o' ho' => ?_⟩
      · simp [hm, Manager.run]
      · rw [List.mem_singleton.mp ho']
        exact hmay
    · refine ⟨[], numbered_of_none rfl, ?_, hnone⟩
      simp [hi, hm, Manager.run]
  | made name' path =>
    refine ⟨[], numbered_of_none rfl, ?_, hnone⟩
    have hlt := (List.getElem?_eq_some_iff.mp hm).1
    dsimp only
    rw [List.getElem?_append_left hlt]
    exact hm

/-- A proxy that there was not is a new one. -/
theorem Stirs.new {s s' : Census} (h : Stirs may s s') {id : Nat} {name : ServiceName} {m : Manager}
    (hnone : s.known[id]? = none) (hm : s'.known[id]? = some (name, m)) :
    ∃ path, m = Manager.start (s.setup.config.busName name) s.setup.config.alwaysIntrospect path := by
  cases h with
  | rests =>
    rw [hnone] at hm
    cases hm
  | reacts i o waiters hle hnumbered hmay => simp [List.getElem?_modify, hnone] at hm
  | made name' path =>
    dsimp only at hm
    rw [List.getElem?_append_right (List.getElem?_eq_none_iff.mp hnone)] at hm
    have hname := List.mem_of_getElem? hm
    rw [List.mem_singleton] at hname
    cases hname
    exact ⟨path, rfl⟩

/-- Whatever happens to a client, its proxies go on. -/
theorem goesOn_of_stirs {c' : Client} (h : Stirs may c.core.census c'.core.census) : GoesOn c c' where
  setup := h.setup
  waiters := h.waiters_le
  known := by
    intro id name m hm
    rw [known?_eq] at hm
    rw [known?_eq]
    obtain ⟨occurrences, hnumbered, hknown, _⟩ := h.known hm
    exact ⟨occurrences, hnumbered, hknown⟩

/-- Whatever happens to a client, its proxies are what new ones become. -/
theorem AllLived.of_stirs (hc : AllLived c) {c' : Client}
    (h : Stirs may c.core.census c'.core.census) : AllLived c' := by
  intro id name m hm
  rcases hold : c.known? id with _ | ⟨name', m'⟩
  · rw [known?_eq] at hold hm
    obtain ⟨path, hstart⟩ := h.new hold hm
    refine ⟨[], ⟨path, ?_⟩, numbered_of_none rfl⟩
    rw [hstart, show c'.setup = c.setup from h.setup]
    rfl
  · obtain ⟨before, hbefore⟩ := hc id name' m' hold
    obtain ⟨after, hafter, hm'⟩ := (goesOn_of_stirs h).known id name' m' hold
    rw [hm] at hm'
    cases hm'
    exact ⟨before ++ after, hbefore.goesOn (goesOn_of_stirs h) hafter⟩

/-- A run with one more action. -/
theorem run_concat (before : List Action) (a : Action) :
    c.run (before ++ [a]) = (c.run before).act a := by
  unfold run
  rw [List.foldl_append]
  rfl

/-- A run and then another one. -/
theorem run_append (before after : List Action) : c.run (before ++ after) = (c.run before).run after :=
  List.foldl_append

/-- **The proxies of a client go on** in every run, and are what new ones become after it. -/
theorem AllLived.run (hc : AllLived c) (actions : List Action) :
    AllLived (c.run actions) ∧ GoesOn c (c.run actions) := by
  induction actions generalizing c with
  | nil => exact ⟨hc, .refl c⟩
  | cons a rest ih =>
    have hstirs := (happens_act c a).stirs hc
    obtain ⟨hlived, hgoes⟩ := ih (hc.of_stirs hstirs)
    exact ⟨hlived, (goesOn_of_stirs hstirs).trans hgoes⟩

/-- A client to which nothing has happened has no proxies. -/
theorem allLived_start (setup : Setup) (tree : FileTree) : AllLived (start setup tree) := by
  intro id name m hm
  cases hm

section run

variable (setup : Setup) (tree : FileTree)

/-- **Every proxy of a client is what a new one becomes**, after every run. -/
theorem lived_run (actions : List Action) : AllLived ((start setup tree).run actions) :=
  ((allLived_start setup tree).run actions).1

/-- **Every proxy of a client goes on**, in every run. -/
theorem goesOn_run (before after : List Action) :
    GoesOn ((start setup tree).run before) ((start setup tree).run (before ++ after)) := by
  rw [run_append]
  exact ((lived_run setup tree before).run after).2

end run

end Client

end Roster
