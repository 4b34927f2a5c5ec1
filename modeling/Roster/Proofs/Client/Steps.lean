import Roster.Proofs.Client.Frame

/-!
# All that can happen to a client

All that a discovery can do by itself (`OwnStep`), all that a question can do (`QuestionStep`), and with
them all that can happen to a client (`Happens`), said once: when it happens, and what the client knows
afterwards. Whatever is said of every action is derived from `happens_act`.
-/

namespace Roster

/-- What a client knows when the discovery of a number has changed and nothing else. -/
def Core.withDiscovery (core : Core) (id : Nat) (d : Discovery) : Core :=
  { core with discoveries := core.discoveries.set id d }

namespace Discovery

variable {d : Discovery}

/-- A discovery for which everyone has answered waits. -/
theorem exists_waiting_of_isAnswered (h : d.isAnswered = true) :
    ∃ countdown, d.stage = .waiting countdown := by
  rw [isAnswered] at h
  split at h
  · rename_i countdown hstage
    exact ⟨countdown, hstage⟩
  · cases h

/-- Counting an answer changes the count of a discovery that counts, and nothing else. -/
theorem arrive_induct {P : Discovery → Prop} (d : Discovery)
    (hasking : ∀ rest countdown countdown', d.stage = .asking rest countdown →
      P { d with stage := .asking rest countdown' })
    (hwaiting : ∀ countdown countdown', d.stage = .waiting countdown →
      P { d with stage := .waiting countdown' })
    (hsame : P d) : P d.arrive := by
  rw [arrive]
  split
  · rename_i rest countdown hstage
    exact hasking rest countdown _ hstage
  · rename_i countdown hstage
    exact hwaiting countdown _ hstage
  · exact hsame

end Discovery

namespace Client

variable {c : Client}

/-! ## Discoveries -/

variable (c) in
/-- What a client knows after the bus gave a list: nothing new if the discovery awaits none. -/
theorem core_giveList (id : Nat) (answer : Except BusError (List String)) :
    (c.giveList id answer).core = c.core ∨
      ∃ d which due timely, c.discoveries[id]? = some d ∧ d.stage = .listing which due timely ∧
        (c.giveList id answer).core =
          c.core.withDiscovery id (d.hear (c.callerAlive d.caller) which answer) := by
  unfold giveList
  split
  · exact .inl rfl
  · rename_i d hd
    split
    · rename_i which due timely hstage
      exact .inr ⟨d, which, due, timely, hd, hstage, rfl⟩
    · exact .inl rfl

/-- All that the discovery `d` of a number can do by itself. -/
inductive OwnStep (c : Client) (id : Nat) (d : Discovery) (c' : Client) : Prop where
  /-- It asks for a list. -/
  | asks (which : Listing) (due : Nat) (timely : Bool)
      (hstage : d.stage = .start ∧ which = .activatable ∨
        d.stage = .collecting .activatable [] ∧ which = .owned)
      (hcore : c'.core = c.core.withDiscovery id { d with stage := .listing which due timely })
  /-- It passes over a name that belongs to no manager, or to one that was found. -/
  | passes (which : Listing) (busName : String) (rest : List String)
      (hstage : d.stage = .collecting which (busName :: rest))
      (hold : ∀ name, c.setup.config.serviceName? busName = some name → d.found.contains name)
      (hcore : c'.core = c.core.withDiscovery id { d with stage := .collecting which rest })
  /-- It finds a manager, and takes the proxy that the registry gives. -/
  | finds (which : Listing) (busName : String) (rest : List String) (name : ServiceName)
      (hstage : d.stage = .collecting which (busName :: rest))
      (hname : c.setup.config.serviceName? busName = some name)
      (hnew : d.found.contains name = false)
      (hcore : c'.core = (c.getManager name .search).1.core.withDiscovery id
        { d with
          stage := .collecting which rest
          found := d.found.insert name (c.getManager name .search).2 })
  /-- It has looked at all names, and begins to count. -/
  | counts (hstage : d.stage = .collecting .owned [])
      (hcore : c'.core = c.core.withDiscovery id
        { d with stage := .asking d.found.values (.ofTotal d.found.size) })
  /-- It asks a proxy. -/
  | questions (proxy : Nat) (rest : List Nat) (countdown : Countdown)
      (hstage : d.stage = .asking (proxy :: rest) countdown)
      (hcore : c'.core =
        { c.core.withDiscovery id { d with stage := .asking rest countdown } with
          questions := c.questions ++ [{ discovery := id, proxy := proxy }] })
  /-- It has asked everyone, and begins to wait. -/
  | waits (countdown : Countdown) (hstage : d.stage = .asking [] countdown)
      (hcore : c'.core =
        c.core.withDiscovery id { d with stage := .waiting countdown.wait })
  /-- Everyone has answered, and it ends. -/
  | concludes (hanswered : d.isAnswered = true)
      (hcore : c'.core =
        c.core.withDiscovery id (d.conclude (c.callerAlive d.caller)))

/-- **Every step that a discovery does by itself** is one of these. -/
theorem ownStep_of_eq_some {id : Nat} {c' : Client} (h : c.ownStep? id = some c') :
    ∃ d, c.discoveries[id]? = some d ∧ OwnStep c id d c' := by
  unfold ownStep? at h
  split at h
  · cases h
  rename_i d hd
  refine ⟨d, hd, ?_⟩
  split at h
  · rename_i hstage
    cases h
    exact .asks .activatable _ _ (.inl ⟨hstage, rfl⟩) rfl
  · cases h
  · rename_i which busName rest hstage
    cases h
    unfold collect
    split
    · rename_i hold
      refine .passes which busName rest hstage (fun name hname => ?_) rfl
      rw [hname, Option.filter_some] at hold
      simpa using hold
    · rename_i name hnew
      rw [Option.filter_eq_some_iff] at hnew
      exact .finds which busName rest name hstage hnew.1 (by simpa using hnew.2) rfl
  · rename_i hstage
    cases h
    exact .asks .owned _ _ (.inr ⟨hstage, rfl⟩) rfl
  · rename_i hstage
    cases h
    exact .counts hstage rfl
  · rename_i proxy rest countdown hstage
    cases h
    refine .questions proxy rest countdown hstage ?_
    rw [question, core_wake]
    rfl
  · rename_i countdown hstage
    cases h
    exact .waits countdown hstage rfl
  · split at h
    · rename_i hanswered
      cases h
      exact .concludes hanswered rfl
    · cases h
  · cases h

/-! ## Questions -/

/-- All that the question `q` of a number can do. -/
inductive QuestionStep (c : Client) (id : Nat) (q : Question) (c' : Client) : Prop where
  /-- It is sent under a new number. -/
  | sends (hunsent : q.waiter = none)
      (hcore : c'.core = { c.core with
        questions := c.questions.set id { q with waiter := some c.waiters }
        known := c.core.known.modify q.proxy fun p =>
          (p.1, p.2.react (.sent (.requestReady c.waiters)))
        waiters := c.waiters + 1 })
  /-- Its answer is there, and is counted. -/
  | counts (waiter : Nat) (hsent : q.waiter = some waiter)
      (hanswer : (c.answer? q.proxy waiter).isSome)
      (hcore : c'.core = { c.core with
        questions := c.questions.set id { q with counted := true }
        discoveries := c.discoveries.modify q.discovery Discovery.arrive })

/-- **Every step of a question** is one of these. -/
theorem questionStep_of_eq_some {id : Nat} {c' : Client} (h : c.questionStep? id = some c') :
    ∃ q, c.questions[id]? = some q ∧ q.counted = false ∧ QuestionStep c id q c' := by
  unfold questionStep? at h
  split at h
  · cases h
  rename_i q hq
  rw [Option.filter_eq_some_iff] at hq
  refine ⟨q, hq.1, by simpa using hq.2, ?_⟩
  split at h
  · rename_i hunsent
    cases h
    refine .sends hunsent ?_
    unfold sendQuestion freshWaiter
    rw [core_send]
    rfl
  · rename_i waiter hsent
    split at h
    · rename_i hanswer
      cases h
      refine .counts waiter hsent hanswer ?_
      unfold countAnswer
      dsimp only
      split
      · rename_i hnone
        rw [List.modify_eq_self (List.getElem?_eq_none_iff.mp hnone)]
        rfl
      · rename_i d hd
        rw [List.modify_eq_set_getElem?, hd]
        split
        · rw [core_wake]
          rfl
        · rfl
    · cases h

/-! ## Actions -/

/-- All that can happen to a client. -/
inductive Happens (c c' : Client) : Action → Prop where
  /-- Nothing that it knows of. -/
  | nothing (a : Action) (hcore : c'.core = c.core) : Happens c c' a
  /-- The registry gives a proxy. -/
  | gives (name : ServiceName) (setting : CacheSetting) (id : Nat) (h : Gives c name c' id) :
      Happens c c' (.getManager name setting)
  /-- The registry stops keeping a name. -/
  | evicts (name : ServiceName)
      (hcore : c'.core = { c.core with managers := c.managers.erase name }) :
      Happens c c' (.evict name)
  /-- A command is sent to a proxy, under a new number if an answer to it is awaited, and otherwise
  through a handle on the proxy. -/
  | sends (a : Action) (id : Nat) (command : Command) (waiters : Nat) (hle : c.waiters ≤ waiters)
      (hwaiter : ∀ w, command.waiter? = some w → c.waiters ≤ w ∧ w < waiters)
      (hcore : c'.core = { c.core with
        waiters := waiters
        known := c.core.known.modify id fun p => (p.1, p.2.react (.sent command)) })
      (htold : command.waiter? = none →
        ∃ handle silent, a = .tell handle command silent ∧ c.held? handle = some id) :
      Happens c c' a
  /-- A proxy takes a step. -/
  | reacts (id : Nat) (o : Manager.Occurrence) (own : ∀ command, o ≠ .sent command)
      (hcore : c'.core =
        { c.core with known := c.core.known.modify id fun p => (p.1, p.2.step o) }) :
      Happens c c' (.proxy id o own)
  /-- A discovery begins. -/
  | begins (label : String) (caller : Option String) (callback : Bool)
      (hcore : c'.core = { c.core with
        callersMade := c.callersMade + 1
        discoveries := c.discoveries ++
          [{ caller := c.callerNumber caller, callback := callback }] }) :
      Happens c c' (.search label caller callback)
  /-- A caller comes. -/
  | comes (name : String)
      (hcore : c'.core = { c.core with
        callers := c.callers.insert name c.callersMade
        callersMade := c.callersMade + 1 }) :
      Happens c c' (.addCaller name)
  /-- A caller vanishes. -/
  | goes (name : String) (hcore : c'.core = { c.core with callers := c.callers.erase name }) :
      Happens c c' (.dropCaller name)
  /-- A discovery takes a list. -/
  | hears (j : Nat) (d : Discovery) (which : Listing) (due : Nat) (timely : Bool)
      (answer : Except BusError (List String)) (hd : c.discoveries[j]? = some d)
      (hstage : d.stage = .listing which due timely)
      (hcore : c'.core =
        c.core.withDiscovery j (d.hear (c.callerAlive d.caller) which answer)) :
      Happens c c' (.list j answer)
  /-- A discovery does something by itself. -/
  | own (j : Nat) (d : Discovery) (hd : c.discoveries[j]? = some d) (h : OwnStep c j d c') :
      Happens c c' (.discovery j)
  /-- A question does something. -/
  | question (i : Nat) (q : Question) (hq : c.questions[i]? = some q) (hmissing : q.counted = false)
      (h : QuestionStep c i q c') : Happens c c' (.question i)

variable (c) in
/-- **Every action** does one of these. -/
theorem happens_act (a : Action) : Happens c (c.act a) a := by
  cases a with
  | getManager name setting => exact .gives name setting _ (gives_getManager c name setting)
  | evict name => exact .evicts name rfl
  | request handle label kind =>
    rcases core_request c handle label kind with hcore | ⟨id, hcore⟩
    · exact .nothing _ hcore
    · have hwaiter : (kind.command c.waiters).waiter? = some c.waiters := by cases kind <;> rfl
      refine .sends _ id (kind.command c.waiters) _ (Nat.le_succ c.waiters) (fun w hw => ?_) hcore
        fun hnone => ?_
      · cases hwaiter.symm.trans hw
        exact ⟨Nat.le_refl _, Nat.lt_succ_self _⟩
      · cases hwaiter.symm.trans hnone
  | tell handle command silent =>
    show Happens c (c.tell handle command) _
    unfold tell
    split
    · rename_i id hheld
      refine .sends _ id command c.waiters (Nat.le_refl _) (fun w hw => ?_) (core_send c id command)
        fun _ => ⟨handle, silent, rfl, hheld⟩
      rw [silent] at hw
      cases hw
    · exact .nothing _ rfl
  | search label caller callback =>
    exact .begins label caller callback (core_search c label caller callback)
  | addCaller name => exact .comes name rfl
  | dropCaller name => exact .goes name rfl
  | proxy id o own => exact .reacts id o own (core_happen c id o)
  | list j answer =>
    rcases core_giveList c j answer with hcore | ⟨d, which, due, timely, hd, hstage, hcore⟩
    · exact .nothing _ hcore
    · exact .hears j d which due timely answer hd hstage hcore
  | discovery j =>
    show Happens c ((c.ownStep? j).getD c) _
    rcases hstep : c.ownStep? j with _ | c'
    · exact .nothing _ rfl
    · obtain ⟨d, hd, hown⟩ := ownStep_of_eq_some hstep
      exact .own j d hd hown
  | question i =>
    show Happens c ((c.questionStep? i).getD c) _
    rcases hstep : c.questionStep? i with _ | c'
    · exact .nothing _ rfl
    · obtain ⟨q, hq, hmissing, hquestion⟩ := questionStep_of_eq_some hstep
      exact .question i q hq hmissing hquestion
  | around change keeps => exact .nothing _ (keeps c)

/-! ## What the client was set up with -/

/-- The registry gives proxies of the client as it was set up. -/
theorem Gives.setup {name : ServiceName} {c' : Client} {id : Nat} (h : Gives c name c' id) :
    c'.setup = c.setup := by
  cases h with
  | kept id hkept hlive => rfl
  | made c' path hcore => exact congrArg Core.setup hcore

/-- A discovery changes nothing that the client was set up with. -/
theorem OwnStep.setup {id : Nat} {d : Discovery} {c' : Client} (h : OwnStep c id d c') :
    c'.setup = c.setup := by
  cases h with
  | finds which busName rest name hstage hname hnew hcore =>
    exact (congrArg Core.setup hcore).trans (gives_getManager c name .search).setup
  | asks which due timely hstage hcore
  | passes which busName rest hstage hold hcore
  | counts hstage hcore
  | questions proxy rest countdown hstage hcore
  | waits countdown hstage hcore
  | concludes hanswered hcore => exact congrArg Core.setup hcore

/-- **Nothing changes what a client was set up with.** -/
theorem setup_act (c : Client) (a : Action) : (c.act a).setup = c.setup := by
  have hhappens := happens_act c a
  generalize c.act a = c' at hhappens
  cases hhappens with
  | gives name setting id h => exact h.setup
  | own j d hd h => exact h.setup
  | question i q hq hmissing h => cases h <;> exact congrArg Core.setup ‹_›
  | nothing a hcore
  | evicts name hcore
  | sends a id command waiters hle hwaiter hcore
  | reacts id o own hcore
  | begins label caller callback hcore
  | comes name hcore
  | goes name hcore
  | hears j d which due timely answer hd hstage hcore => exact congrArg Core.setup hcore

end Client

end Roster
