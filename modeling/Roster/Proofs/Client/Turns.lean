import Roster.Proofs.Client.Lives

/-!
# The turns of a discovery

A discovery is seen with the questions that it has made (`View`): whom it has asked, and how many of
the answers were not counted yet. Whatever happens to a client, a discovery stays as it is or takes
one turn (`Turn`, `turn_act`): it asks for a list, takes one, looks at a name, makes a question, counts
an answer, or ends. Everything about discoveries is derived from that.
-/

namespace Roster.Client

/-! ## Questions of a discovery -/

/-- The proxies that a discovery has asked, in order. -/
def targets (questions : List Question) (id : Nat) : List Nat :=
  questions.filterMap fun q => if q.discovery = id then some q.proxy else none

/-- How many questions of a discovery have an answer that was not counted yet. -/
def missing (questions : List Question) (id : Nat) : Nat :=
  questions.countP fun q => q.discovery = id && !q.counted

section questions

variable {questions : List Question} {i : Nat} {q : Question}

/-- Replacing an item of a list by one with the same image leaves the images. -/
theorem map_set_of_eq {α β : Type} {l : List α} {i : Nat} {a a' : α} (hi : l[i]? = some a)
    {f : α → β} (hf : f a' = f a) : (l.set i a').map f = l.map f := by
  apply List.ext_getElem?
  intro j
  rw [List.getElem?_map, List.getElem?_map, List.getElem?_set]
  split
  · rename_i hj
    obtain ⟨hlt, _⟩ := List.getElem?_eq_some_iff.mp hi
    rw [if_pos hlt, ← hj, hi]
    exact congrArg some hf
  · rfl

/-- A question keeps to whom it was made. -/
theorem targets_set (hq : questions[i]? = some q) {q' : Question}
    (hdiscovery : q'.discovery = q.discovery) (hproxy : q'.proxy = q.proxy) (id : Nat) :
    targets (questions.set i q') id = targets questions id := by
  have hmap : ∀ l : List Question, targets l id =
      (l.map fun q => if q.discovery = id then some q.proxy else none).filterMap fun o => o := by
    intro l
    rw [List.filterMap_map]
    rfl
  rw [hmap, hmap, map_set_of_eq hq]
  rw [hdiscovery, hproxy]

/-- A question that is sent is missing as before. -/
theorem missing_set_same (hq : questions[i]? = some q) {q' : Question}
    (hdiscovery : q'.discovery = q.discovery) (hcounted : q'.counted = q.counted) (id : Nat) :
    missing (questions.set i q') id = missing questions id := by
  have hmap : ∀ l : List Question, missing l id =
      (l.map fun q => decide (q.discovery = id) && !q.counted).countP fun b => b := by
    intro l
    rw [List.countP_map]
    rfl
  rw [hmap, hmap, map_set_of_eq hq]
  rw [hdiscovery, hcounted]

/-- A question that is counted is not missing any more. -/
theorem missing_set_counted (hq : questions[i]? = some q) (hmissing : q.counted = false) (id : Nat) :
    missing questions id = missing (questions.set i { q with counted := true }) id +
      if q.discovery = id then 1 else 0 := by
  obtain ⟨hlt, hget⟩ := List.getElem?_eq_some_iff.mp hq
  unfold missing
  rw [List.countP_set hlt, hget]
  by_cases hid : q.discovery = id
  · have hpos : 0 < questions.countP fun q => decide (q.discovery = id) && !q.counted := by
      rw [List.countP_pos_iff]
      exact ⟨q, List.mem_of_getElem? hq, by simp [hid, hmissing]⟩
    simp [hid, hmissing]
    omega
  · simp [hid]

/-- A new question is made to somebody. -/
theorem targets_concat (id : Nat) : targets (questions ++ [q]) id =
    targets questions id ++ if q.discovery = id then [q.proxy] else [] := by
  unfold targets
  rw [List.filterMap_append]
  split <;> simp [*]

/-- A new question is missing. -/
theorem missing_concat (hmissing : q.counted = false) (id : Nat) :
    missing (questions ++ [q]) id = missing questions id + if q.discovery = id then 1 else 0 := by
  unfold missing
  rw [List.countP_append]
  split <;> simp [*]

end questions

/-! ## Views -/

/-- A discovery with its questions. -/
structure View where
  /-- The discovery. -/
  discovery : Discovery
  /-- The proxies that it has asked. -/
  targets : List Nat
  /-- How many of the answers were not counted yet. -/
  missing : Nat

/-- The discovery of a number with its questions. -/
def view? (c : Client) (id : Nat) : Option View :=
  (c.discoveries[id]?).map fun d => ⟨d, targets c.questions id, missing c.questions id⟩

variable {c : Client} {id : Nat}

/-- A discovery that there is can be seen. -/
theorem view?_of_discovery {d : Discovery} (hd : c.discoveries[id]? = some d) :
    c.view? id = some ⟨d, targets c.questions id, missing c.questions id⟩ := by
  rw [view?, hd]
  rfl

/-- A discovery with its questions is what the client knows of it. -/
theorem view?_of_core {c' : Client} {core : Core} (hcore : c'.core = core) (id : Nat) :
    c'.view? id = (core.discoveries[id]?).map fun d =>
      ⟨d, targets core.questions id, missing core.questions id⟩ := by
  rw [← hcore]
  rfl

/-- What can become of the discovery of a number when something happens. -/
inductive Turn (c c' : Client) (id : Nat) (v : View) : Action → View → Prop where
  /-- Nothing happens to it. -/
  | rests (a : Action) : Turn c c' id v a v
  /-- It takes a list. -/
  | hears (which : Listing) (due : Nat) (timely : Bool) (answer : Except BusError (List String))
      (hstage : v.discovery.stage = .listing which due timely) :
      Turn c c' id v (.list id answer)
        { v with discovery :=
            v.discovery.hear (c.callerAlive v.discovery.caller) which answer }
  /-- It asks for a list. -/
  | asks (which : Listing) (due : Nat) (timely : Bool)
      (hstage : v.discovery.stage = .start ∧ which = .activatable ∨
        v.discovery.stage = .collecting .activatable [] ∧ which = .owned) :
      Turn c c' id v (.discovery id)
        { v with discovery := { v.discovery with stage := .listing which due timely } }
  /-- It passes over a name that belongs to no manager, or to one that was found. -/
  | passes (which : Listing) (busName : String) (rest : List String)
      (hstage : v.discovery.stage = .collecting which (busName :: rest))
      (hold : ∀ name, c.setup.config.serviceName? busName = some name →
        v.discovery.found.contains name) :
      Turn c c' id v (.discovery id)
        { v with discovery := { v.discovery with stage := .collecting which rest } }
  /-- It finds a manager, and takes the proxy that the registry gives. -/
  | finds (which : Listing) (busName : String) (rest : List String) (name : ServiceName)
      (hstage : v.discovery.stage = .collecting which (busName :: rest))
      (hname : c.setup.config.serviceName? busName = some name)
      (hnew : v.discovery.found.contains name = false)
      (hkept : c'.managers.get? name = some (c.getManager name .search).2) :
      Turn c c' id v (.discovery id)
        { v with discovery := { v.discovery with
            stage := .collecting which rest
            found := v.discovery.found.insert name (c.getManager name .search).2 } }
  /-- It has looked at all names, and begins to count. -/
  | counts (hstage : v.discovery.stage = .collecting .owned []) :
      Turn c c' id v (.discovery id)
        { v with discovery := { v.discovery with
            stage := .asking v.discovery.found.values (.ofTotal v.discovery.found.size) } }
  /-- It asks a proxy. -/
  | questions (proxy : Nat) (rest : List Nat) (countdown : Countdown)
      (hstage : v.discovery.stage = .asking (proxy :: rest) countdown) :
      Turn c c' id v (.discovery id)
        { discovery := { v.discovery with stage := .asking rest countdown }
          targets := v.targets ++ [proxy]
          missing := v.missing + 1 }
  /-- It has asked everyone, and begins to wait. -/
  | waits (countdown : Countdown) (hstage : v.discovery.stage = .asking [] countdown) :
      Turn c c' id v (.discovery id)
        { v with discovery := { v.discovery with stage := .waiting countdown.wait } }
  /-- An answer is counted. -/
  | arrives (i missing : Nat) (hmissing : v.missing = missing + 1) :
      Turn c c' id v (.question i)
        { v with
          discovery := v.discovery.arrive
          missing := missing }
  /-- Everyone has answered, and it ends. -/
  | concludes (hanswered : v.discovery.isAnswered = true) :
      Turn c c' id v (.discovery id)
        { v with discovery :=
            v.discovery.conclude (c.callerAlive v.discovery.caller) }

/-! ## Every turn -/

/-- The registry leaves discoveries alone when it gives a proxy. -/
theorem Gives.view {name : ServiceName} {c' : Client} {proxy : Nat} (h : Gives c name c' proxy) :
    c'.core.discoveries = c.discoveries ∧ c'.core.questions = c.questions := by
  cases h with
  | kept id hkept hlive => exact ⟨rfl, rfl⟩
  | made c' path hcore =>
    rw [hcore]
    exact ⟨rfl, rfl⟩

/-- The registry keeps the proxy that it gives. -/
theorem Gives.kept_of {name : ServiceName} {c' : Client} {proxy : Nat} (h : Gives c name c' proxy) :
    c'.managers.get? name = some proxy := by
  cases h with
  | kept id hkept hlive => exact hkept
  | made c' path hcore =>
    rw [show c'.managers = c.managers.insert name c.core.known.length from
      congrArg Core.managers hcore]
    exact OrderedMap.get?_insert_self _ _ _

/-- A discovery that was set is seen with its questions as they are. -/
theorem view?_set {c' : Client} {d d' : Discovery} (hd : c.discoveries[id]? = some d)
    (hset : c'.core.discoveries = c.discoveries.set id d') :
    c'.view? id = some ⟨d', targets c'.core.questions id, missing c'.core.questions id⟩ := by
  obtain ⟨hlt, _⟩ := List.getElem?_eq_some_iff.mp hd
  rw [view?_of_core rfl, hset, List.getElem?_set_self hlt]
  rfl

/-- Another discovery is seen as before. -/
theorem view?_set_of_ne {c' : Client} {j : Nat} {d' : Discovery} (hj : j ≠ id)
    (hset : c'.core.discoveries = c.discoveries.set j d')
    (htargets : targets c'.core.questions id = targets c.questions id)
    (hmissing : missing c'.core.questions id = missing c.questions id) :
    c'.view? id = c.view? id := by
  rw [view?_of_core rfl, hset, List.getElem?_set_ne hj, htargets, hmissing]
  rfl

/-- What a discovery does by itself is one of its turns. -/
theorem OwnStep.turn {d : Discovery} {c' : Client} (h : OwnStep c id d c')
    (hd : c.discoveries[id]? = some d) :
    ∃ v', c'.view? id = some v' ∧
      Turn c c' id ⟨d, targets c.questions id, missing c.questions id⟩ (.discovery id) v' := by
  cases h with
  | asks which due timely hstage hcore =>
    refine ⟨_, view?_set hd (congrArg Core.discoveries hcore), ?_⟩
    rw [hcore]
    exact .asks which due timely hstage
  | passes which busName rest hstage hold hcore =>
    refine ⟨_, view?_set hd (congrArg Core.discoveries hcore), ?_⟩
    rw [hcore]
    exact .passes which busName rest hstage hold
  | finds which busName rest name hstage hname hnew hcore =>
    obtain ⟨hdiscoveries, hquestions⟩ := (gives_getManager c name .search).view
    have hset := congrArg Core.discoveries hcore
    rw [Core.withDiscovery] at hset
    dsimp only at hset
    rw [hdiscoveries] at hset
    refine ⟨_, view?_set hd hset, ?_⟩
    rw [hcore, Core.withDiscovery]
    dsimp only
    rw [hquestions]
    refine .finds which busName rest name hstage hname hnew ?_
    rw [show c'.managers = (c.getManager name .search).1.managers from
      congrArg Core.managers hcore]
    exact (gives_getManager c name .search).kept_of
  | counts hstage hcore =>
    refine ⟨_, view?_set hd (congrArg Core.discoveries hcore), ?_⟩
    rw [hcore]
    exact .counts hstage
  | questions proxy rest countdown hstage hcore =>
    refine ⟨_, view?_set hd (congrArg Core.discoveries hcore), ?_⟩
    rw [hcore]
    dsimp only
    rw [targets_concat, missing_concat rfl, if_pos rfl, if_pos rfl]
    exact .questions proxy rest countdown hstage
  | waits countdown hstage hcore =>
    refine ⟨_, view?_set hd (congrArg Core.discoveries hcore), ?_⟩
    rw [hcore]
    exact .waits countdown hstage
  | concludes hanswered hcore =>
    refine ⟨_, view?_set hd (congrArg Core.discoveries hcore), ?_⟩
    rw [hcore]
    exact .concludes hanswered

/-- What a discovery does by itself is not seen in another one. -/
theorem OwnStep.view?_of_ne {j : Nat} {d : Discovery} {c' : Client} (h : OwnStep c j d c')
    (hj : j ≠ id) : c'.view? id = c.view? id := by
  cases h with
  | finds which busName rest name hstage hname hnew hcore =>
    obtain ⟨hdiscoveries, hquestions⟩ := (gives_getManager c name .search).view
    have hset := congrArg Core.discoveries hcore
    have hasked : c'.core.questions = c.questions :=
      (congrArg Core.questions hcore).trans hquestions
    rw [Core.withDiscovery] at hset
    dsimp only at hset
    rw [hdiscoveries] at hset
    refine view?_set_of_ne hj hset ?_ ?_
    · rw [hasked]
    · rw [hasked]
  | questions proxy rest countdown hstage hcore =>
    refine view?_set_of_ne hj (congrArg Core.discoveries hcore) ?_ ?_
    · rw [hcore]
      dsimp only
      rw [targets_concat, if_neg hj, List.append_nil]
    · rw [hcore]
      dsimp only
      rw [missing_concat rfl, if_neg hj, Nat.add_zero]
  | asks which due timely hstage hcore
  | passes which busName rest hstage hold hcore
  | counts hstage hcore
  | waits countdown hstage hcore
  | concludes hanswered hcore =>
    refine view?_set_of_ne hj (congrArg Core.discoveries hcore) ?_ ?_
    · rw [hcore]
      rfl
    · rw [hcore]
      rfl

/-- What a question does is one turn of its discovery, and not seen in others. -/
theorem QuestionStep.turn {i : Nat} {q : Question} {c' : Client} (h : QuestionStep c i q c')
    (hq : c.questions[i]? = some q) (hmissing : q.counted = false) {v : View}
    (hv : c.view? id = some v) : ∃ v', c'.view? id = some v' ∧ Turn c c' id v (.question i) v' := by
  cases h with
  | sends hunsent hcore =>
    refine ⟨v, ?_, .rests _⟩
    rw [view?_of_core hcore]
    dsimp only
    rw [targets_set hq (by rfl) (by rfl), missing_set_same hq (by rfl) (by rfl)]
    exact hv
  | counts waiter hsent hanswer hcore =>
    obtain ⟨d, hd, rfl⟩ := Option.map_eq_some_iff.mp hv
    have hcount := missing_set_counted hq hmissing id
    rw [view?_of_core hcore]
    dsimp only
    rw [targets_set hq (by rfl) (by rfl), List.getElem?_modify, hd]
    by_cases hid : q.discovery = id
    · rw [if_pos hid] at hcount
      refine ⟨_, rfl, ?_⟩
      dsimp only
      rw [if_pos hid]
      exact .arrives i _ hcount
    · rw [if_neg hid, Nat.add_zero] at hcount
      refine ⟨_, rfl, ?_⟩
      dsimp only
      rw [if_neg hid, ← hcount]
      exact .rests _

/-- What can become of the discoveries and the questions when something happens. -/
inductive Effect (c : Client) (c' : Client) : Action → Prop where
  /-- Nothing. -/
  | nothing (a : Action) (hdiscoveries : c'.core.discoveries = c.discoveries)
      (hquestions : c'.core.questions = c.questions) : Effect c c' a
  /-- A discovery begins. -/
  | begins (label : String) (caller : Option String) (callback : Bool)
      (hdiscoveries : c'.core.discoveries =
        c.discoveries ++ [{ caller := c.callerNumber caller, callback := callback }])
      (hquestions : c'.core.questions = c.questions) : Effect c c' (.search label caller callback)
  /-- A discovery takes a list. -/
  | hears (j : Nat) (d : Discovery) (which : Listing) (due : Nat) (timely : Bool)
      (answer : Except BusError (List String)) (hd : c.discoveries[j]? = some d)
      (hstage : d.stage = .listing which due timely)
      (hcore : c'.core =
        c.core.withDiscovery j (d.hear (c.callerAlive d.caller) which answer)) :
      Effect c c' (.list j answer)
  /-- A discovery does something by itself. -/
  | own (j : Nat) (d : Discovery) (hd : c.discoveries[j]? = some d) (h : OwnStep c j d c') :
      Effect c c' (.discovery j)
  /-- A question does something. -/
  | question (i : Nat) (q : Question) (hq : c.questions[i]? = some q) (hmissing : q.counted = false)
      (h : QuestionStep c i q c') : Effect c c' (.question i)

/-- **Every effect on discoveries and questions** is one of these. -/
theorem Happens.effect {c' : Client} {a : Action} (h : Happens c c' a) : Effect c c' a := by
  cases h with
  | gives name setting id h =>
    obtain ⟨hdiscoveries, hquestions⟩ := h.view
    exact .nothing _ hdiscoveries hquestions
  | begins label caller callback hcore =>
    exact .begins label caller callback (congrArg Core.discoveries hcore)
      (congrArg Core.questions hcore)
  | hears j d which due timely answer hd hstage hcore =>
    exact .hears j d which due timely answer hd hstage hcore
  | own j d hd h => exact .own j d hd h
  | question i q hq hmissing h => exact .question i q hq hmissing h
  | nothing a hcore
  | evicts name hcore
  | sends a id command waiters hle hwaiter hcore
  | reacts id o own hcore
  | comes name hcore
  | goes name hcore =>
    exact .nothing _ (congrArg Core.discoveries hcore) (congrArg Core.questions hcore)

/-- An effect on a discovery is one of its turns. -/
theorem Effect.turn {c' : Client} {a : Action} (h : Effect c c' a) {v : View}
    (hv : c.view? id = some v) : ∃ v', c'.view? id = some v' ∧ Turn c c' id v a v' := by
  obtain ⟨d₀, hd₀, hview⟩ := Option.map_eq_some_iff.mp hv
  cases h with
  | nothing a hdiscoveries hquestions =>
    refine ⟨v, ?_, .rests a⟩
    rw [view?_of_core rfl, hdiscoveries, hquestions]
    exact hv
  | begins label caller callback hdiscoveries hquestions =>
    refine ⟨v, ?_, .rests _⟩
    rw [view?_of_core rfl, hdiscoveries, hquestions,
      List.getElem?_append_left (List.getElem?_eq_some_iff.mp hd₀).1]
    exact hv
  | hears j d which due timely answer hd hstage hcore =>
    have hset := congrArg Core.discoveries hcore
    have hquestions : c'.core.questions = c.questions := congrArg Core.questions hcore
    by_cases hj : j = id
    · subst hj
      obtain rfl : d₀ = d := Option.some.inj (hd₀.symm.trans hd)
      rw [← hview]
      refine ⟨_, view?_set hd hset, ?_⟩
      rw [hquestions]
      exact Turn.hears (v := ⟨d₀, _, _⟩) which due timely answer hstage
    · refine ⟨v, (view?_set_of_ne hj hset ?_ ?_).trans hv, .rests _⟩
      · rw [hquestions]
      · rw [hquestions]
  | own j d hd hown =>
    by_cases hj : j = id
    · subst hj
      obtain rfl : d₀ = d := Option.some.inj (hd₀.symm.trans hd)
      rw [← hview]
      exact hown.turn hd
    · exact ⟨v, (hown.view?_of_ne hj).trans hv, .rests _⟩
  | question i q hq hmissing hquestion => exact hquestion.turn hq hmissing hv

/-- **Whatever happens to a client**, a discovery stays as it is or takes one turn. -/
theorem turn_act {v : View} (hv : c.view? id = some v) (a : Action) :
    ∃ v', (c.act a).view? id = some v' ∧ Turn c (c.act a) id v a v' :=
  (happens_act c a).effect.turn hv

/-! ## New discoveries -/

/-- Every question belongs to a discovery. -/
def Placed (c : Client) : Prop :=
  ∀ q ∈ c.questions, q.discovery < c.discoveries.length

/-- What a discovery does by itself begins no other one. -/
theorem OwnStep.length_eq {j : Nat} {d : Discovery} {c' : Client} (h : OwnStep c j d c') :
    c'.core.discoveries.length = c.discoveries.length := by
  cases h with
  | finds which busName rest name hstage hname hnew hcore =>
    rw [hcore, Core.withDiscovery]
    dsimp only
    rw [List.length_set, (gives_getManager c name .search).view.1]
  | asks which due timely hstage hcore
  | passes which busName rest hstage hold hcore
  | counts hstage hcore
  | questions proxy rest countdown hstage hcore
  | waits countdown hstage hcore
  | concludes hanswered hcore =>
    rw [hcore]
    exact List.length_set

/-- What a question does begins no discovery. -/
theorem QuestionStep.length_eq {i : Nat} {q : Question} {c' : Client} (h : QuestionStep c i q c') :
    c'.core.discoveries.length = c.discoveries.length := by
  cases h with
  | sends hunsent hcore =>
    rw [hcore]
    rfl
  | counts waiter hsent hanswer hcore =>
    rw [hcore]
    exact List.length_modify _ _ _

/-- A discovery begins or none does. -/
theorem Effect.length {c' : Client} {a : Action} (h : Effect c c' a) :
    c'.core.discoveries.length = c.discoveries.length ∨
      ∃ label caller callback, a = .search label caller callback ∧
        c'.core.discoveries =
          c.discoveries ++ [{ caller := c.callerNumber caller, callback := callback }] ∧
        c'.core.questions = c.questions := by
  cases h with
  | nothing _ hdiscoveries hquestions => exact .inl (congrArg List.length hdiscoveries)
  | begins label caller callback hdiscoveries hquestions =>
    exact .inr ⟨label, caller, callback, rfl, hdiscoveries, hquestions⟩
  | hears j d which due timely answer hd hstage hcore =>
    rw [hcore]
    exact .inl List.length_set
  | own j d hd hown => exact .inl hown.length_eq
  | question i q hq hmissing hquestion => exact .inl hquestion.length_eq

/-- A question was there before or is made by the discovery that it belongs to. -/
theorem Effect.questions {c' : Client} {a : Action} (h : Effect c c' a) {q : Question}
    (hq : q ∈ c'.core.questions) :
    (∃ q' ∈ c.questions, q'.discovery = q.discovery) ∨ q.discovery < c.discoveries.length := by
  have hset : ∀ {i q₁ q₂}, c.questions[i]? = some q₁ → q₂.discovery = q₁.discovery →
      q ∈ c.questions.set i q₂ → ∃ q' ∈ c.questions, q'.discovery = q.discovery := by
    intro i q₁ q₂ hq₁ hsame hmem
    rcases List.mem_or_eq_of_mem_set hmem with hold | rfl
    · exact ⟨q, hold, rfl⟩
    · exact ⟨q₁, List.mem_of_getElem? hq₁, hsame.symm⟩
  cases h with
  | nothing _ hdiscoveries hquestions => exact .inl ⟨q, hquestions ▸ hq, rfl⟩
  | begins label caller callback hdiscoveries hquestions =>
    exact .inl ⟨q, hquestions ▸ hq, rfl⟩
  | hears j d which due timely answer hd hstage hcore =>
    rw [hcore] at hq
    exact .inl ⟨q, hq, rfl⟩
  | own j d hd hown =>
    cases hown with
    | finds which busName rest name hstage hname hnew hcore =>
      rw [hcore] at hq
      exact .inl ⟨q, (gives_getManager c name .search).view.2 ▸ hq, rfl⟩
    | questions proxy rest countdown hstage hcore =>
      rw [hcore] at hq
      rcases List.mem_append.mp hq with hold | hnew
      · exact .inl ⟨q, hold, rfl⟩
      · rw [List.mem_singleton.mp hnew]
        exact .inr (List.getElem?_eq_some_iff.mp hd).1
    | asks which due timely hstage hcore
    | passes which busName rest hstage hold hcore
    | counts hstage hcore
    | waits countdown hstage hcore
    | concludes hanswered hcore =>
      rw [hcore] at hq
      exact .inl ⟨q, hq, rfl⟩
  | question i q₁ hq₁ hmissing hquestion =>
    cases hquestion with
    | sends hunsent hcore =>
      rw [hcore] at hq
      exact .inl (hset hq₁ (by rfl) hq)
    | counts waiter hsent hanswer hcore =>
      rw [hcore] at hq
      exact .inl (hset hq₁ (by rfl) hq)

/-- Whatever happens, every question belongs to a discovery. -/
theorem Placed.act (h : Placed c) (a : Action) : Placed (c.act a) := by
  intro q hq
  have hle : c.discoveries.length ≤ (c.act a).core.discoveries.length := by
    rcases (happens_act c a).effect.length with heq | ⟨_, caller, callback, _, hconcat, _⟩
    · exact Nat.le_of_eq heq.symm
    · rw [hconcat, List.length_append]
      exact Nat.le_add_right _ _
  refine Nat.lt_of_lt_of_le ?_ hle
  rcases (happens_act c a).effect.questions hq with ⟨q', hq', hsame⟩ | hlt
  · rw [← hsame]
    exact h q' hq'
  · exact hlt

/-- **A discovery that was not there before begins with nothing.** -/
theorem view?_new (h : Placed c) {a : Action} {v : View} (hnone : c.view? id = none)
    (hv : (c.act a).view? id = some v) :
    ∃ label caller callback, a = .search label caller callback ∧
      v = ⟨{ caller := c.callerNumber caller, callback := callback }, [], 0⟩ := by
  have hlength : c.discoveries.length ≤ id := by
    rw [view?, Option.map_eq_none_iff] at hnone
    exact List.getElem?_eq_none_iff.mp hnone
  have hnobody : ∀ q ∈ c.questions, q.discovery ≠ id := by
    intro q hq
    have hlt := h q hq
    omega
  obtain ⟨d, hd, rfl⟩ := Option.map_eq_some_iff.mp hv
  have hlt : id < (c.act a).core.discoveries.length := (List.getElem?_eq_some_iff.mp hd).1
  rcases (happens_act c a).effect.length with
    heq | ⟨label, caller, callback, hsearch, hconcat, hquestions⟩
  · omega
  · change (c.act a).core.discoveries[id]? = some d at hd
    rw [hconcat, List.getElem?_append_right hlength] at hd
    have hmem := List.mem_of_getElem? hd
    rw [List.mem_singleton] at hmem
    have htargets : targets c.questions id = [] := by
      rw [targets, List.filterMap_eq_nil_iff]
      intro q hq
      rw [if_neg (hnobody q hq)]
    have hmissing : missing c.questions id = 0 := by
      rw [missing, List.countP_eq_zero]
      intro q hq
      simp [hnobody q hq]
    refine ⟨label, caller, callback, hsearch, ?_⟩
    rw [hmem, show (c.act a).questions = c.questions from hquestions, htargets, hmissing]

/-! ## Runs -/

section run

variable (setup : Setup) (tree : FileTree)

/-- After every run every question belongs to a discovery. -/
theorem placed_run (actions : List Action) : Placed ((start setup tree).run actions) := by
  induction actions using List.reverseRecOn with
  | nil =>
    intro q hq
    cases hq
  | append_singleton before a ih =>
    rw [run_concat]
    exact ih.act a

variable {setup tree}

/-- What holds of every discovery at its beginning and after each of its turns holds of every
discovery after every run. -/
theorem view_run_induct {P : List Action → View → Prop} {id : Nat}
    (hbegin : ∀ before label caller callback, P (before ++ [.search label caller callback])
      ⟨{ caller := ((start setup tree).run before).callerNumber caller, callback := callback }, [], 0⟩)
    (hturn : ∀ before a v v', ((start setup tree).run before).view? id = some v →
      Turn ((start setup tree).run before) ((start setup tree).run (before ++ [a])) id v a v' →
      P before v → P (before ++ [a]) v')
    {actions : List Action} {v : View} (hv : ((start setup tree).run actions).view? id = some v) :
    P actions v := by
  induction actions using List.reverseRecOn generalizing v with
  | nil => cases hv
  | append_singleton before a ih =>
    rw [run_concat] at hv
    rcases hold : ((start setup tree).run before).view? id with _ | v₀
    · obtain ⟨label, caller, callback, rfl, rfl⟩ := view?_new (placed_run setup tree before) hold hv
      exact hbegin before label caller callback
    · rw [← run_concat] at hv
      obtain ⟨v', hv', hturned⟩ := turn_act hold a
      rw [← run_concat] at hv' hturned
      obtain rfl : v = v' := Option.some.inj (hv.symm.trans hv')
      exact hturn before a v₀ v hold hturned (ih hold)

end run

end Roster.Client
