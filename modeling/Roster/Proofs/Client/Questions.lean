import Roster.Proofs.Client.FanIn

/-!
# Questions and their answers

What a discovery finds are proxies of the managers that it looked for (`foundKnown_run`), as the
registry keeps no others (`kept_run`). So every question of a discovery has a proxy to go to. It is
sent under a number that nobody else has at that proxy (`AskedAs`), and it is counted only after that
proxy has answered under this number, with success or with a failure (`Sound`, `sound_questions_run`).
-/

namespace Roster.Client

open Manager (Occurrence asked)

variable {c c' : Client}

/-! ## The registry keeps proxies under their managers' names -/

/-- Every proxy that the registry keeps is one of the manager under whose name it is kept. -/
def Kept (c : Client) : Prop :=
  ∀ name id, c.managers.get? name = some id → ∃ m, c.known? id = some (name, m)

/-- What can become of the registry when something happens. -/
inductive Registers (c c' : Client) : Prop where
  /-- It stays as it is. -/
  | same (hmanagers : c'.core.managers = c.managers)
  /-- It stops keeping a name. -/
  | evicts (name : ServiceName) (hmanagers : c'.core.managers = c.managers.erase name)
  /-- It keeps a new proxy. -/
  | makes (name : ServiceName) (m : Manager)
      (hmanagers : c'.core.managers = c.managers.insert name c.core.known.length)
      (hknown : c'.core.known = c.core.known ++ [(name, m)])

/-- The registry keeps the proxy that it makes. -/
theorem Gives.registers {name : ServiceName} {id : Nat} (h : Gives c name c' id) :
    Registers c c' := by
  cases h with
  | kept id hkept hlive => exact .same rfl
  | made c' path hcore =>
    exact .makes name _ (congrArg Core.managers hcore) (congrArg Core.known hcore)

/-- A discovery makes the registry keep what it finds. -/
theorem OwnStep.registers {id : Nat} {d : Discovery} (h : OwnStep c id d c') : Registers c c' := by
  cases h with
  | finds which busName rest name hstage hname hnew hcore =>
    have hmanagers : c'.core.managers = (c.getManager name .search).1.core.managers := by
      rw [hcore]
      rfl
    have hknown : c'.core.known = (c.getManager name .search).1.core.known := by
      rw [hcore]
      rfl
    cases (gives_getManager c name .search).registers with
    | same hsame => exact .same (hmanagers.trans hsame)
    | evicts name' hsame => exact .evicts name' (hmanagers.trans hsame)
    | makes name' m hmade hnew' => exact .makes name' m (hmanagers.trans hmade) (hknown.trans hnew')
  | asks which due timely hstage hcore
  | passes which busName rest hstage hold hcore
  | counts hstage hcore
  | questions proxy rest countdown hstage hcore
  | waits countdown hstage hcore
  | concludes hanswered hcore => exact .same (congrArg Core.managers hcore)

/-- **Whatever happens to a client**, the registry stays as it is, stops keeping a name or keeps a new
proxy. -/
theorem Happens.registers {a : Action} (h : Happens c c' a) : Registers c c' := by
  cases h with
  | gives name setting id h => exact h.registers
  | evicts name hcore => exact .evicts name (congrArg Core.managers hcore)
  | own j d hd h => exact h.registers
  | question i q hq hmissing h =>
    cases h with
    | sends hunsent hcore => exact .same (congrArg Core.managers hcore)
    | counts waiter hsent hanswer hcore => exact .same (congrArg Core.managers hcore)
  | nothing a hcore
  | sends a id command waiters hle hwaiter hcore
  | reacts id o own hcore
  | begins label caller callback hcore
  | comes name hcore
  | goes name hcore
  | hears j d which due timely answer hd hstage hcore =>
    exact .same (congrArg Core.managers hcore)

/-- Whatever happens, the registry keeps proxies under their managers' names. -/
theorem Kept.registers (h : Kept c) (hgoes : GoesOn c c') (hregisters : Registers c c') :
    Kept c' := by
  have hold : ∀ name id, c.managers.get? name = some id → ∃ m, c'.known? id = some (name, m) := by
    intro name id hkept
    obtain ⟨m, hm⟩ := h name id hkept
    obtain ⟨occurrences, _, hm'⟩ := hgoes.known id name m hm
    exact ⟨_, hm'⟩
  intro name id hkept
  change c'.core.managers.get? name = some id at hkept
  cases hregisters with
  | same hmanagers =>
    rw [hmanagers] at hkept
    exact hold name id hkept
  | evicts name' hmanagers =>
    rw [hmanagers] at hkept
    by_cases hname : name = name'
    · rw [hname, OrderedMap.get?_erase_self] at hkept
      cases hkept
    · rw [OrderedMap.get?_erase_of_ne _ hname] at hkept
      exact hold name id hkept
  | makes name' m hmanagers hknown =>
    rw [hmanagers] at hkept
    by_cases hname : name = name'
    · rw [hname, OrderedMap.get?_insert_self] at hkept
      cases hkept
      refine ⟨m, ?_⟩
      rw [known?_eq, hknown, hname]
      simp
    · rw [OrderedMap.get?_insert_of_ne _ hname] at hkept
      exact hold name id hkept

/-! ## What discoveries find -/

/-- What is found are proxies of the managers that were looked for. -/
def FoundKnown (c : Client) (d : Discovery) : Prop :=
  ∀ e ∈ d.found.toList, ∃ m, c.known? e.2 = some (e.1, m)

/-- What was found is still known. -/
theorem FoundKnown.goesOn {d d' : Discovery} (h : FoundKnown c d) (hgoes : GoesOn c c')
    (hfound : d'.found = d.found) : FoundKnown c' d' := by
  intro e he
  rw [hfound] at he
  obtain ⟨m, hm⟩ := h e he
  obtain ⟨occurrences, _, hm'⟩ := hgoes.known e.2 e.1 m hm
  exact ⟨_, hm'⟩

/-- A list finds nothing. -/
@[simp] theorem found_hear (d : Discovery) (alive : Bool) (which : Listing)
    (answer : Except BusError (List String)) : (d.hear alive which answer).found = d.found := by
  unfold Discovery.hear
  split
  · split <;> rfl
  · rfl

/-- An answer finds nothing. -/
@[simp] theorem found_arrive (d : Discovery) : d.arrive.found = d.found := by
  unfold Discovery.arrive
  split <;> rfl

/-- Every turn of a discovery finds only proxies of the managers that are looked for. -/
theorem FoundKnown.turn {id : Nat} {v v' : View} {a : Action} (h : FoundKnown c v.discovery)
    (hgoes : GoesOn c c') (hkept : Kept c') (hturn : Turn c c' id v a v') :
    FoundKnown c' v'.discovery := by
  cases hturn with
  | finds which busName rest name hstage hname hnew hgiven =>
    intro e he
    rcases OrderedMap.mem_insertEntry he with rfl | hold
    · exact hkept _ _ hgiven
    · exact h.goesOn hgoes rfl e hold
  | hears which due timely answer hstage => exact h.goesOn hgoes (found_hear _ _ _ _)
  | arrives i missing hmissing => exact h.goesOn hgoes (found_arrive _)
  | _ => exact h.goesOn hgoes rfl

/-! ## Questions -/

/-- A proxy was asked under a number, which nobody else has there. -/
def AskedAs (c : Client) (proxy waiter : Nat) : Prop :=
  ∃ name m occurrences, c.known? proxy = some (name, m) ∧ Lived c name m occurrences ∧
    waiter ∈ asked occurrences

/-- Whoever asked has asked later. -/
theorem AskedAs.goesOn {proxy waiter : Nat} (h : AskedAs c proxy waiter) (hgoes : GoesOn c c') :
    AskedAs c' proxy waiter := by
  obtain ⟨name, m, before, hm, hlived, hasked⟩ := h
  obtain ⟨after, hafter, hm'⟩ := hgoes.known proxy name m hm
  refine ⟨name, _, before ++ after, hm', hlived.goesOn hgoes hafter, ?_⟩
  rw [Manager.asked_append]
  exact List.mem_append_left _ hasked

/-- A question has a proxy to go to, was sent if it has a number, and was answered if it is counted. -/
structure Sound (c : Client) (q : Question) : Prop where
  /-- There is such a proxy. -/
  known : ∃ p, c.known? q.proxy = some p
  /-- It was asked under the number of the question. -/
  sent : ∀ w, q.waiter = some w → AskedAs c q.proxy w
  /-- It has answered under that number. -/
  counted : q.counted = true → ∃ w outcome, q.waiter = some w ∧ c.answer? q.proxy w = some outcome

/-- What was asked and answered stays so. -/
theorem Sound.goesOn {q : Question} (h : Sound c q) (hc : AllLived c) (hgoes : GoesOn c c') :
    Sound c' q where
  known := by
    obtain ⟨⟨name, m⟩, hm⟩ := h.known
    obtain ⟨occurrences, _, hm'⟩ := hgoes.known q.proxy name m hm
    exact ⟨_, hm'⟩
  sent w hw := (h.sent w hw).goesOn hgoes
  counted hcounted := by
    obtain ⟨w, outcome, hw, hanswer⟩ := h.counted hcounted
    exact ⟨w, outcome, hw, hgoes.answer? hc hanswer⟩

/-- A question that is sent is sent to a proxy, under a number that nobody had. -/
theorem askedAs_of_sends {proxy : Nat} {p : ServiceName × Manager} (hc : AllLived c)
    (hp : c.known? proxy = some p)
    (hsetup : c'.setup = c.setup) (hwaiters : c'.waiters = c.waiters + 1)
    (hknown : c'.core.known = c.core.known.modify proxy fun p =>
      (p.1, p.2.react (.sent (.requestReady c.waiters)))) : AskedAs c' proxy c.waiters := by
  obtain ⟨name, m⟩ := p
  obtain ⟨before, hlived⟩ := hc proxy name m hp
  have hnumbered : Numbered c.waiters c'.waiters [.sent (.requestReady c.waiters)] := by
    refine numbered_sent fun w hw => ?_
    cases hw
    omega
  have hstirs : Stirs (fun _ _ => True) c.core.census c'.core.census := by
    have hcensus : c'.core.census = { c.core.census with
        waiters := c'.waiters
        known := c.core.known.modify proxy fun p =>
          (p.1, p.2.react (.sent (.requestReady c.waiters))) } := by
      rw [← hknown]
      show Census.mk c'.setup c'.waiters _ = Census.mk c.setup c'.waiters _
      rw [hsetup]
    rw [hcensus]
    exact stirs_send hc proxy (by omega) hnumbered trivial
  have hgoes : GoesOn c c' := goesOn_of_stirs hstirs
  rw [known?_eq] at hp
  refine ⟨name, m.run [.sent (.requestReady c.waiters)],
    before ++ [.sent (.requestReady c.waiters)], ?_, hlived.goesOn hgoes hnumbered, ?_⟩
  · rw [known?_eq, hknown, step_sent_of_lived hc]
    simp [hp, Manager.run]
  · rw [Manager.asked_append]
    exact List.mem_append_right _ List.mem_cons_self

/-- Whatever a question does, it has a proxy to go to, and is counted only when it is answered. -/
theorem Sound.questionStep {i : Nat} {q : Question} (h : Sound c q) (hmissing : q.counted = false)
    (hc : AllLived c) (hgoes : GoesOn c c') (hstep : QuestionStep c i q c') {q' : Question}
    (hq' : q' ∈ c'.core.questions) (hnew : q' ∉ c.questions) : Sound c' q' := by
  have hold := h.goesOn hc hgoes
  cases hstep with
  | sends hunsent hcore =>
    rw [hcore] at hq'
    obtain rfl := (List.mem_or_eq_of_mem_set hq').resolve_left hnew
    obtain ⟨p, hp⟩ := h.known
    refine ⟨hold.known, fun w hw => ?_, fun hcounted => ?_⟩
    · cases hw
      exact askedAs_of_sends hc hp (congrArg Core.setup hcore) (congrArg Core.waiters hcore)
        (congrArg Core.known hcore)
    · exact absurd (hmissing.symm.trans hcounted) Bool.false_ne_true
  | counts waiter hsent hanswer hcore =>
    rw [hcore] at hq'
    obtain rfl := (List.mem_or_eq_of_mem_set hq').resolve_left hnew
    obtain ⟨outcome, houtcome⟩ := Option.isSome_iff_exists.mp hanswer
    exact ⟨hold.known, hold.sent, fun _ => ⟨waiter, outcome, hsent, hgoes.answer? hc houtcome⟩⟩

/-- Whatever happens, every question has a proxy to go to, and is counted only when it is answered. -/
theorem Effect.sound {a : Action} (h : Effect c c' a) (hc : AllLived c) (hgoes : GoesOn c c')
    (hfound : ∀ id v, c.view? id = some v → FanIn v ∧ FoundKnown c v.discovery)
    (hsound : ∀ q ∈ c.questions, Sound c q) : ∀ q ∈ c'.core.questions, Sound c' q := by
  intro q hq
  have hold : q ∈ c.questions → Sound c' q := fun hmem => (hsound q hmem).goesOn hc hgoes
  cases h with
  | nothing _ hdiscoveries hquestions => exact hold (hquestions ▸ hq)
  | begins label caller callback hdiscoveries hquestions => exact hold (hquestions ▸ hq)
  | hears j d which due timely answer hd hstage hcore =>
    rw [hcore] at hq
    exact hold hq
  | own j d hd hown =>
    cases hown with
    | finds which busName rest name hstage hname hnew hcore =>
      rw [hcore] at hq
      exact hold ((gives_getManager c name .search).view.2 ▸ hq)
    | questions proxy rest countdown hstage hcore =>
      rw [hcore] at hq
      rcases List.mem_append.mp hq with hmem | hmem
      · exact hold hmem
      · obtain rfl := List.mem_singleton.mp hmem
        refine ⟨?_, fun w hw => (by cases hw), fun hcounted => (by cases hcounted)⟩
        -- whom it asks next is one of those that it has found
        obtain ⟨hfanIn, hknown⟩ := hfound j _ (view?_of_discovery hd)
        rw [FanIn, hstage] at hfanIn
        have hmem : proxy ∈ d.found.values := by
          rw [← hfanIn.1]
          exact List.mem_append_right _ List.mem_cons_self
        obtain ⟨e, he, rfl⟩ := List.mem_map.mp hmem
        obtain ⟨m, hm⟩ := hknown e he
        obtain ⟨occurrences, _, hm'⟩ := hgoes.known _ _ _ hm
        exact ⟨_, hm'⟩
    | asks which due timely hstage hcore
    | passes which busName rest hstage hold' hcore
    | counts hstage hcore
    | waits countdown hstage hcore
    | concludes hanswered hcore =>
      rw [hcore] at hq
      exact hold hq
  | question i q₁ hq₁ hmissing hquestion =>
    by_cases hmem : q ∈ c.questions
    · exact hold hmem
    · exact (hsound q₁ (List.mem_of_getElem? hq₁)).questionStep hmissing hc hgoes hquestion hq hmem

section run

variable (setup : Setup) (tree : FileTree)

/-- **The registry keeps proxies under their managers' names**, after every run. -/
theorem kept_run (actions : List Action) : Kept ((start setup tree).run actions) := by
  induction actions using List.reverseRecOn with
  | nil =>
    intro name id hkept
    cases hkept
  | append_singleton before a ih =>
    have hgoes := goesOn_run setup tree before [a]
    rw [run_concat] at hgoes ⊢
    exact ih.registers hgoes (happens_act _ a).registers

variable {setup tree} in
/-- **Discoveries find proxies of the managers that they look for**, after every run. -/
theorem foundKnown_run {actions : List Action} {id : Nat} {v : View}
    (hv : ((start setup tree).run actions).view? id = some v) :
    FoundKnown ((start setup tree).run actions) v.discovery := by
  refine view_run_induct
    (P := fun actions v => FoundKnown ((start setup tree).run actions) v.discovery)
    (fun before label caller callback e he => ?_) (fun before a v v' _ hturn h => ?_) hv
  · cases he
  · exact h.turn (goesOn_run setup tree before [a]) (kept_run setup tree (before ++ [a])) hturn

/-- **Every question is sent under a number of its own and counted only when it is answered**, after
every run. -/
theorem sound_questions_run (actions : List Action) :
    ∀ q ∈ ((start setup tree).run actions).questions, Sound ((start setup tree).run actions) q := by
  induction actions using List.reverseRecOn with
  | nil =>
    intro q hq
    cases hq
  | append_singleton before a ih =>
    have hlived := lived_run setup tree before
    have hgoes := goesOn_run setup tree before [a]
    rw [run_concat] at hgoes ⊢
    exact (happens_act _ a).effect.sound hlived hgoes
      (fun id v hv => ⟨fanIn_run hv, foundKnown_run hv⟩) ih

end run

end Roster.Client
