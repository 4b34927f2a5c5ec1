import Roster.Proofs.Client.Listings

/-!
# A discovery finds exactly the managers that there are

What a discovery gives in the end, in terms of the two lists that it took in the run.

* `listed_run`: at every stage, what was found are the managers among the names it has looked at.
* `obtained_run`: each of them is the proxy that the registry kept or made at that moment (`Obtains`).
* `exists_answered`: each of them was asked under a number of its own and has answered.

Nothing is assumed about the registry before, or about what happens in between.
-/

namespace Roster.Client

section run

variable (setup : Setup) (tree : FileTree) (actions : List Action) (id : Nat)

/-- A run changes nothing of what a client was set up with. -/
theorem setup_run : ((start setup tree).run actions).setup = setup :=
  (goesOn_run setup tree [] actions).setup

/-- A discovery took both lists in a run, and what it found are the managers in them. -/
def ListedBoth (found : OrderedMap ServiceName Nat) : Prop :=
  ∃ activatable owned, Hears setup tree actions id .activatable true (.ok activatable) ∧
    Hears setup tree actions id .owned true (.ok owned) ∧
    Collects setup.config found (activatable ++ owned)

/-- What a discovery has found at each stage: the managers among the names it has looked at, in the
lists that it took in the run. -/
def Listed (d : Discovery) : Prop :=
  match d.stage with
  | .start | .listing .activatable _ _ => Collects setup.config d.found []
  | .collecting .activatable rest =>
    ∃ looked, Hears setup tree actions id .activatable true (.ok (looked ++ rest)) ∧
      Collects setup.config d.found looked
  | .listing .owned _ _ =>
    ∃ activatable, Hears setup tree actions id .activatable true (.ok activatable) ∧
      Collects setup.config d.found activatable
  | .collecting .owned rest =>
    ∃ activatable looked, Hears setup tree actions id .activatable true (.ok activatable) ∧
      Hears setup tree actions id .owned true (.ok (looked ++ rest)) ∧
      Collects setup.config d.found (activatable ++ looked)
  | .asking _ _ | .waiting _ => ListedBoth setup tree actions id d.found
  | .done (.complete _) => ListedBoth setup tree actions id d.found
  | .done _ => True

/-- In a run, the registry gave a discovery a proxy for a manager whose bus name it looked at, and
kept that proxy. -/
def Obtains (name : ServiceName) (proxy : Nat) : Prop :=
  ∃ before after d which busName rest, actions = before ++ .discovery id :: after ∧
    ((start setup tree).run before).discoveries[id]? = some d ∧
    d.stage = .collecting which (busName :: rest) ∧
    setup.config.serviceName? busName = some name ∧
    (((start setup tree).run before).getManager name .search).2 = proxy ∧
    ((start setup tree).run (before ++ [.discovery id])).managers.get? name = some proxy

end run

section turns

variable {setup : Setup} {tree : FileTree} {actions : List Action} {id : Nat}

/-- What was listed stays listed when the run goes on. -/
theorem Listed.append {d : Discovery} (h : Listed setup tree actions id d) (later : List Action) :
    Listed setup tree (actions ++ later) id d := by
  have hboth : ∀ {found}, ListedBoth setup tree actions id found →
      ListedBoth setup tree (actions ++ later) id found := by
    rintro found ⟨activatable, owned, hactivatable, howned, hfound⟩
    exact ⟨activatable, owned, hactivatable.append later, howned.append later, hfound⟩
  rw [Listed] at h ⊢
  split at h
  · exact h
  · exact h
  · obtain ⟨looked, hheard, hfound⟩ := h
    exact ⟨looked, hheard.append later, hfound⟩
  · obtain ⟨activatable, hheard, hfound⟩ := h
    exact ⟨activatable, hheard.append later, hfound⟩
  · obtain ⟨activatable, looked, hactivatable, howned, hfound⟩ := h
    exact ⟨activatable, looked, hactivatable.append later, howned.append later, hfound⟩
  · exact hboth h
  · exact hboth h
  · exact hboth h
  · exact h

/-- A discovery that has ended without a result has nothing to show. -/
theorem listed_finish (d : Discovery) {outcome : DiscoveryOutcome}
    (houtcome : ∀ found, outcome ≠ .complete found) :
    Listed setup tree actions id (d.finish outcome) := by
  unfold Listed Discovery.finish
  cases outcome with
  | complete found => exact absurd rfl (houtcome found)
  | callerGone => trivial
  | failed e => trivial

/-- An answer that is counted lists nothing. -/
theorem Listed.arrive {d : Discovery} (h : Listed setup tree actions id d) :
    Listed setup tree actions id d.arrive := by
  refine d.arrive_induct (fun rest countdown countdown' hstage => ?_)
    (fun countdown countdown' hstage => ?_) h
  · rw [Listed, hstage] at h
    exact h
  · rw [Listed, hstage] at h
    exact h

/-- A list that is taken was heard, and nothing of it was looked at. -/
theorem Listed.hear {d : Discovery} {which : Listing} {due : Nat} {timely : Bool}
    (hd : ((start setup tree).run actions).discoveries[id]? = some d)
    (hstage : d.stage = .listing which due timely) (h : Listed setup tree actions id d)
    (answer : Except BusError (List String)) :
    Listed setup tree (actions ++ [.list id answer]) id
      (d.hear (((start setup tree).run actions).callerAlive d.caller) which answer) := by
  have hlater := h.append [.list id answer]
  rw [Listed, hstage] at hlater
  rcases halive : ((start setup tree).run actions).callerAlive d.caller with _ | _
  · exact listed_finish d (by simp)
  have hheard : Hears setup tree (actions ++ [.list id answer]) id which true answer :=
    ⟨actions, [], d, rfl, ⟨hd, due, timely, hstage⟩, halive⟩
  cases answer with
  | error e => exact listed_finish d (by simp)
  | ok busNames =>
    cases which with
    | activatable => exact ⟨[], hheard, hlater⟩
    | owned =>
      obtain ⟨activatable, hactivatable, hfound⟩ := hlater
      refine ⟨activatable, [], hactivatable, hheard, ?_⟩
      rw [List.append_nil]
      exact hfound

/-- Looking at a name, whether it adds a manager or not. -/
theorem Listed.look {d : Discovery} {which : Listing} {busName : String} {rest : List String}
    {found : OrderedMap ServiceName Nat}
    (hstage : d.stage = .collecting which (busName :: rest)) (h : Listed setup tree actions id d)
    (hfound : ∀ busNames, Collects setup.config d.found busNames →
      Collects setup.config found (busNames ++ [busName])) :
    Listed setup tree actions id { d with stage := .collecting which rest, found := found } := by
  rw [Listed, hstage] at h
  cases which with
  | activatable =>
    obtain ⟨looked, hheard, hbefore⟩ := h
    refine ⟨looked ++ [busName], ?_, hfound looked hbefore⟩
    rw [List.append_assoc, List.singleton_append]
    exact hheard
  | owned =>
    obtain ⟨activatable, looked, hactivatable, howned, hbefore⟩ := h
    refine ⟨activatable, looked ++ [busName], hactivatable, ?_, ?_⟩
    · rw [List.append_assoc, List.singleton_append]
      exact howned
    · rw [← List.append_assoc]
      exact hfound _ hbefore

/-- **Every turn of a discovery** lists what it looks at. -/
theorem Listed.turn {a : Action} {v v' : View} {c' : Client}
    (hv : ((start setup tree).run actions).view? id = some v)
    (h : Listed setup tree actions id v.discovery)
    (hturn : Turn ((start setup tree).run actions) c' id v a v') :
    Listed setup tree (actions ++ [a]) id v'.discovery := by
  have hlater := h.append [a]
  cases hturn with
  | rests a => exact hlater
  | hears which due timely answer hstage =>
    obtain ⟨d, hd, rfl⟩ := Option.map_eq_some_iff.mp hv
    exact h.hear hd hstage answer
  | asks which due timely hstage =>
    rcases hstage with ⟨hstage, rfl⟩ | ⟨hstage, rfl⟩
    · rw [Listed, hstage] at hlater
      exact hlater
    · rw [Listed, hstage] at hlater
      obtain ⟨looked, hheard, hfound⟩ := hlater
      rw [List.append_nil] at hheard
      exact ⟨looked, hheard, hfound⟩
  | passes which busName rest hstage hold =>
    rw [setup_run] at hold
    exact hlater.look hstage fun busNames hbefore => hbefore.passes hold
  | finds which busName rest name hstage hname hnew hkept =>
    rw [setup_run] at hname
    exact hlater.look hstage fun busNames hbefore => hbefore.finds _ hname
  | counts hstage =>
    rw [Listed, hstage] at hlater
    obtain ⟨activatable, looked, hactivatable, howned, hfound⟩ := hlater
    rw [List.append_nil] at howned
    exact ⟨activatable, looked, hactivatable, howned, hfound⟩
  | questions proxy rest countdown hstage =>
    rw [Listed, hstage] at hlater
    exact hlater
  | waits countdown hstage =>
    rw [Listed, hstage] at hlater
    exact hlater
  | arrives i missing hmissing => exact hlater.arrive
  | concludes hanswered =>
    obtain ⟨countdown, hstage⟩ := Discovery.exists_waiting_of_isAnswered hanswered
    rw [Listed, hstage] at hlater
    unfold Discovery.conclude
    split
    · exact hlater
    · exact listed_finish _ (by simp)

/-- **What a discovery has found are the managers in its lists**, after every run. -/
theorem listed_run {v : View} (hv : ((start setup tree).run actions).view? id = some v) :
    Listed setup tree actions id v.discovery :=
  view_run_induct (P := fun actions v => Listed setup tree actions id v.discovery)
    (fun _ _ _ _ => collects_nil _) (fun _ _ _ _ hv hturn h => h.turn hv hturn) hv

/-! ## Where what is found comes from -/

/-- What was obtained stays so when the run goes on. -/
theorem Obtains.append {name : ServiceName} {proxy : Nat}
    (h : Obtains setup tree actions id name proxy) (later : List Action) :
    Obtains setup tree (actions ++ later) id name proxy := by
  obtain ⟨before, after, d, which, busName, rest, rfl, h⟩ := h
  refine ⟨before, after ++ later, d, which, busName, rest, ?_, h⟩
  rw [List.append_assoc, List.cons_append]

/-- **Everything that a discovery has found the registry gave it**, after every run. -/
theorem obtained_run {v : View} (hv : ((start setup tree).run actions).view? id = some v) :
    ∀ e ∈ v.discovery.found.toList, Obtains setup tree actions id e.1 e.2 := by
  refine view_run_induct (P := fun actions v => ∀ e ∈ v.discovery.found.toList,
    Obtains setup tree actions id e.1 e.2) (fun before label caller callback e he => ?_)
    (fun before a v v' hv hturn h => ?_) hv
  · cases he
  · have hlater : ∀ e ∈ v.discovery.found.toList, Obtains setup tree (before ++ [a]) id e.1 e.2 :=
      fun e he => (h e he).append [a]
    cases hturn with
    | finds which busName rest name hstage hname hnew hkept =>
      intro e he
      rcases OrderedMap.mem_insertEntry he with rfl | hold
      · obtain ⟨d, hd, rfl⟩ := Option.map_eq_some_iff.mp hv
        rw [setup_run] at hname
        exact ⟨before, [], d, which, busName, rest, rfl, hd, hstage, hname, rfl, hkept⟩
      · exact hlater e hold
    | hears which due timely answer hstage =>
      dsimp only
      rw [found_hear]
      exact hlater
    | arrives i missing hmissing =>
      dsimp only
      rw [found_arrive]
      exact hlater
    | _ => exact hlater

end turns

/-! ## The result -/

section result

variable {setup : Setup} {tree : FileTree} {actions : List Action} {id : Nat} {d : Discovery}

/-- A proxy that a discovery has asked, and that nobody misses any more, has answered. -/
theorem exists_answered {c : Client} {proxy : Nat} (hsound : ∀ q ∈ c.questions, Sound c q)
    (hproxy : proxy ∈ targets c.questions id) (hmissing : missing c.questions id = 0) :
    ∃ q ∈ c.questions, q.discovery = id ∧ q.proxy = proxy ∧
      ∃ waiter outcome, q.waiter = some waiter ∧ AskedAs c proxy waiter ∧
        c.answer? proxy waiter = some outcome := by
  obtain ⟨q, hq, htarget⟩ := List.mem_filterMap.mp hproxy
  split at htarget
  · rename_i hdiscovery
    obtain rfl := Option.some.inj htarget
    have hcounted : q.counted = true := by
      rw [missing, List.countP_eq_zero] at hmissing
      simpa [hdiscovery] using hmissing q hq
    obtain ⟨waiter, outcome, hwaiter, hanswer⟩ := (hsound q hq).counted hcounted
    exact ⟨q, hq, hdiscovery, rfl, waiter, outcome, hwaiter, (hsound q hq).sent waiter hwaiter,
      hanswer⟩
  · cases htarget

/-- What a discovery gives are the managers in the two lists that it took, in the order of names. -/
theorem exists_lists_of_complete {found : List (ServiceName × Nat)}
    (hd : ((start setup tree).run actions).discoveries[id]? = some d)
    (hdone : d.stage = .done (.complete found)) :
    (found.map Prod.fst).Pairwise (· < ·) ∧
      ∃ activatable owned, Hears setup tree actions id .activatable true (.ok activatable) ∧
        Hears setup tree actions id .owned true (.ok owned) ∧
        ∀ name, name ∈ found.map Prod.fst ↔
          setup.config.busName name ∈ activatable ∨ setup.config.busName name ∈ owned := by
  have hfanIn := fanIn_run (view?_of_discovery hd)
  have hlisted := listed_run (view?_of_discovery hd)
  rw [FanIn, hdone] at hfanIn
  rw [Listed, hdone] at hlisted
  obtain ⟨rfl, _⟩ := hfanIn
  obtain ⟨activatable, owned, hactivatable, howned, hfound⟩ := hlisted
  refine ⟨OrderedMap.pairwise_keys _, activatable, owned, hactivatable, howned, fun name => ?_⟩
  rw [← List.mem_append, ← hfound name]
  exact (OrderedMap.contains_iff_mem_keys _ _).symm

end result

/-- **A discovery finds exactly the managers that there are**, after any run: whatever else happens
to the client before, in between and afterwards.

If it is over with a result, then the names in the result strictly increase. The discovery took one
list of each kind, both while its caller was alive, and the names are those whose bus names are in
one of them. Each proxy is the one that the registry kept or made for the name when the discovery
looked at its bus name. Each proxy was asked under a number that nobody else has there, and has
answered, with success or not.

As long as it asks or waits, the count is the number of those found whose answers were not counted:
those that it has not asked yet, and those that it has asked and misses. It counts an answer only
when that is there. -/
theorem discovery_exact_run (setup : Setup) (tree : FileTree) (actions : List Action) (id : Nat)
    (d : Discovery) (hd : ((start setup tree).run actions).discoveries[id]? = some d) :
    let c := (start setup tree).run actions
    (∀ found, d.stage = .done (.complete found) →
      (found.map Prod.fst).Pairwise (· < ·) ∧
      (∃ activatable owned,
        (∀ alive answer, Hears setup tree actions id .activatable alive answer ↔
          alive = true ∧ answer = .ok activatable) ∧
        (∀ alive answer, Hears setup tree actions id .owned alive answer ↔
          alive = true ∧ answer = .ok owned) ∧
        ∀ name, name ∈ found.map Prod.fst ↔
          setup.config.busName name ∈ activatable ∨ setup.config.busName name ∈ owned) ∧
      ∀ name proxy, (name, proxy) ∈ found →
        Obtains setup tree actions id name proxy ∧
        ∃ q ∈ c.questions, q.discovery = id ∧ q.proxy = proxy ∧
          ∃ waiter outcome, q.waiter = some waiter ∧ AskedAs c proxy waiter ∧
            c.answer? proxy waiter = some outcome) ∧
    (∀ rest countdown, d.stage = .asking rest countdown →
      targets c.questions id ++ rest = d.found.values ∧
      countdown.remaining = rest.length + missing c.questions id) ∧
    (∀ countdown, d.stage = .waiting countdown →
      targets c.questions id = d.found.values ∧
      countdown.remaining = missing c.questions id) ∧
    ∀ q ∈ c.questions, q.counted = true →
      ∃ waiter outcome, q.waiter = some waiter ∧ c.answer? q.proxy waiter = some outcome := by
  intro c
  have hview := view?_of_discovery hd
  have hfanIn := fanIn_run hview
  have hsound := sound_questions_run setup tree actions
  rw [FanIn] at hfanIn
  refine ⟨fun found hdone => ?_, fun rest countdown hstage => ?_, fun countdown hstage => ?_,
    fun q hq hcounted => (hsound q hq).counted hcounted⟩
  · rw [hdone] at hfanIn
    obtain ⟨hresult, htargets, hmissing⟩ := hfanIn
    obtain ⟨hsorted, activatable, owned, hactivatable, howned, hnames⟩ :=
      exists_lists_of_complete hd hdone
    refine ⟨hsorted, ⟨activatable, owned, fun alive answer => ?_, fun alive answer => ?_, hnames⟩,
      fun name proxy hmem => ⟨?_, ?_⟩⟩
    · constructor
      · intro h
        exact h.unique hactivatable
      · rintro ⟨rfl, rfl⟩
        exact hactivatable
    · constructor
      · intro h
        exact h.unique howned
      · rintro ⟨rfl, rfl⟩
        exact howned
    · rw [hresult] at hmem
      exact obtained_run hview (name, proxy) hmem
    · have hproxy : proxy ∈ targets c.questions id := by
        dsimp only at htargets
        rw [htargets]
        exact List.mem_map_of_mem (f := Prod.snd) (hresult ▸ hmem)
      exact exists_answered hsound hproxy hmissing
  · rw [hstage] at hfanIn
    exact ⟨hfanIn.1, hfanIn.2.remaining⟩
  · rw [hstage] at hfanIn
    exact ⟨hfanIn.1, hfanIn.2.remaining⟩

/-- Two managers are found in lists with a repeated name, a foreign one and an invalid one. One proxy
stops before it is asked, the other one after that; both have answered when the result is there. -/
theorem discovery_exact_run_stopped :
    let gabble : ServiceName := ⟨"gabble", by decide⟩
    let salut : ServiceName := ⟨"salut", by decide⟩
    let full (name : String) : String := "org.freedesktop.Telepathy.ConnectionManager." ++ name
    let activatable := [full "salut", "org.freedesktop.DBus", full "salut"]
    let owned := [":1.1", full "gabble", full "1x"]
    let stop (proxy : Nat) : Action := .proxy proxy .forsaken fun _ h => by cases h
    let actions : List Action :=
      [.search "all" none true, .discovery 0, .list 0 (.ok activatable)] ++
        List.replicate 4 (.discovery 0) ++ [.list 0 (.ok owned)] ++
        List.replicate 7 (.discovery 0) ++
        [stop 1, .question 0, .question 1, stop 0, .question 1, .question 0, .discovery 0]
    let c := (start {} ⟨.dir [], []⟩).run actions
    ∃ d, c.discoveries[0]? = some d ∧ d.stage = .done (.complete [(gabble, 1), (salut, 0)]) ∧
      Obtains {} ⟨.dir [], []⟩ actions 0 gabble 1 ∧
      (∃ waiter outcome, AskedAs c 0 waiter ∧ c.answer? 0 waiter = some outcome) ∧
      ∃ waiter outcome, AskedAs c 1 waiter ∧ c.answer? 1 waiter = some outcome := by
  intro gabble salut full activatable owned stop actions c
  have hstage : (c.discoveries[0]?).map Discovery.stage =
      some (.done (.complete [(gabble, 1), (salut, 0)])) := by
    decide +kernel
  obtain ⟨d, hd, hdone⟩ := Option.map_eq_some_iff.mp hstage
  obtain ⟨_, _, helements⟩ :=
    (discovery_exact_run {} ⟨.dir [], []⟩ actions 0 d hd).1 _ hdone
  obtain ⟨hgabble, _, _, _, _, w₁, o₁, _, hasked₁, hanswer₁⟩ :=
    helements gabble 1 List.mem_cons_self
  obtain ⟨_, _, _, _, _, w₀, o₀, _, hasked₀, hanswer₀⟩ :=
    helements salut 0 (List.mem_cons_of_mem _ List.mem_cons_self)
  exact ⟨d, hd, hdone, hgabble, ⟨w₀, o₀, hasked₀, hanswer₀⟩, w₁, o₁, hasked₁, hanswer₁⟩

end Roster.Client
