import Roster.Proofs.Client.Questions

/-!
# The lists of a discovery

A discovery goes through its stages in one direction (`DiscoveryStage.rank`, `Later`), so that it takes
each of the two lists at most once in a run (`Hears`, `Hears.unique`).

What it finds in a list are the managers whose bus names are there (`Collects`), whether a name is
there once or again and whatever other names are between them.
-/

namespace Roster

/-- How far a discovery has come. -/
def DiscoveryStage.rank : DiscoveryStage → Nat
  | start => 0
  | listing .activatable _ _ => 1
  | collecting .activatable _ => 2
  | listing .owned _ _ => 3
  | collecting .owned _ => 4
  | asking _ _ => 5
  | waiting _ => 6
  | done _ => 7

namespace Client

/-! ## One direction -/

/-- What a discovery may have become later. -/
structure Later (d d' : Discovery) : Prop where
  /-- It has the same caller. -/
  caller : d'.caller = d.caller
  /-- It has the same callback or none. -/
  callback : d'.callback = d.callback
  /-- It has come as far, or further. -/
  rank : d.stage.rank ≤ d'.stage.rank
  /-- If it was over, nothing has changed. -/
  ended : ∀ outcome, d.stage = .done outcome → d' = d

/-- Nothing changes at the same time. -/
theorem Later.refl (d : Discovery) : Later d d := ⟨rfl, rfl, Nat.le_refl _, fun _ _ => rfl⟩

/-- What comes later comes after that. -/
theorem Later.trans {d₁ d₂ d₃ : Discovery} (h : Later d₁ d₂) (h' : Later d₂ d₃) : Later d₁ d₃ where
  caller := h'.caller.trans h.caller
  callback := h'.callback.trans h.callback
  rank := Nat.le_trans h.rank h'.rank
  ended := by
    intro outcome hstage
    obtain rfl := h.ended outcome hstage
    exact h'.ended outcome hstage

/-- A discovery that is over has come furthest. -/
theorem rank_le (stage : DiscoveryStage) : stage.rank ≤ 7 := by
  cases stage with
  | listing which due timely => cases which <;> simp [DiscoveryStage.rank]
  | collecting which rest => cases which <;> simp [DiscoveryStage.rank]
  | _ => simp [DiscoveryStage.rank]

/-- A discovery that was not over may come further, or change where it is. -/
theorem later_of_going {d d' : Discovery} (hcaller : d'.caller = d.caller)
    (hcallback : d'.callback = d.callback) (hrank : d.stage.rank ≤ d'.stage.rank)
    (hgoing : d.stage.rank < 7) : Later d d' where
  caller := hcaller
  callback := hcallback
  rank := hrank
  ended := by
    intro outcome hstage
    rw [hstage] at hgoing
    exact absurd hgoing (Nat.lt_irrefl 7)

/-- A discovery that comes further was not over. -/
theorem later_of_stage {d d' : Discovery} (hcaller : d'.caller = d.caller)
    (hcallback : d'.callback = d.callback) (hrank : d.stage.rank < d'.stage.rank) : Later d d' :=
  later_of_going hcaller hcallback (Nat.le_of_lt hrank)
    (Nat.lt_of_lt_of_le hrank (rank_le d'.stage))

/-- Taking a list brings a discovery further. -/
theorem rank_hear {d : Discovery} {which : Listing} {due : Nat} {timely : Bool}
    (hstage : d.stage = .listing which due timely) (alive : Bool)
    (answer : Except BusError (List String)) :
    d.stage.rank < (d.hear alive which answer).stage.rank := by
  rw [hstage]
  unfold Discovery.hear
  split
  · split
    · cases which <;> simp [DiscoveryStage.rank]
    · cases which <;> simp [DiscoveryStage.rank, Discovery.finish]
  · cases which <;> simp [DiscoveryStage.rank, Discovery.finish]

/-- Counting an answer leaves a discovery where it is. -/
theorem later_arrive (d : Discovery) : Later d d.arrive := by
  refine d.arrive_induct (fun rest countdown countdown' hstage => ?_)
    (fun countdown countdown' hstage => ?_) (.refl d)
  · exact later_of_going rfl rfl (by rw [hstage]; exact Nat.le_refl _)
      (by simp [hstage, DiscoveryStage.rank])
  · exact later_of_going rfl rfl (by rw [hstage]; exact Nat.le_refl _)
      (by simp [hstage, DiscoveryStage.rank])

/-- Ending keeps the caller and the callback, and is the last stage. -/
theorem later_finish {d : Discovery} (hstage : d.stage.rank < 7) (outcome : DiscoveryOutcome) :
    Later d (d.finish outcome) :=
  later_of_stage rfl rfl hstage

/-- Taking a list brings a discovery further and keeps the caller and the callback. -/
theorem later_hear {d : Discovery} {which : Listing} {due : Nat} {timely : Bool}
    (hstage : d.stage = .listing which due timely) (alive : Bool)
    (answer : Except BusError (List String)) : Later d (d.hear alive which answer) := by
  refine later_of_stage ?_ ?_ (rank_hear hstage alive answer)
  · unfold Discovery.hear
    split
    · split <;> rfl
    · rfl
  · unfold Discovery.hear
    split
    · split <;> rfl
    · rfl

/-- **Every turn brings a discovery further** or leaves it where it is. -/
theorem Turn.later {c c' : Client} {id : Nat} {v v' : View} {a : Action}
    (h : Turn c c' id v a v') : Later v.discovery v'.discovery := by
  cases h with
  | rests a => exact .refl _
  | hears which due timely answer hstage => exact later_hear hstage _ answer
  | asks which due timely hstage =>
    rcases hstage with ⟨hstage, rfl⟩ | ⟨hstage, rfl⟩
    · exact later_of_stage rfl rfl (by simp [hstage, DiscoveryStage.rank])
    · exact later_of_stage rfl rfl (by simp [hstage, DiscoveryStage.rank])
  | passes which busName rest hstage hold
  | finds which busName rest name hstage hname hnew hkept =>
    refine later_of_going rfl rfl ?_ ?_
    · rw [hstage]
      cases which <;> exact Nat.le_refl _
    · rw [hstage]
      cases which <;> simp [DiscoveryStage.rank]
  | counts hstage => exact later_of_stage rfl rfl (by simp [hstage, DiscoveryStage.rank])
  | questions proxy rest countdown hstage =>
    refine later_of_going rfl rfl ?_ ?_
    · rw [hstage]
      exact Nat.le_refl _
    · simp [hstage, DiscoveryStage.rank]
  | waits countdown hstage => exact later_of_stage rfl rfl (by simp [hstage, DiscoveryStage.rank])
  | arrives i missing hmissing => exact later_arrive _
  | concludes hanswered =>
    obtain ⟨countdown, hstage⟩ := Discovery.exists_waiting_of_isAnswered hanswered
    exact later_finish (by simp [hstage, DiscoveryStage.rank]) _

section run

variable {setup : Setup} {tree : FileTree} {id : Nat}

/-- A discovery is there in all that comes later, and has come further. -/
theorem later_run {before : List Action} {d : Discovery}
    (hd : ((start setup tree).run before).discoveries[id]? = some d) (after : List Action) :
    ∃ d', ((start setup tree).run (before ++ after)).discoveries[id]? = some d' ∧ Later d d' := by
  induction after using List.reverseRecOn with
  | nil =>
    rw [List.append_nil]
    exact ⟨d, hd, .refl d⟩
  | append_singleton after a ih =>
    obtain ⟨d', hd', hlater⟩ := ih
    rw [← List.append_assoc, run_concat]
    obtain ⟨v, hv, hturn⟩ := turn_act (view?_of_discovery hd') a
    obtain ⟨d'', hd'', rfl⟩ := Option.map_eq_some_iff.mp hv
    exact ⟨d'', hd'', hlater.trans hturn.later⟩

end run

/-! ## The lists that a discovery takes -/

/-- A discovery awaits a list. -/
def Awaits (c : Client) (id : Nat) (which : Listing) (d : Discovery) : Prop :=
  c.discoveries[id]? = some d ∧ ∃ due timely, d.stage = .listing which due timely

/-- In a run, a discovery took a list that it awaited, while its caller was alive or not. -/
def Hears (setup : Setup) (tree : FileTree) (actions : List Action) (id : Nat) (which : Listing)
    (alive : Bool) (answer : Except BusError (List String)) : Prop :=
  ∃ before after d, actions = before ++ .list id answer :: after ∧
    Awaits ((start setup tree).run before) id which d ∧
    ((start setup tree).run before).callerAlive d.caller = alive

/-- A discovery takes the list that it awaits. -/
theorem Awaits.discoveries {c : Client} {id : Nat} {which : Listing} {d : Discovery}
    (h : Awaits c id which d) (answer : Except BusError (List String)) :
    (c.act (.list id answer)).discoveries[id]? =
      some (d.hear (c.callerAlive d.caller) which answer) := by
  obtain ⟨hd, due, timely, hstage⟩ := h
  show (c.giveList id answer).discoveries[id]? = _
  rw [giveList, hd]
  dsimp only
  rw [hstage]
  exact List.getElem?_set_self (List.getElem?_eq_some_iff.mp hd).1

section run

variable {setup : Setup} {tree : FileTree} {id : Nat} {actions : List Action} {which : Listing}
  {alive alive' : Bool} {answer answer' : Except BusError (List String)}

/-- What was heard in a run was heard when the run goes on. -/
theorem Hears.append (h : Hears setup tree actions id which alive answer) (later : List Action) :
    Hears setup tree (actions ++ later) id which alive answer := by
  obtain ⟨before, after, d, rfl, hawaits, halive⟩ := h
  refine ⟨before, after ++ later, d, ?_, hawaits, halive⟩
  rw [List.append_assoc, List.cons_append]

/-- A list is not awaited any more once it was taken. -/
theorem not_awaits_of_heard {before after : List Action} {d d' : Discovery}
    (h : Awaits ((start setup tree).run before) id which d)
    (h' : Awaits ((start setup tree).run (before ++ .list id answer :: after)) id which d') :
    False := by
  have hheard := h.discoveries answer
  rw [← run_concat] at hheard
  obtain ⟨d'', hd'', hlater⟩ := later_run hheard after
  rw [List.append_assoc, List.singleton_append, h'.1] at hd''
  obtain rfl := Option.some.inj hd''
  obtain ⟨_, due, timely, hstage⟩ := h
  obtain ⟨_, due', timely', hstage'⟩ := h'
  have hfurther := Nat.lt_of_lt_of_le (rank_hear hstage _ answer) hlater.rank
  rw [hstage, hstage'] at hfurther
  cases which <;> exact absurd hfurther (Nat.lt_irrefl _)

/-- **A discovery takes each list at most once**, in every run. -/
theorem Hears.unique (h : Hears setup tree actions id which alive answer)
    (h' : Hears setup tree actions id which alive' answer') : alive = alive' ∧ answer = answer' := by
  obtain ⟨before, after, d, rfl, hawaits, halive⟩ := h
  obtain ⟨before', after', d', hsplit, hawaits', halive'⟩ := h'
  rcases List.append_eq_append_iff.mp hsplit with ⟨between, hbefore, hrest⟩ | ⟨between, hbefore, hrest⟩
  · cases between with
    | nil =>
      rw [List.append_nil] at hbefore
      subst hbefore
      obtain ⟨hlist, _⟩ := List.cons.inj hrest
      cases hlist
      obtain rfl := Option.some.inj (hawaits.1.symm.trans hawaits'.1)
      exact ⟨halive.symm.trans halive', rfl⟩
    | cons a between =>
      obtain ⟨rfl, _⟩ := List.cons.inj hrest
      rw [hbefore] at hawaits'
      exact (not_awaits_of_heard hawaits hawaits').elim
  · cases between with
    | nil =>
      rw [List.append_nil] at hbefore
      subst hbefore
      obtain ⟨hlist, _⟩ := List.cons.inj hrest
      cases hlist
      obtain rfl := Option.some.inj (hawaits.1.symm.trans hawaits'.1)
      exact ⟨halive.symm.trans halive', rfl⟩
    | cons a between =>
      obtain ⟨rfl, _⟩ := List.cons.inj hrest
      rw [hbefore] at hawaits
      exact (not_awaits_of_heard hawaits' hawaits).elim

end run

/-! ## What is found in lists -/

/-- The managers found are those whose bus names are in a list. -/
def Collects (config : Config) (found : OrderedMap ServiceName Nat) (busNames : List String) : Prop :=
  ∀ name, found.contains name = true ↔ config.busName name ∈ busNames

/-- Without names nothing is found. -/
theorem collects_nil (config : Config) : Collects config ∅ [] := by
  intro name
  constructor
  · intro h
    cases h
  · intro h
    cases h

section collects

variable {config : Config} {found : OrderedMap ServiceName Nat} {busNames : List String}
  {busName : String}

/-- Managers with the same bus name are the same. -/
theorem busName_injective {name name' : ServiceName}
    (h : config.busName name = config.busName name') : name = name' := by
  have hname := Config.serviceName?_eq_some_iff.mpr h
  rw [Config.serviceName?_eq_some_iff.mpr rfl] at hname
  exact Option.some.inj hname

/-- A name that belongs to no manager, or to one that was found, adds nothing. -/
theorem Collects.passes (h : Collects config found busNames)
    (hold : ∀ name, config.serviceName? busName = some name → found.contains name) :
    Collects config found (busNames ++ [busName]) := by
  intro name
  rw [List.mem_append, List.mem_singleton, ← h name]
  constructor
  · exact Or.inl
  · rintro (hfound | hname)
    · exact hfound
    · exact hold name (Config.serviceName?_eq_some_iff.mpr hname.symm)

/-- A name that belongs to another manager adds that one. -/
theorem Collects.finds (h : Collects config found busNames) {name : ServiceName} (proxy : Nat)
    (hname : config.serviceName? busName = some name) :
    Collects config (found.insert name proxy) (busNames ++ [busName]) := by
  have hbusName := Config.serviceName?_eq_some_iff.mp hname
  intro name'
  rw [OrderedMap.contains_insert, List.mem_append, List.mem_singleton, ← h name', hbusName]
  constructor
  · rintro (rfl | hfound)
    · exact .inr rfl
    · exact .inl hfound
  · rintro (hfound | hsame)
    · exact .inr hfound
    · exact .inl (busName_injective hsame)

end collects

end Client

end Roster
