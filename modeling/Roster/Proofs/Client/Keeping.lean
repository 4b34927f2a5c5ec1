import Roster.Proofs.Client.Questions

/-!
# One proxy for each name

Whoever asks the registry for a name gets the proxy that it keeps, as long as it keeps one that has not
stopped (`Holds`). So from one eviction or end of the kept proxy to the next one there is only one proxy
for the name, however many discoveries find it and whoever else asks for it in between.

* `treats_act`: what an action other than an eviction does to a name in the registry: nothing, or it
  makes the registry keep a new proxy for it, if none is held.
* `LooksUp` is a lookup by anyone: somebody asks, or a discovery finds the name. It gives the proxy that
  is held then (`LooksUp.holds`).
* `Holds.run` and `one_proxy_each_run`: what follows for every stretch of a run in which the name is not
  disturbed (`isUndisturbed`).
-/

namespace Roster.Client

/-- The registry keeps a proxy for a name, and the proxy has not stopped. -/
structure Holds (c : Client) (name : ServiceName) (id : Nat) : Prop where
  /-- It is the one that is kept. -/
  kept : c.managers.get? name = some id
  /-- It has not stopped. -/
  live : c.isDisposed id = false

/-- How many proxies were ever made for a name. -/
def made (c : Client) (name : ServiceName) : Nat := (c.proxies.map Proxy.name).count name

variable {c c' : Client} {name : ServiceName} {id : Nat}

/-- No two proxies are held for one name. -/
theorem Holds.unique {id' : Nat} (h : Holds c name id) (h' : Holds c name id') : id' = id :=
  Option.some.inj (h'.kept.symm.trans h.kept)

/-- Whether a proxy has stopped is what the client knows of it. -/
theorem isDisposed_eq (c : Client) (id : Nat) :
    c.isDisposed id = ((c.core.known[id]?).map fun p => p.2.disposed).getD true := by
  rw [← known?_eq, known?, isDisposed]
  rcases c.proxy? id with _ | p <;> rfl

/-- How many proxies were made for a name is what the client knows of them. -/
theorem made_eq (c : Client) (name : ServiceName) :
    c.made name = (c.core.known.map Prod.fst).count name := by
  unfold made core
  rw [List.map_map]
  rfl

/-- What is held is what the client knows of the registry and the proxies. -/
theorem Holds.of_core (h : Holds c name id) (hmanagers : c'.core.managers = c.core.managers)
    (hknown : c'.core.known = c.core.known) : Holds c' name id := by
  refine ⟨(congrArg (OrderedMap.get? · name) hmanagers).trans h.kept, ?_⟩
  rw [isDisposed_eq, hknown, ← isDisposed_eq]
  exact h.live

/-! ## The registry -/

/-- Whoever asks for a name gets the proxy that is held. -/
theorem Holds.getManager (h : Holds c name id) (setting : CacheSetting) :
    c.getManager name setting = (c, id) := by
  unfold Client.getManager
  rw [h.kept, Option.filter_some, h.live]
  rfl

/-- The proxy that the registry gives is held then. -/
theorem Gives.holds (h : Gives c name c' id) : Holds c' name id := by
  refine ⟨h.kept_of, ?_⟩
  cases h with
  | kept id hkept hlive => exact hlive
  | made c' path hcore =>
    rw [isDisposed_eq, congrArg Core.known hcore]
    simp [Manager.start]

/-- What something that happens does to one name in the registry. -/
inductive Treats (c c' : Client) (name : ServiceName) : Prop where
  /-- Nothing. -/
  | leaves (hmanagers : c'.managers.get? name = c.managers.get? name)
      (hmade : c'.made name = c.made name)
  /-- None is held for it, and the registry keeps a new proxy. -/
  | makes (id : Nat) (hnone : ∀ id', ¬ Holds c name id') (hholds : Holds c' name id)
      (hmade : c'.made name = c.made name + 1)

/-- The registry treats a name as one does that keeps the same proxies. -/
theorem Treats.of_core {c₁ : Client} (h : Treats c c₁ name)
    (hmanagers : c'.core.managers = c₁.core.managers) (hknown : c'.core.known = c₁.core.known) :
    Treats c c' name := by
  have hkept : c'.managers.get? name = c₁.managers.get? name :=
    congrArg (OrderedMap.get? · name) hmanagers
  have hsame : c'.made name = c₁.made name := by rw [made_eq, made_eq, hknown]
  cases h with
  | leaves hleaves hmade => exact .leaves (hkept.trans hleaves) (hsame.trans hmade)
  | makes id hnone hholds hmade =>
    exact .makes id hnone (hholds.of_core hmanagers hknown) (hsame.trans hmade)

/-- Where the registry keeps what it kept for a name and none is made, the name is left alone. -/
theorem treats_of_same (hkept : c'.managers.get? name = c.managers.get? name)
    (hnames : c'.core.known.map Prod.fst = c.core.known.map Prod.fst) : Treats c c' name :=
  .leaves hkept (by rw [made_eq, made_eq, hnames])

/-- A change of the state of a proxy makes none. -/
theorem map_fst_modify (known : List (ServiceName × Manager)) (i : Nat) (g : Manager → Manager) :
    (known.modify i fun p => (p.1, g p.2)).map Prod.fst = known.map Prod.fst := by
  have hmap := map_modify Prod.fst (f := fun p => (p.1, g p.2)) (h := fun k => k) (fun _ => rfl)
    known i
  exact hmap.trans (List.modify_id i _)

/-- **The registry makes a proxy only if none is held**, and holds it then. -/
theorem treats_getManager (c : Client) (name' : ServiceName) (setting : CacheSetting)
    (name : ServiceName) : Treats c (c.getManager name' setting).1 name := by
  by_cases hheld : ∃ id, Holds c name' id
  · obtain ⟨id, hid⟩ := hheld
    rw [hid.getManager]
    exact .leaves rfl rfl
  · have hgives := gives_getManager c name' setting
    have hholds := hgives.holds
    generalize (c.getManager name' setting).1 = c' at hgives hholds
    generalize (c.getManager name' setting).2 = id at hgives hholds
    cases hgives with
    | kept id hkept hlive => exact absurd ⟨id, hkept, hlive⟩ hheld
    | made c' path hcore =>
      have hmade : c'.made name = c.made name + if name' = name then 1 else 0 := by
        rw [made_eq, made_eq, congrArg Core.known hcore, List.map_append, List.count_append]
        simp [List.count_singleton]
      by_cases hname : name' = name
      · rw [if_pos hname] at hmade
        subst hname
        exact .makes _ (fun id hid => hheld ⟨id, hid⟩) hholds hmade
      · rw [if_neg hname] at hmade
        refine .leaves ?_ hmade
        rw [show c'.managers = c.managers.insert name' c.core.known.length from
          congrArg Core.managers hcore, OrderedMap.get?_insert_of_ne _ (Ne.symm hname)]

/-! ## Actions -/

/-- What a discovery does to a name in the registry by itself. -/
theorem OwnStep.treats {d : Discovery} (h : OwnStep c id d c') (name : ServiceName) :
    Treats c c' name := by
  cases h with
  | finds which busName rest name' hstage hname hnew hcore =>
    have hmanagers := congrArg Core.managers hcore
    have hknown := congrArg Core.known hcore
    exact (treats_getManager c name' .search name).of_core hmanagers hknown
  | asks which due timely hstage hcore
  | passes which busName rest hstage hold hcore
  | counts hstage hcore
  | questions proxy rest countdown hstage hcore
  | waits countdown hstage hcore
  | concludes hanswered hcore =>
    refine treats_of_same ?_ (by rw [hcore]; rfl)
    rw [show c'.managers = c.managers from congrArg Core.managers hcore]

/-- **What an action does to a name in the registry**: an eviction of the name apart, it leaves it alone
or makes a proxy for it if none is held. -/
theorem treats_act (c : Client) {a : Action} (hevict : a ≠ .evict name) :
    Treats c (c.act a) name := by
  have hhappens := happens_act c a
  generalize hact : c.act a = c' at hhappens
  have hquiet : c'.core.managers = c.managers →
      c'.core.known.map Prod.fst = c.core.known.map Prod.fst → Treats c c' name :=
    fun hmanagers hnames =>
      treats_of_same (congrArg (OrderedMap.get? · name) hmanagers) hnames
  cases hhappens with
  | gives name' setting id h =>
    rw [← hact]
    exact treats_getManager c name' setting name
  | evicts name' hcore =>
    have hne : name ≠ name' := fun heq => hevict (by rw [heq])
    refine treats_of_same ?_ (by rw [hcore])
    rw [show c'.managers = c.managers.erase name' from congrArg Core.managers hcore,
      OrderedMap.get?_erase_of_ne _ hne]
  | sends a id command waiters hle hwaiter hcore =>
    refine hquiet (congrArg Core.managers hcore) ?_
    rw [hcore]
    exact map_fst_modify c.core.known id (·.react (.sent command))
  | reacts id o own hcore =>
    refine hquiet (congrArg Core.managers hcore) ?_
    rw [hcore]
    exact map_fst_modify c.core.known id (·.step o)
  | own j d hd h => exact h.treats name
  | question i q hq hmissing h =>
    cases h with
    | sends hunsent hcore =>
      refine hquiet (congrArg Core.managers hcore) ?_
      rw [hcore]
      exact map_fst_modify c.core.known q.proxy (·.react (.sent (.requestReady c.waiters)))
    | counts waiter hsent hanswer hcore =>
      exact hquiet (congrArg Core.managers hcore) (congrArg (·.known.map Prod.fst) hcore)
  | nothing a hcore
  | begins label caller callback hcore
  | comes name' hcore
  | goes name' hcore
  | hears j d which due timely answer hd hstage hcore =>
    exact hquiet (congrArg Core.managers hcore) (congrArg (·.known.map Prod.fst) hcore)

/-- A lookup of a name in the registry, with the proxy that it gives. -/
inductive LooksUp (c : Client) (name : ServiceName) : Action → Nat → Prop where
  /-- Somebody asks for it. -/
  | gets (setting : CacheSetting) :
      LooksUp c name (.getManager name setting) (c.getManager name setting).2
  /-- A discovery that had not found it finds it. -/
  | finds (j : Nat) (d d' : Discovery) (id : Nat) (hd : c.discoveries[j]? = some d)
      (hnew : d.found.get? name = none) (hd' : (c.act (.discovery j)).discoveries[j]? = some d')
      (hfound : d'.found.get? name = some id) : LooksUp c name (.discovery j) id

/-- What a discovery finds by itself is what the registry gives. -/
theorem OwnStep.finds_getManager {j : Nat} {d d' : Discovery} (h : OwnStep c j d c')
    (hd : c.discoveries[j]? = some d) (hnew : d.found.get? name = none)
    (hd' : c'.discoveries[j]? = some d') (hfound : d'.found.get? name = some id) :
    id = (c.getManager name .search).2 ∧
      c'.core.managers = (c.getManager name .search).1.core.managers ∧
      c'.core.known = (c.getManager name .search).1.core.known := by
  have hlt := (List.getElem?_eq_some_iff.mp hd).1
  -- all but one of the steps find nothing
  have hsame : ∀ {d₁ : Discovery}, c'.core.discoveries = c.discoveries.set j d₁ →
      d₁.found = d.found → False := by
    intro d₁ hset hkept
    have hthere : c'.core.discoveries[j]? = some d' := hd'
    rw [hset, List.getElem?_set_self hlt] at hthere
    cases hthere
    rw [hkept, hnew] at hfound
    cases hfound
  cases h with
  | finds which busName rest name' hstage hname hfresh hcore =>
    have hset := congrArg Core.discoveries hcore
    rw [Core.withDiscovery] at hset
    dsimp only at hset
    rw [(gives_getManager c name' .search).view.1] at hset
    have hthere : c'.core.discoveries[j]? = some d' := hd'
    rw [hset, List.getElem?_set_self hlt] at hthere
    cases hthere
    dsimp only at hfound
    by_cases hsought : name = name'
    · subst hsought
      rw [OrderedMap.get?_insert_self] at hfound
      have hmanagers := congrArg Core.managers hcore
      have hknown := congrArg Core.known hcore
      exact ⟨(Option.some.inj hfound).symm, hmanagers, hknown⟩
    · rw [OrderedMap.get?_insert_of_ne _ hsought, hnew] at hfound
      cases hfound
  | asks which due timely hstage hcore
  | passes which busName rest hstage hold hcore
  | counts hstage hcore
  | questions proxy rest countdown hstage hcore
  | waits countdown hstage hcore
  | concludes hanswered hcore => exact (hsame (congrArg Core.discoveries hcore) rfl).elim

/-- **A lookup gives what the registry gives**, and does no more to it. -/
theorem LooksUp.getManager {a : Action} (h : LooksUp c name a id) :
    ∃ setting, id = (c.getManager name setting).2 ∧
      (c.act a).core.managers = (c.getManager name setting).1.core.managers ∧
      (c.act a).core.known = (c.getManager name setting).1.core.known := by
  cases h with
  | gets setting => exact ⟨setting, rfl, rfl, rfl⟩
  | finds j d d' id hd hnew hd' hfound =>
    refine ⟨.search, ?_⟩
    have hstep : (c.act (.discovery j)) = (c.ownStep? j).getD c := rfl
    rcases hown : c.ownStep? j with _ | c'
    · rw [hstep, hown, Option.getD_none, hd] at hd'
      cases hd'
      rw [hnew] at hfound
      cases hfound
    · obtain ⟨d₁, hd₁, hown'⟩ := ownStep_of_eq_some hown
      rw [hstep, hown, Option.getD_some] at hd' ⊢
      cases hd.symm.trans hd₁
      exact hown'.finds_getManager hd hnew hd' hfound

/-- The proxy that a lookup gives is held then. -/
theorem LooksUp.holds {a : Action} (h : LooksUp c name a id) : Holds (c.act a) name id := by
  obtain ⟨setting, rfl, hmanagers, hknown⟩ := h.getManager
  exact (gives_getManager c name setting).holds.of_core hmanagers hknown

/-- A lookup gives the proxy that is held. -/
theorem Holds.looksUp {a : Action} {id' : Nat} (h : Holds c name id) (hlooks : LooksUp c name a id') :
    id' = id := by
  obtain ⟨setting, rfl, _⟩ := hlooks.getManager
  rw [h.getManager]

/-! ## Stretches of a run in which a name is not disturbed -/

/-- Whether an action evicts a name, or stops the proxy that is held for it. -/
def disturbs (c : Client) (name : ServiceName) (a : Action) : Bool :=
  (match a with
    | .evict name' => name' = name
    | _ => false) ||
  (c.managers.get? name).any fun id => !c.isDisposed id && (c.act a).isDisposed id

/-- Whether none of the actions disturbs a name. -/
def isUndisturbed (name : ServiceName) (c : Client) : List Action → Bool
  | [] => true
  | a :: rest => !c.disturbs name a && isUndisturbed name (c.act a) rest

/-- The first action does not disturb the name, and the others do not. -/
theorem of_isUndisturbed_cons {a : Action} {rest : List Action}
    (h : isUndisturbed name c (a :: rest) = true) :
    c.disturbs name a = false ∧ isUndisturbed name (c.act a) rest = true := by
  rw [isUndisturbed, Bool.and_eq_true, Bool.not_eq_true'] at h
  exact h

/-- Evicting a name disturbs it. -/
theorem ne_evict_of_not_disturbs {a : Action} (h : c.disturbs name a = false) :
    a ≠ .evict name := by
  rintro rfl
  simp [disturbs] at h

/-- A proxy that is held for a name stays so, unless the name is disturbed. No other one is made. -/
theorem Holds.act (h : Holds c name id) {a : Action} (ha : c.disturbs name a = false) :
    Holds (c.act a) name id ∧ (c.act a).made name = c.made name := by
  have hlive : (c.act a).isDisposed id = false := by
    have hstays := (Bool.or_eq_false_iff.mp ha).2
    simpa [h.kept, h.live] using hstays
  cases treats_act c (ne_evict_of_not_disturbs ha) with
  | leaves hmanagers hmade => exact ⟨⟨hmanagers.trans h.kept, hlive⟩, hmade⟩
  | makes id' hnone hholds hmade => exact absurd h (hnone id)

/-- **A proxy that is held for a name stays so** as long as the name is not disturbed: every lookup gives
this proxy, and no other one is made. -/
theorem Holds.run (h : Holds c name id) {between : List Action}
    (hbetween : isUndisturbed name c between = true) :
    Holds (c.run between) name id ∧ (c.run between).made name = c.made name ∧
      ∀ earlier a later id', between = earlier ++ a :: later →
        LooksUp (c.run earlier) name a id' → id' = id := by
  induction between generalizing c with
  | nil =>
    refine ⟨h, rfl, fun earlier a later id' hsplit => ?_⟩
    cases earlier <;> cases hsplit
  | cons a rest ih =>
    obtain ⟨ha, hrest⟩ := of_isUndisturbed_cons hbetween
    obtain ⟨hholds, hmade⟩ := h.act ha
    obtain ⟨hlast, hmade', hlooks⟩ := ih hholds hrest
    refine ⟨hlast, hmade'.trans hmade, fun earlier b later id' hsplit hb => ?_⟩
    cases earlier with
    | nil =>
      cases hsplit
      exact h.looksUp hb
    | cons a' earlier =>
      cases hsplit
      exact hlooks earlier b later id' rfl hb

/-- **As long as a name is not disturbed, there is one proxy for it**: every lookup gives the same one,
which is held from then on, and at most one is made. -/
theorem one_proxy_of_undisturbed {between : List Action}
    (hbetween : isUndisturbed name c between = true) :
    (c.run between).made name ≤ c.made name + 1 ∧
      ∃ proxy, ∀ earlier a later id, between = earlier ++ a :: later →
        LooksUp (c.run earlier) name a id → id = proxy ∧ Holds (c.run between) name proxy := by
  induction between generalizing c with
  | nil =>
    refine ⟨Nat.le_succ _, 0, fun earlier a later id' hsplit => ?_⟩
    cases earlier <;> cases hsplit
  | cons a rest ih =>
    by_cases hheld : ∃ id, Holds c name id
    · obtain ⟨proxy, hproxy⟩ := hheld
      obtain ⟨hlast, hmade, hlooks⟩ := hproxy.run hbetween
      refine ⟨hmade ▸ Nat.le_succ _, proxy, fun earlier b later id hsplit hb => ?_⟩
      exact ⟨hlooks earlier b later id hsplit hb, hlast⟩
    · obtain ⟨ha, hrest⟩ := of_isUndisturbed_cons hbetween
      have htreats := treats_act c (ne_evict_of_not_disturbs ha)
      by_cases hmade : ∃ id, Holds (c.act a) name id
      · -- the one that this action made is held from now on
        obtain ⟨proxy, hproxy⟩ := hmade
        obtain ⟨hlast, hcount, hlooks⟩ := hproxy.run hrest
        refine ⟨?_, proxy, fun earlier b later id hsplit hb => ⟨?_, hlast⟩⟩
        · show ((c.act a).run rest).made name ≤ _
          rw [hcount]
          cases htreats with
          | leaves hmanagers hmade => omega
          | makes id' hnone hholds hmade => omega
        · cases earlier with
          | nil =>
            cases hsplit
            exact hproxy.unique hb.holds
          | cons a' earlier =>
            cases hsplit
            exact hlooks earlier b later id rfl hb
      · -- nobody has looked the name up yet
        obtain ⟨hcount, proxy, hlooks⟩ := ih hrest
        refine ⟨?_, proxy, fun earlier b later id hsplit hb => ?_⟩
        · cases htreats with
          | leaves hmanagers hsame => exact hsame ▸ hcount
          | makes id' hnone hholds hsame => exact absurd ⟨id', hholds⟩ hmade
        · cases earlier with
          | nil =>
            cases hsplit
            exact absurd ⟨id, hb.holds⟩ hmade
          | cons a' earlier =>
            cases hsplit
            exact hlooks earlier b later id rfl hb

/-- **One proxy for each name**, in every run of a client, whatever discoveries, evictions and ends of
proxies overlap in it. The registry keeps proxies under their own names. From one eviction of a name or
end of the proxy held for it to the next one, everyone who looks the name up gets the same proxy,
whatever cache file they ask for and however often the lists name it, and at most one proxy is made for
the name. -/
theorem one_proxy_each_run (setup : Setup) (tree : FileTree) (before between : List Action)
    (name : ServiceName)
    (hbetween : isUndisturbed name ((start setup tree).run before) between = true) :
    let c := (start setup tree).run before
    (∀ name' id, c.managers.get? name' = some id → ∃ p, c.proxy? id = some p ∧ p.name = name') ∧
    (∃ proxy, ∀ earlier a later id, between = earlier ++ a :: later →
      LooksUp (c.run earlier) name a id → id = proxy ∧ Holds (c.run between) name proxy) ∧
    (c.run between).made name ≤ c.made name + 1 := by
  intro c
  obtain ⟨hmade, hlooks⟩ := one_proxy_of_undisturbed hbetween
  refine ⟨fun name' id hkept => ?_, hlooks, hmade⟩
  obtain ⟨m, hm⟩ := kept_run setup tree before name' id hkept
  obtain ⟨p, hp, hpair⟩ := Option.map_eq_some_iff.mp hm
  exact ⟨p, hp, congrArg Prod.fst hpair⟩

/-- The proxy of a name has stopped. Then two discoveries overlap that both have the name in their
lists, one of them twice, and somebody asks for the name with another cache file in between. All of them
get the one new proxy. -/
theorem one_proxy_each_run_overlapping :
    let gabble : ServiceName := ⟨"gabble", by decide⟩
    let busName : String := "org.freedesktop.Telepathy.ConnectionManager.gabble"
    let before : List Action := [.getManager gabble .search,
      .around (fun c => c.hold "first" 0) (fun _ => rfl), .tell "first" .dispose rfl,
      .proxy 0 (.command none) (by simp)]
    let between : List Action := [.search "a" none false, .search "b" none false, .discovery 0,
      .discovery 1, .list 0 (.ok [busName, busName]), .list 1 (.ok [busName]), .discovery 0,
      .getManager gabble .disabled, .discovery 1, .discovery 0]
    let c := (start {} ⟨.dir [], []⟩).run before
    isUndisturbed gabble c between = true ∧ c.made gabble = 1 ∧
      (c.run between).made gabble ≤ 2 ∧
      ((c.run between).discoveries.map fun d => d.found.toList) = [[(gabble, 1)], [(gabble, 1)]] ∧
      ((c.run (between.take 7)).getManager gabble .disabled).2 = 1 := by
  intro gabble busName before between c
  have hundisturbed : isUndisturbed gabble c between = true := by decide +kernel
  have hmade : c.made gabble = 1 := by decide +kernel
  obtain ⟨_, ⟨proxy, hlooks⟩, hcount⟩ :=
    one_proxy_each_run {} ⟨.dir [], []⟩ before between gabble hundisturbed
  rw [hmade] at hcount
  refine ⟨hundisturbed, hmade, hcount, by decide +kernel, ?_⟩
  obtain ⟨hgets, hholds⟩ :=
    hlooks (between.take 7) (.getManager gabble .disabled) (between.drop 8) _ rfl (.gets .disabled)
  have hkept : (c.run between).managers.get? gabble = some 1 := by decide +kernel
  rw [hgets]
  exact Option.some.inj (hholds.kept.symm.trans hkept)

end Roster.Client
