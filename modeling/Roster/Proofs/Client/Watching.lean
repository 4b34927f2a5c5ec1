import Roster.Proofs.Client.Disposal
import Roster.Proofs.Client.Following
import Roster.Proofs.Client.Moving
import Roster.Proofs.Client.Reaching

/-!
# No watch is left behind

A proxy begins a watch when it is made and leaves it when it ends. So the watches that proxies have on
the bus are one for each proxy that has not stopped, on its manager's name, and no others.

* `Leased` is what holds between the bus and the proxies' watches: each of them is still known to the
  bus under its number and on its name, and if its proxy has stopped it is not told anything any more.
  That it is told as long as the proxy goes on is part of `Linked`.
* `Moves.leased`: whatever happens to a client and its bus keeps that up.
* `Serves` is what happens when people work with a client on its bus, `watches_of_proxies_run` what
  follows for every run of that, also when the client has settled and when its clock has run
  (`perm_proxyWatches_settle`, `perm_proxyWatches_advance`).
-/

namespace Roster.Client

open Bus (Ages Use)
open Manager (Occurrence)

/-- What holds between a bus and the watches of the proxies on it. -/
structure Leased (l : Links) : Prop where
  /-- The watches of the bus have the numbers in which they began. -/
  counted : l.bus.Counted
  /-- The watch of every proxy is on its name, and not told anything if the proxy has stopped. -/
  leased : ∀ (m : Manager) (n : Nat), (m, some n) ∈ l.proxies → ∃ w, l.bus.watch? n = some w ∧
    w.busName = m.busName ∧ (m.disposed = true → w.registered = false)

variable {l : Links} {c c' : Client}

/-- On a new bus there are no watches. -/
theorem leased_start (setup : Setup) (tree : FileTree) : Leased (start setup tree).links where
  counted := rfl
  leased := fun m n hn => by cases hn

/-- Whatever is done with the bus, no watch of a proxy that has stopped comes back. -/
theorem Leased.use (h : Leased l) (use : Use) : Leased { l with bus := use.apply l.bus } where
  counted := h.counted.use use
  leased := by
    intro m n hn
    obtain ⟨w, hw, hname, hleft⟩ := h.leased m n hn
    obtain ⟨w', hw', hages⟩ := Bus.watch?_use hw use
    exact ⟨w', hw', hages.name.trans hname, fun hd => hages.left (hleft hd)⟩

/-- Where a watch ages, no watch of a proxy that has stopped comes back. -/
theorem Leased.modifyWatch (h : Leased l) (n : Nat) {f : Watch → Watch} (hf : ∀ w, Ages w (f w)) :
    Leased { l with bus := l.bus.modifyWatch n f } where
  counted := h.counted.map (Bus.ages_ite hf) rfl
  leased := by
    intro m k hk
    obtain ⟨w, hw, hname, hleft⟩ := h.leased m k hk
    have hages : Ages w (if w.id = n then f w else w) := Bus.ages_ite hf w
    refine ⟨_, ?_, hages.name.trans hname, fun hd => hages.left (hleft hd)⟩
    rw [Bus.modifyWatch, Bus.watch?_map _ (fun w => (Bus.ages_ite hf w).id), hw, Option.map_some]

/-- A proxy does a step, and has left its watch if it has stopped then. -/
theorem Leased.stepped (h : Leased l) {id : Nat} {m : Manager} {k : Option Nat}
    (hm : l.proxies[id]? = some (m, k)) (o : Occurrence)
    (hleft : ∀ n w, k = some n → l.bus.watch? n = some w → (m.step o).disposed = true →
      w.registered = false) :
    Leased { l with proxies := l.proxies.modify id fun x => (x.1.step o, x.2) } where
  counted := h.counted
  leased := by
    intro m' n hn
    obtain ⟨i, hi⟩ := List.mem_iff_getElem?.mp hn
    rw [List.getElem?_modify] at hi
    by_cases hid : id = i
    · rw [← hid, hm] at hi
      simp only [Option.map_eq_map, Option.map_some, if_pos, Option.some.injEq] at hi
      cases hi
      obtain ⟨w, hw, hname, _⟩ := h.leased m n (List.mem_of_getElem? hm)
      exact ⟨w, hw, hname.trans (Manager.busName_step m o).symm, hleft n w rfl hw⟩
    · have hold : l.proxies[i]? = some (m', some n) := by simpa [hid] using hi
      exact h.leased m' n (List.mem_of_getElem? hold)

/-- **A proxy that ends leaves its watch**, as long as it was still watching. -/
theorem Leased.happen (h : Leased c.links) {id : Nat} {p : Proxy} (hp : c.proxy? id = some p)
    (hwatching : p.watch.number?.isSome → p.manager.disposed = false → p.manager.watching = true)
    (o : Occurrence) : Leased (c.happen id o).links := by
  have hm := links_of_proxy? c hp
  rw [links_happen c hp]
  by_cases hstop : (p.manager.step o).disposed ∧ p.manager.disposed = false
  · rw [if_pos hstop]
    rcases hnumber : p.watch.number? with _ | n
    · rw [hnumber] at hm
      exact h.stepped hm o fun n w hn => by cases hn
    · rw [hnumber] at hm hwatching
      have hended := h.modifyWatch n (f := fun w =>
        { w with held := false, registered := w.registered && !p.manager.watching })
        fun w => ⟨rfl, rfl, fun hleft => by rw [hleft]; rfl⟩
      refine hended.stepped hm o fun n' w hn hw _ => ?_
      cases hn
      -- the watch is the one that was just taken off the bus
      obtain ⟨v, hv, _⟩ := h.leased p.manager n (List.mem_of_getElem? hm)
      have hself := Bus.watch?_modifyWatch_self hv (f := fun w =>
        { w with held := false, registered := w.registered && !p.manager.watching })
        fun w hid => hid
      cases hw.symm.trans hself
      show (v.registered && !p.manager.watching) = false
      rw [hwatching rfl hstop.2, Bool.not_true, Bool.and_false]
  · rw [if_neg hstop]
    refine h.stepped hm o fun n w hn hw hd => ?_
    have hended : p.manager.disposed = true := 
      Bool.of_not_eq_false fun hlive => hstop ⟨hd, hlive⟩
    rw [hn] at hm
    obtain ⟨v, hv, _, hleft⟩ := h.leased p.manager n (List.mem_of_getElem? hm)
    cases hw.symm.trans hv
    exact hleft hended

/-- A proxy that there is not does nothing, and one that there is has its watch. -/
theorem Leased.reacts (h : Leased c.links) (hlinked : Linked c.links) (id : Nat) (o : Occurrence) :
    Leased (c.happen id o).links := by
  rcases hp : c.proxy? id with _ | p
  · rw [happen_of_none c hp]
    exact h
  · refine h.happen hp (fun hnumber hlive => ?_) o
    obtain ⟨n, hn⟩ := Option.isSome_iff_exists.mp hnumber
    have hm := links_of_proxy? c hp
    rw [hn] at hm
    exact (hlinked.follows p.manager n (List.mem_of_getElem? hm) hlive).1

/-- A proxy that is made has its watch. -/
theorem Leased.spawn (h : Leased c.links) (hlinked : Linked c.links) (name : ServiceName)
    (setting : CacheSetting) : Leased (c.spawn name setting).1.links := by
  obtain ⟨path, hlinks⟩ := links_spawn c name setting
  rw [hlinks]
  dsimp only
  split
  · refine ⟨h.counted.use (.watch _), fun m n hn => ?_⟩
    rcases List.mem_append.mp hn with hold | hnew
    · exact (h.use (.watch _)).leased m n hold
    · cases List.mem_singleton.mp hnew
      exact ⟨_, Bus.watch?_watch_self hlinked.orderly _, rfl, fun hd => by cases hd⟩
  · refine ⟨h.counted, fun m n hn => ?_⟩
    rcases List.mem_append.mp hn with hold | hnew
    · exact h.leased m n hold
    · cases List.mem_singleton.mp hnew

/-- A command that is sent to a proxy stops nothing. -/
theorem Leased.send (h : Leased c.links) (id : Nat) (command : Command) :
    Leased (c.send id command).links := by
  rw [links_send]
  refine ⟨h.counted, fun m n hn => ?_⟩
  obtain ⟨i, hi⟩ := List.mem_iff_getElem?.mp hn
  rw [List.getElem?_modify] at hi
  obtain ⟨⟨m', k⟩, hold, hnew⟩ := Option.map_eq_some_iff.mp hi
  have hm' := List.mem_of_getElem? hold
  by_cases hid : id = i
  · rw [if_pos hid] at hnew
    cases hnew
    obtain ⟨w, hw, hname, hleft⟩ := h.leased m' n hm'
    have hsent : (m'.react (.sent command)).busName = m'.busName ∧
        (m'.react (.sent command)).disposed = m'.disposed := by
      unfold Manager.react Manager.send
      dsimp only
      split
      · cases command <;> exact ⟨rfl, rfl⟩
      · exact ⟨rfl, rfl⟩
    exact ⟨w, hw, hname.trans hsent.1.symm, fun hd => hleft (hsent.2.symm.trans hd)⟩
  · rw [if_neg hid] at hnew
    cases hnew
    exact h.leased m n hm'

/-- A proxy that takes a report takes it from its watch, which stays on the bus. -/
theorem Leased.taken (h : Leased c.links) {id : Nat} {p : Proxy} (hp : c.proxy? id = some p)
    {w rest : Watch} {report : Option String} (hw : c.watchOf p = some w)
    (htake : w.take? = some (report, rest)) : Leased (c.modifyWatch id fun _ => rest).links := by
  have hrest : rest = { w with taken := w.taken + 1 } := by
    unfold Watch.take? at htake
    split at htake <;> cases htake
    rfl
  rw [links_modifyWatch c hp]
  rcases hwatch : p.watch with n | v
  · rw [watchOf, hwatch] at hw
    dsimp only [ProxyWatch.number?]
    have hsame : c.bus.modifyWatch n (fun _ => rest) =
        c.bus.modifyWatch n fun w => { w with taken := w.taken + 1 } := by
      refine modifyWatch_congr c.bus fun v hv hid => ?_
      have hfound : c.bus.watch? v.id = some v := h.counted.watch?_of_mem hv
      rw [hid] at hfound
      cases hw.symm.trans hfound
      exact hrest
    rw [hsame]
    exact h.modifyWatch n fun w => ⟨rfl, rfl, fun hleft => hleft⟩
  · exact h

/-- **Whatever happens to a client and its bus**, a proxy that has stopped has left its watch. -/
theorem Moves.leased (hmoves : Moves c c') (hlinked : Linked c.links) (h : Leased c.links) :
    Leased c'.links := by
  cases hmoves with
  | uses use hothers =>
    rw [links_onBus]
    exact h.use use
  | makes name setting => exact h.spawn hlinked name setting
  | sends id command => exact h.send id command
  | hears hp hlive hstep =>
    obtain ⟨w, hw, hwatching, hfound⟩ := watchStep?_cases hstep
    rcases hfound with ⟨report, rest, htake, rfl⟩ | ⟨_, rfl⟩
    · obtain ⟨p', hp', hmanager, _⟩ := proxy?_modifyWatch c hp fun _ => rest
      refine (h.taken hp hw htake).happen hp' (fun _ _ => ?_) _
      rw [hmanager]
      exact hwatching
    · exact h.happen hp (fun _ _ => hwatching) _
  | calls id p number =>
    obtain ⟨c₁, hlinks, hsent⟩ := links_sendCall c id p number
    have hcall : Linked c₁.links ∧ Leased c₁.links := by
      rw [hlinks]
      exact ⟨hlinked.use (.call _) fun m n _ => by simp [Use.watch?], h.use (.call _)⟩
    rcases hsent with hsent | ⟨value, hsent⟩
    · rw [hsent]
      exact hcall.2
    · rw [hsent]
      exact hcall.2.reacts hcall.1 id _
  | reacts id o howner hclosed => exact h.reacts hlinked id o
  | around hsame =>
    rw [hsame]
    exact h

/-- Whatever happens to a client and its bus one after another, the proxies follow it and leave their
watches when they stop. -/
theorem Travels.leased (htravels : Travels c c') (hlinked : Linked c.links) (h : Leased c.links) :
    Linked c'.links ∧ Leased c'.links := by
  induction htravels with
  | refl => exact ⟨hlinked, h⟩
  | tail _ hstep ih => exact ⟨hstep.1.linked ih.1, hstep.1.leased ih.1 ih.2⟩

/-! ## Which proxies have watches -/

/-- The number of the watch of each proxy. -/
def numbers (c : Client) : List (Option Nat) := c.links.proxies.map Prod.snd

/-- A change of a proxy's state keeps the numbers of the watches. -/
theorem map_snd_modify (proxies : List (Manager × Option Nat)) (id : Nat) (g : Manager → Manager) :
    (proxies.modify id fun x => (g x.1, x.2)).map Prod.snd = proxies.map Prod.snd := by
  have hmap := map_modify Prod.snd (f := fun x => (g x.1, x.2)) (h := fun k => k) (fun _ => rfl)
    proxies id
  exact hmap.trans (List.modify_id id _)

/-- A proxy that reacts to something keeps its watch. -/
theorem numbers_happen (c : Client) (id : Nat) (o : Occurrence) :
    (c.happen id o).numbers = c.numbers := by
  rcases hp : c.proxy? id with _ | p
  · rw [happen_of_none c hp]
  · unfold numbers
    rw [links_happen c hp]
    exact map_snd_modify c.links.proxies id (·.step o)

/-- Only a new proxy has a new watch. It is one of the bus, if watches get their reports from there. -/
theorem Moves.numbers (hmoves : Moves c c') (hmode : c.setup.watchMode = .bus) :
    c'.numbers = c.numbers ∨ ∃ n, c'.numbers = c.numbers ++ [some n] := by
  cases hmoves with
  | uses use hothers =>
    left
    unfold Client.numbers
    rw [links_onBus]
  | makes name setting =>
    right
    obtain ⟨path, hlinks⟩ := links_spawn c name setting
    refine ⟨(c.bus.watch (c.setup.config.busName name)).2, ?_⟩
    unfold Client.numbers
    rw [hlinks, hmode]
    exact List.map_append
  | sends id command =>
    left
    unfold Client.numbers
    rw [links_send]
    exact map_snd_modify c.links.proxies id (·.react (.sent command))
  | hears hp hlive hstep =>
    left
    obtain ⟨w, _, _, hfound⟩ := watchStep?_cases hstep
    rcases hfound with ⟨report, rest, _, rfl⟩ | ⟨_, rfl⟩
    · rw [numbers_happen]
      unfold Client.numbers
      rw [links_modifyWatch c hp]
    · exact numbers_happen c _ _
  | calls id p number =>
    left
    obtain ⟨c₁, hlinks, hsent⟩ := links_sendCall c id p number
    have hcalled : c₁.numbers = c.numbers := by
      unfold Client.numbers
      rw [hlinks]
    rcases hsent with hsent | ⟨value, hsent⟩
    · rw [hsent]
      exact hcalled
    · rw [hsent]
      exact (numbers_happen c₁ id _).trans hcalled
  | reacts id o howner hclosed => exact .inl (numbers_happen c id o)
  | around hsame =>
    left
    unfold Client.numbers
    rw [hsame]

/-- Where watches get their reports from the bus, every proxy has its watch there. -/
theorem Travels.numbered (htravels : Travels c c') (hmode : c.setup.watchMode = .bus)
    (h : ∀ k ∈ c.numbers, k.isSome) :
    c'.setup = c.setup ∧ ∀ k ∈ c'.numbers, k.isSome := by
  induction htravels with
  | refl => exact ⟨rfl, h⟩
  | tail _ hstep ih =>
    obtain ⟨hmoves, hsame⟩ := hstep
    refine ⟨hsame.trans ih.1, fun k hk => ?_⟩
    rcases hmoves.numbers (by rw [ih.1]; exact hmode) with hnumbers | ⟨n, hnumbers⟩
    · rw [hnumbers] at hk
      exact ih.2 k hk
    · rw [hnumbers] at hk
      rcases List.mem_append.mp hk with hold | hnew
      · exact ih.2 k hold
      · rw [List.mem_singleton.mp hnew]
        rfl

/-! ## Work with a client -/

/-- One thing that happens where people work with a client on its bus. Nobody but the proxies takes
anything from their watches. -/
inductive Serves (c : Client) : Client → Prop where
  /-- Anyone uses the bus. -/
  | uses (use : Use)
      (hothers : ∀ p ∈ c.proxies, ∀ n, p.watch.number? = some n →
        use ≠ .cancelWatch p.manager.busName n ∧ use ≠ .dropWatch n ∧ use ≠ .drainWatch n) :
      Serves c (c.onBus use.apply)
  /-- Somebody asks the registry for the proxy of a manager. -/
  | gets (name : ServiceName) (setting : CacheSetting) : Serves c (c.getManager name setting).1
  /-- Somebody makes the registry stop keeping a name. -/
  | evicts (name : ServiceName) : Serves c (c.evict name)
  /-- Somebody tells a proxy something, through a handle: to stop, for example. -/
  | tells (handle : String) (command : Command) (silent : command.waiter? = none) :
      Serves c (c.tell handle command)
  /-- Somebody asks a proxy something, through a handle. -/
  | asks (handle label : String) (kind : RequestKind) : Serves c (c.request handle label kind).1
  /-- Somebody begins a discovery. -/
  | searches (label : String) (caller : Option String) (callback : Bool) :
      Serves c (c.search label caller callback)
  /-- A caller of discoveries comes. -/
  | comes (name : String) : Serves c (c.addCaller name)
  /-- A caller of discoveries vanishes. -/
  | goes (name : String) : Serves c (c.dropCaller name)
  /-- A proxy, a discovery or one of its questions does the next thing that it can do. -/
  | works {task : ClientTask} {c' : Client} (h : c.taskStep? task = some c') : Serves c c'
  /-- Something else changes: handles are taken or dropped, a cache read ends, time goes by. -/
  | around {c' : Client} (hlinks : c'.links = c.links) (hcore : c'.core = c.core) : Serves c c'

/-- Whatever a client does by itself is of this kind. -/
theorem work_serves : Work (Relation.ReflTransGen Serves) where
  refl := fun _ => .refl
  trans := .trans
  steps := fun h => .single (.works h)
  queues := fun _ _ => .single (.around rfl rfl)
  reads := fun c id _ => .single (.around (links_modifyProxy_of_same c id fun _ => rfl)
    (core_modifyProxy_of_same c id fun _ => rfl))
  waits := fun _ _ => .single (.around rfl rfl)
  holds := fun _ _ => .single (.around rfl rfl)

/-- Work with a client is a run of it. -/
theorem Serves.reaches (h : Serves c c') : Reaches c c' := by
  cases h with
  | uses use hothers => exact reaches_onBus c use.apply
  | gets name setting => exact reaches_act c (.getManager name setting)
  | evicts name => exact reaches_act c (.evict name)
  | tells handle command silent => exact reaches_act c (.tell handle command silent)
  | asks handle label kind => exact reaches_act c (.request handle label kind)
  | searches label caller callback => exact reaches_act c (.search label caller callback)
  | comes name => exact reaches_act c (.addCaller name)
  | goes name => exact reaches_act c (.dropCaller name)
  | works h => exact reaches_taskStep? h
  | around hlinks hcore => exact .of_core hcore

/-- A watch is only cancelled by whoever knows its name. -/
theorem cancelWatch_of_ne {bus : Bus} (h : bus.Counted) {n : Nat} {w : Watch}
    (hw : bus.watch? n = some w) {busName : String} (hname : w.busName ≠ busName) :
    bus.cancelWatch busName n = bus := by
  have hsame : bus.cancelWatch busName n = bus.modifyWatch n fun w => w := by
    refine modifyWatch_congr bus fun v hv hid => ?_
    have hfound := h.watch?_of_mem hv
    rw [hid] at hfound
    cases hw.symm.trans hfound
    exact if_neg hname
  rw [hsame]
  unfold Bus.modifyWatch
  simp only [ite_self, List.map_id_fun', id_eq]

/-- **Work with a client is done by moves.** -/
theorem Serves.travels (hserves : Serves c c') (h : Leased c.links) : Travels c c' := by
  have hsetup := hserves.reaches.setup
  cases hserves with
  | uses use hothers =>
    by_cases htakes : ∃ p ∈ c.proxies, ∃ n, p.watch.number? = some n ∧ use.watch? = some n
    · -- it can only be that somebody wants to cancel the watch under another name
      obtain ⟨p, hp, n, hnumber, htakes⟩ := htakes
      obtain ⟨hcancel, hdrop, hdrain⟩ := hothers p hp n hnumber
      have hm : (p.manager, some n) ∈ c.links.proxies :=
        List.mem_map.mpr ⟨p, hp, by rw [hnumber]⟩
      obtain ⟨w, hw, hname, _⟩ := h.leased p.manager n hm
      have hnothing : use.apply c.bus = c.bus := by
        cases use with
        | cancelWatch busName k =>
          cases htakes
          refine cancelWatch_of_ne h.counted hw fun heq => hcancel ?_
          rw [← heq, hname]
        | dropWatch k =>
          cases htakes
          exact absurd rfl hdrop
        | drainWatch k =>
          cases htakes
          exact absurd rfl hdrain
        | _ => cases htakes
      refine .around ?_ hsetup
      rw [links_onBus, hnothing]
      rfl
    · exact .single ⟨.uses use fun p hp n hn heq => htakes ⟨p, hp, n, hn, heq⟩, hsetup⟩
  | gets name setting => exact travels_getManager c name setting
  | evicts name => exact .around rfl hsetup
  | tells handle command silent =>
    unfold tell
    split
    · exact travels_send c _ command
    · exact .refl
  | asks handle label kind =>
    unfold request
    split
    · exact .refl
    · rename_i id _
      have hasked : Travels c c.freshWaiter.1 := .around rfl rfl
      have hsent := hasked.trans (travels_send c.freshWaiter.1 id (kind.command c.waiters))
      dsimp only
      split
      · exact hsent
      · exact hsent.trans (.around rfl rfl)
  | searches label caller callback => exact .around (links_wake _ _) hsetup
  | comes name => exact .around rfl hsetup
  | goes name => exact .around rfl hsetup
  | works h => exact travels_taskStep? h
  | around hlinks hcore => exact .around hlinks hsetup

/-! ## Runs -/

section run

variable {setup : Setup} {tree : FileTree}

/-- All work with a client is a run of it, and done by moves. -/
theorem reaches_and_travels (hrun : Relation.ReflTransGen Serves (start setup tree) c) :
    Reaches (start setup tree) c ∧ Travels (start setup tree) c := by
  induction hrun with
  | refl => exact ⟨.refl _, .refl⟩
  | tail _ hserves ih =>
    obtain ⟨hreaches, htravels⟩ := ih
    have hleased := htravels.leased (linked_start setup tree) (leased_start setup tree)
    exact ⟨hreaches.trans hserves.reaches, htravels.trans (hserves.travels hleased.2)⟩

/-- The watches that proxies began and that the bus still tells of changes. -/
def proxyWatches (c : Client) : List Watch :=
  c.bus.watches.filter fun w => w.registered && c.proxies.any fun p => p.watch = .onBus w.id

/-- The proxies that have not stopped. -/
def liveProxies (c : Client) : List Proxy := c.proxies.filter fun p => !p.manager.disposed

/-- **Every proxy has its watch as long as it goes on**, on its manager's name, and no longer. -/
theorem watch_of_proxy (hmode : setup.watchMode = .bus)
    (hrun : Relation.ReflTransGen Serves (start setup tree) c) {p : Proxy} (hp : p ∈ c.proxies) :
    ∃ w ∈ c.bus.watches, p.watch = .onBus w.id ∧ w.busName = setup.config.busName p.name ∧
      w.registered = !p.manager.disposed := by
  obtain ⟨⟨actions, hactions⟩, htravels⟩ := reaches_and_travels hrun
  obtain ⟨hlinked, hleased⟩ := htravels.leased (linked_start setup tree) (leased_start setup tree)
  obtain ⟨hsetup, hnumbered⟩ := htravels.numbered hmode fun k hk => by cases hk
  have hm : (p.manager, p.watch.number?) ∈ c.links.proxies := List.mem_map_of_mem hp
  obtain ⟨n, hn⟩ : ∃ n, p.watch = .onBus n := by
    have hsome := hnumbered p.watch.number? (List.mem_map_of_mem hm)
    rcases hwatch : p.watch with n | w
    · exact ⟨n, rfl⟩
    · rw [hwatch] at hsome
      cases hsome
  rw [hn] at hm
  obtain ⟨w, hw, hname, hleft⟩ := hleased.leased p.manager n hm
  have hid := Bus.id_of_watch? hw
  refine ⟨w, List.mem_of_find?_eq_some hw, by rw [hn, hid], ?_, ?_⟩
  · -- the name is the one that the proxy was made with
    obtain ⟨i, hi⟩ := List.mem_iff_getElem?.mp hp
    have hknown := known?_of_proxy? c hi
    rw [hactions] at hknown
    obtain ⟨occurrences, ⟨path, hlived⟩, _⟩ := lived_run setup tree actions i p.name p.manager hknown
    rw [hname, hlived, Manager.busName_run, ← hactions, hsetup]
    rfl
  · rcases hd : p.manager.disposed with _ | _
    · obtain ⟨_, v, hv, hfollows⟩ := hlinked.follows p.manager n hm hd
      rw [Option.some.inj (hw.symm.trans hv)]
      exact hfollows.registered
    · exact hleft hd

/-- No two proxies have the same watch. -/
theorem nodup_watches (hmode : setup.watchMode = .bus)
    (hrun : Relation.ReflTransGen Serves (start setup tree) c) :
    (c.proxies.map Proxy.watch).Nodup := by
  obtain ⟨_, htravels⟩ := reaches_and_travels hrun
  have hlinked := (htravels.leased (linked_start setup tree) (leased_start setup tree)).1
  refine List.pairwise_iff_getElem.mpr fun i j hi hj hlt hsame => ?_
  rw [List.length_map] at hi hj
  rw [List.getElem_map, List.getElem_map] at hsame
  obtain ⟨w, _, hw, _⟩ := watch_of_proxy hmode hrun (List.getElem_mem hi)
  have hthere : ∀ {k : Nat} (hk : k < c.proxies.length), c.proxies[k].watch = .onBus w.id →
      c.links.proxies[k]? = some (c.proxies[k].manager, some w.id) := by
    intro k hk hwatch
    rw [links_of_proxy? c (List.getElem?_eq_getElem hk), hwatch]
    rfl
  have hij := hlinked.apart i j _ _ w.id (hthere hi hw) (hthere hj (hsame.symm.trans hw))
  omega

/-- The watches of the bus have different numbers. -/
theorem counted_run (hrun : Relation.ReflTransGen Serves (start setup tree) c) : c.bus.Counted :=
  ((reaches_and_travels hrun).2.leased (linked_start setup tree) (leased_start setup tree)).2.counted

/-- The proxies' watches on the bus are those of the proxies that have not stopped. -/
theorem mem_proxyWatches_iff (hmode : setup.watchMode = .bus)
    (hrun : Relation.ReflTransGen Serves (start setup tree) c) {w : Watch} (hw : w ∈ c.bus.watches) :
    w ∈ c.proxyWatches ↔ ∃ p ∈ c.liveProxies, p.watch = .onBus w.id := by
  have hown : ∀ p ∈ c.proxies, p.watch = .onBus w.id → w.registered = !p.manager.disposed := by
    intro p hp hwatch
    obtain ⟨v, hv, hwatch', _, hregistered⟩ := watch_of_proxy hmode hrun hp
    have hid : v.id = w.id := by simpa [hwatch] using hwatch'.symm
    rw [← List.inj_on_of_nodup_map (counted_run hrun).nodup hv hw hid]
    exact hregistered
  unfold proxyWatches liveProxies
  simp only [List.mem_filter, hw, true_and, Bool.and_eq_true, List.any_eq_true, decide_eq_true_eq]
  constructor
  · rintro ⟨hregistered, p, hp, hwatch⟩
    exact ⟨p, ⟨hp, (hown p hp hwatch).symm.trans hregistered⟩, hwatch⟩
  · rintro ⟨p, ⟨hp, hlive⟩, hwatch⟩
    exact ⟨(hown p hp hwatch).trans hlive, p, hp, hwatch⟩

/-- The watches that proxies began and that the bus still tells of changes are one for each proxy that
has not stopped, on its manager's name. -/
theorem perm_proxyWatches (hmode : setup.watchMode = .bus)
    (hrun : Relation.ReflTransGen Serves (start setup tree) c) :
    (c.proxyWatches.map fun w => (w.busName, ProxyWatch.onBus w.id)).Perm
      (c.liveProxies.map fun p => (setup.config.busName p.name, p.watch)) := by
  have hnodup := nodup_watches hmode hrun
  have hcounted := counted_run hrun
  refine (List.perm_ext_iff_of_nodup ?_ ?_).mpr fun x => ?_
  · refine List.Nodup.map_on ?_ (hcounted.nodup.of_map.filter _)
    intro w hw v hv hsame
    have hid : w.id = v.id := by simpa using congrArg Prod.snd hsame
    exact List.inj_on_of_nodup_map hcounted.nodup (List.mem_of_mem_filter hw)
      (List.mem_of_mem_filter hv) hid
  · refine List.Nodup.map_on ?_ (hnodup.of_map.filter _)
    intro p hp q hq hsame
    exact List.inj_on_of_nodup_map hnodup (List.mem_of_mem_filter hp) (List.mem_of_mem_filter hq)
      (congrArg Prod.snd hsame)
  · rw [List.mem_map, List.mem_map]
    constructor
    · rintro ⟨w, hw, rfl⟩
      have hmem : w ∈ c.bus.watches := List.mem_of_mem_filter hw
      obtain ⟨p, hp, hwatch⟩ := (mem_proxyWatches_iff hmode hrun hmem).mp hw
      obtain ⟨v, hv, hwatch', hname, _⟩ := watch_of_proxy hmode hrun (List.mem_of_mem_filter hp)
      have hid : v.id = w.id := by simpa [hwatch] using hwatch'.symm
      rw [List.inj_on_of_nodup_map hcounted.nodup hv hmem hid] at hname
      exact ⟨p, hp, by rw [hname, hwatch]⟩
    · rintro ⟨p, hp, rfl⟩
      obtain ⟨w, hw, hwatch, hname, _⟩ := watch_of_proxy hmode hrun (List.mem_of_mem_filter hp)
      exact ⟨w, (mem_proxyWatches_iff hmode hrun hw).mpr ⟨p, hp, hwatch⟩, by rw [hname, hwatch]⟩

/-- No watch is left behind when a client has settled. -/
theorem perm_proxyWatches_settle (hmode : setup.watchMode = .bus)
    (hrun : Relation.ReflTransGen Serves (start setup tree) c) :
    (c.settle.proxyWatches.map fun w => (w.busName, ProxyWatch.onBus w.id)).Perm
      (c.settle.liveProxies.map fun p => (setup.config.busName p.name, p.watch)) :=
  perm_proxyWatches hmode (hrun.trans (work_serves.settle c))

/-- No watch is left behind when the clock of a client has run. -/
theorem perm_proxyWatches_advance (hmode : setup.watchMode = .bus)
    (hrun : Relation.ReflTransGen Serves (start setup tree) c) (milliseconds : Nat) :
    ((c.advance milliseconds).proxyWatches.map fun w => (w.busName, ProxyWatch.onBus w.id)).Perm
      ((c.advance milliseconds).liveProxies.map fun p => (setup.config.busName p.name, p.watch)) :=
  perm_proxyWatches hmode (hrun.trans (work_serves.advance c milliseconds))

/-- **No watch is left behind**, in every run of a client on its bus, whoever asks for proxies, searches
for managers, evicts names, takes and drops handles, tells proxies to stop and uses the bus, as long as
nobody else cancels the watches of proxies. The watches that proxies began and that the bus still tells
of changes are one for each proxy that has not stopped, each on the name of that proxy's manager and
under its own number. So the watch of a proxy is never taken off the bus while the proxy goes on, and is
off the bus as soon as it has stopped. -/
theorem watches_of_proxies_run (hmode : setup.watchMode = .bus)
    (hrun : Relation.ReflTransGen Serves (start setup tree) c) :
    (c.proxyWatches.map fun w => (w.busName, ProxyWatch.onBus w.id)).Perm
      (c.liveProxies.map fun p => (setup.config.busName p.name, p.watch)) ∧
    (c.proxies.map Proxy.watch).Nodup ∧
    ∀ p ∈ c.proxies, ∃ w ∈ c.bus.watches, p.watch = .onBus w.id ∧
      w.busName = setup.config.busName p.name ∧ w.registered = !p.manager.disposed :=
  ⟨perm_proxyWatches hmode hrun, nodup_watches hmode hrun, fun _ hp => watch_of_proxy hmode hrun hp⟩

end run

/-- A proxy is told to stop and evicted, and another one is made for its name before it has stopped.
Somebody else watches the name too, and wants to cancel the watch of the new proxy under another name.
Of the three watches on the name, the first one is over and the second one is not that of a proxy. -/
theorem watches_of_proxies_run_evicted :
    let gabble : ServiceName := ⟨"gabble", by decide⟩
    let busName : String := "org.freedesktop.Telepathy.ConnectionManager.gabble"
    let first := ((start {} ⟨.dir [], []⟩).getManager gabble .disabled).1
    let watched := (first.onBus (Use.watch busName).apply).hold "first" 0
    let told := (watched.tell "first" .dispose).evict gabble
    let second := (told.getManager gabble .disabled).1
    let stopped := second.happen 0 (.command (second.foundCacheFile gabble))
    let late := stopped.onBus (Use.cancelWatch "org.example" 3).apply
    second.taskStep? (.proxy 0) = some stopped ∧
      (late.bus.watchers busName).map Watch.id = [2, 3] ∧
      (late.proxyWatches.map fun w => (w.busName, ProxyWatch.onBus w.id)) = [(busName, .onBus 3)] := by
  intro gabble busName first watched told second stopped late
  have hfirst : Relation.ReflTransGen Serves (start {} ⟨.dir [], []⟩) first :=
    .single (.gets gabble .disabled)
  have hwatched : Relation.ReflTransGen Serves (start {} ⟨.dir [], []⟩) watched := by
    refine .tail (.tail hfirst (.uses (.watch busName) fun p _ n _ => ?_)) (.around rfl rfl)
    simp
  have hsecond : Relation.ReflTransGen Serves (start {} ⟨.dir [], []⟩) second :=
    .tail (.tail (.tail hwatched (.tells "first" .dispose rfl)) (.evicts gabble))
      (.gets gabble .disabled)
  have hqueued : (second.proxy? 0).map (fun p => (p.name, p.manager.disposed, p.manager.queue)) =
      some (gabble, false, [.dispose]) := by
    decide +kernel
  obtain ⟨p, hp, hstate⟩ := Option.map_eq_some_iff.mp hqueued
  obtain ⟨hname, hlive, hqueue⟩ :
      p.name = gabble ∧ p.manager.disposed = false ∧ p.manager.queue = [.dispose] := by
    simpa using hstate
  have hstops : second.taskStep? (.proxy 0) = some stopped := by
    have hnext := proxyStep?_of_queued hp hlive (by rw [hqueue]; simp)
    rw [hname] at hnext
    exact hnext
  have hnames : ∀ p ∈ stopped.proxies, p.manager.busName = busName := by decide +kernel
  have hlate : Relation.ReflTransGen Serves (start {} ⟨.dir [], []⟩) late := by
    refine .tail (.tail hsecond (.works hstops)) (.uses (.cancelWatch "org.example" 3) ?_)
    intro p hp n _
    simp [hnames p hp, busName]
  have hlisted : (late.liveProxies.map fun p => (({} : Config).busName p.name, p.watch)) =
      [(busName, .onBus 3)] := by
    decide +kernel
  have hperm := (watches_of_proxies_run rfl hlate).1
  exact ⟨hstops, by decide +kernel, List.perm_singleton.mp (hlisted ▸ hperm)⟩

end Roster.Client
