import Roster.Proofs.Client.Moving

/-!
# Proxies follow the bus

A proxy hears of its manager's owner late: the reports lie in its watch until it takes them. What it
knows together with the reports that it did not take yet is nevertheless what the bus knows (`Linked`).
Whatever happens to a client and its bus keeps that up (`Moves.linked`): a report that is taken moves
from the watch to the proxy, a change of the owner is told to the watch, also if the proxy's own call
brought it about, and nothing else says anything of the owner.

`proxy_follows_bus_run` says what follows for every run: a proxy that has caught up shows exactly
whether its manager's name has an owner. All that a client does at work is part of such a run, so its
proxies follow the bus when it has settled and when its clock has run (`abreast_settle`,
`abreast_advance`).
-/

namespace Roster.Client

open Bus (Follows Orderly)
open Manager (Occurrence namesOwner runsAfter)

/-- What holds between a bus and the proxies that watch names on it. -/
structure Linked (l : Links) : Prop where
  /-- The bus is in order. -/
  orderly : l.bus.Orderly
  /-- Every proxy is what a new one becomes by a run. -/
  lived : ∀ x ∈ l.proxies, ∃ busName always path occurrences,
    x.1 = (Manager.start busName always path).run occurrences
  /-- The watch of every proxy has begun. -/
  begun : ∀ (m : Manager) (n : Nat), (m, some n) ∈ l.proxies → n ≤ l.bus.watches.length
  /-- No two proxies have the same watch. -/
  apart : ∀ (id id' : Nat) (m m' : Manager) (n : Nat), l.proxies[id]? = some (m, some n) →
    l.proxies[id']? = some (m', some n) → id = id'
  /-- A proxy that has not stopped hears what its watch is told, which follows the bus. -/
  follows : ∀ (m : Manager) (n : Nat), (m, some n) ∈ l.proxies → m.disposed = false →
    m.watching = true ∧ ∃ w, l.bus.watch? n = some w ∧ Follows l.bus m.busName m.running w

variable {l : Links}

/-- A new client is linked to a new bus. -/
theorem linked_start (setup : Setup) (tree : FileTree) : Linked (start setup tree).links where
  orderly := Bus.orderly_empty
  lived := fun x hx => by cases hx
  begun := fun m n hn => by cases hn
  apart := fun id id' m m' n hm => by cases hm
  follows := fun m n hn => by cases hn

/-- **Whatever is done to the bus, the proxies follow it**, if nothing is taken from their watches. -/
theorem Linked.use (h : Linked l) (use : Bus.Use)
    (hothers : ∀ m n, (m, some n) ∈ l.proxies → use.watch? ≠ some n) :
    Linked { l with bus := use.apply l.bus } where
  orderly := h.orderly.use use
  lived := h.lived
  begun := fun m n hn => Nat.le_trans (h.begun m n hn) (Bus.length_use use)
  apart := h.apart
  follows := by
    intro m n hn hd
    obtain ⟨hwatching, w, hw, hfollows⟩ := h.follows m n hn hd
    exact ⟨hwatching, hfollows.use hw use (hothers m n hn)⟩

/-- A new proxy is in no one's way, if it follows the bus by a watch that no other proxy has. -/
theorem Linked.joined {bus : Bus} (h : Linked { l with bus := bus }) (busName : String)
    (always : Bool) (path : Option Path) {k : Option Nat}
    (hfresh : ∀ n, k = some n → (∀ m, (m, some n) ∉ l.proxies) ∧ n ≤ bus.watches.length)
    (hself : ∀ n, k = some n → ∃ w, bus.watch? n = some w ∧ Follows bus busName false w) :
    Linked { bus := bus, proxies := l.proxies ++ [(Manager.start busName always path, k)] } := by
  have hplace : ∀ (i : Nat) (m : Manager) (n : Nat),
      (l.proxies ++ [(Manager.start busName always path, k)])[i]? = some (m, some n) →
        l.proxies[i]? = some (m, some n) ∨ i = l.proxies.length ∧ k = some n := by
    intro i m n hm
    rcases Nat.lt_or_ge i l.proxies.length with hlt | hge
    · rw [List.getElem?_append_left hlt] at hm
      exact .inl hm
    · have hlast := (List.getElem?_eq_some_iff.mp hm).1
      rw [List.length_append, List.length_singleton] at hlast
      rw [List.getElem?_append_right hge] at hm
      cases List.mem_singleton.mp (List.mem_of_getElem? hm)
      exact .inr ⟨by omega, rfl⟩
  refine ⟨h.orderly, fun x hx => ?_, fun m n hn => ?_, ?_, fun m n hn hd => ?_⟩
  · rcases List.mem_append.mp hx with hold | hnew
    · exact h.lived x hold
    · exact ⟨busName, always, path, [], congrArg Prod.fst (List.mem_singleton.mp hnew)⟩
  · rcases List.mem_append.mp hn with hold | hnew
    · exact h.begun m n hold
    · cases List.mem_singleton.mp hnew
      exact (hfresh n rfl).2
  · intro id id' m m' n hm hm'
    rcases hplace id m n hm with hold | ⟨hid, hn⟩
    · rcases hplace id' m' n hm' with hold' | ⟨hid', hn'⟩
      · exact h.apart id id' m m' n hold hold'
      · exact absurd (List.mem_of_getElem? hold) ((hfresh n hn').1 m)
    · rcases hplace id' m' n hm' with hold' | ⟨hid', hn'⟩
      · exact absurd (List.mem_of_getElem? hold') ((hfresh n hn).1 m')
      · rw [hid, hid']
  · rcases List.mem_append.mp hn with hold | hnew
    · exact h.follows m n hold hd
    · cases List.mem_singleton.mp hnew
      exact ⟨rfl, hself n rfl⟩

/-- A proxy that is made follows the bus from the beginning. -/
theorem Linked.spawn {c : Client} (h : Linked c.links) (name : ServiceName)
    (setting : CacheSetting) : Linked (c.spawn name setting).1.links := by
  obtain ⟨path, hlinks⟩ := links_spawn c name setting
  rw [hlinks]
  dsimp only
  split
  · have hwatched := h.use (.watch (c.setup.config.busName name)) fun m n hn => by
      simp [Bus.Use.watch?]
    have hlength : (c.bus.watch (c.setup.config.busName name)).1.watches.length =
        c.bus.watches.length + 1 := List.length_append
    refine hwatched.joined _ _ path (fun n hn => ?_) fun n hn => ?_
    · cases hn
      refine ⟨fun m hm => ?_, Nat.le_of_eq hlength.symm⟩
      exact Nat.not_succ_le_self _ (h.begun m _ hm)
    · cases hn
      exact Bus.follows_watch h.orderly _
  · exact Linked.joined (l := c.links) h _ _ path (fun n hn => by cases hn) fun n hn => by cases hn

/-- A proxy does a step, and the bus may change its watch: it is enough that this proxy follows the
bus afterwards. -/
theorem Linked.stepped (h : Linked l) {id : Nat} {m : Manager} {k : Option Nat}
    (hm : l.proxies[id]? = some (m, k)) (o : Occurrence) {bus : Bus} (horderly : bus.Orderly)
    (hlength : bus.watches.length = l.bus.watches.length) (howners : bus.owners = l.bus.owners)
    (hothers : ∀ n, k ≠ some n → bus.watch? n = l.bus.watch? n)
    (hself : ∀ n, k = some n → (m.step o).disposed = false → (m.step o).watching = true ∧
      ∃ w, bus.watch? n = some w ∧ Follows bus (m.step o).busName (m.step o).running w) :
    Linked { bus := bus, proxies := l.proxies.modify id fun x => (x.1.step o, x.2) } := by
  have howner : ∀ name, bus.owner? name = l.bus.owner? name := by
    intro name
    unfold Bus.owner?
    rw [howners]
  have hplace : ∀ (i : Nat) (x : Manager × Option Nat),
      (l.proxies.modify id fun x => (x.1.step o, x.2))[i]? = some x →
        i ≠ id ∧ l.proxies[i]? = some x ∨ i = id ∧ x = (m.step o, k) := by
    intro i x hx
    rw [List.getElem?_modify] at hx
    by_cases hi : id = i
    · rw [← hi, hm] at hx
      simp only [Option.map_eq_map, Option.map_some, if_pos, Option.some.injEq] at hx
      exact .inr ⟨hi.symm, hx.symm⟩
    · refine .inl ⟨Ne.symm hi, ?_⟩
      simpa [hi] using hx
  have hnumber : ∀ (i : Nat) (m' : Manager) (n : Nat),
      (l.proxies.modify id fun x => (x.1.step o, x.2))[i]? = some (m', some n) →
        ∃ m'', l.proxies[i]? = some (m'', some n) := by
    intro i m' n hx
    rcases hplace i _ hx with ⟨_, hold⟩ | ⟨hi, hnew⟩
    · exact ⟨m', hold⟩
    · cases hnew
      exact ⟨m, hi ▸ hm⟩
  refine ⟨horderly, fun x hx => ?_, fun m' n hn => ?_, ?_, fun m' n hn hd => ?_⟩
  · obtain ⟨i, hi⟩ := List.mem_iff_getElem?.mp hx
    rcases hplace i x hi with ⟨_, hold⟩ | ⟨_, hnew⟩
    · exact h.lived x (List.mem_of_getElem? hold)
    · obtain ⟨busName, always, path, occurrences, hrun⟩ := h.lived _ (List.mem_of_getElem? hm)
      refine ⟨busName, always, path, occurrences ++ [o], ?_⟩
      rw [hnew, Manager.run_concat]
      exact congrArg (Manager.step · o) hrun
  · obtain ⟨i, hi⟩ := List.mem_iff_getElem?.mp hn
    obtain ⟨m'', hold⟩ := hnumber i m' n hi
    rw [hlength]
    exact h.begun m'' n (List.mem_of_getElem? hold)
  · intro i i' m₁ m₂ n h₁ h₂
    obtain ⟨m₁', h₁'⟩ := hnumber i m₁ n h₁
    obtain ⟨m₂', h₂'⟩ := hnumber i' m₂ n h₂
    exact h.apart i i' m₁' m₂' n h₁' h₂'
  · obtain ⟨i, hi⟩ := List.mem_iff_getElem?.mp hn
    rcases hplace i _ hi with ⟨hne, hold⟩ | ⟨_, hnew⟩
    · -- another proxy has another watch, which is as it was
      obtain ⟨hwatching, w, hw, hfollows⟩ := h.follows m' n (List.mem_of_getElem? hold) hd
      have hk : k ≠ some n := by
        rintro rfl
        exact hne (h.apart i id m' m n hold hm)
      exact ⟨hwatching, w, (hothers n hk).trans hw, hfollows.of_owner (howner _)⟩
    · cases hnew
      exact hself n rfl hd

/-- A proxy that goes on without a report knows as much of the owner as before. -/
theorem Linked.unreported (h : Linked l) {id : Nat} {m : Manager} {k : Option Nat}
    (hm : l.proxies[id]? = some (m, k)) {o : Occurrence} (howner : ∀ owner, o ≠ .owner owner)
    (hclosed : o ≠ .watchClosed) :
    Linked { l with proxies := l.proxies.modify id fun x => (x.1.step o, x.2) } := by
  refine h.stepped hm o h.orderly rfl rfl (fun n _ => rfl) fun n hn hlive => ?_
  rw [hn] at hm
  have hd := Manager.disposed_of_step hlive
  have hsame := Manager.presence_step_of_unreported hd howner hclosed hlive
  rw [show (m.step o).watching = m.watching from congrArg Presence.watching hsame,
    show (m.step o).busName = m.busName from congrArg Presence.busName hsame,
    show (m.step o).running = m.running from congrArg Presence.running hsame]
  exact h.follows m n (List.mem_of_getElem? hm) hd

/-- **Whatever a proxy reacts to apart from reports, it follows the bus as before.** -/
theorem Linked.happen {c : Client} (h : Linked c.links) (id : Nat) {o : Occurrence}
    (howner : ∀ owner, o ≠ .owner owner) (hclosed : o ≠ .watchClosed) :
    Linked (c.happen id o).links := by
  rcases hp : c.proxy? id with _ | p
  · rw [happen_of_none c hp]
    exact h
  have hm := links_of_proxy? c hp
  rw [links_happen c hp]
  by_cases hstop : (p.manager.step o).disposed ∧ p.manager.disposed = false
  · rw [if_pos hstop]
    have hend : (p.manager.step o).disposed ≠ false := fun hlive =>
      Bool.false_ne_true (hlive.symm.trans hstop.1)
    rcases hnumber : p.watch.number? with _ | n
    · exact h.stepped hm o h.orderly rfl rfl (fun n _ => rfl)
        fun n _ hlive => absurd hlive hend
    · refine h.stepped hm o (h.orderly.modifyWatch fun w hid => hid) (List.length_map _) rfl
        (fun n' hne => ?_) fun n _ hlive => absurd hlive hend
      exact Bus.watch?_modifyWatch_of_ne (fun heq => hne (hnumber.trans (congrArg some heq.symm)))
        fun w hid => hid
  · rw [if_neg hstop]
    exact h.unreported hm howner hclosed

/-- **A proxy that takes a report is as far behind the bus as before.** -/
theorem Linked.watchStep? {c : Client} (h : Linked c.links) {id : Nat} {p : Proxy}
    (hp : c.proxy? id = some p) (hlive : p.manager.disposed = false) {c' : Client}
    (hstep : c.watchStep? id p = some c') : Linked c'.links := by
  have hm := links_of_proxy? c hp
  obtain ⟨w, hw, hwatching, hfound⟩ := watchStep?_cases hstep
  rcases hnumber : p.watch.number? with _ | n
  · -- the watch is none of the bus, so nothing is to be shown of this proxy
    rw [hnumber] at hm
    rcases hfound with ⟨report, rest, htake, rfl⟩ | ⟨_, rfl⟩
    · obtain ⟨p', hp', _, hnumber'⟩ := proxy?_modifyWatch c hp fun _ => rest
      have hlinks := links_modifyWatch c hp fun _ => rest
      rw [hnumber] at hlinks
      rw [links_happen_of_apart _ hp' (hnumber'.trans hnumber), hlinks]
      exact h.stepped hm _ h.orderly rfl rfl (fun n _ => rfl) fun n hn => by cases hn
    · rw [links_happen_of_apart c hp hnumber]
      exact h.stepped hm _ h.orderly rfl rfl (fun n _ => rfl) fun n hn => by cases hn
  · rw [hnumber] at hm
    obtain ⟨_, v, hv, hfollows⟩ := h.follows p.manager n (List.mem_of_getElem? hm) hlive
    have hsame : v = w := by
      rcases hwatch : p.watch with k | u
      · rw [hwatch] at hnumber
        cases hnumber
        rw [watchOf, hwatch] at hw
        exact Option.some.inj (hv.symm.trans hw)
      · rw [hwatch] at hnumber
        cases hnumber
    rw [hsame] at hv hfollows
    rcases hfound with ⟨report, rest, htake, rfl⟩ | ⟨hleft, _⟩
    · obtain ⟨hid, hrest⟩ := hfollows.take htake
      have hkept : ∀ u : Watch, u.id = n → rest.id = n := fun _ _ =>
        hid.trans (Bus.id_of_watch? hv)
      have hheard := Manager.presence_step_owner hlive hwatching report
      obtain ⟨p', hp', hmanager, _⟩ := proxy?_modifyWatch c hp fun _ => rest
      have hlinks := links_modifyWatch c hp fun _ => rest
      rw [hnumber] at hlinks
      rw [links_happen_of_live _ hp' (by rw [hmanager]; exact
        (congrArg Presence.disposed hheard).trans hlive), hlinks]
      refine h.stepped hm _ (h.orderly.modifyWatch hkept) (List.length_map _) rfl
        (fun n' hne => Bus.watch?_modifyWatch_of_ne (fun heq => hne (congrArg some heq.symm)) hkept)
        fun n' hn' _ => ?_
      cases hn'
      refine ⟨(congrArg Presence.watching hheard).trans hwatching, rest,
        Bus.watch?_modifyWatch_self hv hkept, ?_⟩
      rw [show (p.manager.step (.owner report)).busName = p.manager.busName from
          congrArg Presence.busName hheard,
        show (p.manager.step (.owner report)).running = namesOwner report from
          congrArg Presence.running hheard]
      exact hrest.of_owner rfl
    · exact absurd (hleft.symm.trans hfollows.registered) Bool.false_ne_true

/-- A command that is sent to a proxy says nothing of the owner. -/
theorem Linked.send {c : Client} (h : Linked c.links) (id : Nat) (command : Command) :
    Linked (c.send id command).links := by
  rw [links_send]
  rcases hm : c.links.proxies[id]? with _ | ⟨m, k⟩
  · rw [List.modify_eq_self (List.getElem?_eq_none_iff.mp hm)]
    exact h
  · obtain ⟨busName, always, path, occurrences, hrun⟩ := h.lived _ (List.mem_of_getElem? hm)
    have hm' : m = (Manager.start busName always path).run occurrences := hrun
    -- nothing is due, so putting the command into the queue is a step of the proxy
    have hstep : m.step (.sent command) = m.react (.sent command) := by
      have hidle : m.deferred = [] := hm' ▸ Manager.deferred_run _ rfl occurrences
      refine Manager.runDeferred_of_idle ?_
      unfold Manager.react Manager.send
      dsimp only
      split
      · cases command <;> exact hidle
      · exact hidle
    rw [modify_eq_of_getElem? hm (g := fun x => (x.1.step (.sent command), x.2))
      (congrArg (·, k) hstep.symm)]
    exact h.unreported hm (fun _ h => by cases h) fun h => by cases h

/-- **Whatever happens to a client and its bus, the proxies follow it.** -/
theorem Moves.linked {c c' : Client} (hmoves : Moves c c') (h : Linked c.links) :
    Linked c'.links := by
  cases hmoves with
  | uses use hothers =>
    rw [links_onBus]
    refine h.use use fun m n hn => ?_
    obtain ⟨p, hp, hpair⟩ := List.mem_map.mp hn
    exact hothers p hp n (congrArg Prod.snd hpair)
  | makes name setting => exact h.spawn name setting
  | sends id command => exact h.send id command
  | hears hp hlive hstep => exact h.watchStep? hp hlive hstep
  | calls id p number =>
    obtain ⟨c₁, hlinks, hsent⟩ := links_sendCall c id p number
    have hcalled : Linked c₁.links := by
      rw [hlinks]
      exact h.use (.call _) fun m n _ => by simp [Bus.Use.watch?]
    rcases hsent with hsent | ⟨value, hsent⟩
    · rw [hsent]
      exact hcalled
    · rw [hsent]
      exact hcalled.happen id (fun _ h => by cases h) fun h => by cases h
  | reacts id o howner hclosed => exact h.happen id howner hclosed
  | around hsame =>
    rw [hsame]
    exact h

/-! ## What the proxies show -/

/-- The proxies of a client follow its bus: each one that has not stopped and watches on the bus knows
what the bus knows, apart from the reports that it did not take yet. -/
def Abreast (c : Client) : Prop :=
  ∀ (id : Nat) (p : Proxy) (n : Nat), c.proxy? id = some p → p.manager.disposed = false →
    p.watch = .onBus n → ∃ w, c.bus.watch? n = some w ∧ w.busName = p.manager.busName ∧
      (p.manager.run (w.queued.map .owner)).running =
        (c.bus.owner? p.manager.busName).isSome ∧
      (w.queued = [] →
        p.manager.snapshot.running = (c.bus.owner? p.manager.busName).isSome)

/-- Proxies that are linked to the bus follow it. -/
theorem Linked.abreast {c : Client} (h : Linked c.links) : Abreast c := by
  intro id p n hp hlive hwatch
  have hm := List.mem_of_getElem? (links_of_proxy? c hp)
  rw [hwatch] at hm
  obtain ⟨hwatching, w, hw, hfollows⟩ := h.follows p.manager n hm hlive
  obtain ⟨busName, always, path, occurrences, hlived⟩ := h.lived _ hm
  refine ⟨w, hw, hfollows.name, ?_, fun hnone => ?_⟩
  · rw [Manager.running_run_reports hlive hwatching]
    exact hfollows.foretold
  · have hcurrent := (Manager.faithful_run busName always path occurrences).current
    rw [← show p.manager = _ from hlived] at hcurrent
    have hforetold := hfollows.foretold
    rw [hnone] at hforetold
    exact (congrArg Snapshot.running hcurrent).trans hforetold

/-! ## Runs -/

section run

variable {setup : Setup} {tree : FileTree} {c : Client}

/-- **Every client follows its bus**, after every run. -/
theorem linked_run (hrun : Relation.ReflTransGen Moves (start setup tree) c) : Linked c.links := by
  induction hrun with
  | refl => exact linked_start setup tree
  | tail _ hmoves ih => exact hmoves.linked ih

/-- The proxies follow the bus when their client has settled. -/
theorem abreast_settle (hrun : Relation.ReflTransGen Moves (start setup tree) c) :
    Abreast c.settle :=
  (linked_run (hrun.trans (travels_settle c).moves)).abreast

/-- The proxies follow the bus when the clock of their client has run. -/
theorem abreast_advance (hrun : Relation.ReflTransGen Moves (start setup tree) c)
    (milliseconds : Nat) : Abreast (c.advance milliseconds) :=
  (linked_run (hrun.trans (travels_advance c milliseconds).moves)).abreast

/-- **A proxy follows the bus.** After every run of a client and its bus, in which anyone uses the bus
and every proxy hears its reports as late as it will, a proxy that has not stopped has its watch on the
bus. If it heard the reports that it did not take yet, in order, it would take its manager to run
exactly if the name has an owner now. So a proxy that has taken all of them shows everyone exactly
whether the name has an owner. -/
theorem proxy_follows_bus_run (hrun : Relation.ReflTransGen Moves (start setup tree) c) {id : Nat}
    {p : Proxy} (hp : c.proxy? id = some p) (hlive : p.manager.disposed = false) {n : Nat}
    (hwatch : p.watch = .onBus n) :
    ∃ w, c.bus.watch? n = some w ∧ w.busName = p.manager.busName ∧
      (p.manager.run (w.queued.map .owner)).running =
        (c.bus.owner? p.manager.busName).isSome ∧
      (w.queued = [] →
        p.manager.snapshot.running = (c.bus.owner? p.manager.busName).isSome) :=
  (linked_run hrun).abreast id p n hp hlive hwatch

end run

/-- A name has an owner when its proxy is made, loses it before the proxy takes the first report, and
is noticed to have none once both reports are taken. -/
theorem proxy_follows_bus_run_released :
    let salut : ServiceName := ⟨"salut", by decide⟩
    let busName : String := "org.freedesktop.Telepathy.ConnectionManager.salut"
    let owned := (start {} ⟨.dir [], []⟩).onBus (Bus.Use.setOwner busName).apply
    let made := (owned.spawn salut .disabled).1
    let late := made.onBus (Bus.Use.release busName).apply
    ∃ p w, late.proxy? 0 = some p ∧ p.manager.disposed = false ∧ p.watch = .onBus 1 ∧
      late.bus.watch? 1 = some w ∧ w.queued = [some ":1.1", none] ∧
      (p.manager.run (w.queued.map .owner)).running = false := by
  intro salut busName owned made late
  have hrun : Relation.ReflTransGen Moves (start {} ⟨.dir [], []⟩) late := by
    refine .tail (.tail (.tail .refl (.uses (.setOwner busName) ?_)) (.makes salut .disabled))
      (.uses (.release busName) ?_)
    · intro p hp
      cases hp
    · intro p _ n _ h
      cases h
  have hp : late.proxy? 0 = some {
      name := salut
      manager := Manager.start busName false none
      watch := .onBus 1 } := by rfl
  obtain ⟨w, hw, _, hruns, _⟩ := proxy_follows_bus_run hrun hp rfl rfl
  have hqueued : (late.bus.watch? 1).map Watch.queued = some [some ":1.1", none] := by
    decide +kernel
  have howner : (late.bus.owner? busName).isSome = false := by decide +kernel
  rw [hw] at hqueued
  exact ⟨_, w, hp, rfl, rfl, hw, Option.some.inj hqueued, hruns.trans howner⟩

end Roster.Client
