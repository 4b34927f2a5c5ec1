import Mathlib.Logic.Relation
import Roster.Proofs.Bus.Watches
import Roster.Proofs.Client.Frame
import Roster.Proofs.Client.Taking

/-!
# A client on its bus

What ties a client to its bus are the watches of its proxies (`Links`). One equation for each function
of a client says what it does to those ties; most functions leave them alone.

`Moves` is all that can happen to a client and its bus, one thing at a time and in any order: anyone
uses the bus, proxies are made, sent commands and hear reports, send their calls, and take whatever
else comes. What a proxy does by itself is one of these (`moves_proxyStep?`), and all that a client does
at work is made of them (`Roster.Proofs.Client.Moving`).
-/

namespace Roster

/-- The number of the watch of a proxy, if the bus knows it. -/
def ProxyWatch.number? : ProxyWatch → Option Nat
  | .onBus id => some id
  | .apart _ => none

/-- What ties a client to its bus. -/
structure Links where
  /-- The bus. -/
  bus : Bus
  /-- Every proxy with the number of its watch. -/
  proxies : List (Manager × Option Nat)

namespace Client

/-- What ties the client to its bus. -/
def links (c : Client) : Links where
  bus := c.bus
  proxies := c.proxies.map fun p => (p.manager, p.watch.number?)

variable (c : Client)

/-- A proxy is tied to the bus by its watch. -/
theorem links_of_proxy? {id : Nat} {p : Proxy} (hp : c.proxy? id = some p) :
    c.links.proxies[id]? = some (p.manager, p.watch.number?) := by
  show (c.proxies.map _)[id]? = _
  rw [List.getElem?_map, show c.proxies[id]? = some p from hp]
  rfl

/-! ## Functions that leave the ties alone -/

/-- Making a task ready leaves the ties alone. -/
@[simp] theorem links_wake (task : ClientTask) : (c.wake task).links = c.links := by
  unfold wake
  split <;> rfl

/-- Making tasks ready leaves the ties alone. -/
theorem links_foldl_wake {α : Type} (task : α → ClientTask) (l : List α) :
    (l.foldl (fun c a => c.wake (task a)) c).links = c.links := by
  obtain ⟨ready, hwoken⟩ := exists_foldl_wake c task l
  rw [hwoken]
  rfl

/-- What ties the client to its bus after the proxy of a number changed. -/
theorem links_modifyProxy (id : Nat) {f : Proxy → Proxy} {g : Manager → Manager}
    (hf : ∀ p, ((f p).manager, (f p).watch.number?) = (g p.manager, p.watch.number?)) :
    (c.modifyProxy id f).links =
      { c.links with proxies := c.links.proxies.modify id fun x => (g x.1, x.2) } := by
  unfold links modifyProxy
  rw [map_modify (fun p : Proxy => (p.manager, p.watch.number?)) (h := fun x => (g x.1, x.2)) hf]

/-- A change of a proxy that keeps its state and its watch leaves the ties alone. -/
theorem links_modifyProxy_of_same (id : Nat) {f : Proxy → Proxy}
    (hf : ∀ p, ((f p).manager, (f p).watch.number?) = (p.manager, p.watch.number?)) :
    (c.modifyProxy id f).links = c.links := by
  have hsame := links_modifyProxy c id (g := fun m => m) hf
  rwa [show (fun x : Manager × Option Nat => (x.1, x.2)) = fun x => x from rfl,
    show c.links.proxies.modify id (fun x => x) = c.links.proxies from
      List.modify_id id _] at hsame

/-! ## Functions that change the ties -/

/-- What is done to the bus is done to nothing else. -/
theorem links_onBus (f : Bus → Bus) : (c.onBus f).links = { c.links with bus := f c.bus } :=
  links_foldl_wake { c with bus := f c.bus } (fun p : Proxy × Nat => .proxy p.2) _

/-- A change of the watch of a proxy is one on the bus, if the bus knows the watch. -/
theorem links_modifyWatch {id : Nat} {p : Proxy} (hp : c.proxy? id = some p) (f : Watch → Watch) :
    (c.modifyWatch id f).links =
      { c.links with
        bus := match p.watch.number? with
          | some n => c.bus.modifyWatch n f
          | none => c.bus } := by
  unfold modifyWatch
  rw [hp]
  dsimp only
  rcases hwatch : p.watch with n | w
  · rfl
  · -- this proxy has no watch on the bus before and after, and the others keep theirs
    have hproxies : (c.modifyProxy id fun p => { p with watch := .apart (f w) }).links.proxies =
        c.links.proxies := by
      apply List.ext_getElem?
      intro i
      show ((c.proxies.modify id _).map _)[i]? = (c.proxies.map _)[i]?
      rw [List.getElem?_map, List.getElem?_map, List.getElem?_modify]
      rcases hi : c.proxies[i]? with _ | q
      · rfl
      · simp only [Option.map_eq_map, Option.map_some]
        split
        · rename_i heq
          have hq : p = q := Option.some.inj ((heq ▸ hp : c.proxies[i]? = some p).symm.trans hi)
          rw [← hq, hwatch]
          rfl
        · rfl
    exact congrArg (Links.mk c.bus) hproxies

/-- A change of the watch of a proxy leaves its state alone, and the number of the watch. -/
theorem proxy?_modifyWatch {id : Nat} {p : Proxy} (hp : c.proxy? id = some p)
    (f : Watch → Watch) : ∃ p', (c.modifyWatch id f).proxy? id = some p' ∧
      p'.manager = p.manager ∧ p'.watch.number? = p.watch.number? := by
  unfold modifyWatch
  rw [hp]
  dsimp only
  rcases hwatch : p.watch with n | w
  · exact ⟨p, hp, rfl, by rw [hwatch]⟩
  · exact ⟨{ p with watch := .apart (f w) }, proxy?_modifyProxy c hp _, rfl, rfl⟩

/-- Two changes of an item that are the same for what is there are the same for the list. -/
theorem modify_eq_of_getElem? {α : Type} {l : List α} {i : Nat} {a : α} (ha : l[i]? = some a)
    {f g : α → α} (hfg : f a = g a) : l.modify i f = l.modify i g := by
  rw [List.modify_eq_set_getElem?, List.modify_eq_set_getElem?, ha, Option.map_eq_map,
    Option.map_some, Option.map_eq_map, Option.map_some, hfg]

/-- What ties a client to its bus after a proxy reacted to something. A proxy that stops leaves its
watch. -/
theorem links_happen {id : Nat} {p : Proxy} (hp : c.proxy? id = some p) (o : Manager.Occurrence) :
    (c.happen id o).links =
      { bus :=
          if (p.manager.step o).disposed ∧ p.manager.disposed = false then
            match p.watch.number? with
            | some n => c.bus.modifyWatch n fun w =>
                { w with held := false, registered := w.registered && !p.manager.watching }
            | none => c.bus
          else c.bus
        proxies := c.links.proxies.modify id fun x => (x.1.step o, x.2) } := by
  have hset : ∀ readLog : List (ServiceName × Path),
      ({ c with readLog := readLog }.modifyProxy id fun p' =>
        { p' with manager := p.manager.step o }).links =
        { c.links with proxies := c.links.proxies.modify id fun x => (x.1.step o, x.2) } := by
    intro readLog
    rw [links_modifyProxy _ id (g := fun _ => p.manager.step o) fun _ => rfl]
    show Links.mk c.bus _ = Links.mk c.bus _
    exact congrArg (Links.mk c.bus) (modify_eq_of_getElem? (links_of_proxy? c hp) rfl)
  have hthere : ∀ readLog : List (ServiceName × Path),
      ({ c with readLog := readLog }.modifyProxy id fun p' =>
        { p' with manager := p.manager.step o }).proxy? id =
        some { p with manager := p.manager.step o } := fun _ => proxy?_modifyProxy _ hp _
  unfold happen
  rw [hp]
  dsimp only
  rw [wakeAsked, links_foldl_wake _ (fun q : Question × Nat => .question q.2)]
  by_cases hstop : (p.manager.step o).disposed ∧ p.manager.disposed = false
  · rw [if_pos hstop, if_pos hstop, links_modifyWatch _ (hthere _), hset]
    rfl
  · rw [if_neg hstop, if_neg hstop, hset]
    rfl

/-- A proxy that goes on changes nothing on the bus. -/
theorem links_happen_of_live {id : Nat} {p : Proxy} (hp : c.proxy? id = some p)
    {o : Manager.Occurrence} (hlive : (p.manager.step o).disposed = false) :
    (c.happen id o).links =
      { c.links with proxies := c.links.proxies.modify id fun x => (x.1.step o, x.2) } := by
  rw [links_happen c hp, if_neg fun hstop => Bool.false_ne_true (hlive.symm.trans hstop.1)]
  rfl

/-- A proxy that watches nothing on the bus changes nothing there. -/
theorem links_happen_of_apart {id : Nat} {p : Proxy} (hp : c.proxy? id = some p)
    (hnumber : p.watch.number? = none) (o : Manager.Occurrence) :
    (c.happen id o).links =
      { c.links with proxies := c.links.proxies.modify id fun x => (x.1.step o, x.2) } := by
  rw [links_happen c hp, hnumber]
  dsimp only
  rw [ite_self]
  rfl

/-- A proxy that there is not reacts to nothing. -/
theorem happen_of_none {id : Nat} (hp : c.proxy? id = none) (o : Manager.Occurrence) :
    c.happen id o = c := by
  unfold happen
  rw [hp]

/-- What ties a client to its bus after a command was sent to a proxy. -/
theorem links_send (id : Nat) (command : Command) :
    (c.send id command).links =
      { c.links with
        proxies := c.links.proxies.modify id fun x => (x.1.react (.sent command), x.2) } := by
  have hset := links_modifyProxy c id
    (f := fun p => { p with manager := p.manager.react (.sent command) })
    (g := (·.react (.sent command))) fun _ => rfl
  unfold send
  rcases hp : c.proxy? id with _ | p
  · have hlength : c.links.proxies.length ≤ id := by
      show (c.proxies.map _).length ≤ id
      rw [List.length_map]
      exact List.getElem?_eq_none_iff.mp hp
    rw [List.modify_eq_self hlength]
  · dsimp only
    split
    · exact hset
    · rw [links_wake]
      exact hset

/-- A new proxy begins to watch its manager's name, on the bus or elsewhere. -/
theorem links_spawn (name : ServiceName) (setting : CacheSetting) :
    ∃ path, (c.spawn name setting).1.links =
      let busName := c.setup.config.busName name
      let start := Manager.start busName c.setup.config.alwaysIntrospect path
      match c.setup.watchMode with
      | .bus =>
        { bus := (c.bus.watch busName).1
          proxies := c.links.proxies ++ [(start, some (c.bus.watch busName).2)] }
      | _ => { c.links with proxies := c.links.proxies ++ [(start, none)] } := by
  refine ⟨setting.resolve ((c.beginWatch (c.setup.config.busName name)).1.foundCacheFile name), ?_⟩
  unfold spawn beginWatch
  dsimp only
  rw [links_wake]
  cases c.setup.watchMode <;>
    simp only [links, List.map_append, List.map_cons, List.map_nil, ProxyWatch.number?]

/-- What ties a client to its bus after a proxy sent its call: the bus took the call, and the proxy an
answer that is there at once. -/
theorem links_sendCall (id : Nat) (p : Proxy) (number : Nat) :
    ∃ c' : Client, c'.links =
        { c.links with bus := (c.bus.call (callOf c.setup.config p.name)).1 } ∧
      (c.sendCall id p number = c' ∨
        ∃ value, c.sendCall id p number = c'.happen id (.reply value)) := by
  have hnoted : ∀ c' : Client,
      (c'.modifyProxy id fun p' => { p' with sent := some (c.freshAnswer p number) }).links =
        c'.links := fun c' => links_modifyProxy_of_same c' id fun _ => rfl
  obtain ⟨ready, hsend⟩ := sendCall_eq c id p number
  rw [hsend]
  dsimp only
  split
  · exact ⟨_, hnoted _, .inr ⟨_, rfl⟩⟩
  · exact ⟨_, hnoted _, .inl rfl⟩

/-! ## What can happen -/

/-- One thing that happens to a client and its bus. -/
inductive Moves (c : Client) : Client → Prop where
  /-- Anyone uses the bus, but takes nothing from the watches of the proxies. -/
  | uses (use : Bus.Use)
      (hothers : ∀ p ∈ c.proxies, ∀ n, p.watch.number? = some n → use.watch? ≠ some n) :
      Moves c (c.onBus use.apply)
  /-- A proxy is made for a manager. -/
  | makes (name : ServiceName) (setting : CacheSetting) : Moves c (c.spawn name setting).1
  /-- A proxy is sent a command. -/
  | sends (id : Nat) (command : Command) : Moves c (c.send id command)
  /-- A proxy that has not stopped takes the next report of its watch, or learns that there will be
  none. -/
  | hears {id : Nat} {p : Proxy} {c' : Client} (hp : c.proxy? id = some p)
      (hlive : p.manager.disposed = false) (h : c.watchStep? id p = some c') : Moves c c'
  /-- A proxy sends its call. -/
  | calls (id : Nat) (p : Proxy) (number : Nat) : Moves c (c.sendCall id p number)
  /-- A proxy reacts to something else. -/
  | reacts (id : Nat) (o : Manager.Occurrence) (howner : ∀ owner, o ≠ .owner owner)
      (hclosed : o ≠ .watchClosed) : Moves c (c.happen id o)
  /-- Something happens that has nothing to do with the bus and the proxies. -/
  | around {c' : Client} (h : c'.links = c.links) : Moves c c'

variable {c}

/-- **What a proxy does by itself is one of these.** -/
theorem moves_proxyStep? {id : Nat} {c' : Client} (h : c.proxyStep? id = some c') : Moves c c' := by
  obtain ⟨p, hp, hlive, htakes⟩ := takes_of_proxyStep? h
  cases htakes with
  | report h => exact .hears hp hlive h
  | call _ _ => exact .calls id p _
  | command _ | forsaken _ | answer _ _ _ | readEnd _ _ =>
    exact .reacts id _ (fun _ h => by cases h) fun h => by cases h

end Client

end Roster
