import Mathlib.Data.List.Basic
import Roster.Client.Action

/-!
# What a client does to what it knows

One equation for each function of a client, about its `core`. Most functions change nothing that the
client knows. Those that do:

* `core_happen`, `core_send` and `core_request`: a proxy reacts. What it has of an answer to its call is
  not part of the `core`, and is kept (`proxy?_happen`).
* `gives_getManager`: the registry gives a proxy that it keeps, or makes one (`Gives`).
* `core_search`: a discovery begins.
-/

namespace Roster.Client

variable (c : Client)

/-- Changing an item of a list and then mapping, or mapping and then changing the image. -/
theorem map_modify {α β : Type} (g : α → β) {f : α → α} {h : β → β} (hf : ∀ a, g (f a) = h (g a))
    (l : List α) (i : Nat) : (l.modify i f).map g = (l.map g).modify i h := by
  apply List.ext_getElem?
  intro j
  rw [List.getElem?_map, List.getElem?_modify, List.getElem?_modify, List.getElem?_map]
  rcases l[j]? with _ | a
  · rfl
  · simp only [Option.map_eq_map, Option.map_some]
    split
    · rw [hf]
    · rfl

/-- The proxy of a number, with its manager's name. -/
def known? (id : Nat) : Option (ServiceName × Manager) :=
  (c.proxy? id).map fun p => (p.name, p.manager)

/-- The proxy of a number is what the client knows under it. -/
theorem known?_eq (id : Nat) : c.known? id = c.core.known[id]? :=
  List.getElem?_map.symm

/-- A proxy is known under its number. -/
theorem known?_of_proxy? {id : Nat} {p : Proxy} (hp : c.proxy? id = some p) :
    c.known? id = some (p.name, p.manager) := by
  rw [known?, hp]
  rfl

/-! ## Functions that change nothing that the client knows -/

/-- Making a task ready is not noticed. -/
@[simp] theorem core_wake (task : ClientTask) : (c.wake task).core = c.core := by
  unfold wake
  split <;> rfl

/-- Making tasks ready changes nothing but the line of those that are ready. -/
theorem exists_foldl_wake {α : Type} (task : α → ClientTask) (l : List α) :
    ∃ ready, l.foldl (fun c a => c.wake (task a)) c = { c with ready := ready } := by
  induction l generalizing c with
  | nil => exact ⟨c.ready, rfl⟩
  | cons a rest ih =>
    obtain ⟨ready, hrest⟩ := ih (c.wake (task a))
    refine ⟨ready, hrest.trans ?_⟩
    unfold wake
    split <;> rfl

/-- Changes one after another that nobody notices are not noticed. -/
theorem core_foldl {α : Type} {f : Client → α → Client} (hf : ∀ c a, (f c a).core = c.core)
    (l : List α) : (l.foldl f c).core = c.core := by
  induction l generalizing c with
  | nil => rfl
  | cons a rest ih => exact (ih (f c a)).trans (hf c a)

/-- Making tasks ready is not noticed. -/
theorem core_foldl_wake {α : Type} (task : α → ClientTask) (l : List α) :
    (l.foldl (fun c a => c.wake (task a)) c).core = c.core :=
  core_foldl c (fun c a => core_wake c (task a)) l

/-- What a client knows after the proxy of a number changed. -/
theorem core_modifyProxy (id : Nat) {f : Proxy → Proxy} {g : Manager → Manager}
    (hf : ∀ p, ((f p).name, (f p).manager) = (p.name, g p.manager)) :
    (c.modifyProxy id f).core =
      { c.core with known := c.core.known.modify id fun p => (p.1, g p.2) } := by
  unfold core modifyProxy
  rw [map_modify (fun p : Proxy => (p.name, p.manager)) (h := fun p => (p.1, g p.2)) hf]

/-- A change of a proxy that leaves its manager alone is not noticed. -/
theorem core_modifyProxy_of_same (id : Nat) {f : Proxy → Proxy}
    (hf : ∀ p, ((f p).name, (f p).manager) = (p.name, p.manager)) :
    (c.modifyProxy id f).core = c.core := by
  have hsame := core_modifyProxy c id (g := fun m => m) hf
  rwa [show (fun p : ServiceName × Manager => (p.1, p.2)) = fun p => p from rfl,
    show c.core.known.modify id (fun p => p) = c.core.known from List.modify_id id _] at hsame

/-- A change of a watch is not noticed. -/
@[simp] theorem core_modifyWatch (id : Nat) (f : Watch → Watch) :
    (c.modifyWatch id f).core = c.core := by
  unfold modifyWatch
  split
  · rfl
  · split
    · rfl
    · exact core_modifyProxy_of_same c id fun _ => rfl

/-- The beginning of a watch is not noticed. -/
@[simp] theorem core_beginWatch (busName : String) : (c.beginWatch busName).1.core = c.core := by
  unfold beginWatch
  split <;> rfl

/-! ## Proxies -/

/-- The proxy of a number after it changed. -/
theorem proxy?_modifyProxy {id : Nat} {p : Proxy} (hp : c.proxy? id = some p) (f : Proxy → Proxy) :
    (c.modifyProxy id f).proxy? id = some (f p) := by
  show (c.proxies.modify id f)[id]? = _
  rw [List.getElem?_modify, show c.proxies[id]? = some p from hp]
  simp

/-- A proxy that reacts to something does its step, and keeps what it has of an answer. -/
theorem proxy?_happen {id : Nat} {p : Proxy} (hp : c.proxy? id = some p) (o : Manager.Occurrence) :
    ∃ q, (c.happen id o).proxy? id = some q ∧ q.name = p.name ∧
      q.manager = p.manager.step o ∧ q.sent = p.sent := by
  have hset : ∀ readLog : List (ServiceName × Path),
      ({ c with readLog := readLog }.modifyProxy id fun p' =>
        { p' with manager := p.manager.step o }).proxy? id =
        some { p with manager := p.manager.step o } := fun _ => proxy?_modifyProxy _ hp _
  unfold happen
  rw [hp]
  dsimp only
  rw [wakeAsked]
  obtain ⟨ready, hwoken⟩ := exists_foldl_wake _ (fun x : Question × Nat => .question x.2) _
  rw [hwoken]
  split
  · -- a proxy that stops leaves its watch
    unfold modifyWatch
    rw [hset]
    dsimp only
    split
    · exact ⟨_, hset _, rfl, rfl, rfl⟩
    · exact ⟨_, proxy?_modifyProxy _ (hset _) _, rfl, rfl, rfl⟩
  · exact ⟨_, hset _, rfl, rfl, rfl⟩

/-- A change of a proxy that there is not is not noticed. -/
theorem core_of_proxy?_eq_none {id : Nat} (hid : c.proxy? id = none) (g : Manager → Manager) :
    { c.core with known := c.core.known.modify id fun p => (p.1, g p.2) } = c.core := by
  have hlength : c.core.known.length ≤ id := by
    show (c.proxies.map _).length ≤ id
    rw [List.length_map]
    exact List.getElem?_eq_none_iff.mp hid
  rw [List.modify_eq_self hlength]

/-- What a client knows after a proxy did a step. -/
theorem core_happen (id : Nat) (o : Manager.Occurrence) :
    (c.happen id o).core =
      { c.core with known := c.core.known.modify id fun p => (p.1, p.2.step o) } := by
  rcases hp : c.proxy? id with _ | p
  · rw [core_of_proxy?_eq_none c hp (·.step o), happen, hp]
  · -- the manager is set to a fixed value, which is the step from the one that is there
    have hset : ∀ c' : Client, c'.core = c.core → c'.proxies = c.proxies →
        (c'.modifyProxy id fun p' => { p' with manager := p.manager.step o }).core =
          { c.core with known := c.core.known.modify id fun p => (p.1, p.2.step o) } := by
      intro c' hcore hproxies
      rw [← hcore, ← core_modifyProxy c' id (f := fun p' => { p' with manager := p'.manager.step o })
        (g := (·.step o)) fun _ => rfl]
      unfold modifyProxy
      rw [hproxies]
      congr 2
      rw [List.modify_eq_set_getElem?, List.modify_eq_set_getElem?]
      have hp' : c.proxies[id]? = some p := hp
      rw [hp']
      rfl
    unfold happen
    rw [hp]
    dsimp only
    rw [wakeAsked, core_foldl_wake]
    split
    · rw [core_modifyWatch]
      exact hset _ rfl rfl
    · exact hset _ rfl rfl

/-- What a client knows under the number of a proxy after that proxy did a step. -/
theorem known?_happen (id : Nat) (o : Manager.Occurrence) :
    (c.happen id o).known? id = (c.known? id).map fun x => (x.1, x.2.step o) := by
  rw [known?_eq, known?_eq, core_happen]
  exact List.getElem?_modify_eq _ id c.core.known

/-- A change of a watch changes nothing that the client knows under a number. -/
theorem known?_modifyWatch (id : Nat) (f : Watch → Watch) :
    (c.modifyWatch id f).known? id = c.known? id := by
  rw [known?_eq, known?_eq, core_modifyWatch]

/-- What a client knows after a command was sent to a proxy. -/
theorem core_send (id : Nat) (command : Command) :
    (c.send id command).core =
      { c.core with known := c.core.known.modify id fun p => (p.1, p.2.react (.sent command)) } := by
  have hset := core_modifyProxy c id
    (f := fun p => { p with manager := p.manager.react (.sent command) })
    (g := (·.react (.sent command))) fun _ => rfl
  rcases hp : c.proxy? id with _ | p
  · rw [core_of_proxy?_eq_none c hp (·.react (.sent command)), send, hp]
  · unfold send
    rw [hp]
    dsimp only
    split
    · exact hset
    · rw [core_wake]
      exact hset

/-- What a client knows after a proxy was asked something through a handle: nothing new if there is
no such handle. -/
theorem core_request (handle label : String) (kind : RequestKind) :
    (c.request handle label kind).1.core = c.core ∨
      ∃ id, (c.request handle label kind).1.core = { c.core with
        waiters := c.waiters + 1
        known := c.core.known.modify id fun p =>
          (p.1, p.2.react (.sent (kind.command c.waiters))) } := by
  unfold request
  split
  · exact .inl rfl
  · rename_i id _
    refine .inr ⟨id, ?_⟩
    have hsend := core_send c.freshWaiter.1 id (kind.command c.waiters)
    dsimp only
    split
    · exact hsend
    · exact hsend

/-! ## The registry -/

/-- How the registry gives a proxy for a name. -/
inductive Gives (name : ServiceName) : Client → Nat → Prop where
  /-- It keeps one that has not stopped. -/
  | kept (id : Nat) (hkept : c.managers.get? name = some id) (hlive : c.isDisposed id = false) :
      Gives name c id
  /-- It makes one, and keeps it. -/
  | made (c' : Client) (path : Option Path)
      (hcore : c'.core = { c.core with
        known := c.core.known ++ [(name, Manager.start (c.setup.config.busName name)
          c.setup.config.alwaysIntrospect path)]
        managers := c.managers.insert name c.core.known.length }) :
      Gives name c' c.core.known.length

/-- A new proxy is known under the next number. -/
theorem core_spawn (name : ServiceName) (setting : CacheSetting) :
    (c.spawn name setting).2 = c.core.known.length ∧
      ∃ path, (c.spawn name setting).1.core = { c.core with
        known := c.core.known ++ [(name, Manager.start (c.setup.config.busName name)
          c.setup.config.alwaysIntrospect path)] } := by
  have hwatch := core_beginWatch c (c.setup.config.busName name)
  constructor
  · have hknown := congrArg (fun core : Core => core.known.length) hwatch
    simp only [core, List.length_map] at hknown ⊢
    exact hknown
  · refine ⟨setting.resolve ((c.beginWatch (c.setup.config.busName name)).1.foundCacheFile name), ?_⟩
    rw [← hwatch]
    unfold spawn
    dsimp only
    rw [core_wake]
    simp only [core, List.map_append, List.map_cons, List.map_nil]

/-- The registry gives the proxy that it keeps for a name, or makes one. -/
theorem gives_getManager (name : ServiceName) (setting : CacheSetting) :
    Gives c name (c.getManager name setting).1 (c.getManager name setting).2 := by
  unfold getManager
  split
  · rename_i id hkept
    rw [Option.filter_eq_some_iff] at hkept
    exact .kept id hkept.1 (by simpa using hkept.2)
  · obtain ⟨hid, path, hcore⟩ := core_spawn c name setting
    dsimp only
    rw [hid]
    refine .made _ path ?_
    have hmanagers : (c.spawn name setting).1.managers = c.managers :=
      congrArg Core.managers hcore
    show { (c.spawn name setting).1.core with
      managers := (c.spawn name setting).1.managers.insert name c.core.known.length } = _
    rw [hcore, hmanagers]

/-! ## Discoveries -/

/-- What a client knows after a discovery has begun. -/
theorem core_search (label : String) (caller : Option String) (callback : Bool) :
    (c.search label caller callback).core = { c.core with
      callersMade := c.callersMade + 1
      discoveries := c.discoveries ++
        [{ caller := c.callerNumber caller, callback := callback }] } := by
  have hbegin := core_wake { c with
    callersMade := c.callersMade + 1
    discoveries := c.discoveries ++ [{ caller := c.callerNumber caller, callback := callback }] }
    (.discovery c.discoveries.length)
  exact hbegin

end Roster.Client
