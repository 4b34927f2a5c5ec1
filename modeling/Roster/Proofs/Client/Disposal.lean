import Roster.Proofs.Client.Links
import Roster.Proofs.Manager.Disposal

/-!
# The end of a proxy in a client

When a proxy ends, it leaves its watch: the bus stops telling it of the owner, unless that was over
already, and nobody takes reports any more (`bus_happen_of_disposed`). From then on there is nothing that
the proxy does by itself (`proxyStep?_of_disposed`). Together with what the end leaves of the proxy's
state that is all there is to say of it: `disposal_is_final_run`.
-/

namespace Roster

namespace Client

variable {c : Client} {id n : Nat} {p : Proxy}

/-- Two changes of one watch are one change, if the first one keeps its number. -/
theorem modifyWatch_modifyWatch (bus : Bus) {f g : Watch → Watch} (hf : ∀ w, (f w).id = w.id) :
    (bus.modifyWatch n f).modifyWatch n g = bus.modifyWatch n fun w => g (f w) := by
  unfold Bus.modifyWatch
  rw [List.map_map]
  congr 2
  funext w
  by_cases hw : w.id = n
  · simp only [Function.comp_apply, if_pos hw, if_pos ((hf w).trans hw)]
  · simp only [Function.comp_apply, if_neg hw]

/-- Changes that are the same for the watches of that number are the same for the bus. -/
theorem modifyWatch_congr (bus : Bus) {f g : Watch → Watch}
    (hfg : ∀ w ∈ bus.watches, w.id = n → f w = g w) : bus.modifyWatch n f = bus.modifyWatch n g := by
  unfold Bus.modifyWatch
  congr 1
  refine List.map_congr_left fun w hw => ?_
  by_cases hid : w.id = n
  · rw [if_pos hid, if_pos hid, hfg w hw hid]
  · rw [if_neg hid, if_neg hid]

/-- **A proxy that ends leaves its watch**: the watch is taken off the bus, unless the reports had
ended before, and its receiver goes. -/
theorem bus_happen_of_disposed (hp : c.proxy? id = some p) (hwatch : p.watch = .onBus n)
    (hname : ∀ w ∈ c.bus.watches, w.id = n → w.busName = p.manager.busName) {o : Manager.Occurrence}
    (hlive : p.manager.disposed = false) (hstop : (p.manager.step o).disposed = true) :
    (c.happen id o).bus =
      (if p.manager.watching then c.bus.cancelWatch p.manager.busName n
        else c.bus).dropWatch n := by
  have hlinks := congrArg Links.bus (links_happen c hp o)
  rw [hwatch, if_pos ⟨hstop, hlive⟩] at hlinks
  refine hlinks.trans ?_
  dsimp only [ProxyWatch.number?]
  by_cases hwatching : p.manager.watching = true
  · rw [if_pos hwatching]
    unfold Bus.cancelWatch Bus.dropWatch
    rw [modifyWatch_modifyWatch _ fun w => by split <;> rfl]
    refine modifyWatch_congr _ fun w hw hid => ?_
    rw [if_pos (hname w hw hid), hwatching, Bool.not_true, Bool.and_false]
  · rw [if_neg hwatching]
    refine modifyWatch_congr _ fun w _ _ => ?_
    rw [Bool.eq_false_iff.mpr hwatching, Bool.not_false, Bool.and_true]

/-- A proxy that has stopped does nothing by itself. -/
theorem proxyStep?_of_disposed (hp : c.proxy? id = some p) (hd : p.manager.disposed = true) :
    c.proxyStep? id = none := by
  unfold proxyStep?
  rw [hp]
  exact if_pos hd

/-- A proxy that goes on does the first command of its queue next. -/
theorem proxyStep?_of_queued (hp : c.proxy? id = some p) (hlive : p.manager.disposed = false)
    (hqueue : p.manager.queue ≠ []) :
    c.proxyStep? id = some (c.happen id (.command (c.foundCacheFile p.name))) := by
  unfold proxyStep?
  rw [hp]
  show (if p.manager.disposed then none else if p.manager.queue ≠ [] then _ else _) = _
  rw [hlive, if_neg Bool.false_ne_true, if_pos hqueue]

end Client

namespace Manager

section run

variable {busName : String} {always : Bool} {path : Option Path} {before : List Occurrence}

/-- **The end of a proxy is final.** Whatever a proxy was doing and whatever is in its queue when it
ends: all those in the queue and all who are parked are told of the end, those in the queue who ask for
a start are told that there will be none, nothing is on its way, due or held back any more, and all
else is as it was before: the settings, what is known, the events, what everyone sees, and what was
begun. Whatever happens later changes nothing but that those who ask are told of the end. The proxy's
watch is taken off the bus, unless the reports had ended before, and there is nothing left that the
proxy does by itself. -/
theorem disposal_is_final_run {o : Occurrence} {behind : List Command}
    (hlive : ((start busName always path).run before).disposed = false)
    (hends : Ends ((start busName always path).run before) o behind) :
    let m := (start busName always path).run before
    let ended := m.step o
    ended = { m with
      queue := []
      call := none
      read := none
      deferred := []
      gate := { waiters := [], outcome := some (.failed .disposed), closed := true }
      heldFailure := none
      watching := false
      disposed := true
      answers := m.answers ++
        (requests behind ++ m.gate.waiters).map fun w => (w, .failed .disposed)
      activations := m.activations ++ (starts behind).map fun w => (w, false) } ∧
    (∀ after, ended.run after = { ended with
      answers := ended.answers ++ (asked after).map fun w => (w, .failed .disposed)
      activations := ended.activations ++ (askedToStart after).map fun w => (w, false) }) ∧
    ∀ (c : Client) (id n : Nat) (p : Proxy), c.proxy? id = some p → p.manager = m →
      p.watch = .onBus n → (∀ w ∈ c.bus.watches, w.id = n → w.busName = m.busName) →
      (c.happen id o).bus =
          (if m.watching then c.bus.cancelWatch m.busName n else c.bus).dropWatch n ∧
        (c.happen id o).proxyStep? id = none := by
  intro m ended
  have hended := step_of_ends hlive (sound_run hlive).opened hends
  have hdisposed : ended.disposed = true := congrArg Manager.disposed hended
  refine ⟨hended, fun after => ?_, ?_⟩
  · have hrun : ended = (start busName always path).run (before ++ [o]) :=
      (run_concat _ before o).symm
    have hstopped : Stopped ended := by
      rw [hrun] at hdisposed ⊢
      exact stopped_run hdisposed
    exact run_of_stopped hstopped hdisposed after
  · intro c id n p hp hm hwatch hname
    rw [← hm] at hname
    have hstop : (p.manager.step o).disposed = true := by
      rw [hm]
      exact hdisposed
    obtain ⟨p', hp', _, hm', _⟩ := Client.proxy?_happen c hp o
    constructor
    · have hbus := Client.bus_happen_of_disposed hp hwatch hname (by rw [hm]; exact hlive) hstop
      rw [hm] at hbus
      exact hbus
    · refine Client.proxyStep?_of_disposed hp' ?_
      rw [hm']
      exact hstop

end run

/-- Someone is parked, and behind the command to stop someone asks for readiness, someone for a start,
and a setting is to be changed. All three who ask are told of the end, the setting stays, and a report
of an owner comes too late. -/
theorem disposal_is_final_run_queued :
    let m := (start "org.example.salut" false none).run
      [.sent (.requestReady 0), .command none, .sent .dispose, .sent (.requestReady 1),
        .sent (.activate 2), .sent (.setAlwaysIntrospect true)]
    let late := (m.step (.command none)).run [.owner (some ":1.1"), .sent (.requestReady 3)]
    m.disposed = false ∧ m.queue = [.dispose, .requestReady 1, .activate 2, .setAlwaysIntrospect true] ∧
      late.answers = [1, 0, 3].map (fun w => (w, .failed .disposed)) ∧
      late.activations = [(2, false)] ∧ late.alwaysIntrospect = false ∧ late.events = [] := by
  intro m late
  have hlive : m.disposed = false := by decide +kernel
  have hqueue : m.queue =
      [.dispose, .requestReady 1, .activate 2, .setAlwaysIntrospect true] := by decide +kernel
  have hparked : m.gate.waiters = [0] ∧ m.answers = [] ∧ m.activations = [] ∧ m.events = [] ∧
      m.alwaysIntrospect = false := by
    decide +kernel
  obtain ⟨hwaiters, hanswers, hactivations, hevents, hsetting⟩ := hparked
  obtain ⟨hended, hafter, _⟩ := disposal_is_final_run hlive (.told none _ hqueue)
  have htold : (m.step (.command none)).answers = [1, 0].map fun w => (w, .failed .disposed) := by
    refine (congrArg Manager.answers hended).trans ?_
    show m.answers ++ (requests _ ++ m.gate.waiters).map _ = _
    rw [hanswers, hwaiters]
    rfl
  have hrefused : (m.step (.command none)).activations = [(2, false)] := by
    refine (congrArg Manager.activations hended).trans ?_
    show m.activations ++ (starts _).map _ = _
    rw [hactivations]
    rfl
  have hlate := hafter [.owner (some ":1.1"), .sent (.requestReady 3)]
  refine ⟨hlive, hqueue, ?_, ?_, ?_, ?_⟩
  · refine (congrArg Manager.answers hlate).trans ?_
    show (m.step (.command none)).answers ++ _ = _
    rw [htold]
    rfl
  · refine (congrArg Manager.activations hlate).trans ?_
    show (m.step (.command none)).activations ++ _ = _
    rw [hrefused]
    rfl
  · exact (congrArg Manager.alwaysIntrospect hlate).trans
      ((congrArg Manager.alwaysIntrospect hended).trans hsetting)
  · exact (congrArg Manager.events hlate).trans ((congrArg Manager.events hended).trans hevents)

end Manager

end Roster
