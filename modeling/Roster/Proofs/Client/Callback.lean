import Roster.Proofs.Client.Callers
import Roster.Proofs.Client.Exactness
import Roster.Proofs.Client.Progress

/-!
# The callback of a discovery

A discovery looks whether its caller is there at three points: when it takes each of the two lists
(`Hears`), and when everyone has answered (`Ends`). What it tells its callback depends on that alone.

* `calls_run`: the callback was called when the discovery was over, and with nothing but its outcome.
* `Hears.gone`, `Hears.failed`, `Ends.concluded`: what each of the three points leads to.
* `finished_run`: nothing else ends a discovery.
* `calls_of_vanished`: a caller that vanishes at any moment before the end is told nothing.
-/

namespace Roster

namespace Discovery

/-- How a discovery ended, if it is over. -/
def outcome? (d : Discovery) : Option DiscoveryOutcome :=
  match d.stage with
  | .done outcome => some outcome
  | _ => none

/-- What the callback of a discovery has to be called with by now. -/
def delivered (d : Discovery) : List (Except BusError (List (ServiceName × Nat))) :=
  if d.callback then (d.outcome?.bind DiscoveryOutcome.delivery).toList else []

variable {d : Discovery}

/-- A discovery that is over ended somehow. -/
theorem outcome?_of_done {outcome : DiscoveryOutcome} (h : d.stage = .done outcome) :
    d.outcome? = some outcome := by
  rw [outcome?, h]

/-- Counting an answer ends nothing. -/
theorem outcome?_arrive (d : Discovery) : d.arrive.outcome? = d.outcome? := by
  refine d.arrive_induct (P := fun d' => d'.outcome? = d.outcome?)
    (fun rest countdown countdown' hstage => ?_) (fun countdown countdown' hstage => ?_) rfl
  · rw [outcome?, outcome?, hstage]
  · rw [outcome?, outcome?, hstage]

/-- Counting an answer calls nothing. -/
theorem calls_arrive (d : Discovery) : d.arrive.calls = d.calls := by
  unfold arrive
  split <;> rfl

end Discovery

namespace Client

section turns

variable {c c' : Client} {id : Nat} {v v' : View} {a : Action}

/-! ## How a discovery ends -/

/-- All that ends a discovery, and how it ends. -/
inductive Finishes (c : Client) (id : Nat) (d : Discovery) : Action → DiscoveryOutcome → Prop where
  /-- It takes a list, and the caller is gone. -/
  | gone (which : Listing) (due : Nat) (timely : Bool) (answer : Except BusError (List String))
      (hstage : d.stage = .listing which due timely) (hgone : c.callerAlive d.caller = false) :
      Finishes c id d (.list id answer) .callerGone
  /-- It takes a list that failed, and the caller is there. -/
  | failed (which : Listing) (due : Nat) (timely : Bool) (e : BusError)
      (hstage : d.stage = .listing which due timely) (halive : c.callerAlive d.caller = true) :
      Finishes c id d (.list id (.error e)) (.failed e)
  /-- Everyone has answered. -/
  | answered (countdown : Countdown) (hstage : d.stage = .waiting countdown)
      (hanswered : d.isAnswered = true) :
      Finishes c id d (.discovery id)
        (if c.callerAlive d.caller then .complete d.found.toList else .callerGone)

/-- What ends a discovery ends one that was not over. -/
theorem Finishes.outcome? {d : Discovery} {outcome : DiscoveryOutcome}
    (h : Finishes c id d a outcome) : d.outcome? = none := by
  cases h with
  | gone which due timely answer hstage hgone => rw [Discovery.outcome?, hstage]
  | failed which due timely e hstage halive => rw [Discovery.outcome?, hstage]
  | answered countdown hstage hanswered => rw [Discovery.outcome?, hstage]

/-- **Every turn of a discovery** ends it in one of these ways, or leaves it with the calls and the
outcome that it had. -/
theorem Turn.finishes (h : Turn c c' id v a v') :
    (v'.discovery.calls = v.discovery.calls ∧ v'.discovery.outcome? = v.discovery.outcome?) ∨
      ∃ outcome, Finishes c id v.discovery a outcome ∧
        v'.discovery = v.discovery.finish outcome := by
  cases h with
  | rests a => exact .inl ⟨rfl, rfl⟩
  | hears which due timely answer hstage =>
    rcases halive : c.callerAlive v.discovery.caller with _ | _
    · exact .inr ⟨_, .gone which due timely answer hstage halive, rfl⟩
    · cases answer with
      | ok busNames =>
        have hgoing : v.discovery.outcome? = none := by rw [Discovery.outcome?, hstage]
        exact .inl ⟨rfl, hgoing.symm⟩
      | error e => exact .inr ⟨_, .failed which due timely e hstage halive, rfl⟩
  | asks which due timely hstage =>
    have hgoing : v.discovery.outcome? = none := by
      rcases hstage with ⟨hstage, _⟩ | ⟨hstage, _⟩ <;> rw [Discovery.outcome?, hstage]
    exact .inl ⟨rfl, hgoing.symm⟩
  | arrives i missing hmissing => exact .inl ⟨v.discovery.calls_arrive, v.discovery.outcome?_arrive⟩
  | concludes hanswered =>
    obtain ⟨countdown, hstage⟩ := Discovery.exists_waiting_of_isAnswered hanswered
    exact .inr ⟨_, .answered countdown hstage hanswered, rfl⟩
  | passes which busName rest hstage hold
  | finds which busName rest name hstage hname hnew hkept
  | counts hstage
  | questions proxy rest countdown hstage
  | waits countdown hstage =>
    have hgoing : v.discovery.outcome? = none := by rw [Discovery.outcome?, hstage]
    exact .inl ⟨rfl, hgoing.symm⟩

/-- **Every turn of a discovery** calls the callback when it is the last one, and not otherwise. -/
theorem Turn.calls (h : Turn c c' id v a v') (hcalls : v.discovery.calls = v.discovery.delivered) :
    v'.discovery.calls = v'.discovery.delivered := by
  rcases h.finishes with ⟨hsame, houtcome⟩ | ⟨outcome, hfinishes, hfinish⟩
  · rw [hsame, hcalls, Discovery.delivered, Discovery.delivered, houtcome, h.later.callback]
  · rw [Discovery.delivered, hfinishes.outcome?] at hcalls
    have hsilent : v.discovery.calls = [] := by
      rw [hcalls]
      split <;> rfl
    rw [hfinish, Discovery.finish, hsilent]
    rfl

/-! ## What is over stays over -/

/-- A discovery that is over stays as it is and asks nobody. -/
theorem Turn.ended (h : Turn c c' id v a v') {outcome : DiscoveryOutcome}
    (hover : v.discovery.stage = .done outcome) :
    v'.discovery = v.discovery ∧ v'.targets = v.targets := by
  cases h with
  | rests a => exact ⟨rfl, rfl⟩
  | arrives i missing hmissing =>
    rw [Discovery.arrive, hover]
    exact ⟨rfl, rfl⟩
  | asks which due timely hstage =>
    rw [hover] at hstage
    rcases hstage with ⟨hstage, _⟩ | ⟨hstage, _⟩
    · cases hstage
    · cases hstage
  | concludes hanswered =>
    rw [Discovery.isAnswered, hover] at hanswered
    cases hanswered
  | hears which due timely answer hstage
  | passes which busName rest hstage hold
  | finds which busName rest name hstage hname hnew hkept
  | counts hstage
  | questions proxy rest countdown hstage
  | waits countdown hstage =>
    rw [hover] at hstage
    cases hstage

/-- A discovery that takes a list asks nobody in that step. -/
theorem Awaits.view? {which : Listing} {d : Discovery} (h : Awaits c id which d)
    (answer : Except BusError (List String)) :
    (c.act (.list id answer)).view? id =
      some ⟨d.hear (c.callerAlive d.caller) which answer, targets c.questions id,
        missing c.questions id⟩ := by
  have hquestions : (c.act (.list id answer)).questions = c.questions := by
    show (c.giveList id answer).core.questions = c.questions
    rcases core_giveList c id answer with hcore | ⟨_, _, _, _, _, _, hcore⟩
    · rw [hcore]
      rfl
    · rw [hcore]
      rfl
  rw [view?_of_discovery (h.discoveries answer), hquestions]

/-- What ends a discovery ends it at once, and asks nobody. -/
theorem Finishes.view? {d : Discovery} {outcome : DiscoveryOutcome} (h : Finishes c id d a outcome)
    (hd : c.discoveries[id]? = some d) :
    (c.act a).view? id =
      some ⟨d.finish outcome, targets c.questions id, missing c.questions id⟩ := by
  cases h with
  | gone which due timely answer hstage hgone =>
    have hview := Awaits.view? ⟨hd, due, timely, hstage⟩ answer
    rw [hgone] at hview
    exact hview
  | failed which due timely e hstage halive =>
    have hview := Awaits.view? ⟨hd, due, timely, hstage⟩ (.error e)
    rw [halive] at hview
    exact hview
  | answered countdown hstage hanswered =>
    have hstep : c.ownStep? id = some (c.setDiscovery id (d.conclude (c.callerAlive d.caller))) := by
      rw [ownStep?, hd]
      dsimp only
      rw [hstage]
      exact if_pos hanswered
    rw [act, hstep]
    exact view?_set hd rfl

end turns

/-! ## What ends a discovery in a run -/

section run

variable (setup : Setup) (tree : FileTree) (actions : List Action) (id : Nat)

/-- In a run, a discovery went on after everyone had answered, while its caller was alive or not. -/
def Ends (alive : Bool) : Prop :=
  ∃ before after d, actions = before ++ .discovery id :: after ∧
    ((start setup tree).run before).discoveries[id]? = some d ∧ d.isAnswered = true ∧
    ((start setup tree).run before).callerAlive d.caller = alive

/-- In a run, something ended a discovery. -/
def Finished (outcome : DiscoveryOutcome) : Prop :=
  ∃ before a after d, actions = before ++ a :: after ∧
    ((start setup tree).run before).discoveries[id]? = some d ∧
    Finishes ((start setup tree).run before) id d a outcome

end run

section run

variable {setup : Setup} {tree : FileTree} {actions : List Action} {id : Nat} {d : Discovery}
  {outcome : DiscoveryOutcome}

/-- What ended in a run ended when the run goes on. -/
theorem Finished.append (h : Finished setup tree actions id outcome) (later : List Action) :
    Finished setup tree (actions ++ later) id outcome := by
  obtain ⟨before, a, after, d, rfl, h⟩ := h
  refine ⟨before, a, after ++ later, d, ?_, h⟩
  rw [List.append_assoc, List.cons_append]

/-- **The callback was called when the discovery was over, with nothing but its outcome**, after every
run. -/
theorem calls_run {v : View} (hv : ((start setup tree).run actions).view? id = some v) :
    v.discovery.calls = v.discovery.delivered := by
  refine view_run_induct (P := fun _ v => v.discovery.calls = v.discovery.delivered)
    (fun _ _ _ callback => ?_) (fun _ _ _ _ _ hturn h => hturn.calls h) hv
  cases callback <;> rfl

/-- **Nothing else ends a discovery**, in every run. -/
theorem finished_run {v : View} (hv : ((start setup tree).run actions).view? id = some v) :
    ∀ outcome, v.discovery.outcome? = some outcome → Finished setup tree actions id outcome := by
  refine view_run_induct (P := fun actions v => ∀ outcome, v.discovery.outcome? = some outcome →
    Finished setup tree actions id outcome) (fun _ _ _ _ outcome houtcome => ?_)
    (fun before a v v' hv hturn h outcome houtcome => ?_) hv
  · cases houtcome
  · rcases hturn.finishes with ⟨_, hsame⟩ | ⟨outcome', hfinishes, hfinish⟩
    · exact (h outcome (hsame ▸ houtcome)).append [a]
    · rw [hfinish] at houtcome
      cases houtcome
      obtain ⟨d, hd, rfl⟩ := Option.map_eq_some_iff.mp hv
      exact ⟨before, a, [], d, rfl, hd, hfinishes⟩

/-- When a discovery is over, its callback has got what there is to tell. -/
theorem calls_of_done (hd : ((start setup tree).run actions).discoveries[id]? = some d)
    (hcallback : d.callback = true) (hover : d.stage = .done outcome) :
    d.calls = outcome.delivery.toList := by
  rw [show d.calls = d.delivered from calls_run (view?_of_discovery hd), Discovery.delivered,
    if_pos hcallback, Discovery.outcome?_of_done hover]
  rfl

/-- A discovery that is over at some moment of a run is the same at its end, and has asked nobody
since. -/
theorem over_run {before after : List Action} {v : View}
    (hv : ((start setup tree).run before).view? id = some v)
    (hover : v.discovery.stage = .done outcome)
    (hd : ((start setup tree).run (before ++ after)).discoveries[id]? = some d) :
    d = v.discovery ∧
      targets ((start setup tree).run (before ++ after)).questions id = v.targets := by
  have hlast : ∃ v', ((start setup tree).run (before ++ after)).view? id = some v' ∧
      v'.discovery = v.discovery ∧ v'.targets = v.targets := by
    clear hd
    induction after using List.reverseRecOn with
    | nil =>
      rw [List.append_nil]
      exact ⟨v, hv, rfl, rfl⟩
    | append_singleton after a ih =>
      obtain ⟨v', hv', hdiscovery, htargets⟩ := ih
      obtain ⟨v'', hv'', hturn⟩ := turn_act hv' a
      obtain ⟨hdiscovery', htargets'⟩ := hturn.ended (hdiscovery ▸ hover)
      rw [← List.append_assoc, run_concat]
      exact ⟨v'', hv'', hdiscovery'.trans hdiscovery, htargets'.trans htargets⟩
  obtain ⟨v', hv', hdiscovery, htargets⟩ := hlast
  rw [view?_of_discovery hd] at hv'
  cases hv'
  exact ⟨hdiscovery, htargets⟩

/-- What ended a discovery in a run is all that becomes of it, and nobody was asked since. -/
theorem Finishes.last {before after : List Action} {a : Action} {d₀ : Discovery}
    (h : Finishes ((start setup tree).run before) id d₀ a outcome)
    (hd₀ : ((start setup tree).run before).discoveries[id]? = some d₀)
    (hd : ((start setup tree).run (before ++ a :: after)).discoveries[id]? = some d) :
    d = d₀.finish outcome ∧
      targets ((start setup tree).run (before ++ a :: after)).questions id =
        targets ((start setup tree).run before).questions id := by
  have hview := h.view? hd₀
  rw [← run_concat] at hview
  rw [← List.singleton_append, ← List.append_assoc] at hd ⊢
  exact over_run hview rfl hd

/-! ## The points at which a discovery looks for its caller -/

/-- A discovery whose caller is gone when it takes a list is over, and asks nobody. -/
theorem Hears.gone {which : Listing} {answer : Except BusError (List String)}
    (h : Hears setup tree actions id which false answer)
    (hd : ((start setup tree).run actions).discoveries[id]? = some d) :
    d.stage = .done .callerGone ∧
      ∀ q ∈ ((start setup tree).run actions).questions, q.discovery ≠ id := by
  obtain ⟨before, after, d₀, rfl, ⟨hd₀, due, timely, hstage⟩, halive⟩ := h
  obtain ⟨rfl, htargets⟩ :=
    (Finishes.gone which due timely answer hstage halive).last hd₀ hd
  refine ⟨rfl, fun q hq hid => ?_⟩
  -- it had asked nobody before
  have hfanIn := fanIn_run (view?_of_discovery hd₀)
  rw [FanIn, hstage] at hfanIn
  have hnone := List.filterMap_eq_nil_iff.mp (htargets.trans hfanIn.1) q hq
  rw [if_pos hid] at hnone
  cases hnone

/-- A discovery whose caller is there when it takes a list that failed is over with that error. -/
theorem Hears.failed {which : Listing} {e : BusError}
    (h : Hears setup tree actions id which true (.error e))
    (hd : ((start setup tree).run actions).discoveries[id]? = some d) :
    d.stage = .done (.failed e) := by
  obtain ⟨before, after, d₀, rfl, ⟨hd₀, due, timely, hstage⟩, halive⟩ := h
  obtain ⟨rfl, _⟩ := (Finishes.failed which due timely e hstage halive).last hd₀ hd
  rfl

/-- A discovery for which everyone has answered is over, with all that was found if its caller is
there. -/
theorem Ends.concluded {alive : Bool} (h : Ends setup tree actions id alive)
    (hd : ((start setup tree).run actions).discoveries[id]? = some d) :
    d.stage = .done (if alive then .complete d.found.toList else .callerGone) := by
  obtain ⟨before, after, d₀, rfl, hd₀, hanswered, rfl⟩ := h
  obtain ⟨countdown, hstage⟩ := Discovery.exists_waiting_of_isAnswered hanswered
  obtain ⟨rfl, _⟩ := (Finishes.answered countdown hstage hanswered).last hd₀ hd
  rfl

/-- A discovery that ended for a caller that was gone took a list then, or everyone had answered. -/
theorem Finished.gone (h : Finished setup tree actions id .callerGone) :
    (∃ which answer, Hears setup tree actions id which false answer) ∨
      Ends setup tree actions id false := by
  obtain ⟨before, a, after, d, hactions, hd, hfinishes⟩ := h
  generalize houtcome : DiscoveryOutcome.callerGone = outcome at hfinishes
  cases hfinishes with
  | gone which due timely answer hstage hgone =>
    exact .inl ⟨which, answer, before, after, d, hactions, ⟨hd, due, timely, hstage⟩, hgone⟩
  | failed which due timely e hstage halive => cases houtcome
  | answered countdown hstage hanswered =>
    rcases halive : ((start setup tree).run before).callerAlive d.caller with _ | _
    · exact .inr ⟨before, after, d, hactions, hd, hanswered, halive⟩
    · rw [halive] at houtcome
      cases houtcome

/-- A discovery that ended with an error took a list that failed. -/
theorem Finished.failed {e : BusError} (h : Finished setup tree actions id (.failed e)) :
    ∃ which, Hears setup tree actions id which true (.error e) := by
  obtain ⟨before, a, after, d, hactions, hd, hfinishes⟩ := h
  generalize houtcome : DiscoveryOutcome.failed e = outcome at hfinishes
  cases hfinishes with
  | gone which due timely answer hstage hgone => cases houtcome
  | failed which due timely e hstage halive =>
    cases houtcome
    exact ⟨which, before, after, d, hactions, ⟨hd, due, timely, hstage⟩, halive⟩
  | answered countdown hstage hanswered =>
    split at houtcome <;> cases houtcome

/-- A discovery that ended with a result went on when everyone had answered. -/
theorem Finished.complete {found : List (ServiceName × Nat)}
    (h : Finished setup tree actions id (.complete found)) : Ends setup tree actions id true := by
  obtain ⟨before, a, after, d, hactions, hd, hfinishes⟩ := h
  generalize houtcome : DiscoveryOutcome.complete found = outcome at hfinishes
  cases hfinishes with
  | gone which due timely answer hstage hgone => cases houtcome
  | failed which due timely e hstage halive => cases houtcome
  | answered countdown hstage hanswered =>
    rcases halive : ((start setup tree).run before).callerAlive d.caller with _ | _
    · rw [halive] at houtcome
      cases houtcome
    · exact ⟨before, after, d, hactions, hd, hanswered, halive⟩

/-! ## A caller that vanishes -/

/-- What ends a discovery while its caller is gone gives nothing to the callback. -/
theorem Finishes.callerGone {c : Client} {a : Action} (h : Finishes c id d a outcome)
    (hgone : c.callerAlive d.caller = false) : outcome = .callerGone := by
  cases h with
  | gone which due timely answer hstage _ => rfl
  | failed which due timely e hstage halive =>
    rw [hgone] at halive
    cases halive
  | answered countdown hstage hanswered => exact if_neg (by rw [hgone]; exact Bool.false_ne_true)

/-- **A caller that vanishes before the discovery is over is told nothing**, whenever that is. -/
theorem calls_of_vanished {before after : List Action} {d₀ : Discovery}
    (hd₀ : ((start setup tree).run before).discoveries[id]? = some d₀)
    (hgoing : d₀.outcome? = none)
    (hgone : ((start setup tree).run before).callerAlive d₀.caller = false)
    (hd : ((start setup tree).run (before ++ after)).discoveries[id]? = some d) : d.calls = [] := by
  have hcalls := calls_run (view?_of_discovery hd)
  have hfinished := finished_run (view?_of_discovery hd)
  dsimp only at hcalls hfinished
  have hsilent : ∀ outcome, d.outcome? = some outcome → outcome = .callerGone := by
    intro outcome houtcome
    obtain ⟨before', a, after', d', hsplit, hd', hfinishes⟩ := hfinished outcome houtcome
    -- the discovery was not over when the caller was gone, so it ended then or later
    rcases List.append_eq_append_iff.mp hsplit with ⟨between, rfl, _⟩ | ⟨between, rfl, hrest⟩
    · obtain ⟨d'', hd'', hlater⟩ := later_run hd₀ between
      obtain rfl := Option.some.inj (hd'.symm.trans hd'')
      exact hfinishes.callerGone (hlater.caller ▸ gone_run hd₀ hgone between)
    · cases between with
      | nil =>
        rw [List.append_nil] at hd₀ hgone
        obtain rfl := Option.some.inj (hd'.symm.trans hd₀)
        exact hfinishes.callerGone hgone
      | cons b between =>
        obtain ⟨rfl, _⟩ := List.cons.inj hrest
        obtain ⟨rfl, _⟩ := hfinishes.last hd' hd₀
        cases hgoing
  rw [hcalls, Discovery.delivered]
  rcases houtcome : d.outcome? with _ | outcome
  · split <;> rfl
  · rw [hsilent outcome houtcome]
    split <;> rfl

end run

/-! ## The result -/

/-- These are, in the order of names, the managers in the two lists that a discovery took in a run,
each with the proxy that the registry gave. -/
structure FullList (setup : Setup) (tree : FileTree) (actions : List Action) (id : Nat)
    (found : List (ServiceName × Nat)) : Prop where
  /-- Each manager is there once, and in its place. -/
  sorted : (found.map Prod.fst).Pairwise (· < ·)
  /-- The managers are those in the two lists. -/
  names : ∃ activatable owned, Hears setup tree actions id .activatable true (.ok activatable) ∧
    Hears setup tree actions id .owned true (.ok owned) ∧
    ∀ name, name ∈ found.map Prod.fst ↔
      setup.config.busName name ∈ activatable ∨ setup.config.busName name ∈ owned
  /-- The registry gave the proxies. -/
  proxies : ∀ name proxy, (name, proxy) ∈ found → Obtains setup tree actions id name proxy

/-- A discovery that is over with a result has found all managers. -/
theorem fullList_of_complete {setup : Setup} {tree : FileTree} {actions : List Action} {id : Nat}
    {d : Discovery} (hd : ((start setup tree).run actions).discoveries[id]? = some d)
    (hover : d.stage = .done (.complete d.found.toList)) :
    FullList setup tree actions id d.found.toList := by
  obtain ⟨hsorted, hnames⟩ := exists_lists_of_complete hd hover
  exact ⟨hsorted, hnames, fun name proxy hmem => obtained_run (view?_of_discovery hd) (name, proxy)
    hmem⟩

/-- **A caller that has vanished hears nothing, and one that is there hears once**, after any run of a
client in which a discovery with a callback was begun.

* The callback is called at most once.
* If the caller is gone when the discovery takes a list, whether that list failed or not, then the
  callback is not called and nobody is asked. It is not called either if the caller is gone when
  everyone has answered, or at any moment at which the discovery is not over.
* If the caller is there when the discovery takes a list that failed, the callback is called with that
  error. If it is there when everyone has answered, the callback is called with the full list.
* There are schedules by which everybody gets turns. By every one of them the discovery is over at
  some moment. If the caller was there at all these points, then the callback has been called with
  the error of a list that failed, or with the full list. -/
theorem callback_once_run (setup : Setup) (tree : FileTree) (actions : List Action) (id : Nat)
    (d : Discovery) (hd : ((start setup tree).run actions).discoveries[id]? = some d)
    (hcallback : d.callback = true) :
    d.calls.length ≤ 1 ∧
    (∀ which answer, Hears setup tree actions id which false answer →
      d.calls = [] ∧ ∀ q ∈ ((start setup tree).run actions).questions, q.discovery ≠ id) ∧
    (Ends setup tree actions id false → d.calls = []) ∧
    (∀ before after d₀, actions = before ++ after →
      ((start setup tree).run before).discoveries[id]? = some d₀ →
      d₀.outcome? = none →
      ((start setup tree).run before).callerAlive d₀.caller = false → d.calls = []) ∧
    (∀ which e, Hears setup tree actions id which true (.error e) → d.calls = [.error e]) ∧
    (Ends setup tree actions id true →
      d.calls = [.ok d.found.toList] ∧ FullList setup tree actions id d.found.toList) ∧
    (∃ next, Fair setup tree actions next id) ∧
    ∀ next, Fair setup tree actions next id →
      ∃ n d', (moment setup tree actions next n).discoveries[id]? = some d' ∧
        d'.outcome?.isSome ∧
        ((∀ which answer, ¬ Hears setup tree (history actions next n) id which false answer) →
          ¬ Ends setup tree (history actions next n) id false →
          (∃ which e, Hears setup tree (history actions next n) id which true (.error e) ∧
            d'.calls = [.error e]) ∨
          d'.calls = [.ok d'.found.toList] ∧
            FullList setup tree (history actions next n) id d'.found.toList) := by
  refine ⟨?_, fun which answer hheard => ?_,
    fun hends => calls_of_done hd hcallback (hends.concluded hd), ?_,
    fun which e hheard => calls_of_done hd hcallback (hheard.failed hd), fun hends => ?_,
    ⟨stopping id, fair_stopping setup tree actions id⟩, fun next hfair => ?_⟩
  · rw [show d.calls = d.delivered from calls_run (view?_of_discovery hd), Discovery.delivered,
      if_pos hcallback]
    exact Option.length_toList_le
  · obtain ⟨hover, hnobody⟩ := hheard.gone hd
    exact ⟨calls_of_done hd hcallback hover, hnobody⟩
  · rintro before after d₀ rfl hd₀ hgoing hgone
    exact calls_of_vanished hd₀ hgoing hgone hd
  · have hover := hends.concluded hd
    exact ⟨calls_of_done hd hcallback hover, fullList_of_complete hd hover⟩
  · have hstart : (moment setup tree actions next 0).discoveries[id]? = some d := by
      rw [moment, history, List.range_zero, List.map_nil, List.append_nil]
      exact hd
    obtain ⟨n, d', outcome, _, hd', hover⟩ := exists_over hfair (view?_of_discovery hstart)
    have hcallback' : d'.callback = true := by
      obtain ⟨d'', hd'', hlater⟩ := later_run hd ((List.range n).map next)
      obtain rfl := Option.some.inj (hd'.symm.trans hd'')
      exact hlater.callback.trans hcallback
    have houtcome := Discovery.outcome?_of_done hover
    have hfinished := finished_run (view?_of_discovery hd') outcome houtcome
    refine ⟨n, d', hd', by rw [houtcome]; rfl, fun hthere hend => ?_⟩
    cases outcome with
    | failed e =>
      obtain ⟨which, hheard⟩ := hfinished.failed
      exact .inl ⟨which, e, hheard, calls_of_done hd' hcallback' hover⟩
    | complete found =>
      have hcomplete := hfinished.complete.concluded hd'
      exact .inr ⟨calls_of_done hd' hcallback' hcomplete, fullList_of_complete hd' hcomplete⟩
    | callerGone =>
      rcases hfinished.gone with ⟨which, answer, hheard⟩ | hends
      · exact absurd hheard (hthere which answer)
      · exact absurd hends hend

/-- A caller vanishes after a manager was asked and before that has answered, and is told nothing.
In the same run without that it is told of the manager. -/
theorem callback_once_run_vanished :
    let salut : ServiceName := ⟨"salut", by decide⟩
    let stop : Action := .proxy 0 .forsaken fun _ h => by cases h
    let asking : List Action :=
      [.addCaller "me", .search "all" (some "me") true, .discovery 0,
        .list 0 (.ok ["org.freedesktop.Telepathy.ConnectionManager.salut"])] ++
        List.replicate 2 (.discovery 0) ++ [.list 0 (.ok [])] ++
        List.replicate 3 (.discovery 0) ++ [.question 0]
    let client (actions : List Action) : Client := (start {} ⟨.dir [], []⟩).run actions
    (∃ d, (client (asking ++ [.dropCaller "me"] ++ [stop, .question 0, .discovery 0])).discoveries[0]?
        = some d ∧ d.stage = .done .callerGone ∧ d.calls = []) ∧
      ∃ d, (client (asking ++ [stop, .question 0, .discovery 0])).discoveries[0]? = some d ∧
        d.calls = [.ok [(salut, 0)]] := by
  intro salut stop asking client
  constructor
  · have hlast : ((client (asking ++ [.dropCaller "me"] ++
        [stop, .question 0, .discovery 0])).discoveries[0]?).map
        (fun d => (d.callback, d.stage)) = some (true, .done .callerGone) := by
      decide +kernel
    have hgone : ((client (asking ++ [.dropCaller "me"])).discoveries[0]?).map
        (fun d => (d.outcome?, (client (asking ++ [.dropCaller "me"])).callerAlive d.caller)) =
        some (none, false) := by
      decide +kernel
    obtain ⟨d, hd, hdone⟩ := Option.map_eq_some_iff.mp hlast
    obtain ⟨d₀, hd₀, hbefore⟩ := Option.map_eq_some_iff.mp hgone
    obtain ⟨hcallback, hstage⟩ := Prod.mk.inj hdone
    obtain ⟨hgoing, halive⟩ := Prod.mk.inj hbefore
    obtain ⟨_, _, _, hvanished, _⟩ := callback_once_run {} ⟨.dir [], []⟩ _ 0 d hd hcallback
    exact ⟨d, hd, hstage, hvanished _ _ d₀ rfl hd₀ hgoing halive⟩
  · have hlast : ((client (asking ++ [stop, .question 0, .discovery 0])).discoveries[0]?).map
        (fun d => (d.callback, d.found.toList)) = some (true, [(salut, 0)]) := by
      decide +kernel
    have hthere : ((client (asking ++ [stop, .question 0])).discoveries[0]?).map
        (fun d => (d.isAnswered, (client (asking ++ [stop, .question 0])).callerAlive d.caller)) =
        some (true, true) := by
      decide +kernel
    obtain ⟨d, hd, hdone⟩ := Option.map_eq_some_iff.mp hlast
    obtain ⟨d₀, hd₀, hbefore⟩ := Option.map_eq_some_iff.mp hthere
    obtain ⟨hcallback, hfound⟩ := Prod.mk.inj hdone
    obtain ⟨hanswered, halive⟩ := Prod.mk.inj hbefore
    obtain ⟨_, _, _, _, _, hends, _⟩ := callback_once_run {} ⟨.dir [], []⟩ _ 0 d hd hcallback
    obtain ⟨hcalls, _⟩ := hends ⟨asking ++ [stop, .question 0], [], d₀, rfl, hd₀, hanswered, halive⟩
    exact ⟨d, hd, hcalls.trans (by rw [hfound])⟩

end Client

end Roster
