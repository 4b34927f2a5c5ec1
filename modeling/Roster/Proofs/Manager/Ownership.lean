import Roster.Proofs.Client.Taking
import Roster.Proofs.Manager.Calls
import Roster.Proofs.Manager.Progress

/-!
# When the owner changes

A report about the owner may tell that the manager has left, that it has come, or that another one
has taken its place (`Leaves` covers the first and the last). What a report does to calls:

* **The old call is over for good** (`callOver_run`). When the manager leaves, its call ends, and the
  calls that are begun later have later numbers (`call_eq_run`). So the proxy never takes an answer that
  was sent for it: it passes that over, and any answer that it takes is one to a later call.
* **A new manager is asked** (`call_step_of_owner`). A report of an owner makes a call due. Where
  there is something to learn a call is on its way afterwards: the one from before, which started the
  manager, or else a new one.
* **A missing manager is not started** (`step_of_unowned`), unless the report is the first.
-/

namespace Roster.Manager

/-- A report tells that the manager that was there has left: there is no owner any more, or another
one. An owner without a name is none. -/
def Leaves (m : Manager) (owner : Option String) : Prop :=
  owner.filter (· ≠ "") = none ∨ m.running = true

/-! ## The numbers of calls -/

section run

variable {busName : String} {always : Bool} {path : Option Path}

/-- The call on its way is the one that was begun last. -/
theorem call_eq_run {occurrences : List Occurrence} {k : Nat}
    (h : ((start busName always path).run occurrences).call = some k) :
    k = ((start busName always path).run occurrences).callsStarted := by
  induction occurrences using List.reverseRecOn with
  | nil => cases h
  | append_singleton before o ih =>
    rw [run_concat] at h ⊢
    rcases calls_step_run busName always path before o with ⟨hstarted, hcall⟩ | ⟨hstarted, hcall, _⟩
    · rw [hstarted]
      rcases hcall with hnone | hsame
      · rw [hnone] at h
        cases h
      · exact ih (hsame.symm.trans h)
    · rw [hcall, Option.some.injEq] at h
      omega

/-- Where a call was begun and is not on its way, only later ones will be. -/
theorem lt_call_run {before : List Occurrence} {k : Nat}
    (hbegun : k ≤ ((start busName always path).run before).callsStarted)
    (hgone : ((start busName always path).run before).call ≠ some k) (after : List Occurrence) {j : Nat}
    (hj : ((start busName always path).run (before ++ after)).call = some j) : k < j := by
  suffices h : k ≤ ((start busName always path).run (before ++ after)).callsStarted ∧
      ∀ j, ((start busName always path).run (before ++ after)).call = some j → k < j from h.2 j hj
  clear hj
  induction after using List.reverseRecOn with
  | nil =>
    rw [List.append_nil]
    refine ⟨hbegun, fun j hj => ?_⟩
    have hlast := call_eq_run hj
    have hother : k ≠ j := fun heq => hgone (heq ▸ hj)
    omega
  | append_singleton after o ih =>
    rw [← List.append_assoc, run_concat]
    obtain ⟨hle, hlater⟩ := ih
    rcases calls_step_run busName always path (before ++ after) o with
      ⟨hstarted, hcall⟩ | ⟨hstarted, hcall, _⟩
    · refine ⟨hstarted ▸ hle, fun j hj => ?_⟩
      rcases hcall with hnone | hsame
      · rw [hnone] at hj
        cases hj
      · exact hlater j (hsame.symm.trans hj)
    · constructor
      · omega
      · intro j hj
        rw [hcall, Option.some.injEq] at hj
        omega

/-- Once the owner was told it is known to a proxy that goes on. -/
theorem nameKnown_of_tellsOwner {occurrences : List Occurrence}
    (htold : ∃ o ∈ occurrences, o.tellsOwner = true)
    (hd : ((start busName always path).run occurrences).disposed = false) :
    ((start busName always path).run occurrences).nameKnown = true := by
  induction occurrences using List.reverseRecOn with
  | nil =>
    obtain ⟨o, hmem, _⟩ := htold
    cases hmem
  | append_singleton before o ih =>
    rw [run_concat] at hd ⊢
    have hlive := disposed_of_step hd
    rw [step, runDeferred_frame Manager.nameKnown nameKnown_runStep]
    by_cases hk : ((start busName always path).run before).nameKnown = true
    · exact (handled_react hlive o).nameKnown hk
    · have hwatching := (unbegun_run hlive (Bool.eq_false_iff.mpr hk)).watching
      have ho : o.tellsOwner = true := by
        obtain ⟨o', hmem, ho'⟩ := htold
        rcases List.mem_append.mp hmem with hbefore | hlast
        · exact absurd (ih ⟨o', hbefore, ho'⟩ hlive) hk
        · rwa [← List.mem_singleton.mp hlast]
      cases o with
      | owner owner =>
        rw [react_owner hlive, if_pos hwatching]
        exact nameKnown_onOwner _ owner
      | watchClosed =>
        rw [react_watchClosed hlive, if_pos hwatching, onWatchClosed]
        split
        · assumption
        · exact nameKnown_onOwner _ none
      | _ => cases ho

end run

variable {m : Manager}

/-! ## Calls that are over -/

/-- The call of a number is over for a proxy: no answer to it can bring anything about any more. -/
structure CallOver (k : Nat) (m : Manager) : Prop where
  /-- If a call is on its way, it was begun later. -/
  later : ∀ j, m.call = some j → k < j
  /-- If none is on its way, no answer changes anything. -/
  deaf : m.call = none → ∀ answer, m.step (.reply answer) = m
  /-- A client passes over an answer that was sent for this call. It sends the call on its way, if there
  is one. -/
  passed : ∀ (c : Client) (id : Nat) (p : Proxy) (s : SentCall), p.manager = m → p.sent = some s →
    s.number = k → Client.sentCall? p = none ∧ c.callStep? id p = m.call.map (c.sendCall id p)
  /-- What such a proxy does next is to send the call on its way, to which the bus gives an answer of its
  own, or the proxy takes something that is no answer. -/
  untaken : ∀ (c c' : Client) (id : Nat) (p : Proxy) (s : SentCall), c.proxy? id = some p →
    p.manager = m → p.sent = some s → s.number = k → c.proxyStep? id = some c' →
      (∃ j, m.call = some j ∧ c.Sends id p j c') ∨
      ∃ o, (∀ answer, o ≠ .reply answer) ∧ c'.known? id = some (p.name, m.step o)

/-- Without a call on its way there is nothing to answer. -/
theorem step_reply_of_uncalled (hidle : m.deferred = []) (hcall : m.call = none)
    (answer : Except BusError Json) : m.step (.reply answer) = m := by
  have hreact : m.react (.reply answer) = m := by
    rcases hd : m.disposed with _ | _
    · rw [react_reply hd, onReply_of_idle hcall]
    · exact if_pos hd
  rw [step, hreact, runDeferred_of_idle hidle]

/-- If only later calls can be on their way, then a proxy does not take an answer to this one. -/
theorem callOver_of_later (hidle : m.deferred = []) {k : Nat} (hlater : ∀ j, m.call = some j → k < j) :
    CallOver k m := by
  have hgone : m.call ≠ some k := fun hk => Nat.lt_irrefl k (hlater k hk)
  refine ⟨hlater, step_reply_of_uncalled hidle, ?_, ?_⟩
  · rintro c id p s rfl hsent rfl
    exact ⟨Client.sentCall?_of_gone hsent hgone, Client.callStep?_of_gone c id hsent hgone⟩
  · rintro c c' id p s hp rfl hsent rfl hstep
    refine (Client.timely_of_proxyStep? hp hstep).imp_right ?_
    rintro ⟨o, htimely, hknown⟩
    refine ⟨o, ?_, hknown⟩
    rintro answer rfl
    -- what is there of an answer is one to the call that is over
    obtain ⟨s', hsent', hcall, _⟩ := htimely
    cases hsent.symm.trans hsent'
    exact hgone hcall

/-- **A call that is over stays over**, whatever happens later. -/
theorem callOver_run {busName : String} {always : Bool} {path : Option Path} {before : List Occurrence}
    {k : Nat} (hbegun : k ≤ ((start busName always path).run before).callsStarted)
    (hgone : ((start busName always path).run before).call ≠ some k) (after : List Occurrence) :
    CallOver k (((start busName always path).run before).run after) := by
  rw [← run_append]
  exact callOver_of_later (deferred_run _ rfl (before ++ after)) fun _ => lt_call_run hbegun hgone after

/-! ## Steps that are due -/

/-- What is due stays due when another step becomes due. -/
theorem mem_deferred_of_mem {s : Deferred} (hs : s ∈ m.deferred) (s' : Deferred) :
    s ∈ (m.schedule s').deferred := by
  unfold schedule
  split
  · exact hs
  · exact List.mem_append_left _ hs

/-- A call is on its way after the step that calls the manager, if there is something to learn. -/
theorem call_introspect (hwhy : m.alwaysIntrospect = true ∨ m.source = .none) :
    m.introspect.call ≠ none := by
  unfold introspect
  split
  · rename_i hskip
    rcases hskip with hcall | ⟨hoff, hknown⟩
    · exact Option.isSome_iff_ne_none.mp hcall
    · rcases hwhy with halways | hunknown
      · exact absurd (hoff.symm.trans halways) Bool.false_ne_true
      · exact absurd hunknown hknown
  · simp

/-- A call that is due is on its way after the steps that are due, if there is something to learn. -/
theorem call_runDeferred_of_due (hdue : .introspect ∈ m.deferred)
    (hwhy : m.alwaysIntrospect = true ∨ m.source = .none) : m.runDeferred.call ≠ none := by
  have hend := runDeferred_induct
    (P := fun n => (n.alwaysIntrospect = true ∨ n.source = .none) ∧
      (n.call ≠ none ∨ .introspect ∈ n.deferred))
    (fun n s rest hn h => ?_) m ⟨hwhy, .inr hdue⟩
  · rcases hend.2 with hcall | hmem
    · exact hcall
    · rw [deferred_runDeferred] at hmem
      cases hmem
  · obtain ⟨hlearn, hnext⟩ := h
    have hlearn' : ({ n with deferred := rest }.runStep s).alwaysIntrospect = true ∨
        ({ n with deferred := rest }.runStep s).source = .none := by
      rw [runStep_frame Manager.alwaysIntrospect (fun _ _ => rfl) (fun _ _ _ => rfl)
          (fun _ _ _ _ => rfl) n s rest,
        runStep_frame Manager.source (fun _ _ => rfl) (fun _ _ _ => rfl) (fun _ _ _ _ => rfl) n s
          rest]
      exact hlearn
    refine ⟨hlearn', ?_⟩
    cases s with
    | introspect => exact .inl (call_introspect (m := { n with deferred := rest }) hlearn)
    | readCacheFile =>
      show (readCacheFile _).call ≠ none ∨ .introspect ∈ (readCacheFile _).deferred
      rw [(readCacheFile_frame { n with deferred := rest }).2]
      refine hnext.imp_right fun hmem => ?_
      have hrest : .introspect ∈ { n with deferred := rest }.deferred := by simpa [hn] using hmem
      unfold readCacheFile
      split
      · exact hrest
      · split
        · exact mem_deferred_of_mem hrest .introspect
        · exact hrest

/-! ## Reports about the owner -/

/-- A report of an owner makes a call due. -/
theorem mem_deferred_onOwner {owner : Option String} (howner : owner.filter (· ≠ "") ≠ none) :
    .introspect ∈ (m.onOwner owner).deferred := by
  have hgained : .introspect ∈ m.onNameGained.deferred := mem_deferred_schedule _ .introspect
  have hlearn : ∀ n : Manager, .introspect ∈ n.deferred → .introspect ∈ n.learnName.deferred := by
    intro n hn
    unfold learnName
    split
    · exact hn
    · dsimp only
      split
      · exact mem_deferred_of_mem (mem_deferred_of_mem hn .readCacheFile) .introspect
      · exact mem_deferred_of_mem hn .readCacheFile
  unfold onOwner
  dsimp only
  split
  · rename_i hnone
    exact absurd hnone howner
  · exact hlearn _ hgained

/-- The report of a first owner leaves the call alone that is on its way. -/
theorem call_onOwner_of_new {owner : Option String} (howner : owner.filter (· ≠ "") ≠ none)
    (hrunning : m.running = false) : (m.onOwner owner).call = m.call := by
  have hschedule : ∀ (n : Manager) s, (n.schedule s).call = n.call := by
    intro n s
    unfold schedule
    split <;> rfl
  have hlearn : ∀ n : Manager, n.learnName.call = n.call := by
    intro n
    unfold learnName
    split
    · rfl
    · dsimp only
      split
      · exact (hschedule _ .introspect).trans (hschedule n .readCacheFile)
      · exact hschedule n .readCacheFile
  unfold onOwner
  dsimp only
  split
  · rename_i hnone
    exact absurd hnone howner
  · refine (hlearn m.onNameGained).trans ?_
    unfold onNameGained
    rw [hrunning]
    exact hschedule _ .introspect

/-- Losing the owner makes nothing due. -/
theorem deferred_onNameLost (m : Manager) : m.onNameLost.deferred = m.deferred := by
  have hresolve : ∀ (n : Manager) error, (n.resolveReady error).deferred = n.deferred := by
    intro n error
    unfold resolveReady
    split
    · dsimp only
      split <;> rfl
    · rfl
  have hlost : { m with running := false }.loseCall.deferred = m.deferred := by
    unfold loseCall endIntrospection
    split
    · exact hresolve _ _
    · rfl
  unfold onNameLost
  dsimp only
  split
  · exact hlost
  · exact hlost

/-- A report that there is no owner makes nothing due where the owner is known. -/
theorem deferred_onOwner_of_unowned {owner : Option String}
    (howner : owner.filter (· ≠ "") = none) (hk : m.nameKnown = true) :
    (m.onOwner owner).deferred = m.deferred := by
  have hknown : m.onNameLost.nameKnown = true :=
    (congrArg Standing.nameKnown (standing_onNameLost m)).trans hk
  unfold onOwner
  rw [howner]
  show m.onNameLost.learnName.deferred = _
  rw [learnName, if_pos hknown, deferred_onNameLost]

section live

variable (hlive : m.disposed = false) (hwatching : m.watching = true) {owner : Option String}
include hlive hwatching

/-- **A manager that leaves takes its call with it**: what is on its way afterwards was begun just
now. -/
theorem call_step_of_leaves (hleaves : m.Leaves owner) :
    (m.react (.owner owner)).call = none ∧
      ((m.step (.owner owner)).call = none ∧
          (m.step (.owner owner)).callsStarted = m.callsStarted ∨
        (m.step (.owner owner)).call = some (m.callsStarted + 1) ∧
          (m.step (.owner owner)).callsStarted = m.callsStarted + 1) := by
  have hreact : m.react (.owner owner) = m.onOwner owner := by
    rw [react_owner hlive, if_pos hwatching]
  have hended : (m.onOwner owner).call = none := call_onOwner_of_left m hleaves
  have hstarted : (m.onOwner owner).callsStarted = m.callsStarted :=
    congrArg Standing.callsStarted (standing_onOwner m owner)
  rw [step, hreact]
  refine ⟨hended, ?_⟩
  cases atMostOneCall_runDeferred (m.onOwner owner) with
  | same hcall hcount => exact .inl ⟨hcall.trans hended, hcount.trans hstarted⟩
  | begun hidle hwhy hcall hcount =>
    rw [hstarted] at hcall hcount
    exact .inr ⟨hcall, hcount⟩

/-- **A new manager is asked**, if there is something to learn. The call that is on its way then was
begun just now, unless it had been begun to start the manager. -/
theorem call_step_of_owner (howner : owner.filter (· ≠ "") ≠ none)
    (hwhy : m.alwaysIntrospect = true ∨ m.source = .none) :
    (m.running = true ∨ m.call = none) ∧
        (m.step (.owner owner)).call = some (m.callsStarted + 1) ∧
        (m.step (.owner owner)).callsStarted = m.callsStarted + 1 ∨
      (m.running = false ∧ m.call ≠ none) ∧
        (m.step (.owner owner)).call = m.call ∧
        (m.step (.owner owner)).callsStarted = m.callsStarted := by
  have hreact : m.react (.owner owner) = m.onOwner owner := by
    rw [react_owner hlive, if_pos hwatching]
  have hstanding := standing_onOwner m owner
  have hlearn : (m.onOwner owner).alwaysIntrospect = true ∨ (m.onOwner owner).source = .none := by
    rw [show (m.onOwner owner).alwaysIntrospect = m.alwaysIntrospect from
        congrArg Standing.alwaysIntrospect hstanding,
      show (m.onOwner owner).source = m.source from
        congrArg Knowledge.source (knowledge_onOwner m owner)]
    exact hwhy
  have honway : (m.step (.owner owner)).call ≠ none := by
    rw [step, hreact]
    exact call_runDeferred_of_due (mem_deferred_onOwner howner) hlearn
  by_cases hrunning : m.running = true
  · obtain ⟨_, ⟨hnone, _⟩ | hbegun⟩ := call_step_of_leaves hlive hwatching (.inr hrunning)
    · exact absurd hnone honway
    · exact .inl ⟨.inl hrunning, hbegun⟩
  · rw [Bool.not_eq_true] at hrunning
    have hkept := call_onOwner_of_new howner hrunning
    have hstarted : (m.onOwner owner).callsStarted = m.callsStarted :=
      congrArg Standing.callsStarted hstanding
    rw [step, hreact] at honway ⊢
    cases atMostOneCall_runDeferred (m.onOwner owner) with
    | same hcall hcount =>
      have hsame := hcall.trans hkept
      refine .inr ⟨⟨hrunning, ?_⟩, hsame, hcount.trans hstarted⟩
      rwa [hsame] at honway
    | begun hidle _ hcall hcount =>
      rw [hstarted] at hcall hcount
      exact .inl ⟨.inr (hkept.symm.trans hidle), hcall, hcount⟩

/-- **A missing manager is not started** by a report that tells so, if the owner is known. -/
theorem step_of_unowned (hidle : m.deferred = []) (hk : m.nameKnown = true)
    (howner : owner.filter (· ≠ "") = none) :
    (m.step (.owner owner)).call = none ∧
      (m.step (.owner owner)).callsStarted = m.callsStarted := by
  have hnothing : (m.onOwner owner).deferred = [] :=
    (deferred_onOwner_of_unowned howner hk).trans hidle
  rw [step, react_owner hlive, if_pos hwatching, runDeferred_of_idle hnothing]
  exact ⟨call_onOwner_of_left m (.inl howner),
    congrArg Standing.callsStarted (standing_onOwner m owner)⟩

end live

/-- **Ownership churn lets no stale answer in.** A report about the owner is heard by a proxy after
any run, with any reports before.

If it tells that the manager left, for good or in favour of another one, then the call that was on
its way has ended before the steps that are due, and it is over whatever happens later (`CallOver`): if
a call is on its way then, it is a later one, and if none is, no answer changes anything. A client passes
over an answer that was sent for the old call: what its proxy does next is to send the call on its way,
if there is one, to which the bus gives an answer of its own, or it takes something that is no answer.

If it tells of an owner and there is something to learn, then one call is on its way after the steps
that are due. It was begun just now if the name had an owner before or no call was on its way;
otherwise it is the call from before, and no other was begun.

If it tells that there is no owner, and the owner was told before, then no call is begun. -/
theorem ownership_churn_run (busName : String) (always : Bool) (path : Option Path)
    (before : List Occurrence) (owner : Option String)
    (hlive : ((start busName always path).run before).disposed = false)
    (hwatching : ((start busName always path).run before).watching = true) :
    let m := (start busName always path).run before
    let m' := m.step (.owner owner)
    (m.Leaves owner → ∀ k, m.call = some k →
      (m.react (.owner owner)).call = none ∧ ∀ after, CallOver k (m'.run after)) ∧
    (owner.filter (· ≠ "") ≠ none → m.alwaysIntrospect = true ∨ m.source = .none →
      ∃ k, m'.call = some k ∧
        (m.running = true ∨ m.call = none →
          k = m.callsStarted + 1 ∧ m'.callsStarted = m.callsStarted + 1) ∧
        (m.running = false → m.call ≠ none →
          m.call = some k ∧ m'.callsStarted = m.callsStarted)) ∧
    (owner.filter (· ≠ "") = none → (∃ o ∈ before, o.tellsOwner = true) →
      m'.call = none ∧ m'.callsStarted = m.callsStarted) := by
  intro m m'
  refine ⟨fun hleaves k hk => ?_, fun howner hwhy => ?_, fun howner htold => ?_⟩
  · obtain ⟨hended, hafter⟩ := call_step_of_leaves hlive hwatching hleaves
    have hlast : k = m.callsStarted := call_eq_run hk
    have hgone : k ≤ m'.callsStarted ∧ m'.call ≠ some k := by
      rcases hafter with ⟨hcall, hstarted⟩ | ⟨hcall, hstarted⟩
      · change m'.call = none at hcall
        change m'.callsStarted = m.callsStarted at hstarted
        rw [hcall, hstarted]
        exact ⟨Nat.le_of_eq hlast, by simp⟩
      · change m'.call = some (m.callsStarted + 1) at hcall
        change m'.callsStarted = m.callsStarted + 1 at hstarted
        rw [hcall, hstarted]
        exact ⟨by omega, fun hsame => by cases hsame; omega⟩
    refine ⟨hended, fun after => ?_⟩
    rw [show m' = (start busName always path).run (before ++ [.owner owner]) from
      (run_concat _ before _).symm] at hgone ⊢
    exact callOver_run hgone.1 hgone.2 after
  · rcases call_step_of_owner hlive hwatching howner hwhy with
      ⟨hnew, hcall, hstarted⟩ | ⟨⟨hidle, honway⟩, hcall, hstarted⟩
    · refine ⟨_, hcall, fun _ => ⟨rfl, hstarted⟩, fun hidle honway => ?_⟩
      rcases hnew with hrunning | hnone
      · exact absurd (hidle.symm.trans hrunning) Bool.false_ne_true
      · exact absurd hnone honway
    · obtain ⟨k, hk⟩ := Option.ne_none_iff_exists'.mp honway
      refine ⟨k, hcall.trans hk, fun hnew => ?_, fun _ _ => ⟨hk, hstarted⟩⟩
      rcases hnew with hrunning | hnone
      · exact absurd (hidle.symm.trans hrunning) Bool.false_ne_true
      · exact absurd hnone honway
  · exact step_of_unowned hlive hwatching (deferred_run _ rfl before)
      (nameKnown_of_tellsOwner htold hlive) howner

/-- The manager is handed over while its call is on its way, then it leaves. The first call is over, an
answer to it that comes now is passed over in favour of the second call, and when the manager has left
nobody is called any more. -/
theorem ownership_churn_run_handed_over :
    let m₀ := start "x" false none
    let before : List Occurrence := [.owner (some ":1.1")]
    let m := m₀.run before
    let m' := m.step (.owner (some ":1.2"))
    m.disposed = false ∧ m.watching = true ∧ m.Leaves (some ":1.2") ∧ m.call = some 1 ∧
      (m.react (.owner (some ":1.2"))).call = none ∧ m'.call = some 2 ∧
      (∀ after, (m'.run after).call ≠ some 1) ∧
      (∀ (c : Client) (p : Proxy) (s : SentCall), p.manager = m' → p.sent = some s → s.number = 1 →
        c.callStep? 0 p = some (c.sendCall 0 p 2)) ∧
      (m'.step (.owner none)).call = none ∧ (m'.step (.owner none)).callsStarted = 2 := by
  intro m₀ before m m'
  have hlive : m.disposed = false := by decide +kernel
  have hwatching : m.watching = true := by decide +kernel
  have hleaves : m.Leaves (some ":1.2") := .inr (by decide +kernel)
  have hcall : m.call = some 1 := by decide +kernel
  obtain ⟨hgone, hnew, _⟩ :=
    ownership_churn_run "x" false none before (some ":1.2") hlive hwatching
  obtain ⟨k, hk, hbegun, _⟩ := hnew (by decide) (.inr (by decide +kernel))
  have hcount : m.callsStarted = 1 := by decide +kernel
  have hk' : k = 2 := (hbegun (.inl (by decide +kernel))).1.trans (congrArg (· + 1) hcount)
  have htold : ∃ o ∈ before ++ [.owner (some ":1.2")], o.tellsOwner = true :=
    ⟨.owner (some ":1.1"), by simp [before], rfl⟩
  have hmissing := (ownership_churn_run "x" false none (before ++ [.owner (some ":1.2")]) none
    (by decide +kernel) (by decide +kernel)).2.2 (by decide) htold
  obtain ⟨hended, hover⟩ := hgone hleaves 1 hcall
  have hsecond : m'.call = some 2 := hk' ▸ hk
  refine ⟨hlive, hwatching, hleaves, hcall, hended, hsecond, fun after hfirst => ?_,
    fun c p s hp hsent hs => ?_, hmissing.1, hmissing.2.trans (by decide +kernel)⟩
  · exact absurd ((hover after).later 1 hfirst) (Nat.lt_irrefl 1)
  · have hpassed := ((hover []).passed c 0 p s hp hsent hs).2
    rwa [show (m'.run []).call = some 2 from hsecond] at hpassed

end Roster.Manager
