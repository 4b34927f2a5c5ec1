import Roster.Proofs.Manager.Ending

/-!
# The order of arrival does not matter

While a call and a cache read are both on their way, either may end first. What comes of them is the
same (`conclusion`): an answer of the manager that can be understood counts for more than the cache
file, the cache file fills a gap, and the failure of the call is told only if both have failed. The
two orders reach it in different ways. If the call fails first, its failure is held back, and the
end of the read lets it out or drops it; if the read fails first, a call is made due, which is not
begun as one is on its way.

`order_of_arrival_run` says that both orders end in `concluded`, but for what tells the order
(`Alike`): the interfaces, which accumulate, and what was published and told as an event.
-/

namespace Roster.Manager

/-! ## What comes of a call and a cache read -/

/-- What a call and a cache read lead to. -/
structure Conclusion where
  /-- Where what is known comes from in the end. -/
  source : InfoSource
  /-- The protocols in the end. -/
  protocols : ProtocolSet
  /-- What those who wait are told. -/
  outcome : Outcome ManagerError

/-- What comes of the call and the cache read on their way, if they end so. -/
def conclusion (m : Manager) (answer : Except BusError Json) (result : ReadEnd) : Conclusion :=
  match decode answer with
  | .ok d => ⟨.live, d.protocols, .ready⟩
  | .error e =>
    if m.source = .none then
      match result with
      | .described d => ⟨.file, d.protocols, .ready⟩
      | _ => ⟨.none, m.protocols, .failed e⟩
    else ⟨m.source, m.protocols, .ready⟩

/-- The state after a call and a cache read have led to something: neither is on its way any more,
no failure is held back, and everyone who was parked is answered. Nothing else has changed. -/
def concluded (m : Manager) (c : Conclusion) : Manager :=
  { m with
    call := none
    read := none
    heldFailure := none
    source := c.source
    protocols := c.protocols
    gate := { m.gate with waiters := [], outcome := some c.outcome }
    answers := m.answers ++ m.gate.waiters.map fun w => (w, c.outcome) }

/-- The same state, but for the interfaces, what was published, and the events. -/
def Alike (m m' : Manager) : Prop :=
  ∃ interfaces snapshot publications events, m' =
    { m with
      interfaces := interfaces
      snapshot := snapshot
      publications := publications
      events := events }

/-- A proxy that goes on and has nothing to do at the moment. -/
structure Resting (m : Manager) : Prop where
  /-- It has not stopped. -/
  live : m.disposed = false
  /-- No step is due. -/
  idle : m.deferred = []
  /-- The gate is not closed. -/
  opened : m.gate.closed = false

variable {m : Manager}

/-- Those who wait are told that the manager is ready, as something is known. -/
theorem resolveReady_eq_concluded_ready (hopen : m.gate.closed = false) (hknown : m.source ≠ .none)
    (error : Option ManagerError) :
    m.resolveReady error =
      { m.concluded ⟨m.source, m.protocols, .ready⟩ with call := m.call, read := m.read } := by
  rw [resolveReady_of_known hknown, openGate, Gate.resolve_of_open hopen]
  rfl

/-- Those who wait are told the failure, as nothing is known and no cache read may succeed. -/
theorem resolveReady_eq_concluded_failed (hopen : m.gate.closed = false)
    (hunknown : m.source = .none) (hheld : m.heldFailure = none) (hsure : m.awaitsCacheFile = false)
    (e : ManagerError) :
    m.resolveReady (some e) =
      { m.concluded ⟨.none, m.protocols, .failed e⟩ with call := m.call, read := m.read } := by
  rw [resolveReady_of_sure hunknown hsure, openGate, Gate.resolve_of_open hopen, concluded, ← hheld,
    ← hunknown]

/-- A call that is made due while one is on its way is not begun. -/
theorem runDeferred_schedule_introspect (hidle : m.deferred = []) (hcall : m.call ≠ none) :
    (m.schedule .introspect).runDeferred = m := by
  have hnot : m.runStep .introspect = m := by
    show introspect _ = _
    unfold introspect
    rw [if_pos (.inl (Option.isSome_iff_ne_none.mpr hcall))]
  rw [runDeferred_schedule hidle, hnot, runDeferred_of_idle hidle]

/-- An answer after which nothing is due. -/
theorem step_reply_of_idle (h : Resting m) {answer : Except BusError Json} {m' : Manager}
    (hreply : m.onReply answer = m') (hidle : m'.deferred = []) : m.step (.reply answer) = m' := by
  rw [step, react_reply h.live, hreply, runDeferred_of_idle hidle]

/-- An end of a cache read after which nothing is due. -/
theorem step_cacheRead_of_idle (h : Resting m) {result : ReadEnd} {m' : Manager}
    (hend : m.onCacheRead result = m') (hidle : m'.deferred = []) :
    m.step (.cacheRead result) = m' := by
  rw [step, react_cacheRead h.live, hend, runDeferred_of_idle hidle]

/-! ## The answer to the call -/

/-- The end of a call when something is known: those who wait are told so. -/
theorem endIntrospection_of_known (hopen : m.gate.closed = false) (hknown : m.source ≠ .none)
    (error : Option ManagerError) :
    m.endIntrospection error =
      { m.concluded ⟨m.source, m.protocols, .ready⟩ with
        read := m.read
        events := m.events ++ [.gotInfo m.source] } := by
  unfold endIntrospection
  exact resolveReady_eq_concluded_ready (m := { m with call := none }.emit (.gotInfo m.source))
    hopen hknown error

/-- A call that fails when nothing is known ends with a failure, after the events that tell of it.
-/
theorem onReply_error_of_unknown (hcall : m.call ≠ none) {answer : Except BusError Json}
    {e : ManagerError} (hdecode : decode answer = .error e) :
    ∃ events, m.onReply answer =
      { m with call := none, events := events }.resolveReady (some e) := by
  rw [onReply_of_error hcall hdecode]
  split
  · exact ⟨_, rfl⟩
  · exact ⟨_, rfl⟩

section reply

variable {answer : Except BusError Json} (h : Resting m) (hcall : m.call ≠ none)
include h hcall

/-- An answer that can be understood is what is known then, and those who wait are told so. -/
theorem step_reply_ok {d : Description} (hdecode : decode answer = .ok d) :
    Alike { m.concluded ⟨.live, d.protocols, .ready⟩ with read := m.read }
      (m.step (.reply answer)) := by
  have hknown : ({ m with call := none }.install .live d).source ≠ .none := by
    rw [source_install_live]
    decide
  have hend := endIntrospection_of_known (m := { m with call := none }.install .live d) h.opened
    hknown none
  rw [step_reply_of_idle h ((onReply_of_ok hcall hdecode).trans hend) h.idle]
  exact ⟨_, _, _, _, rfl⟩

/-- A call that fails does not matter where something is known. -/
theorem step_reply_error_of_known {e : ManagerError} (hdecode : decode answer = .error e)
    (hknown : m.source ≠ .none) :
    Alike { m.concluded ⟨m.source, m.protocols, .ready⟩ with read := m.read }
      (m.step (.reply answer)) := by
  have hreply := onReply_of_error hcall hdecode
  rw [if_neg fun hnew => hknown hnew.1] at hreply
  have hend := endIntrospection_of_known (m := { m with call := none }) h.opened hknown (some e)
  rw [step_reply_of_idle h (hreply.trans hend) h.idle]
  exact ⟨_, _, _, _, rfl⟩

/-- The failure of a call is held back while a cache read is on its way that may still succeed. -/
theorem step_reply_held {e : ManagerError} (hdecode : decode answer = .error e)
    (hunknown : m.source = .none) (hread : m.read ≠ none) :
    Alike { m with call := none, heldFailure := some e } (m.step (.reply answer)) := by
  obtain ⟨events, hreply⟩ := onReply_error_of_unknown hcall hdecode
  have hawaits : { m with call := none, events := events }.awaitsCacheFile = true := by
    simp [awaitsCacheFile, Option.isSome_iff_ne_none, hread]
  have hend := resolveReady_of_awaits (m := { m with call := none, events := events }) hunknown
    hawaits e
  rw [step_reply_of_idle h (hreply.trans hend) h.idle]
  exact ⟨_, _, _, _, rfl⟩

/-- The failure of a call is told if no cache read is on its way. -/
theorem step_reply_failed {e : ManagerError} (hdecode : decode answer = .error e)
    (hunknown : m.source = .none) (hread : m.read = none) (hheld : m.heldFailure = none) :
    Alike (m.concluded ⟨.none, m.protocols, .failed e⟩) (m.step (.reply answer)) := by
  obtain ⟨events, hreply⟩ := onReply_error_of_unknown hcall hdecode
  have hsure : { m with call := none, events := events }.awaitsCacheFile = false := by
    simp [awaitsCacheFile, hread, h.idle]
  have hend := resolveReady_eq_concluded_failed (m := { m with call := none, events := events })
    h.opened hunknown hheld hsure e
  rw [step_reply_of_idle h (hreply.trans hend) h.idle]
  dsimp only
  rw [hread]
  exact ⟨_, _, _, _, rfl⟩

end reply

/-! ## The end of the cache read -/

/-- Where nothing is known, the cache file becomes what is known. -/
theorem install_file_of_unknown (hunknown : m.source = .none) (d : Description) :
    ∃ interfaces snapshot publications, m.install .file d =
      { m with
        source := .file
        protocols := d.protocols
        interfaces := interfaces
        snapshot := snapshot
        publications := publications } := by
  unfold install
  rw [hunknown]
  exact ⟨_, _, _, rfl⟩

section cacheRead

variable (h : Resting m) (hread : m.read ≠ none)
include h hread

/-- Where something is known, a cache read that ends is over, and that is all. -/
theorem step_cacheRead_of_known (hknown : m.source ≠ .none) (hheld : m.heldFailure = none)
    (result : ReadEnd) : m.step (.cacheRead result) = { m with read := none } := by
  refine step_cacheRead_of_idle h ?_ h.idle
  cases result with
  | described d => exact onCacheRead_superseded hread hknown d
  | failed =>
    rw [onCacheRead_failed hread hheld]
    exact if_neg hknown
  | cancelled => exact onCacheRead_cancelled hread

/-- A cache file fills the gap where nothing is known, and those who wait are told so. -/
theorem step_cacheRead_described (hunknown : m.source = .none) (d : Description) :
    Alike { m.concluded ⟨.file, d.protocols, .ready⟩ with call := m.call }
      (m.step (.cacheRead (.described d))) := by
  obtain ⟨interfaces, snapshot, publications, hinstall⟩ :=
    install_file_of_unknown (m := { m with read := none }) hunknown d
  have hend := onCacheRead_described hread hunknown d
  rw [hinstall, resolveReady_eq_concluded_ready] at hend
  · rw [step_cacheRead_of_idle h hend h.idle]
    exact ⟨_, _, _, _, rfl⟩
  · exact h.opened
  · simp [emit]

/-- A cache read that fails lets the failure out that was held back. -/
theorem step_cacheRead_released (hunknown : m.source = .none) {e : ManagerError}
    (hheld : m.heldFailure = some e) :
    m.step (.cacheRead .failed) =
      { m.concluded ⟨.none, m.protocols, .failed e⟩ with call := m.call } := by
  have hsure : { m with read := none, heldFailure := none }.awaitsCacheFile = false := by
    simp [awaitsCacheFile, h.idle]
  have hend := resolveReady_eq_concluded_failed (m := { m with read := none, heldFailure := none })
    h.opened hunknown rfl hsure e
  exact step_cacheRead_of_idle h ((onCacheRead_released hread hheld).trans hend) h.idle

/-- A cache read that fails while a call is on its way is over, and the call goes on. -/
theorem step_cacheRead_failed (hunknown : m.source = .none) (hheld : m.heldFailure = none)
    (hcall : m.call ≠ none) : m.step (.cacheRead .failed) = { m with read := none } := by
  have hend := onCacheRead_failed hread hheld
  rw [if_pos hunknown] at hend
  rw [step, react_cacheRead h.live, hend]
  exact runDeferred_schedule_introspect (m := { m with read := none }) h.idle hcall

/-- A cache read that tells nothing new is over, and the call goes on. -/
theorem step_cacheRead_of_no_news (hheld : m.heldFailure = none) (hcall : m.call ≠ none)
    {result : ReadEnd} (hnews : m.source ≠ .none ∨ result = .failed) :
    m.step (.cacheRead result) = { m with read := none } := by
  by_cases hunknown : m.source = .none
  · rcases hnews with hknown | rfl
    · exact absurd hunknown hknown
    · exact step_cacheRead_failed h hread hunknown hheld hcall
  · exact step_cacheRead_of_known h hread hunknown hheld result

end cacheRead

/-! ## One after the other -/

/-- What is alike to a proxy at rest is at rest. -/
theorem Alike.resting {m' : Manager} (halike : Alike m m') (h : Resting m) : Resting m' := by
  obtain ⟨_, _, _, _, rfl⟩ := halike
  exact ⟨h.live, h.idle, h.opened⟩

/-- What is alike to a third state by way of a second. -/
theorem Alike.trans {n m' : Manager} (h : Alike m n) (h' : Alike n m') : Alike m m' := by
  obtain ⟨_, _, _, _, rfl⟩ := h
  obtain ⟨_, _, _, _, rfl⟩ := h'
  exact ⟨_, _, _, _, rfl⟩

/-- What is alike is so the other way round, too. -/
theorem Alike.symm {m' : Manager} (h : Alike m m') : Alike m' m := by
  obtain ⟨_, _, _, _, rfl⟩ := h
  exact ⟨_, _, _, _, rfl⟩

/-- A proxy at rest is at rest after a call and a cache read have led to something, whichever of
them is still on its way. -/
theorem Resting.concluded (h : Resting m) (c : Conclusion) (call read : Option Nat) :
    Resting { m.concluded c with call := call, read := read } :=
  ⟨h.live, h.idle, h.opened⟩

/-- Those who were answered are not answered again: if both lead to the same outcome, the second
only replaces what is known. -/
theorem alike_concluded_again (c : Conclusion) {c' : Conclusion} (houtcome : c'.outcome = c.outcome)
    {call : Option Nat} {n : Manager} (hn : Alike { m.concluded c with call := call } n) :
    Alike (m.concluded c') { n.concluded c' with read := n.read } := by
  obtain ⟨interfaces, snapshot, publications, events, rfl⟩ := hn
  refine ⟨interfaces, snapshot, publications, events, ?_⟩
  simp [concluded, houtcome]

section both

variable (h : Resting m) (hcall : m.call ≠ none) (hread : m.read ≠ none)
  (hheld : m.heldFailure = none) (answer : Except BusError Json) {result : ReadEnd}
  (hresult : result ≠ .cancelled)

section reply

include h hcall hread hresult

/-- The answer to the call, and then the end of the cache read. -/
theorem alike_reply_cacheRead :
    Alike (m.concluded (conclusion m answer result))
      ((m.step (.reply answer)).step (.cacheRead result)) := by
  unfold conclusion
  rcases hdecode : decode answer with e | d
  · by_cases hunknown : m.source = .none
    · -- the failure is held back, and the end of the read drops it or lets it out
      have hfirst := step_reply_held h hcall hdecode hunknown hread
      have hrest := hfirst.resting ⟨h.live, h.idle, h.opened⟩
      generalize m.step (.reply answer) = n at hfirst hrest ⊢
      obtain ⟨_, _, _, _, rfl⟩ := hfirst
      dsimp only
      rw [if_pos hunknown]
      cases result with
      | described d =>
        exact Alike.trans ⟨_, _, _, _, rfl⟩ (step_cacheRead_described hrest hread hunknown d)
      | failed =>
        rw [step_cacheRead_released hrest hread hunknown rfl]
        exact ⟨_, _, _, _, rfl⟩
      | cancelled => exact absurd rfl hresult
    · have hfirst := step_reply_error_of_known h hcall hdecode hunknown
      have hrest := hfirst.resting (h.concluded ⟨m.source, m.protocols, .ready⟩ none m.read)
      generalize m.step (.reply answer) = n at hfirst hrest ⊢
      obtain ⟨_, _, _, _, rfl⟩ := hfirst
      dsimp only
      rw [if_neg hunknown, step_cacheRead_of_known hrest hread hunknown rfl]
      exact ⟨_, _, _, _, rfl⟩
  · have hfirst := step_reply_ok h hcall hdecode
    have hrest := hfirst.resting (h.concluded ⟨.live, d.protocols, .ready⟩ none m.read)
    generalize m.step (.reply answer) = n at hfirst hrest ⊢
    obtain ⟨_, _, _, _, rfl⟩ := hfirst
    rw [step_cacheRead_of_known hrest hread (by simp [concluded]) rfl]
    exact ⟨_, _, _, _, rfl⟩

end reply

section read

include h hcall hread hheld hresult

/-- The end of the cache read, and then the answer to the call. -/
theorem alike_cacheRead_reply :
    Alike (m.concluded (conclusion m answer result))
      ((m.step (.cacheRead result)).step (.reply answer)) := by
  unfold conclusion
  by_cases hnews : m.source ≠ .none ∨ result = .failed
  · have hrest : Resting { m with read := none } := ⟨h.live, h.idle, h.opened⟩
    rw [step_cacheRead_of_no_news h hread hheld hcall hnews]
    rcases hdecode : decode answer with e | d
    · by_cases hunknown : m.source = .none
      · obtain rfl : result = .failed := hnews.resolve_left fun hknown => hknown hunknown
        dsimp only
        rw [if_pos hunknown]
        exact step_reply_failed hrest hcall hdecode hunknown rfl hheld
      · dsimp only
        rw [if_neg hunknown]
        exact step_reply_error_of_known hrest hcall hdecode hunknown
    · exact step_reply_ok hrest hcall hdecode
  · -- the cache file is taken over and those who wait are answered, before the call ends
    obtain ⟨hunknown, d, rfl⟩ : m.source = .none ∧ ∃ d, result = .described d := by
      rw [not_or] at hnews
      cases result with
      | described d => exact ⟨Decidable.not_not.mp hnews.1, d, rfl⟩
      | failed => exact absurd rfl hnews.2
      | cancelled => exact absurd rfl hresult
    have hfirst := step_cacheRead_described h hread hunknown d
    have hrest := hfirst.resting (h.concluded ⟨.file, d.protocols, .ready⟩ m.call none)
    have hagain := fun c' (houtcome : Conclusion.outcome c' = .ready) =>
      alike_concluded_again ⟨.file, d.protocols, .ready⟩ houtcome hfirst
    generalize m.step (.cacheRead (.described d)) = n at hfirst hrest hagain ⊢
    obtain ⟨_, _, _, _, rfl⟩ := hfirst
    rcases hdecode : decode answer with e | d'
    · dsimp only
      rw [if_pos hunknown]
      exact (hagain _ rfl).trans
        (step_reply_error_of_known hrest hcall hdecode (by simp [concluded]))
    · exact (hagain _ rfl).trans (step_reply_ok hrest hcall hdecode)

end read

end both

/-! ## Runs -/

/-- A proxy with a cache read on its way is at rest, after every run. -/
theorem resting_run {busName : String} {always : Bool} {path : Option Path}
    {before : List Occurrence} (hread : ((start busName always path).run before).read ≠ none) :
    Resting ((start busName always path).run before) := by
  have hlive := live_of_read_run hread
  exact ⟨hlive, deferred_run _ rfl before, (sound_run hlive).opened⟩

/-- **The order of arrival does not matter.** After every run with a call and a cache read on their
way and no failure held back, and whatever the call is answered and however the read ends: both
orders of the two lead to the same source, the same protocols and the same outcome at the gate, with
no failure held back and neither a call nor a read on its way. No call was begun in between, and
everyone who was parked is told the same. All the rest is the same, too, but for the interfaces,
what was published and the order of the events. -/
theorem order_of_arrival_run (busName : String) (always : Bool) (path : Option Path)
    (before : List Occurrence) (answer : Except BusError Json) (result : ReadEnd)
    (hcall : ((start busName always path).run before).call ≠ none)
    (hread : ((start busName always path).run before).read ≠ none)
    (hheld : ((start busName always path).run before).heldFailure = none)
    (hresult : result ≠ .cancelled) :
    let m := (start busName always path).run before
    let c := conclusion m answer result
    let replyFirst := m.run [.reply answer, .cacheRead result]
    let readFirst := m.run [.cacheRead result, .reply answer]
    (∀ n, n = replyFirst ∨ n = readFirst →
      n.source = c.source ∧ n.protocols = c.protocols ∧ n.gate.outcome = some c.outcome ∧
      n.heldFailure = none ∧ n.call = none ∧ n.read = none ∧ n.callsStarted = m.callsStarted ∧
      n.answers = m.answers ++ m.gate.waiters.map fun w => (w, c.outcome)) ∧
    Alike replyFirst readFirst := by
  intro m c replyFirst readFirst
  have hrest : Resting m := resting_run hread
  have hreply : Alike (m.concluded c) replyFirst :=
    alike_reply_cacheRead hrest hcall hread answer hresult
  have hend : Alike (m.concluded c) readFirst :=
    alike_cacheRead_reply hrest hcall hread hheld answer hresult
  refine ⟨fun n hn => ?_, hreply.symm.trans hend⟩
  obtain ⟨_, _, _, _, rfl⟩ : Alike (m.concluded c) n := by
    rcases hn with rfl | rfl
    · exact hreply
    · exact hend
  exact ⟨rfl, rfl, rfl, rfl, rfl, rfl, rfl, rfl⟩

/-- Someone waits, the call and the cache read both fail: in either order the failure of the call is
told. -/
theorem order_of_arrival_both_failed :
    let m := (start "x" false (some "a")).run
      [.sent (.requestReady 1), .command none, .owner none, .sent (.activate 2), .command none]
    let answer : Except BusError Json := .error (.timeout "no answer")
    let told : List (Nat × Outcome ManagerError) :=
      [(1, .failed (.transport (.timeout "no answer")))]
    (m.run [.reply answer, .cacheRead .failed]).answers = told ∧
      (m.run [.cacheRead .failed, .reply answer]).answers = told := by
  intro m answer told
  obtain ⟨hboth, _⟩ := order_of_arrival_run "x" false (some "a")
    [.sent (.requestReady 1), .command none, .owner none, .sent (.activate 2), .command none]
    answer .failed (by decide +kernel) (by decide +kernel) (by decide +kernel) (by simp)
  obtain ⟨_, _, _, _, _, _, _, hreply⟩ := hboth _ (.inl rfl)
  obtain ⟨_, _, _, _, _, _, _, hread⟩ := hboth _ (.inr rfl)
  have htold : m.answers ++ m.gate.waiters.map (fun w => (w, (conclusion m answer .failed).outcome)) =
    told := by decide +kernel
  exact ⟨hreply.trans htold, hread.trans htold⟩

end Roster.Manager
