import Roster.Proofs.Manager.Calls
import Roster.Proofs.Manager.Conservation

/-!
# Those who ask one after another share a call

When requests for readiness are done in a row (`InARow`), with no other reaction in between, then at
most one call is begun for all of them (`InARow.run_of_none`): the first who is parked makes it due,
and the others find it on its way. They stay together whatever happens next (`Together`): all of
them are parked, or all have been given one and the same outcome (`together_run`).

`call_discipline_run` gathers what is said of calls here and where they are begun.
-/

namespace Roster.Manager

/-- Requests of the given people are done one after another in the course of a run, in which
commands may be put into the queue, but nothing else happens. -/
inductive InARow : Manager → List Nat → List Occurrence → Prop where
  /-- Nobody asks. -/
  | nil (m : Manager) : InARow m [] []
  /-- A command is put into the queue. -/
  | sent {m : Manager} {ws : List Nat} {row : List Occurrence} (hlive : m.disposed = false)
      (c : Command) (hrow : InARow (m.step (.sent c)) ws row) : InARow m ws (.sent c :: row)
  /-- The next command is a request, and it is done. -/
  | next {m : Manager} {w : Nat} {ws : List Nat} {row : List Occurrence} {rest : List Command}
      (hlive : m.disposed = false) (hqueue : m.queue = .requestReady w :: rest)
      (found : Option Path) (hrow : InARow (m.step (.command found)) ws row) :
      InARow m (w :: ws) (.command found :: row)

/-- Some are together: all of them are parked next to each other, or all of them were given the same
outcome, one after the other. -/
def Together (m : Manager) (ws : List Nat) : Prop :=
  ws <:+: m.gate.waiters ∨ ∃ outcome, (ws.map fun w => (w, outcome)) <:+: m.answers

variable {m : Manager}

/-! ## A request -/

/-- Putting a command into the queue makes nothing due. -/
theorem step_sent (hlive : m.disposed = false) (hidle : m.deferred = []) (c : Command) :
    m.step (.sent c) = { m with queue := m.queue ++ [c] } := by
  rw [step, react_sent hlive]
  exact runDeferred_of_idle hidle

/-- Making sure that someone who is parked will be answered begins a call, if neither a call nor a
cache read is on its way, or nothing. -/
theorem runDeferred_prepare (hidle : m.deferred = []) (ho : m.gate.outcome = none) :
    m.prepare.runDeferred = m ∨
      (m.call = none ∧ m.read = none) ∧ m.prepare.runDeferred =
        { m with
          call := some (m.callsStarted + 1)
          callsStarted := m.callsStarted + 1 } := by
  unfold prepare
  split
  · exact .inl (runDeferred_of_idle hidle)
  · rename_i hneeded
    have hcall : m.call = none := by
      by_contra hcall
      exact hneeded (by simp [Option.isSome_iff_ne_none, hcall])
    have hread : m.read = none := by
      by_contra hread
      exact hneeded (by simp [awaitsCacheFile, Option.isSome_iff_ne_none, hread])
    rw [runDeferred_schedule hidle]
    show (introspect m).runDeferred = m ∨ _ ∧ (introspect m).runDeferred = _
    rcases introspect_cases m with hsame | ⟨_, hbegun⟩
    · rw [hsame]
      exact .inl (runDeferred_of_idle hidle)
    · rw [hbegun, Gate.reopen_of_none ho]
      exact .inr ⟨⟨hcall, hread⟩, runDeferred_of_idle hidle⟩

section request

variable (hlive : m.disposed = false) (hidle : m.deferred = []) {w : Nat} {rest : List Command}
  (hqueue : m.queue = .requestReady w :: rest) (found : Option Path)
include hlive hidle hqueue

/-- Whoever asks while there is an outcome is answered, and that is all. -/
theorem step_request_of_some {outcome : Outcome ManagerError}
    (ho : m.gate.outcome = some outcome) :
    m.step (.command found) =
      { m with queue := rest, answers := m.answers ++ [(w, outcome)] } := by
  rw [step, react_command hlive, takeCommand, hqueue]
  show (requestReady _ w).runDeferred = _
  rw [requestReady_of_some { m with queue := rest } ho]
  exact runDeferred_of_idle hidle

/-- Whoever asks while there is no outcome is parked. Only for the first who is parked a call is
begun, and only if neither a call nor a cache read is on its way. -/
theorem step_request_of_none (ho : m.gate.outcome = none) :
    ∃ call started, m.step (.command found) =
        { m with
          queue := rest
          gate := { m.gate with waiters := m.gate.waiters ++ [w] }
          call := call
          callsStarted := started } ∧
      (call = m.call ∧ started = m.callsStarted ∨
        (m.call = none ∧ m.read = none ∧ m.gate.waiters = []) ∧
          call ≠ none ∧ started = m.callsStarted + 1) := by
  have hstep : m.step (.command found) = ({ m with queue := rest }.requestReady w).runDeferred := by
    rw [step, react_command hlive, takeCommand, hqueue]
    rfl
  rw [hstep, requestReady_of_none { m with queue := rest } ho]
  split
  · rename_i hfirst
    rcases runDeferred_prepare (m := { m with
        queue := rest
        gate := { m.gate with waiters := m.gate.waiters ++ [w] } }) hidle ho with
      hsame | ⟨⟨hcall, hread⟩, hbegun⟩
    · exact ⟨_, _, hsame, .inl ⟨rfl, rfl⟩⟩
    · exact ⟨_, _, hbegun, .inr ⟨⟨hcall, hread, hfirst⟩, by simp, rfl⟩⟩
  · exact ⟨_, _, runDeferred_of_idle hidle, .inl ⟨rfl, rfl⟩⟩

end request

/-! ## Requests in a row -/

/-- Whoever ask in a row while there is an outcome are answered, and that is all. -/
theorem InARow.run_of_some {ws : List Nat} {row : List Occurrence} (h : InARow m ws row)
    (hidle : m.deferred = []) {outcome : Outcome ManagerError}
    (ho : m.gate.outcome = some outcome) :
    ∃ queue, m.run row =
      { m with queue := queue, answers := m.answers ++ ws.map fun w => (w, outcome) } := by
  induction h with
  | nil m => exact ⟨m.queue, by rw [List.map_nil, List.append_nil]; rfl⟩
  | @sent m ws row hlive c hrow ih =>
    rw [step_sent hlive hidle] at ih
    obtain ⟨queue, hrun⟩ := ih hidle ho
    refine ⟨queue, ?_⟩
    rw [run, List.foldl_cons, step_sent hlive hidle]
    exact hrun
  | @next m w ws row rest hlive hqueue found hrow ih =>
    rw [step_request_of_some hlive hidle hqueue found ho] at ih
    obtain ⟨queue, hrun⟩ := ih hidle ho
    refine ⟨queue, ?_⟩
    rw [run, List.foldl_cons, step_request_of_some hlive hidle hqueue found ho]
    refine Eq.trans hrun ?_
    simp

/-- **Whoever ask in a row while there is no outcome are parked**, one behind the other, and at most
one call is begun for all of them: only if nobody was parked before, and neither a call nor a cache
read was on its way. -/
theorem InARow.run_of_none {ws : List Nat} {row : List Occurrence} (h : InARow m ws row)
    (hidle : m.deferred = []) (ho : m.gate.outcome = none) :
    ∃ queue call started, m.run row =
        { m with
          queue := queue
          gate := { m.gate with waiters := m.gate.waiters ++ ws }
          call := call
          callsStarted := started } ∧
      (call = m.call ∧ started = m.callsStarted ∨
        (m.call = none ∧ m.read = none ∧ m.gate.waiters = []) ∧
          call ≠ none ∧ started = m.callsStarted + 1) := by
  induction h with
  | nil m => exact ⟨m.queue, m.call, m.callsStarted, by rw [List.append_nil]; rfl, .inl ⟨rfl, rfl⟩⟩
  | @sent m ws row hlive c hrow ih =>
    rw [step_sent hlive hidle] at ih
    obtain ⟨queue, call, started, hrun, hcalls⟩ := ih hidle ho
    refine ⟨queue, call, started, ?_, hcalls⟩
    rw [run, List.foldl_cons, step_sent hlive hidle]
    exact hrun
  | @next m w ws row rest hlive hqueue found hrow ih =>
    obtain ⟨call, started, hstep, hfirst⟩ := step_request_of_none hlive hidle hqueue found ho
    rw [hstep] at ih
    obtain ⟨queue, call', started', hrun, hlater⟩ := ih hidle ho
    refine ⟨queue, call', started', ?_, ?_⟩
    · rw [run, List.foldl_cons, hstep]
      refine Eq.trans hrun ?_
      simp
    · rcases hlater with ⟨rfl, rfl⟩ | ⟨⟨_, _, hnobody⟩, _⟩
      · exact hfirst
      · simp at hnobody

/-- Whoever ask in a row are together afterwards. -/
theorem InARow.together {ws : List Nat} {row : List Occurrence} (h : InARow m ws row)
    (hidle : m.deferred = []) : Together (m.run row) ws := by
  rcases ho : m.gate.outcome with _ | outcome
  · obtain ⟨_, _, _, hrun, _⟩ := h.run_of_none hidle ho
    rw [hrun]
    exact .inl (List.suffix_append _ ws).isInfix
  · obtain ⟨_, hrun⟩ := h.run_of_some hidle ho
    rw [hrun]
    exact .inr ⟨outcome, (List.suffix_append _ _).isInfix⟩

/-! ## Those who are together stay so -/

/-- Whoever were given the same outcome stay so, as no answer is taken back. -/
theorem Together.of_answers {m' : Manager} {ws : List Nat} {new : List (Nat × Outcome ManagerError)}
    (hanswers : m'.answers = m.answers ++ new)
    (h : ∃ outcome, (ws.map fun w => (w, outcome)) <:+: m.answers) : Together m' ws := by
  obtain ⟨outcome, htold⟩ := h
  refine .inr ⟨outcome, ?_⟩
  rw [hanswers]
  exact htold.trans (List.prefix_append _ new).isInfix

/-- Whoever are told the same one after the other are together. -/
theorem together_of_told {m' : Manager} {ws told : List Nat} {outcome : Outcome ManagerError}
    (h : ws <:+: told) (hanswers : m'.answers = m.answers ++ told.map fun w => (w, outcome)) :
    Together m' ws := by
  refine .inr ⟨outcome, ?_⟩
  rw [hanswers]
  exact (h.map _).trans (List.suffix_append _ _).isInfix

/-- A reaction keeps those together who are so. -/
theorem Together.reaction {ws : List Nat} (h : Together m ws) {o : Occurrence} {m' : Manager}
    (hreaction : Reaction m o m') (hopen : m.gate.closed = false) : Together m' ws := by
  rcases h with hparked | htold
  · cases hreaction with
    | queued c ho hm' =>
      rw [hm']
      exact .inl hparked
    | admitted found w rest ho hqueue hm' =>
      rw [hm']
      refine .inl ?_
      rcases hbefore : m.gate.outcome with _ | outcome
      · rw [gate_requestReady_of_none { m with queue := rest } hbefore]
        exact hparked.trans (List.prefix_append _ [w]).isInfix
      · rw [requestReady_of_some { m with queue := rest } hbefore]
        exact hparked
    | stopped queue ho hrequests hm' =>
      have hanswers := answers_dispose (m := { m with queue := queue }) hopen
      rw [← hm'] at hanswers
      exact together_of_told (hparked.trans (List.suffix_append _ _).isInfix) hanswers
    | settled ho hrequests hlive hsettles =>
      have hanswered : ∀ outcome,
          m'.answers = m.answers ++ (m.gate.resolve outcome).2.map (fun w => (w, outcome)) →
          Together m' ws := fun outcome hanswers => by
        rw [Gate.resolve_of_open hopen] at hanswers
        exact together_of_told hparked hanswers
      cases hsettles with
      | waits hgate hanswers => exact .inl (hgate ▸ hparked)
      | ready hgate hanswers => exact hanswered .ready hanswers
      | failed e hwhy hgate hanswers hsure => exact hanswered (.failed e) hanswers
  · obtain ⟨new, hanswers⟩ := hreaction.answers_grow hopen
    exact .of_answers hanswers htold

/-- Neither does a proxy that has stopped part those who are together. -/
theorem Together.react_of_disposed {ws : List Nat} (h : Together m ws) (hd : m.disposed = true)
    (o : Occurrence) : Together (m.react o) ws := by
  rcases h with hparked | htold
  · have hgate := react_frame_of_disposed Manager.gate (fun _ _ => rfl) (fun _ _ => rfl) hd o
    exact .inl (hgate ▸ hparked)
  · exact .of_answers (answers_react_of_disposed hd o) htold

/-- The steps that are due move nobody. -/
theorem Together.runDeferred {ws : List Nat} (h : Together m ws) : Together m.runDeferred ws := by
  unfold Together
  rw [waiters_runDeferred, answers_runDeferred]
  exact h

/-- Whoever was answered once has one answer. -/
theorem eq_of_count_fst_le_one {answers : List (Nat × Outcome ManagerError)} {w : Nat}
    {x y : Outcome ManagerError} (hone : (answers.map Prod.fst).count w ≤ 1)
    (hx : (w, x) ∈ answers) (hy : (w, y) ∈ answers) : x = y := by
  induction answers with
  | nil => cases hx
  | cons first rest ih =>
    have hrest : ∀ {z}, (w, z) ∈ rest → 0 < (rest.map Prod.fst).count w := fun hz =>
      List.count_pos_iff.mpr (List.mem_map_of_mem hz)
    rw [List.map_cons, List.count_cons] at hone
    rcases List.mem_cons.mp hx with rfl | hx'
    · rcases List.mem_cons.mp hy with heq | hy'
      · cases heq
        rfl
      · have := hrest hy'
        simp at hone
        omega
    · rcases List.mem_cons.mp hy with rfl | hy'
      · have := hrest hx'
        simp at hone
        omega
      · exact ih (by omega) hx' hy'

/-- Whoever are together and asked once each have no two different answers. -/
theorem Together.eq_of_mem_answers {ws : List Nat} (h : Together m ws) {v w : Nat}
    (hv : v ∈ ws) (hw : w ∈ ws) (honce : places m v = 1) (honce' : places m w = 1)
    {x y : Outcome ManagerError} (hx : (v, x) ∈ m.answers) (hy : (w, y) ∈ m.answers) : x = y := by
  rcases h with hparked | ⟨outcome, htold⟩
  · -- whoever is parked and asked once has no answer
    have hwaits : 0 < m.gate.waiters.count v := List.count_pos_iff.mpr (hparked.subset hv)
    have hanswered : 0 < (m.answers.map Prod.fst).count v :=
      List.count_pos_iff.mpr (List.mem_map_of_mem hx)
    unfold places at honce
    omega
  · have hone : ∀ u ∈ ws, places m u = 1 → ∀ z, (u, z) ∈ m.answers → z = outcome :=
      fun u hu h z hz => by
        have hfirst : (u, outcome) ∈ m.answers := htold.subset (List.mem_map_of_mem hu)
        refine eq_of_count_fst_le_one ?_ hz hfirst
        unfold places at h
        omega
    exact (hone v hv honce x hx).trans (hone w hw honce' y hy).symm

section run

variable {busName : String} {always : Bool} {path : Option Path}

/-- **Whoever are together stay together**, whatever happens. -/
theorem together_run {before : List Occurrence} {ws : List Nat}
    (h : Together ((start busName always path).run before) ws) (after : List Occurrence) :
    Together ((start busName always path).run (before ++ after)) ws := by
  induction after using List.reverseRecOn with
  | nil =>
    rw [List.append_nil]
    exact h
  | append_singleton after o ih =>
    rw [← List.append_assoc, run_concat]
    refine Together.runDeferred ?_
    rcases hd : ((start busName always path).run (before ++ after)).disposed with _ | _
    · exact ih.reaction (reaction_run hd o) (sound_run hd).opened
    · exact ih.react_of_disposed hd o

end run

/-- For requests in a row at most one call is begun, and none where a call or a cache read is on its
way or there is an outcome. -/
theorem InARow.callsStarted {ws : List Nat} {row : List Occurrence} (h : InARow m ws row)
    (hidle : m.deferred = []) :
    (m.run row).callsStarted ≤ m.callsStarted + 1 ∧
      (m.call ≠ none ∨ m.read ≠ none ∨ m.gate.outcome ≠ none →
        (m.run row).callsStarted = m.callsStarted) := by
  rcases ho : m.gate.outcome with _ | outcome
  · obtain ⟨_, _, started, hrun, hcalls⟩ := h.run_of_none hidle ho
    rw [hrun]
    rcases hcalls with ⟨_, rfl⟩ | ⟨⟨hcall, hread, _⟩, _, rfl⟩
    · exact ⟨Nat.le_succ _, fun _ => rfl⟩
    · refine ⟨Nat.le_refl _, fun hbusy => ?_⟩
      rcases hbusy with hbusy | hbusy | hbusy
      · exact absurd hcall hbusy
      · exact absurd hread hbusy
      · exact absurd rfl hbusy
  · obtain ⟨_, hrun⟩ := h.run_of_some hidle ho
    rw [hrun]
    exact ⟨Nat.le_succ _, fun _ => rfl⟩

/-- **Calls are begun sparingly.** In every run, a step begins at most one call, and only where none
is on its way, after the owner was told for the first time, and if nothing is known or a running
manager is asked in any case; if it begins none, the call on its way goes on or ends. So a proxy
that was never told to ask in any case begins no call once something is known. For requests that are
done in a row at most one call is begun, and none where a call or a cache read is on its way or
there is an outcome. And whatever happens afterwards, those who asked in a row are parked together
or were given the same outcome, so whoever of them asked once have no two different answers. -/
theorem call_discipline_run (busName : String) (always : Bool) (path : Option Path)
    (before : List Occurrence) :
    let m₀ := start busName always path
    let m := m₀.run before
    (∀ o, (m.step o).callsStarted = m.callsStarted ∧
        ((m.step o).call = none ∨ (m.step o).call = m.call) ∨
      (m.step o).callsStarted = m.callsStarted + 1 ∧
        (m.step o).call = some (m.callsStarted + 1) ∧ (m.react o).call = none ∧
        (∃ o' ∈ before ++ [o], o'.tellsOwner = true) ∧
        ((m.react o).alwaysIntrospect = true ∨ (m.react o).source = .none)) ∧
    (∀ after, always = false → .sent (.setAlwaysIntrospect true) ∉ before ++ after →
      m.source ≠ .none → (m₀.run (before ++ after)).callsStarted = m.callsStarted) ∧
    ∀ ws row, InARow m ws row →
      (m.run row).callsStarted ≤ m.callsStarted + 1 ∧
      (m.call ≠ none ∨ m.read ≠ none ∨ m.gate.outcome ≠ none →
        (m.run row).callsStarted = m.callsStarted) ∧
      ∀ after, Together (m₀.run (before ++ row ++ after)) ws ∧
        ∀ v ∈ ws, ∀ w ∈ ws, (asked (before ++ row ++ after)).count v = 1 →
          (asked (before ++ row ++ after)).count w = 1 →
          ∀ x y, (v, x) ∈ (m₀.run (before ++ row ++ after)).answers →
            (w, y) ∈ (m₀.run (before ++ row ++ after)).answers → x = y := by
  intro m₀ m
  have hidle : m.deferred = [] := deferred_run m₀ rfl before
  refine ⟨calls_step_run busName always path before, fun after hoff hnever hknown => ?_,
    fun ws row hrow => ?_⟩
  · subst hoff
    exact callsStarted_run_of_known hnever hknown
  · obtain ⟨hmost, hbusy⟩ := hrow.callsStarted hidle
    refine ⟨hmost, hbusy, fun after => ?_⟩
    have htogether : Together (m₀.run (before ++ row)) ws := by
      rw [run_append]
      exact hrow.together hidle
    have hlater := together_run htogether after
    refine ⟨hlater, fun v hv w hw honce honce' x y hx hy => ?_⟩
    exact hlater.eq_of_mem_answers hv hw ((places_run _ v).trans honce) ((places_run _ w).trans honce')
      hx hy

/-- A cache read is cancelled, so nothing is on its way when three ask for readiness in a row. One
call is begun for them, and they stay together, whatever happens. -/
theorem call_discipline_run_cancelled :
    let m₀ := start "x" false (some "a")
    let before : List Occurrence :=
      [.owner none, .cacheRead .cancelled, .sent (.requestReady 1), .sent (.requestReady 2),
        .sent (.requestReady 3)]
    let row : List Occurrence := [.command none, .command none, .command none]
    (m₀.run before).callsStarted = 0 ∧ ((m₀.run before).run row).callsStarted = 1 ∧
      ∀ after, Together (m₀.run (before ++ row ++ after)) [1, 2, 3] := by
  intro m₀ before row
  have hfirst : (m₀.run before).queue =
      .requestReady 1 :: [.requestReady 2, .requestReady 3] := by decide +kernel
  have hsecond : ((m₀.run before).step (.command none)).queue =
      .requestReady 2 :: [.requestReady 3] := by decide +kernel
  have hthird : (((m₀.run before).step (.command none)).step (.command none)).queue =
      .requestReady 3 :: [] := by decide +kernel
  have hrow : InARow (m₀.run before) [1, 2, 3] row :=
    .next (by decide +kernel) hfirst none <| .next (by decide +kernel) hsecond none <|
      .next (by decide +kernel) hthird none <| .nil _
  obtain ⟨_, _, hrows⟩ := call_discipline_run "x" false (some "a") before
  obtain ⟨hmost, _, hlater⟩ := hrows [1, 2, 3] row hrow
  have hnone : (m₀.run before).callsStarted = 0 := by decide +kernel
  have hone : 1 ≤ ((m₀.run before).run row).callsStarted := by decide +kernel
  have hatMost : ((m₀.run before).run row).callsStarted ≤ 0 + 1 := by
    rw [← hnone]
    exact hmost
  exact ⟨hnone, Nat.le_antisymm hatMost hone, fun after => (hlater after).1⟩

end Roster.Manager
