import Mathlib.Data.List.Induction
import Roster.Gate.Run
import Roster.Proofs.Gate.Laws

/-!
# Every waiter is parked or was answered once

Whatever is done with a gate, and in whatever order, everyone whom it let in is parked or has been
answered once, and nobody is parked while there is an outcome.

* **An operation** (`Run.answers_step`, `Run.waiters_step`): which answers the gate gives
  (`newAnswers`), and who is parked afterwards (`parkedAfter`). Both are read off the gate as it was
  before; those who listen and those who lost interest make no difference.
* **A run** (`Run.perm_entrants`): what an operation answers and what it parks are those whom it found
  parked and the one whom it let in. By induction, all answers and all who are parked are those who
  came.
* **The end** (`Run.ofOps_of_shut`): once a gate is closed no operation changes it, and whoever comes
  is answered with the error with which it was closed first.
* **Hearing** (`Run.Hears`): whoever does not lose interest hears its answers.

A waiter that is let in twice counts as two.
-/

namespace Roster.Gate

variable {ω ε : Type}

/-! ## Gates -/

/-- Nobody is parked while there is an outcome, and there is one if the gate is closed. -/
structure Orderly (g : Gate ω ε) : Prop where
  /-- Nobody is parked while there is an outcome. -/
  exclusive : g.Exclusive
  /-- A closed gate has an outcome. -/
  settled : g.closed = true → g.outcome ≠ none

namespace Orderly

variable {g : Gate ω ε}

/-- Nobody is parked at a closed gate. -/
theorem waiters_of_closed (h : g.Orderly) (hclosed : g.closed = true) : g.waiters = [] :=
  h.exclusive (h.settled hclosed)

/-- Resolving answers everyone who is parked. -/
theorem answered_resolve (h : g.Orderly) (outcome : Outcome ε) :
    (g.resolve outcome).2 = g.waiters := by
  rcases hc : g.closed with _ | _
  · rw [resolve_of_open hc]
  · rw [resolve_of_closed hc, h.waiters_of_closed hc]

/-- After resolving nobody is parked. -/
theorem waiters_resolve (h : g.Orderly) (outcome : Outcome ε) :
    (g.resolve outcome).1.waiters = [] := by
  rcases hc : g.closed with _ | _
  · rw [resolve_of_open hc]
  · rw [resolve_of_closed hc, h.waiters_of_closed hc]

/-- Closing answers everyone who is parked. -/
theorem answered_close (h : g.Orderly) (error : ε) : (g.close error).2 = g.waiters :=
  h.answered_resolve (.failed error)

/-- After closing nobody is parked. -/
theorem waiters_close (h : g.Orderly) (error : ε) : (g.close error).1.waiters = [] :=
  h.waiters_resolve (.failed error)

theorem enter (h : g.Orderly) (w : ω) : (g.enter w).1.Orderly := by
  refine ⟨h.exclusive.enter w, fun hclosed => ?_⟩
  rcases ho : g.outcome with _ | outcome
  · rw [enter_of_none ho] at hclosed
    exact absurd ho (h.settled hclosed)
  · rw [enter_of_some ho, ho]
    exact Option.some_ne_none outcome

/-- After resolving there is an outcome, if only that of a closed gate. -/
theorem outcome_resolve_ne_none (h : g.Orderly) (outcome : Outcome ε) :
    (g.resolve outcome).1.outcome ≠ none := by
  rcases hc : g.closed with _ | _
  · rw [resolve_of_open hc]
    exact Option.some_ne_none outcome
  · rw [resolve_of_closed hc]
    exact h.settled hc

theorem resolve (h : g.Orderly) (outcome : Outcome ε) : (g.resolve outcome).1.Orderly :=
  ⟨h.exclusive.resolve outcome, fun _ => h.outcome_resolve_ne_none outcome⟩

theorem reopen (h : g.Orderly) : g.reopen.Orderly := by
  refine ⟨h.exclusive.reopen, fun hclosed => ?_⟩
  rw [closed_reopen] at hclosed
  rw [reopen_of_closed hclosed]
  exact h.settled hclosed

theorem close (h : g.Orderly) (error : ε) : (g.close error).1.Orderly :=
  ⟨fun _ => h.waiters_close error, fun _ => h.outcome_resolve_ne_none (.failed error)⟩

end Orderly

/-- A gate that was closed with an error. -/
def shut (error : ε) : Gate ω ε := { outcome := some (.failed error), closed := true }

/-! ## Operations -/

/-- The one whom an operation lets in. -/
def Op.entrant? : Op ω ε → Option ω
  | .enter w => some w
  | _ => none

/-- Those whom operations let in, in the order in which they came. -/
def entrants (ops : List (Op ω ε)) : List ω := ops.filterMap Op.entrant?

/-- The answers that an orderly gate gives in an operation. -/
def newAnswers (g : Gate ω ε) : Op ω ε → List (ω × Outcome ε)
  | .enter w => (g.outcome.map fun outcome => (w, outcome)).toList
  | .resolve outcome => g.waiters.map fun w => (w, outcome)
  | .close error => g.waiters.map fun w => (w, .failed error)
  | .abandon _ | .reopen => []

/-- Those who are parked at an orderly gate after an operation. -/
def parkedAfter (g : Gate ω ε) : Op ω ε → List ω
  | .enter w => if g.outcome.isNone then g.waiters ++ [w] else g.waiters
  | .resolve _ | .close _ => []
  | .abandon _ | .reopen => g.waiters

/-- Those whom an operation answers and those whom it leaves parked are those whom it found parked and
the one whom it let in. -/
theorem perm_newAnswers (g : Gate ω ε) (op : Op ω ε) :
    ((g.newAnswers op).map Prod.fst ++ g.parkedAfter op).Perm
      (g.waiters ++ op.entrant?.toList) := by
  have hnames (outcome : Outcome ε) :
      (g.waiters.map fun w => (w, outcome)).map Prod.fst = g.waiters := by
    rw [List.map_map]
    exact List.map_id _
  cases op with
  | enter w =>
    unfold newAnswers parkedAfter Op.entrant?
    rcases g.outcome with _ | outcome
    · exact .refl _
    · exact List.perm_append_comm
  | resolve outcome => simp [newAnswers, parkedAfter, Op.entrant?, hnames]
  | close error => simp [newAnswers, parkedAfter, Op.entrant?, hnames]
  | abandon w => simp [newAnswers, parkedAfter, Op.entrant?]
  | reopen => simp [newAnswers, parkedAfter, Op.entrant?]

namespace Run

variable [DecidableEq ω] {r : Run ω ε}

theorem ofOps_concat (ops : List (Op ω ε)) (op : Op ω ε) :
    ofOps (ops ++ [op]) = ((ofOps ops).step op).1 := List.foldl_append

theorem orderly_step (h : r.gate.Orderly) (op : Op ω ε) : (r.step op).1.gate.Orderly := by
  cases op with
  | enter w =>
    show (Run.step _ _).1.gate.Orderly
    unfold step
    dsimp only
    split
    · exact h.enter w
    · exact h.enter w
  | abandon w => exact h
  | resolve outcome => exact h.resolve outcome
  | reopen => exact h.reopen
  | close error => exact h.close error

/-- The gate is orderly after every run. -/
theorem orderly_ofOps (ops : List (Op ω ε)) : (ofOps ops : Run ω ε).gate.Orderly := by
  induction ops using List.reverseRecOn with
  | nil => exact ⟨fun _ => rfl, fun hclosed => by cases hclosed⟩
  | append_singleton before op ih =>
    rw [ofOps_concat]
    exact orderly_step ih op

/-! ## What an operation does -/

/-- While there is an outcome, whoever enters is answered with it. -/
theorem step_enter_of_some {outcome : Outcome ε} (h : r.gate.outcome = some outcome) (w : ω) :
    r.step (.enter w) =
      ({ r with listening := r.listening ++ [w] }.answer outcome [w], .admitted (.answered outcome)) := by
  unfold step
  dsimp only
  rw [enter_of_some h]

/-- Without an outcome, whoever enters is parked and listens. -/
theorem step_enter_of_none (h : r.gate.outcome = none) (w : ω) :
    r.step (.enter w) =
      ({ r with
          gate := { r.gate with waiters := r.gate.waiters ++ [w] }
          listening := r.listening ++ [w] }, .admitted (.queued r.gate.waiters.isEmpty)) := by
  unfold step
  dsimp only
  rw [enter_of_none h]

/-- **An operation gives its new answers**, behind those from before. -/
theorem answers_step (h : r.gate.Orderly) (op : Op ω ε) :
    (r.step op).1.answers = r.answers ++ r.gate.newAnswers op := by
  cases op with
  | enter w =>
    rcases ho : r.gate.outcome with _ | outcome
    · rw [step_enter_of_none ho]
      simp [newAnswers, ho]
    · rw [step_enter_of_some ho]
      simp [newAnswers, ho, answer]
  | resolve outcome =>
    show r.answers ++ (r.gate.resolve outcome).2.map _ = _
    rw [h.answered_resolve]
    rfl
  | close error =>
    show r.answers ++ (r.gate.close error).2.map _ = _
    rw [h.answered_close]
    rfl
  | abandon w => exact (List.append_nil _).symm
  | reopen => exact (List.append_nil _).symm

/-- **An operation leaves parked** whom it does not answer. -/
theorem waiters_step (h : r.gate.Orderly) (op : Op ω ε) :
    (r.step op).1.gate.waiters = r.gate.parkedAfter op := by
  cases op with
  | enter w =>
    rcases ho : r.gate.outcome with _ | outcome
    · rw [step_enter_of_none ho]
      simp [parkedAfter, ho]
    · rw [step_enter_of_some ho]
      simp [parkedAfter, ho, answer]
  | resolve outcome => exact h.waiters_resolve outcome
  | close error => exact h.waiters_close error
  | abandon w => rfl
  | reopen => exact waiters_reopen r.gate

/-- Resolving tells how many were parked. -/
theorem result_resolve (h : r.gate.Orderly) (outcome : Outcome ε) :
    (r.step (.resolve outcome)).2 = .answered r.gate.waiters.length :=
  congrArg (fun ws : List ω => Result.answered ws.length) (h.answered_resolve outcome)

/-- Closing tells how many were parked. -/
theorem result_close (h : r.gate.Orderly) (error : ε) :
    (r.step (.close error)).2 = .answered r.gate.waiters.length :=
  congrArg (fun ws : List ω => Result.answered ws.length) (h.answered_close error)

/-! ## Runs -/

/-- **Whoever came is parked or was answered once**, after every run. -/
theorem perm_entrants (ops : List (Op ω ε)) :
    ((ofOps ops).answers.map Prod.fst ++ (ofOps ops).gate.waiters).Perm (entrants ops) := by
  induction ops using List.reverseRecOn with
  | nil => exact .refl _
  | append_singleton before op ih =>
    have horderly := orderly_ofOps before
    rw [ofOps_concat, answers_step horderly, waiters_step horderly, entrants, List.filterMap_append,
      List.map_append, List.append_assoc]
    have hnew : List.filterMap Op.entrant? [op] = op.entrant?.toList := by
      cases h : op.entrant? <;> simp [h]
    rw [hnew]
    refine ((perm_newAnswers _ op).append_left _).trans ?_
    rw [← List.append_assoc]
    exact ih.append_right _

/-- No answer is taken back. -/
theorem answers_prefix (ops more : List (Op ω ε)) :
    (ofOps ops).answers <+: (ofOps (ops ++ more)).answers := by
  induction more using List.reverseRecOn with
  | nil => simp
  | append_singleton more op ih =>
    rw [← List.append_assoc, ofOps_concat, answers_step (orderly_ofOps _)]
    exact ih.trans (List.prefix_append ..)

/-! ## The end -/

/-- Only closing closes a gate. -/
theorem closed_step {op : Op ω ε} (hop : ∀ error, op ≠ .close error) :
    (r.step op).1.gate.closed = r.gate.closed := by
  cases op with
  | enter w =>
    rcases ho : r.gate.outcome with _ | outcome
    · rw [step_enter_of_none ho]
    · rw [step_enter_of_some ho]
      rfl
  | abandon w => rfl
  | resolve outcome =>
    show (r.gate.resolve outcome).1.closed = _
    rcases hc : r.gate.closed with _ | _
    · rw [resolve_of_open hc]
      exact hc
    · rw [resolve_of_closed hc]
      exact hc
  | reopen => exact closed_reopen r.gate
  | close error => exact absurd rfl (hop error)

/-- A gate that nobody closed is not closed. -/
theorem closed_ofOps {ops : List (Op ω ε)} (h : ∀ error, Op.close error ∉ ops) :
    (ofOps ops).gate.closed = false := by
  induction ops using List.reverseRecOn with
  | nil => rfl
  | append_singleton before op ih =>
    rw [ofOps_concat, closed_step]
    · exact ih fun error hmem => h error (List.mem_append_left _ hmem)
    · rintro error rfl
      exact h error (List.mem_append_right _ List.mem_cons_self)

/-- The first closing fixes the error. -/
theorem gate_ofOps_close {before : List (Op ω ε)} (h : ∀ error, Op.close error ∉ before) (error : ε) :
    (ofOps (before ++ [.close error])).gate = shut error := by
  rw [ofOps_concat]
  show ((ofOps before).gate.close error).1 = shut error
  rw [close_of_open (closed_ofOps h)]
  rfl

/-- No operation changes a gate that was closed. -/
theorem gate_step_of_shut {error : ε} (h : r.gate = shut error) (op : Op ω ε) :
    (r.step op).1.gate = shut error := by
  have hclosed : r.gate.closed = true := by rw [h]; rfl
  cases op with
  | enter w =>
    have ho : r.gate.outcome = some (.failed error) := by rw [h]; rfl
    rw [step_enter_of_some ho]
    exact h
  | abandon w => exact h
  | resolve outcome =>
    show (r.gate.resolve outcome).1 = _
    rw [resolve_of_closed hclosed]
    exact h
  | reopen =>
    show r.gate.reopen = _
    rw [reopen_of_closed hclosed]
    exact h
  | close other =>
    show { (r.gate.resolve (.failed other)).1 with closed := true } = _
    rw [resolve_of_closed hclosed, h]
    rfl

/-- **After the end** nothing changes the gate, and whoever comes is answered with its error. -/
theorem ofOps_of_shut {ops : List (Op ω ε)} {error : ε} (h : (ofOps ops).gate = shut error)
    (more : List (Op ω ε)) :
    (ofOps (ops ++ more)).gate = shut error ∧
      (ofOps (ops ++ more)).answers =
        (ofOps ops).answers ++ (entrants more).map fun w => (w, .failed error) := by
  induction more using List.reverseRecOn with
  | nil =>
    rw [List.append_nil]
    exact ⟨h, (List.append_nil _).symm⟩
  | append_singleton more op ih =>
    obtain ⟨hgate, hanswers⟩ := ih
    have hnew : (shut error : Gate ω ε).newAnswers op =
        (entrants [op]).map fun w => (w, .failed error) := by
      cases op <;> rfl
    rw [← List.append_assoc, ofOps_concat]
    refine ⟨gate_step_of_shut hgate op, ?_⟩
    rw [answers_step (orderly_ofOps _), hgate, hnew, hanswers, List.append_assoc, ← List.map_append,
      entrants, entrants, ← List.filterMap_append]
    rfl

/-! ## Hearing -/

/-- A waiter that is parked still listens, and it has heard all its answers. -/
structure Hears (r : Run ω ε) (w : ω) : Prop where
  /-- Only those who are parked listen. -/
  parked : r.listening ⊆ r.gate.waiters
  /-- The waiter listens while it is parked. -/
  listening : w ∈ r.gate.waiters → w ∈ r.listening
  /-- The answers to the waiter reached it. -/
  heard : (r.delivered.filter fun a => a.1 = w) = r.answers.filter fun a => a.1 = w

namespace Hears

variable {w : ω}

/-- An outcome reaches a waiter that listens. -/
theorem heard_answer (heard : (r.delivered.filter fun a => a.1 = w) = r.answers.filter fun a => a.1 = w)
    {waiters : List ω} (hlistens : w ∈ waiters → w ∈ r.listening) (outcome : Outcome ε) :
    ((r.answer outcome waiters).delivered.filter fun a => a.1 = w) =
      (r.answer outcome waiters).answers.filter fun a => a.1 = w := by
  have hsame : (waiters.filter fun v => v ∈ r.listening).filter (fun v => v = w) =
      waiters.filter fun v => v = w := by
    rw [List.filter_filter]
    refine List.filter_congr fun v hv => ?_
    by_cases hvw : v = w
    · simp [hvw, hlistens (hvw ▸ hv)]
    · simp [hvw]
  show (r.delivered ++ _).filter _ = (r.answers ++ _).filter _
  rw [List.filter_append, List.filter_append, heard, List.filter_map, List.filter_map]
  exact congrArg (fun ws : List ω => _ ++ ws.map fun v => (v, outcome)) hsame

/-- After an outcome was handed to everyone who is parked, nobody listens. -/
theorem listening_answer (h : r.Hears w) (outcome : Outcome ε) :
    (r.answer outcome r.gate.waiters).listening = [] := by
  rw [List.eq_nil_iff_forall_not_mem]
  intro v hv
  have hboth := List.mem_filter.mp hv
  exact of_decide_eq_true hboth.2 (h.parked hboth.1)

theorem step (h : r.Hears w) (horderly : r.gate.Orderly) {op : Op ω ε} (hop : op ≠ .abandon w) :
    (r.step op).1.Hears w := by
  -- What resolving and closing have in common: everyone who is parked is handed one outcome.
  have hends (gate : Gate ω ε) (hgate : gate.waiters = []) (outcome : Outcome ε) :
      ({ r with gate := gate }.answer outcome r.gate.waiters).Hears w := by
    refine ⟨?_, ?_, heard_answer (r := { r with gate := gate }) h.heard h.listening outcome⟩
    · show (r.answer outcome r.gate.waiters).listening ⊆ _
      rw [h.listening_answer outcome]
      exact List.nil_subset _
    · intro hmem
      change w ∈ gate.waiters at hmem
      rw [hgate] at hmem
      cases hmem
  cases op with
  | enter v =>
    rcases ho : r.gate.outcome with _ | outcome
    · rw [step_enter_of_none ho]
      refine ⟨?_, ?_, h.heard⟩
      · exact List.append_subset.mpr ⟨List.subset_append_of_subset_left _ h.parked,
          List.subset_append_right _ _⟩
      · intro hmem
        rcases List.mem_append.mp hmem with hbefore | hnew
        · exact List.mem_append_left _ (h.listening hbefore)
        · exact List.mem_append_right _ hnew
    · have hnobody : r.gate.waiters = [] :=
        horderly.exclusive (by rw [ho]; exact Option.some_ne_none _)
      have hsilent : r.listening = [] := List.subset_nil.mp (hnobody ▸ h.parked)
      rw [step_enter_of_some ho]
      refine ⟨?_, ?_, heard_answer (r := { r with listening := r.listening ++ [v] }) h.heard
        (List.mem_append_right _) outcome⟩
      · simp [answer, hsilent]
      · intro hmem
        change w ∈ r.gate.waiters at hmem
        rw [hnobody] at hmem
        cases hmem
  | abandon v =>
    have hvw : w ≠ v := fun heq => hop (heq ▸ rfl)
    refine ⟨fun u hu => h.parked (List.mem_filter.mp hu).1, fun hmem => ?_, h.heard⟩
    exact List.mem_filter.mpr ⟨h.listening hmem, decide_eq_true hvw⟩
  | resolve outcome =>
    show ({ r with gate := (r.gate.resolve outcome).1 }.answer outcome
      (r.gate.resolve outcome).2).Hears w
    rw [horderly.answered_resolve]
    exact hends _ (horderly.waiters_resolve outcome) outcome
  | reopen =>
    refine ⟨?_, ?_, h.heard⟩
    · show r.listening ⊆ r.gate.reopen.waiters
      rw [waiters_reopen]
      exact h.parked
    · intro hmem
      change w ∈ r.gate.reopen.waiters at hmem
      rw [waiters_reopen] at hmem
      exact h.listening hmem
  | close error =>
    show ({ r with gate := (r.gate.close error).1 }.answer (.failed error)
      (r.gate.close error).2).Hears w
    rw [horderly.answered_close]
    exact hends _ (horderly.waiters_close error) (.failed error)

end Hears

/-- Whoever does not lose interest hears its answers. -/
theorem hears_ofOps {ops : List (Op ω ε)} {w : ω} (h : Op.abandon w ∉ ops) : (ofOps ops).Hears w := by
  induction ops using List.reverseRecOn with
  | nil =>
    refine ⟨List.Subset.refl _, fun hmem => ?_, rfl⟩
    cases hmem
  | append_singleton before op ih =>
    rw [ofOps_concat]
    refine (ih fun hmem => h (List.mem_append_left _ hmem)).step (orderly_ofOps before) ?_
    rintro rfl
    exact h (List.mem_append_right _ List.mem_cons_self)

/-! ## The contract -/

/-- **The contract of a gate.** After any operations, those who came are those who were answered, each of
them once, and those who are parked; no answer is ever taken back; and nobody is parked while there is an
outcome. Whoever comes next is answered with the outcome, or is parked if there is none, and is the first
one exactly if nobody was parked. Resolving and closing answer everyone who is parked, all with one
outcome, and tell how many they are. Those who lose interest change nothing of this, and whoever does not
hears its answers. From the first closing on nobody is parked, the outcome is the error of that closing,
and whoever comes is answered with it. -/
theorem contract_run (ops : List (Op ω ε)) :
    let r := ofOps ops
    (r.answers.map Prod.fst ++ r.gate.waiters).Perm (entrants ops) ∧
      (∀ more, r.answers <+: (ofOps (ops ++ more)).answers) ∧
      (r.gate.outcome ≠ none → r.gate.waiters = []) ∧
      (∀ w, match r.gate.outcome with
        | some outcome =>
          (r.step (.enter w)).2 = .admitted (.answered outcome) ∧
            (r.step (.enter w)).1.answers = r.answers ++ [(w, outcome)]
        | none => ∃ first,
          (r.step (.enter w)).2 = .admitted (.queued first) ∧
            (first = true ↔ r.gate.waiters = []) ∧
            (r.step (.enter w)).1.gate.waiters = r.gate.waiters ++ [w]) ∧
      (∀ outcome,
        (r.step (.resolve outcome)).2 = .answered r.gate.waiters.length ∧
          (r.step (.resolve outcome)).1.answers =
            r.answers ++ r.gate.waiters.map fun w => (w, outcome)) ∧
      (∀ error,
        (r.step (.close error)).2 = .answered r.gate.waiters.length ∧
          (r.step (.close error)).1.answers =
            r.answers ++ r.gate.waiters.map fun w => (w, .failed error)) ∧
      (∀ w, (r.step (.abandon w)).1.gate = r.gate ∧ (r.step (.abandon w)).1.answers = r.answers) ∧
      (∀ w, .abandon w ∉ ops →
        (r.delivered.filter fun a => a.1 = w) = r.answers.filter fun a => a.1 = w) ∧
      ∀ before error after, ops = before ++ .close error :: after → (∀ e, .close e ∉ before) →
        r.gate.waiters = [] ∧ r.gate.outcome = some (.failed error) ∧
          r.answers = (ofOps (before ++ [.close error])).answers ++
            (entrants after).map fun w => (w, .failed error) := by
  intro r
  have horderly : r.gate.Orderly := orderly_ofOps ops
  refine ⟨perm_entrants ops, answers_prefix ops, horderly.exclusive, ?_, ?_, ?_, ?_, ?_, ?_⟩
  · intro w
    rcases ho : r.gate.outcome with _ | outcome
    · dsimp only
      rw [step_enter_of_none ho]
      exact ⟨_, rfl, List.isEmpty_iff, rfl⟩
    · dsimp only
      rw [step_enter_of_some ho]
      exact ⟨rfl, rfl⟩
  · intro outcome
    exact ⟨result_resolve horderly outcome, answers_step horderly _⟩
  · intro error
    exact ⟨result_close horderly error, answers_step horderly _⟩
  · intro w
    exact ⟨rfl, rfl⟩
  · intro w hstays
    exact (hears_ofOps hstays).heard
  · rintro before error after rfl hfirst
    have hsplit : before ++ .close error :: after = (before ++ [.close error]) ++ after := by
      rw [List.append_assoc, List.singleton_append]
    obtain ⟨hgate, hanswers⟩ := ofOps_of_shut (gate_ofOps_close hfirst error) after
    rw [← hsplit] at hgate hanswers
    refine ⟨?_, ?_, hanswers⟩
    · show (ofOps _).gate.waiters = []
      rw [hgate]
      rfl
    · show (ofOps _).gate.outcome = _
      rw [hgate]
      rfl

/-- Two waiters are parked and one of them loses interest; a failure is told to both, and is forgotten;
then the gate is closed over a third one, closed again and resolved. -/
theorem contract_run_closed :
    let before : List (Op Nat String) :=
      [.enter 0, .enter 1, .abandon 0, .resolve (.failed "offline"), .reopen, .enter 2]
    let after : List (Op Nat String) := [.close "again", .enter 3, .resolve .ready, .reopen, .enter 4]
    let r : Run Nat String := ofOps (before ++ .close "gone" :: after)
    (.abandon 1 ∉ before ++ .close "gone" :: after) ∧ (∀ e, .close e ∉ before) ∧
      r.gate.waiters = [] ∧ r.gate.outcome = some (.failed "gone") ∧
      r.answers = [(0, .failed "offline"), (1, .failed "offline"), (2, .failed "gone")] ++
        [(3, .failed "gone"), (4, .failed "gone")] ∧
      (r.delivered.filter fun a => a.1 = 1) = [(1, .failed "offline")] := by
  intro before after r
  have hstays : Op.abandon 1 ∉ before ++ .close "gone" :: after := by decide
  have hfirst : ∀ e, Op.close e ∉ before := by simp [before]
  obtain ⟨_, _, _, _, _, _, _, hheard, hend⟩ :=
    contract_run (before ++ .close "gone" :: after)
  obtain ⟨hwaiters, houtcome, hanswers⟩ := hend before "gone" after rfl hfirst
  refine ⟨hstays, hfirst, hwaiters, houtcome, hanswers, ?_⟩
  exact (hheard 1 hstays).trans (by decide)

end Run

end Roster.Gate
