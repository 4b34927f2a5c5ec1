import Roster.Proofs.Gate.Delivery

/-!
# How long an outcome stands at a gate

An outcome that a gate was resolved with is what every later waiter is told, until the gate is resolved
again: `resolve` takes any outcome while the gate is not closed, and asks for none that stands.

* `stands_ofOps`: what stands at the gate after further operations. It is the outcome from before, if
  nothing was resolved since, and else the outcome that came last (`lastOutcome`), unless that was a
  failure that was forgotten.
* `final_iff_repeated_run`: so a success stays, and a failure stays until the gate is reopened, exactly as
  long as the outcome that came last is the same again.
* `overruled_outcomes`: a success that a failure overrules, and a failure that another one overrules.
-/

namespace Roster.Gate

variable {ω ε : Type}

/-- The outcome that an operation resolves with. -/
def Op.outcome? : Op ω ε → Option (Outcome ε)
  | .resolve outcome => some outcome
  | _ => none

/-- The outcome that operations resolved with last, if they did. -/
def lastOutcome (ops : List (Op ω ε)) : Option (Outcome ε) := (ops.filterMap Op.outcome?).getLast?

theorem lastOutcome_concat_of_none {op : Op ω ε} (h : op.outcome? = none) (ops : List (Op ω ε)) :
    lastOutcome (ops ++ [op]) = lastOutcome ops := by
  simp [lastOutcome, h]

theorem lastOutcome_concat_resolve (ops : List (Op ω ε)) (outcome : Outcome ε) :
    lastOutcome (ops ++ [.resolve outcome]) = some outcome := by
  simp [lastOutcome, Op.outcome?]

/-- What stands at a gate that was resolved with an outcome, after further operations: that outcome, or
the one that came last, or nothing after the one that came last was a failure and was forgotten. -/
inductive Stands (outcome : Outcome ε) (after : List (Op ω ε)) : Option (Outcome ε) → Prop
  /-- Nothing came since. -/
  | still (hnone : lastOutcome after = none) : Stands outcome after (some outcome)
  /-- The outcome that came last. -/
  | replaced {other : Outcome ε} (hlast : lastOutcome after = some other) :
      Stands outcome after (some other)
  /-- The failure that came last was forgotten. -/
  | forgotten {error : ε} (hlast : lastOutcome after = some (.failed error))
      (hreopened : Op.reopen ∈ after) : Stands outcome after none

/-- An operation that does not resolve leaves everything as it stands. -/
theorem Stands.concat {outcome : Outcome ε} {after : List (Op ω ε)} {standing : Option (Outcome ε)}
    (h : Stands outcome after standing) {op : Op ω ε} (hop : op.outcome? = none) :
    Stands outcome (after ++ [op]) standing := by
  have hlast := lastOutcome_concat_of_none hop after
  cases h with
  | still h => exact .still (hlast.trans h)
  | replaced h => exact .replaced (hlast.trans h)
  | forgotten h hreopened => exact .forgotten (hlast.trans h) (List.mem_append_left _ hreopened)

namespace Run

variable [DecidableEq ω] {r : Run ω ε}

/-- A gate that is not closed takes any outcome. -/
theorem outcome_step_resolve (h : r.gate.closed = false) (outcome : Outcome ε) :
    (r.step (.resolve outcome)).1.gate.outcome = some outcome := by
  show (r.gate.resolve outcome).1.outcome = _
  rw [resolve_of_open h]

/-- Letting someone in leaves the outcome. -/
theorem outcome_step_enter (w : ω) : (r.step (.enter w)).1.gate.outcome = r.gate.outcome := by
  rcases ho : r.gate.outcome with _ | outcome
  · rw [step_enter_of_none ho]
    exact ho
  · rw [step_enter_of_some ho]
    exact ho

/-- What stands after one more operation. -/
theorem stands_step {outcome : Outcome ε} {after : List (Op ω ε)} (hopen : r.gate.closed = false)
    (h : Stands outcome after r.gate.outcome) {op : Op ω ε} (hop : ∀ error, op ≠ .close error)
    (hfinal : outcome = .ready ∨ op ≠ .reopen) :
    Stands outcome (after ++ [op]) (r.step op).1.gate.outcome := by
  cases op with
  | enter w =>
    rw [outcome_step_enter]
    exact h.concat rfl
  | abandon w => exact h.concat rfl
  | resolve other =>
    rw [outcome_step_resolve hopen]
    exact .replaced (lastOutcome_concat_resolve after other)
  | reopen =>
    have hready : outcome = .ready := hfinal.resolve_right fun hne => hne rfl
    by_cases hsuccess : r.gate.outcome = some .ready
    · have hsame : (r.step .reopen).1.gate.outcome = r.gate.outcome :=
        congrArg Gate.outcome (reopen_of_ready hsuccess)
      rw [hsame]
      exact h.concat rfl
    · have hgone : (r.step .reopen).1.gate.outcome = none :=
        outcome_reopen_of_ne_ready hopen hsuccess
      have hlast : lastOutcome (after ++ [(.reopen : Op ω ε)]) = lastOutcome after :=
        lastOutcome_concat_of_none rfl after
      have hreopened : Op.reopen ∈ after ++ [(.reopen : Op ω ε)] :=
        List.mem_append_right _ List.mem_cons_self
      generalize r.gate.outcome = standing at h hsuccess
      rw [hgone]
      cases h with
      | still h => exact absurd (congrArg some hready) hsuccess
      | @replaced other h =>
        cases other with
        | ready => exact absurd rfl hsuccess
        | failed error => exact .forgotten (hlast.trans h) hreopened
      | forgotten h _ => exact .forgotten (hlast.trans h) hreopened
  | close error => exact absurd rfl (hop error)

/-- **What stands at a gate** that was resolved with an outcome and is not closed: after a success in
any case, and after a failure as long as nobody reopens the gate. -/
theorem stands_ofOps {before after : List (Op ω ε)} {outcome : Outcome ε}
    (hopen : ∀ error, .close error ∉ before ++ .resolve outcome :: after)
    (hfinal : outcome = .ready ∨ .reopen ∉ after) :
    Stands outcome after (ofOps (before ++ .resolve outcome :: after)).gate.outcome := by
  induction after using List.reverseRecOn with
  | nil =>
    rw [ofOps_concat, outcome_step_resolve]
    · exact .still rfl
    · exact closed_ofOps fun error hmem => hopen error (List.mem_append_left _ hmem)
  | append_singleton after op ih =>
    have hsplit : before ++ .resolve outcome :: (after ++ [op]) =
        (before ++ .resolve outcome :: after) ++ [op] := by simp
    rw [hsplit] at hopen ⊢
    rw [ofOps_concat]
    have hopen' : ∀ error, .close error ∉ before ++ .resolve outcome :: after := by
      intro error hmem
      exact hopen error (List.mem_append_left _ hmem)
    have hbefore : outcome = .ready ∨ .reopen ∉ after :=
      hfinal.imp_right fun hnot hmem => hnot (List.mem_append_left _ hmem)
    refine stands_step (closed_ofOps hopen') (ih hopen' hbefore) ?_ ?_
    · rintro error rfl
      exact hopen error (List.mem_append_right _ List.mem_cons_self)
    · refine hfinal.imp_right fun hnot heq => hnot ?_
      rw [heq]
      exact List.mem_append_right _ List.mem_cons_self

/-- **An outcome is final exactly as long as it is repeated.** A gate that is not closed takes the outcome
that it is resolved with. After further operations, which do not reopen it if the outcome was a failure,
the next waiter is answered with that outcome if and only if no other one came last since. Otherwise the
waiter is answered with the one that came last, or it is parked, if that one was a failure and the gate was
reopened. -/
theorem final_iff_repeated_run {before after : List (Op ω ε)} {outcome : Outcome ε}
    (hopen : ∀ error, .close error ∉ before ++ .resolve outcome :: after)
    (hfinal : outcome = .ready ∨ .reopen ∉ after) (w : ω) :
    let r := ofOps (before ++ .resolve outcome :: after)
    (ofOps (before ++ [.resolve outcome])).gate.outcome = some outcome ∧
      ((r.step (.enter w)).2 = .admitted (.answered outcome) ↔
        ∀ other, lastOutcome after = some other → other = outcome) ∧
      ∀ other, lastOutcome after = some other →
        (r.step (.enter w)).2 = .admitted (.answered other) ∨
          other ≠ .ready ∧ .reopen ∈ after ∧
            ∃ first, (r.step (.enter w)).2 = .admitted (.queued first) := by
  intro r
  have hbefore : (ofOps before).gate.closed = false :=
    closed_ofOps fun error hmem => hopen error (List.mem_append_left _ hmem)
  refine ⟨?_, ?_⟩
  · rw [ofOps_concat]
    exact outcome_step_resolve hbefore outcome
  have hstands : Stands outcome after r.gate.outcome := stands_ofOps hopen hfinal
  have hanswered {standing : Outcome ε} (ho : r.gate.outcome = some standing) :
      (r.step (.enter w)).2 = .admitted (.answered standing) := by rw [step_enter_of_some ho]
  generalize ho : r.gate.outcome = standing at hstands
  cases hstands with
  | still hnone =>
    rw [hanswered ho, hnone]
    refine ⟨⟨?_, fun _ => rfl⟩, ?_⟩
    · intro _ other hlast
      cases hlast
    · intro other hlast
      cases hlast
  | @replaced other hlast =>
    rw [hanswered ho, hlast]
    refine ⟨⟨?_, ?_⟩, ?_⟩
    · intro hsame last heq
      cases hsame
      exact (Option.some.inj heq).symm
    · intro hall
      rw [hall other rfl]
    · intro last heq
      cases heq
      exact .inl rfl
  | @forgotten error hlast hreopened =>
    have hparked : (r.step (.enter w)).2 = .admitted (.queued r.gate.waiters.isEmpty) := by
      rw [step_enter_of_none ho]
    rw [hparked, hlast]
    refine ⟨⟨?_, ?_⟩, ?_⟩
    · intro hsame
      cases hsame
    · intro hall
      -- A failure that came last, and was forgotten, is not a success, and a failure was not reopened.
      have hsame : Outcome.failed error = outcome := hall _ rfl
      rcases hfinal with hready | hnot
      · rw [hready] at hsame
        cases hsame
      · exact absurd hreopened hnot
    · intro last heq
      cases heq
      refine .inr ⟨?_, hreopened, _, rfl⟩
      intro hready
      cases hready

/-- A success that is repeated stands although the gate is reopened. -/
theorem final_iff_repeated_run_reopened :
    let before : List (Op Nat String) := [.enter 0, .resolve (.failed "offline"), .reopen, .enter 1]
    let after : List (Op Nat String) := [.reopen, .resolve .ready, .abandon 1, .reopen]
    (∀ error, .close error ∉ before ++ .resolve .ready :: after) ∧
      lastOutcome after = some .ready ∧
      ((ofOps (before ++ .resolve .ready :: after)).step (.enter 2)).2 =
        .admitted (.answered .ready) := by
  intro before after
  have hopen : ∀ error, Op.close error ∉ before ++ .resolve .ready :: after := by
    simp [before, after]
  have hlast : lastOutcome after = some .ready := rfl
  refine ⟨hopen, hlast, ?_⟩
  refine (final_iff_repeated_run hopen (.inl rfl) 2).2.1.mpr fun other hother => ?_
  exact (Option.some.inj (hlast.symm.trans hother)).symm

/-- A success stands, and a failure comes; a failure stands, and another one comes, and nobody reopens the
gate. Whoever enters then is not answered with what stood. -/
theorem overruled_outcomes :
    let resolved (first second : Outcome String) : Run Nat String :=
      ofOps [.resolve first, .resolve second]
    let told (r : Run Nat String) := (r.step (.enter 0)).2
    told (resolved .ready (.failed "late")) ≠ .admitted (.answered .ready) ∧
      told (resolved .ready (.failed "late")) = .admitted (.answered (.failed "late")) ∧
      told (resolved (.failed "first") (.failed "second")) ≠ .admitted (.answered (.failed "first")) ∧
      told (resolved (.failed "first") (.failed "second")) =
        .admitted (.answered (.failed "second")) := by
  decide

end Run

end Roster.Gate
