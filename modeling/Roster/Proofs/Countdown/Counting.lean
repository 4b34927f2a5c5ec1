import Mathlib.Data.List.Induction
import Roster.Countdown

/-!
# Counting arrivals down

What a run of overlapping calls does to the count, in whatever order their steps come. Looking,
sleeping and waking leave the count alone, so that only the number of arrivals matters (`arrived`).

* **How often something happens** (`tally`): in how many steps of a run an arrival takes one from the
  count (`takesOne`) or takes the last one (`takesLast`), and in how many everyone is woken
  (`wakesAll`). Each of the three is read off the states before and after the step.
* **The count** (`remaining_run`, `tally_takesOne`): as many arrivals take one from it as there are to
  take. Further arrivals take nothing.
* **The last one** (`tally_takesLast`, `wakeUps_run`): if enough arrive, exactly one of them takes the
  last one, and it is the only one that wakes anybody.
* **Answers** (`arrivals_run`): an arrival is told how many are missing after it.
-/

namespace Roster.Countdown

variable {c : Countdown}

theorem run_append (c : Countdown) (before after : List Step) :
    c.run (before ++ after) = (c.run before).run after :=
  List.foldl_append

theorem run_concat (c : Countdown) (before : List Step) (s : Step) :
    c.run (before ++ [s]) = (c.run before).step s :=
  run_append c before [s]

/-! ## How often something happens -/

/-- In how many steps of a run something happens. -/
def tally (happens : Countdown → Step → Bool) (c : Countdown) : List Step → Nat
  | [] => 0
  | s :: rest => (if happens c s then 1 else 0) + tally happens (c.step s) rest

theorem tally_concat (happens : Countdown → Step → Bool) (c : Countdown) (before : List Step)
    (s : Step) :
    tally happens c (before ++ [s]) =
      tally happens c before + if happens (c.run before) s then 1 else 0 := by
  induction before generalizing c with
  | nil =>
    rw [List.nil_append, tally, tally, tally, Nat.zero_add, Nat.add_zero]
    rfl
  | cons first rest ih =>
    have hrun : c.run (first :: rest) = (c.step first).run rest := rfl
    rw [List.cons_append, tally, tally, ih, hrun, Nat.add_assoc]

/-- The step takes one from the count. -/
def takesOne (c : Countdown) (s : Step) : Bool := (c.step s).remaining < c.remaining

/-- The step takes the count from one to zero. -/
def takesLast (c : Countdown) (s : Step) : Bool := c.remaining = 1 && (c.step s).remaining = 0

/-- The step is that of an arrival that wakes everyone. -/
def wakesAll (c : Countdown) (s : Step) : Bool := s = .wake && 0 < c.wakeUps

/-- How many calls of `arrive` have counted. -/
def arrived (steps : List Step) : Nat := steps.count .count

theorem arrived_concat (before : List Step) (s : Step) :
    arrived (before ++ [s]) = arrived before + if s = .count then 1 else 0 := by
  simp [arrived, List.count_append, List.count_singleton]

/-! ## Steps -/

/-- Where nobody has to wake anyone, nobody does. -/
theorem step_wake_of_zero (h : c.wakeUps = 0) : c.step .wake = c := if_pos h

/-- An arrival that took the last one wakes everyone. -/
theorem step_wake_of_pos (h : 0 < c.wakeUps) :
    c.step .wake =
      { c with
        wakeUps := c.wakeUps - 1
        waiters := c.waiters.map fun w => { w with woken := true } } :=
  if_neg (Nat.ne_of_gt h)

/-- A wake-up leaves the count and the answers. -/
theorem frame_wake (c : Countdown) :
    (c.step .wake).remaining = c.remaining ∧ (c.step .wake).arrivals = c.arrivals := by
  rcases Nat.eq_zero_or_pos c.wakeUps with h | h
  · rw [step_wake_of_zero h]
    exact ⟨rfl, rfl⟩
  · rw [step_wake_of_pos h]
    exact ⟨rfl, rfl⟩

/-- Only arrivals change the count. -/
theorem remaining_step (c : Countdown) (s : Step) :
    (c.step s).remaining = if s = .count then c.remaining - 1 else c.remaining := by
  cases s with
  | wake => exact (frame_wake c).1
  | _ => rfl

/-- Only arrivals are answered, with what is missing after them. -/
theorem arrivals_step (c : Countdown) (s : Step) :
    (c.step s).arrivals = c.arrivals ++ if s = .count then [(c.step s).remaining] else [] := by
  cases s with
  | count => rfl
  | wake => exact (frame_wake c).2.trans (List.append_nil _).symm
  | _ => exact (List.append_nil _).symm

theorem takesOne_iff {s : Step} : takesOne c s = true ↔ s = .count ∧ 0 < c.remaining := by
  rw [takesOne, decide_eq_true_iff, remaining_step]
  by_cases hs : s = .count
  · rw [if_pos hs, and_iff_right hs]
    omega
  · simp [hs]

theorem takesLast_iff {s : Step} : takesLast c s = true ↔ s = .count ∧ c.remaining = 1 := by
  rw [takesLast, Bool.and_eq_true, decide_eq_true_iff, decide_eq_true_iff, remaining_step]
  by_cases hs : s = .count
  · rw [if_pos hs, and_iff_right hs]
    omega
  · rw [if_neg hs]
    simp only [hs, false_and, iff_false]
    omega

/-- Whoever took the last one has to wake everyone, and does it once. -/
theorem wakeUps_step (c : Countdown) (s : Step) :
    (c.step s).wakeUps + (if wakesAll c s then 1 else 0) =
      c.wakeUps + if takesLast c s then 1 else 0 := by
  cases s with
  | count => by_cases h : c.remaining = 1 <;> simp [step, wakesAll, takesLast, h]
  | wake =>
    rcases Nat.eq_zero_or_pos c.wakeUps with h | h
    · simp [step_wake_of_zero h, wakesAll, takesLast_iff, h]
    · have hleft : c.wakeUps - 1 + 1 = c.wakeUps := Nat.sub_add_cancel h
      simp [step_wake_of_pos h, wakesAll, takesLast_iff, h, hleft]
  | _ => simp [step, wakesAll, takesLast_iff]

/-! ## Runs -/

/-- **The count** is what it was at the beginning less one for each arrival, down to zero. -/
theorem remaining_run (total : Nat) (steps : List Step) :
    ((ofTotal total).run steps).remaining = total - arrived steps := by
  induction steps using List.reverseRecOn with
  | nil => rfl
  | append_singleton before s ih =>
    rw [run_concat, remaining_step, arrived_concat, ih]
    split <;> omega

/-- As many arrivals take one from the count as there are to take. -/
theorem tally_takesOne (total : Nat) (steps : List Step) :
    tally takesOne (ofTotal total) steps = min total (arrived steps) := by
  induction steps using List.reverseRecOn with
  | nil => exact (Nat.min_zero total).symm
  | append_singleton before s ih =>
    rw [tally_concat, ih, arrived_concat]
    simp only [takesOne_iff, remaining_run]
    by_cases hs : s = .count
    · simp only [hs, true_and, if_true]
      split <;> omega
    · simp [hs]

/-- **Exactly one arrival takes the last one**, if there is anything to take and enough arrive. -/
theorem tally_takesLast (total : Nat) (steps : List Step) :
    tally takesLast (ofTotal total) steps = if 0 < total ∧ total ≤ arrived steps then 1 else 0 := by
  induction steps using List.reverseRecOn with
  | nil =>
    rw [if_neg]
    · rfl
    · rintro ⟨hpos, hle⟩
      exact absurd (Nat.le_zero.mp hle) (Nat.ne_of_gt hpos)
  | append_singleton before s ih =>
    rw [tally_concat, ih, arrived_concat]
    simp only [takesLast_iff, remaining_run]
    by_cases hs : s = .count
    · simp only [hs, true_and, if_true]
      split <;> split <;> split <;> omega
    · simp [hs]

/-- Whoever took the last one has woken everyone, or has it still to do. -/
theorem wakeUps_run (total : Nat) (steps : List Step) :
    ((ofTotal total).run steps).wakeUps + tally wakesAll (ofTotal total) steps =
      tally takesLast (ofTotal total) steps := by
  induction steps using List.reverseRecOn with
  | nil => rfl
  | append_singleton before s ih =>
    have hstep := wakeUps_step ((ofTotal total).run before) s
    rw [run_concat, tally_concat, tally_concat]
    omega

/-- There is an answer for each arrival. -/
theorem length_arrivals_run (total : Nat) (steps : List Step) :
    ((ofTotal total).run steps).arrivals.length = arrived steps := by
  induction steps using List.reverseRecOn with
  | nil => rfl
  | append_singleton before s ih =>
    rw [run_concat, arrivals_step, List.length_append, ih, arrived_concat]
    split <;> rfl

/-- Answers are never taken back. -/
theorem arrivals_prefix_run (c : Countdown) (steps : List Step) :
    c.arrivals <+: (c.run steps).arrivals := by
  induction steps using List.reverseRecOn with
  | nil => exact List.prefix_rfl
  | append_singleton before s ih =>
    rw [run_concat, arrivals_step]
    exact ih.trans (List.prefix_append _ _)

/-- **An arrival is told** how many are missing after it. -/
theorem arrivals_run (total : Nat) (before after : List Step) :
    ((ofTotal total).run (before ++ .count :: after)).arrivals[arrived before]? =
      some ((ofTotal total).run (before ++ [.count])).remaining := by
  have hsplit : before ++ .count :: after = (before ++ [.count]) ++ after := by simp
  have hlength := length_arrivals_run total before
  have hfirst : ((ofTotal total).run (before ++ [.count])).arrivals[arrived before]? =
      some ((ofTotal total).run (before ++ [.count])).remaining := by
    rw [run_concat, arrivals_step, if_pos rfl, ← hlength, List.getElem?_concat_length]
  rw [hsplit, run_append]
  obtain ⟨later, hlater⟩ := arrivals_prefix_run ((ofTotal total).run (before ++ [.count])) after
  rw [← hlater, List.getElem?_append_left (List.getElem?_eq_some_iff.mp hfirst).1, hfirst]

end Roster.Countdown
