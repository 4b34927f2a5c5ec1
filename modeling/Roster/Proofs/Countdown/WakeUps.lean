import Roster.Proofs.Countdown.Counting

/-!
# No wake-up is lost

A waiter that found someone missing sleeps until it is woken. It may find so, then the last arrival
may count and wake everyone, and only then does it fall asleep; but it showed its interest before it
looked, so that the wake-up reaches it.

* **What a waiter may rely on** (`Waiter.Fits`): whoever found nobody missing is right for good, and
  whoever found someone missing was woken, unless someone is still missing or is still about to wake
  everyone. Every step keeps this (`Fits.step`), whoever makes it.
* **The end** (`Calm`): nobody is missing and everyone was woken. No step ends it, and nobody sleeps
  in it.
* **Returning** (`Calm.returns`): from then on a waiter has at most four steps to make
  (`Waiter.stepsLeft`). Once it has made them it has returned, whatever the others do in between.
-/

namespace Roster

/-! ## Waiters -/

namespace Waiter

/-- The waiter sleeps: it awaits a wake-up, and none came since it showed interest. -/
def Sleeps (w : Waiter) : Prop := w.phase = .asleep ∧ w.woken = false

/-- The waiter found someone missing when it looked, and has not begun again since. -/
def FoundMissing (w : Waiter) : Prop :=
  w.phase = .asleep ∨ ∃ missing, w.phase = .looked (missing + 1)

/-- What a waiter may rely on, where so many are missing and so many have still to wake everyone. -/
structure Fits (remaining wakeUps : Nat) (w : Waiter) : Prop where
  /-- No more are missing than it found. -/
  looked : ∀ missing, w.phase = .looked missing → remaining ≤ missing
  /-- It has returned only if nobody is missing. -/
  returned : w.phase = .returned → remaining = 0
  /-- If it found someone missing it was woken, or it will be. -/
  woken : w.FoundMissing → w.woken = true ∨ 0 < remaining ∨ 0 < wakeUps

/-- The own steps that a waiter needs to return where nobody is missing and everyone was woken. -/
def stepsLeft (i : Nat) (w : Waiter) : List Countdown.Step :=
  match w.phase with
  | .interested => [.look i, .act i]
  | .looked 0 => [.act i]
  | .looked (_ + 1) => [.act i, .rise i, .look i, .act i]
  | .asleep => [.rise i, .look i, .act i]
  | .returned => []

variable {w : Waiter} {remaining wakeUps : Nat}

/-- Whoever needs no more steps has returned. -/
theorem returned_of_stepsLeft {i : Nat} (h : w.stepsLeft i = []) : w.phase = .returned := by
  obtain ⟨phase, woken⟩ := w
  cases phase with
  | returned => rfl
  | looked missing => cases missing <;> cases h
  | _ => cases h

/-- Whoever has shown interest and not looked yet relies on nothing. -/
theorem fits_interested : ({} : Waiter).Fits remaining wakeUps where
  looked _ h := by cases h
  returned h := by cases h
  woken h := by rcases h with h | ⟨_, h⟩ <;> cases h

namespace Fits

theorem look (h : w.Fits remaining wakeUps) :
    (Countdown.Waiter.look remaining w).Fits remaining wakeUps := by
  obtain ⟨phase, woken⟩ := w
  cases phase with
  | interested =>
    refine ⟨?_, ?_, ?_⟩
    · rintro missing ⟨⟩
      exact Nat.le_refl _
    · rintro ⟨⟩
    · rintro (hasleep | ⟨missing, hlooked⟩)
      · cases hasleep
      · cases hlooked
        exact .inr (.inl (Nat.succ_pos _))
  | _ => exact h

theorem act (h : w.Fits remaining wakeUps) : (Countdown.Waiter.act w).Fits remaining wakeUps := by
  obtain ⟨phase, woken⟩ := w
  cases phase with
  | looked missing =>
    rw [Countdown.Waiter.act_looked]
    cases missing with
    | zero =>
      refine ⟨?_, fun _ => Nat.le_zero.mp (h.looked 0 rfl), ?_⟩
      · rintro missing ⟨⟩
      · rintro (hasleep | ⟨missing, hlooked⟩)
        · cases hasleep
        · cases hlooked
    | succ missing =>
      refine ⟨?_, ?_, fun _ => h.woken (.inr ⟨missing, rfl⟩)⟩
      · rintro missing ⟨⟩
      · rintro ⟨⟩
  | _ => exact h

theorem rise (h : w.Fits remaining wakeUps) : (Countdown.Waiter.rise w).Fits remaining wakeUps := by
  unfold Countdown.Waiter.rise
  split
  · exact fits_interested
  · exact h

/-- An arrival that takes the last one has to wake everyone. -/
theorem count (h : w.Fits remaining wakeUps) :
    w.Fits (remaining - 1) (if remaining = 1 then wakeUps + 1 else wakeUps) where
  looked missing hlooked := Nat.le_trans (Nat.sub_le _ _) (h.looked missing hlooked)
  returned hreturned := by rw [h.returned hreturned]
  woken hfound := by
    rcases h.woken hfound with hwoken | hmissing | hwakeUps
    · exact .inl hwoken
    · split <;> omega
    · split <;> omega

/-- Whoever is woken needs no other wake-up. -/
theorem wake (h : w.Fits remaining wakeUps) (left : Nat) :
    ({ w with woken := true } : Waiter).Fits remaining left :=
  ⟨h.looked, h.returned, fun _ => .inl rfl⟩

end Fits

end Waiter

namespace Countdown

variable {c : Countdown} {i : Nat} {w : Waiter}

/-! ## Steps -/

theorem forall_mem_modify {P : Waiter → Prop} {f : Waiter → Waiter} (hf : ∀ w, P w → P (f w))
    {waiters : List Waiter} (h : ∀ w ∈ waiters, P w) (i : Nat) : ∀ w ∈ waiters.modify i f, P w := by
  intro w hw
  obtain ⟨j, hj⟩ := List.mem_iff_getElem?.mp hw
  rw [List.getElem?_modify] at hj
  obtain ⟨v, hv, rfl⟩ := Option.map_eq_some_iff.mp hj
  have hmem := h v (List.mem_of_getElem? hv)
  split
  · exact hf v hmem
  · exact hmem

/-- Every waiter relies on what is so. -/
def Fits (c : Countdown) : Prop := ∀ w ∈ c.waiters, w.Fits c.remaining c.wakeUps

/-- **A step** leaves every waiter what it may rely on. -/
theorem Fits.step (h : c.Fits) (s : Step) : (c.step s).Fits := by
  cases s with
  | begin =>
    intro w hw
    rcases List.mem_append.mp hw with hw | hw
    · exact h w hw
    · rw [List.mem_singleton.mp hw]
      exact Waiter.fits_interested
  | look i => exact forall_mem_modify (fun _ hw => hw.look) h i
  | act i => exact forall_mem_modify (fun _ hw => hw.act) h i
  | rise i => exact forall_mem_modify (fun _ hw => hw.rise) h i
  | count => exact fun w hw => (h w hw).count
  | wake =>
    rcases Nat.eq_zero_or_pos c.wakeUps with hzero | hpos
    · rw [step_wake_of_zero hzero]
      exact h
    · rw [step_wake_of_pos hpos]
      intro w hw
      obtain ⟨v, hv, rfl⟩ := List.mem_map.mp hw
      exact (h v hv).wake _

theorem fits_run (total : Nat) (steps : List Step) : ((ofTotal total).run steps).Fits := by
  induction steps using List.reverseRecOn with
  | nil =>
    intro w hw
    cases hw
  | append_singleton before s ih =>
    rw [run_concat]
    exact ih.step s

/-! ## The end -/

/-- Nobody is missing, and nobody has to wake anyone any more. -/
structure Calm (c : Countdown) : Prop where
  /-- Nobody is missing. -/
  remaining : c.remaining = 0
  /-- Nobody has to wake anyone. -/
  wakeUps : c.wakeUps = 0
  /-- Every waiter relies on what is so. -/
  fits : c.Fits

namespace Calm

theorem step (h : c.Calm) (s : Step) : (c.step s).Calm where
  remaining := by
    rw [remaining_step, h.remaining]
    split <;> rfl
  wakeUps := by
    have hstep := wakeUps_step c s
    have htakes : takesLast c s = false := by simp [← Bool.not_eq_true, takesLast_iff, h.remaining]
    rw [htakes, h.wakeUps] at hstep
    exact Nat.eq_zero_of_add_eq_zero_right hstep
  fits := h.fits.step s

theorem run (h : c.Calm) (steps : List Step) : (c.run steps).Calm := by
  induction steps using List.reverseRecOn with
  | nil => exact h
  | append_singleton before s ih =>
    rw [run_concat]
    exact ih.step s

/-- Whoever found someone missing was woken. -/
theorem woken (h : c.Calm) (hw : w ∈ c.waiters) (hfound : w.FoundMissing) : w.woken = true := by
  have hwoken := (h.fits w hw).woken hfound
  rw [h.remaining, h.wakeUps] at hwoken
  simpa using hwoken

/-- Nobody sleeps. -/
theorem not_sleeps (h : c.Calm) (hw : w ∈ c.waiters) : ¬ w.Sleeps := by
  rintro ⟨hasleep, hnot⟩
  rw [h.woken hw (.inl hasleep)] at hnot
  cases hnot

end Calm

/-! ## Returning -/

/-- A waiter has made one of the steps that it needs, or it needs the same steps as before and the step
is not the next of them. -/
def Advances (i : Nat) (s : Step) (w w' : Waiter) : Prop :=
  w.stepsLeft i = s :: w'.stepsLeft i ∨
    w'.stepsLeft i = w.stepsLeft i ∧ ∀ rest, w.stepsLeft i ≠ s :: rest

/-- The waiter that makes a step, if a waiter makes it. -/
def Step.waiter? : Step → Option Nat
  | .look i | .act i | .rise i => some i
  | .begin | .count | .wake => none

/-- A waiter needs no steps but its own. -/
theorem waiter?_of_mem_stepsLeft (w : Waiter) : ∀ s ∈ w.stepsLeft i, s.waiter? = some i := by
  obtain ⟨phase, woken⟩ := w
  cases phase with
  | looked missing => cases missing <;> simp [Waiter.stepsLeft, Step.waiter?]
  | _ => simp [Waiter.stepsLeft, Step.waiter?]

theorem advances_of_foreign {s : Step} (hforeign : s.waiter? ≠ some i) (w : Waiter) :
    Advances i s w w :=
  .inr ⟨rfl, fun _ heq => hforeign (waiter?_of_mem_stepsLeft w s (heq ▸ List.mem_cons_self))⟩

theorem advances_look (w : Waiter) : Advances i (.look i) w (Waiter.look 0 w) := by
  obtain ⟨phase, woken⟩ := w
  cases phase with
  | interested => exact .inl rfl
  | looked missing => cases missing <;> exact .inr ⟨rfl, by simp [Waiter.stepsLeft]⟩
  | _ => exact .inr ⟨rfl, by simp [Waiter.stepsLeft]⟩

theorem advances_act (w : Waiter) : Advances i (.act i) w (Waiter.act w) := by
  obtain ⟨phase, woken⟩ := w
  cases phase with
  | looked missing => cases missing <;> exact .inl rfl
  | _ => exact .inr ⟨rfl, by simp [Waiter.stepsLeft]⟩

/-- A waiter that sleeps makes no step. -/
theorem advances_rise (hawake : ¬ w.Sleeps) : Advances i (.rise i) w (Waiter.rise w) := by
  obtain ⟨phase, woken⟩ := w
  cases phase with
  | asleep =>
    cases woken with
    | true => exact .inl rfl
    | false => exact absurd ⟨rfl, rfl⟩ hawake
  | looked missing => cases missing <;> exact .inr ⟨rfl, by simp [Waiter.stepsLeft]⟩
  | _ => exact .inr ⟨rfl, by simp [Waiter.stepsLeft]⟩

/-- Where only one waiter changes, each waiter advances if that one does. -/
theorem exists_advances_modify {s : Step} {f : Waiter → Waiter} {j : Nat}
    (hs : s.waiter? = some j) (hw : c.waiters[i]? = some w)
    (hself : i = j → Advances i s w (f w)) :
    ∃ w', (c.waiters.modify j f)[i]? = some w' ∧ Advances i s w w' := by
  rw [List.getElem?_modify, hw]
  by_cases hij : i = j
  · exact ⟨f w, by simp [hij], hself hij⟩
  · have hforeign : s.waiter? ≠ some i := by
      rw [hs]
      exact fun heq => hij (Option.some.inj heq).symm
    exact ⟨w, by simp [Ne.symm hij], advances_of_foreign hforeign w⟩

namespace Calm

/-- **A step** is the next one that a waiter needs, or it leaves the steps that the waiter needs. -/
theorem exists_advances (h : c.Calm) (hw : c.waiters[i]? = some w) (s : Step) :
    ∃ w', (c.step s).waiters[i]? = some w' ∧ Advances i s w w' := by
  cases s with
  | begin =>
    refine ⟨w, ?_, advances_of_foreign (by simp [Step.waiter?]) w⟩
    exact (List.getElem?_append_left (List.getElem?_eq_some_iff.mp hw).1).trans hw
  | look j =>
    refine exists_advances_modify rfl hw ?_
    rintro rfl
    rw [h.remaining]
    exact advances_look w
  | act j =>
    refine exists_advances_modify rfl hw ?_
    rintro rfl
    exact advances_act w
  | rise j =>
    refine exists_advances_modify rfl hw ?_
    rintro rfl
    exact advances_rise (h.not_sleeps (List.mem_of_getElem? hw))
  | count => exact ⟨w, hw, advances_of_foreign (by simp [Step.waiter?]) w⟩
  | wake =>
    rw [step_wake_of_zero h.wakeUps]
    exact ⟨w, hw, advances_of_foreign (by simp [Step.waiter?]) w⟩

/-- **A waiter returns** once it has made the steps that it needs, with anything in between. -/
theorem returns (h : c.Calm) (hw : c.waiters[i]? = some w) {after : List Step}
    (hmade : (w.stepsLeft i).Sublist after) :
    ∃ w', (c.run after).waiters[i]? = some w' ∧ w'.phase = .returned := by
  induction after generalizing c w with
  | nil =>
    exact ⟨w, hw, Waiter.returned_of_stepsLeft (List.sublist_nil.mp hmade)⟩
  | cons s rest ih =>
    obtain ⟨w', hw', hadvances⟩ := h.exists_advances hw s
    refine ih (h.step s) hw' ?_
    rcases hadvances with hnext | ⟨hsame, hnot⟩
    · rw [hnext] at hmade
      exact List.cons_sublist_cons.mp hmade
    · rcases List.sublist_cons_iff.mp hmade with hlater | ⟨_, hnext, _⟩
      · rwa [hsame]
      · exact absurd hnext (hnot _)

end Calm

/-- After every run, nobody is missing and everyone was woken exactly if nobody was missing from the
beginning or the arrival that took the last one has woken everyone. -/
theorem calm_run_iff (total : Nat) (steps : List Step) :
    ((ofTotal total).run steps).Calm ↔
      total = 0 ∨ 0 < tally wakesAll (ofTotal total) steps := by
  have hremaining := remaining_run total steps
  have hwakeUps := wakeUps_run total steps
  rw [tally_takesLast] at hwakeUps
  constructor
  · intro h
    have hr := h.remaining
    have hu := h.wakeUps
    split at hwakeUps <;> omega
  · intro h
    refine ⟨?_, ?_, fits_run total steps⟩
    · split at hwakeUps <;> omega
    · split at hwakeUps <;> omega

/-- **No wake-up is lost**, in whatever order the steps of any number of calls come. The count is what it
was at the beginning less the arrivals that took one from it, which are all that arrived, or as many as
there were to take. If enough arrive, exactly one of them takes the last one; that one wakes everyone,
and no other does. Each arrival is told how many are missing after it. No waiter has returned while
someone is missing. Once the arrival that took the last one has woken everyone, or if nobody was missing
from the beginning, nobody sleeps at any later moment, and a waiter has returned as soon as it has made
the steps that it needs. -/
theorem no_wakeUp_lost_run (total : Nat) (steps : List Step) :
    let c := (ofTotal total).run steps
    let times (happens : Countdown → Step → Bool) : Nat := tally happens (ofTotal total) steps
    c.remaining + times takesOne = total ∧ times takesOne = min total (arrived steps) ∧
      times takesLast = (if 0 < total ∧ total ≤ arrived steps then 1 else 0) ∧
      c.wakeUps + times wakesAll = times takesLast ∧
      c.arrivals.length = arrived steps ∧
      (∀ before after, steps = before ++ .count :: after →
        c.arrivals[arrived before]? = some ((ofTotal total).run (before ++ [.count])).remaining) ∧
      (∀ w ∈ c.waiters, w.phase = .returned → c.remaining = 0) ∧
      (total = 0 ∨ 0 < times wakesAll → ∀ after,
        (∀ w ∈ (c.run after).waiters, ¬ w.Sleeps) ∧
          ∀ (i : Nat) (w : Waiter), c.waiters[i]? = some w → (w.stepsLeft i).Sublist after →
            ∃ w' : Waiter, (c.run after).waiters[i]? = some w' ∧ w'.phase = .returned) := by
  intro c times
  have htaken : times takesOne = min total (arrived steps) := tally_takesOne total steps
  refine ⟨?_, htaken, tally_takesLast total steps, wakeUps_run total steps,
    length_arrivals_run total steps, ?_, ?_, ?_⟩
  · have hremaining : c.remaining = total - arrived steps := remaining_run total steps
    omega
  · rintro before after hsplit
    have hc : c = (ofTotal total).run (before ++ .count :: after) := congrArg _ hsplit
    rw [hc]
    exact arrivals_run total before after
  · intro w hw
    exact (fits_run total steps w hw).returned
  · intro hwoken after
    have hcalm : c.Calm := (calm_run_iff total steps).mpr hwoken
    refine ⟨fun w hw => (hcalm.run after).not_sleeps hw, fun i w hw hmade => ?_⟩
    exact hcalm.returns hw hmade

/-- Two waiters find two missing. One of them falls asleep, is woken and returns; the other one falls
asleep only after the wake-up, and returns later. There is an arrival too many. -/
theorem no_wakeUp_lost_run_raced :
    let steps : List Step :=
      [.begin, .begin, .look 0, .look 1, .act 1, .count, .count, .wake, .rise 1, .look 1, .act 1,
        .act 0, .count]
    let after : List Step := [.rise 0, .begin, .look 0, .count, .act 0]
    let c := (ofTotal 2).run steps
    0 < tally wakesAll (ofTotal 2) steps ∧ c.waiters = [⟨.asleep, true⟩, ⟨.returned, false⟩] ∧
      c.arrivals[1]? = some 0 ∧ c.remaining = 0 ∧ (∀ w ∈ c.waiters, ¬ w.Sleeps) ∧
      ∃ w, (c.run after).waiters[0]? = some w ∧ w.phase = .returned := by
  intro steps after c
  have hwoken : 0 < tally wakesAll (ofTotal 2) steps := by decide
  have hwaiters : c.waiters = [⟨.asleep, true⟩, ⟨.returned, false⟩] := by decide
  obtain ⟨_, _, _, _, _, htold, hreturned, hlater⟩ := no_wakeUp_lost_run 2 steps
  refine ⟨hwoken, hwaiters, ?_, ?_, (hlater (.inr hwoken) []).1, ?_⟩
  · exact htold [.begin, .begin, .look 0, .look 1, .act 1, .count] _ rfl
  · exact hreturned ⟨.returned, false⟩ (by decide) rfl
  · exact (hlater (.inr hwoken) after).2 0 ⟨.asleep, true⟩ (by decide) (by decide)

end Countdown

end Roster
