import Roster.Proofs.Client.Turns

/-!
# Waiting for everyone

A discovery that has looked at all names asks every proxy that it found and counts the answers down.
It waits once, after everyone was asked, while answers may come before (`Countdown.Unawaited`) and
after that (`Countdown.Awaited`).

* `fanIn_run`: at every moment the count is the number of those whose answers were not counted yet,
  whether they were asked or not. It reaches zero with the last one, and not before.
* `FanIn.isAnswered_iff`: so a discovery that waits goes on exactly if nobody is missing.
-/

namespace Roster

namespace Countdown

/-- A count on which nobody waits yet. -/
structure Unawaited (countdown : Countdown) (count : Nat) : Prop where
  /-- So many are missing. -/
  remaining : countdown.remaining = count
  /-- Nobody waits. -/
  waiters : countdown.waiters = []
  /-- Nobody has to be woken. -/
  wakeUps : countdown.wakeUps = 0

/-- A count on which one waits, who goes on when nobody is missing any more. -/
structure Awaited (countdown : Countdown) (count : Nat) : Prop where
  /-- So many are missing. -/
  remaining : countdown.remaining = count
  /-- The waiter has returned or is asleep. -/
  waiters : ∃ woken, countdown.waiters =
    [if count = 0 then ⟨.returned, woken⟩ else ⟨.asleep, false⟩]
  /-- Nobody has to be woken. -/
  wakeUps : countdown.wakeUps = 0

variable {countdown : Countdown} {count : Nat}

/-- On a new count nobody waits. -/
theorem unawaited_ofTotal (total : Nat) : (ofTotal total).Unawaited total := ⟨rfl, rfl, rfl⟩

/-- An arrival is counted where nobody waits. -/
theorem Unawaited.arrive (h : countdown.Unawaited (count + 1)) :
    countdown.arrive.1.Unawaited count := by
  obtain ⟨hremaining, hwaiters, hwakeUps⟩ := h
  by_cases hlast : count = 0
  · subst hlast
    constructor <;> simp [Countdown.arrive, run, step, settle, hremaining, hwaiters, hwakeUps]
  · constructor <;>
      simp [Countdown.arrive, run, step, settle, hremaining, hwaiters, hwakeUps, hlast]

/-- Whoever begins to wait looks whether anyone is missing. -/
theorem Unawaited.wait (h : countdown.Unawaited count) : countdown.wait.Awaited count := by
  obtain ⟨hremaining, hwaiters, hwakeUps⟩ := h
  by_cases hzero : count = 0
  · subst hzero
    constructor
    · simp [Countdown.wait, run, step, hremaining]
    · refine ⟨false, ?_⟩
      simp [Countdown.wait, run, step, Waiter.look, hremaining, hwaiters]
    · simp [Countdown.wait, run, step, hwakeUps]
  · constructor
    · simp [Countdown.wait, run, step, hremaining]
    · refine ⟨false, ?_⟩
      simp [Countdown.wait, run, step, Waiter.look, hremaining, hwaiters, hzero]
    · simp [Countdown.wait, run, step, hwakeUps]

/-- An arrival is counted where somebody waits, and the last one lets the waiter go on. -/
theorem Awaited.arrive (h : countdown.Awaited (count + 1)) :
    countdown.arrive.1.Awaited count := by
  obtain ⟨hremaining, ⟨woken, hwaiters⟩, hwakeUps⟩ := h
  rw [if_neg (Nat.succ_ne_zero count)] at hwaiters
  by_cases hlast : count = 0
  · subst hlast
    constructor
    · simp [Countdown.arrive, run, step, settle, hremaining, hwaiters, hwakeUps]
    · refine ⟨false, ?_⟩
      simp [Countdown.arrive, run, step, settle, Waiter.look, Waiter.rise, hremaining, hwaiters,
        hwakeUps]
    · simp [Countdown.arrive, run, step, settle, hremaining, hwaiters, hwakeUps]
  · constructor
    · simp [Countdown.arrive, run, step, settle, hremaining, hwaiters, hwakeUps, hlast]
    · refine ⟨false, ?_⟩
      simp [Countdown.arrive, run, step, settle, Waiter.look, Waiter.rise, hremaining, hwaiters,
        hwakeUps, hlast]
    · simp [Countdown.arrive, run, step, settle, hremaining, hwaiters, hwakeUps, hlast]

/-- Whoever waits goes on exactly if nobody is missing. -/
theorem Awaited.returned_iff (h : countdown.Awaited count) :
    countdown.returned.all (· = true) = true ↔ count = 0 := by
  obtain ⟨woken, hwaiters⟩ := h.waiters
  rw [returned, hwaiters]
  by_cases hzero : count = 0
  · simp [hzero]
  · simp [hzero]

end Countdown

namespace Client

/-! ## The count of a discovery -/

/-- Whom a discovery has asked, and how many it counts. -/
def FanIn (v : View) : Prop :=
  match v.discovery.stage with
  | .start | .listing _ _ _ | .collecting _ _ => v.targets = [] ∧ v.missing = 0
  | .asking rest countdown =>
    v.targets ++ rest = v.discovery.found.values ∧
      countdown.Unawaited (rest.length + v.missing)
  | .waiting countdown =>
    v.targets = v.discovery.found.values ∧ countdown.Awaited v.missing
  | .done (.complete found) =>
    found = v.discovery.found.toList ∧ v.targets = v.discovery.found.values ∧ v.missing = 0
  | .done _ => True

section turns

variable {c c' : Client} {id : Nat} {v v' : View} {a : Action}

/-- A discovery that has stopped has nobody to ask. -/
theorem fanIn_finish (d : Discovery) (targets : List Nat) (missing : Nat)
    {outcome : DiscoveryOutcome} (houtcome : ∀ found, outcome ≠ .complete found) :
    FanIn ⟨d.finish outcome, targets, missing⟩ := by
  unfold FanIn Discovery.finish
  cases outcome with
  | complete found => exact absurd rfl (houtcome found)
  | callerGone => trivial
  | failed e => trivial

/-- A list leaves whom a discovery has asked. -/
theorem FanIn.hear (h : FanIn v) {which : Listing} {due : Nat} {timely : Bool}
    (hstage : v.discovery.stage = .listing which due timely) (alive : Bool)
    (answer : Except BusError (List String)) :
    FanIn { v with discovery := v.discovery.hear alive which answer } := by
  rw [FanIn, hstage] at h
  unfold Discovery.hear
  split
  · split
    · exact h
    · exact fanIn_finish _ _ _ (by simp)
  · exact fanIn_finish _ _ _ (by simp)

/-- An arrival is counted. -/
theorem FanIn.arrive (h : FanIn v) {missing : Nat} (hmissing : v.missing = missing + 1) :
    FanIn { v with discovery := v.discovery.arrive, missing := missing } := by
  rw [FanIn] at h
  cases hstage : v.discovery.stage with
  | asking rest countdown =>
    rw [hstage, hmissing] at h
    rw [Discovery.arrive, hstage]
    exact ⟨h.1, h.2.arrive⟩
  | waiting countdown =>
    rw [hstage, hmissing] at h
    rw [Discovery.arrive, hstage]
    exact ⟨h.1, h.2.arrive⟩
  | done outcome =>
    rw [hstage] at h
    cases outcome with
    | complete found =>
      dsimp only at h
      omega
    | _ =>
      rw [Discovery.arrive, hstage, FanIn]
      dsimp only
      rw [hstage]
      trivial
  | _ =>
    rw [hstage] at h
    dsimp only at h
    omega

/-- A discovery goes on exactly if it has asked everyone and nobody is missing. -/
theorem FanIn.isAnswered_iff (h : FanIn v) :
    v.discovery.isAnswered = true ↔
      (∃ countdown, v.discovery.stage = .waiting countdown) ∧ v.missing = 0 := by
  rw [FanIn] at h
  rw [Discovery.isAnswered]
  cases hstage : v.discovery.stage with
  | waiting countdown =>
    rw [hstage] at h
    rw [h.2.returned_iff]
    simp
  | _ => simp

/-- Where everyone has answered, all that was found was asked. -/
theorem FanIn.conclude (h : FanIn v) (hanswered : v.discovery.isAnswered = true) (alive : Bool) :
    FanIn { v with discovery := v.discovery.conclude alive } := by
  obtain ⟨⟨countdown, hstage⟩, hmissing⟩ := h.isAnswered_iff.mp hanswered
  rw [FanIn, hstage] at h
  unfold Discovery.conclude
  split
  · exact ⟨rfl, h.1, hmissing⟩
  · exact fanIn_finish _ _ _ (by simp)

/-- **Every turn of a discovery** keeps the count. -/
theorem FanIn.turn (h : FanIn v) (hturn : Turn c c' id v a v') : FanIn v' := by
  cases hturn with
  | rests a => exact h
  | hears which due timely answer hstage => exact h.hear hstage _ answer
  | asks which due timely hstage =>
    rcases hstage with ⟨hstage, _⟩ | ⟨hstage, _⟩
    · rw [FanIn, hstage] at h
      exact h
    · rw [FanIn, hstage] at h
      exact h
  | passes which busName rest hstage hold =>
    rw [FanIn, hstage] at h
    exact h
  | finds which busName rest name hstage hname hnew =>
    rw [FanIn, hstage] at h
    exact h
  | counts hstage =>
    rw [FanIn, hstage] at h
    obtain ⟨htargets, hmissing⟩ := h
    refine ⟨?_, ?_⟩
    · dsimp only
      rw [htargets]
      rfl
    · have hlength : v.discovery.found.values.length = v.discovery.found.size := List.length_map _
      dsimp only
      rw [hmissing, hlength]
      exact Countdown.unawaited_ofTotal _
  | questions proxy rest countdown hstage =>
    rw [FanIn, hstage] at h
    refine ⟨?_, ?_⟩
    · dsimp only
      rw [List.append_assoc]
      exact h.1
    · have hcount : rest.length + (v.missing + 1) = (proxy :: rest).length + v.missing := by
        rw [List.length_cons]
        omega
      dsimp only
      rw [hcount]
      exact h.2
  | waits countdown hstage =>
    rw [FanIn, hstage] at h
    obtain ⟨htargets, hcount⟩ := h
    rw [List.append_nil] at htargets
    rw [List.length_nil, Nat.zero_add] at hcount
    exact ⟨htargets, hcount.wait⟩
  | arrives i missing hmissing => exact h.arrive hmissing
  | concludes hanswered => exact h.conclude hanswered _

end turns

section run

variable {setup : Setup} {tree : FileTree}

/-- **The count of a discovery is right**, after every run. -/
theorem fanIn_run {actions : List Action} {id : Nat} {v : View}
    (hv : ((start setup tree).run actions).view? id = some v) : FanIn v :=
  view_run_induct (P := fun _ v => FanIn v) (fun _ _ _ _ => ⟨rfl, rfl⟩)
    (fun _ _ _ _ _ hturn h => h.turn hturn) hv

end run

end Client

end Roster
