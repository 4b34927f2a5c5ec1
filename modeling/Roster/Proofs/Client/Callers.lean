import Roster.Proofs.Client.Listings

/-!
# Callers come once

Whoever searches for all managers does so for a caller that has a number, or for nobody. A caller gets
its number when it comes, and no other one gets that number later (`Attends`). So once the caller of a
discovery has vanished, it does not come back (`gone_run`).
-/

namespace Roster.Client

/-- What can become of the callers in the time from one client to another. -/
structure Attends (c c' : Client) : Prop where
  /-- Callers have come since. -/
  made : c.callersMade ≤ c'.callersMade
  /-- Whoever is there was there before, or has come since with a new number. -/
  present : ∀ n ∈ c'.callers.values,
    n ∈ c.callers.values ∨ c.callersMade ≤ n ∧ n < c'.callersMade

variable {c c' : Client}

/-- Nobody comes where the callers stay the same. -/
theorem attends_of_core {core : Core} (hcore : c'.core = core)
    (hcallers : core.callers = c.callers) (hmade : c.callersMade ≤ core.callersMade) :
    Attends c c' := by
  subst hcore
  refine ⟨hmade, fun n hn => .inl ?_⟩
  rw [← hcallers]
  exact hn

/-- Whoever comes later comes after that. -/
theorem Attends.trans {c₁ c₂ c₃ : Client} (h : Attends c₁ c₂) (h' : Attends c₂ c₃) :
    Attends c₁ c₃ where
  made := Nat.le_trans h.made h'.made
  present := by
    intro n hn
    have hmade := h.made
    have hmade' := h'.made
    rcases h'.present n hn with hbefore | ⟨hfirst, hlast⟩
    · rcases h.present n hbefore with hfirst | ⟨hfirst, hlast⟩
      · exact .inl hfirst
      · exact .inr ⟨hfirst, Nat.lt_of_lt_of_le hlast hmade'⟩
    · exact .inr ⟨Nat.le_trans hmade hfirst, hlast⟩

/-- The registry leaves the callers alone when it gives a proxy. -/
theorem Gives.attends {name : ServiceName} {id : Nat} (h : Gives c name c' id) : Attends c c' := by
  cases h with
  | kept id hkept hlive => exact attends_of_core rfl rfl (Nat.le_refl _)
  | made c' path hcore => exact attends_of_core hcore rfl (Nat.le_refl _)

/-- A discovery leaves the callers alone. -/
theorem OwnStep.attends {id : Nat} {d : Discovery} (h : OwnStep c id d c') : Attends c c' := by
  cases h with
  | finds which busName rest name hstage hname hnew hcore =>
    exact (gives_getManager c name .search).attends.trans
      (attends_of_core hcore rfl (Nat.le_refl _))
  | asks which due timely hstage hcore
  | passes which busName rest hstage hold hcore
  | counts hstage hcore
  | questions proxy rest countdown hstage hcore
  | waits countdown hstage hcore
  | concludes hanswered hcore => exact attends_of_core hcore rfl (Nat.le_refl _)

/-- **Whatever happens to a client**, at most one caller comes, under a new number. -/
theorem Happens.attends {a : Action} (h : Happens c c' a) : Attends c c' := by
  cases h with
  | gives name setting id h => exact h.attends
  | begins label caller callback hcore => exact attends_of_core hcore rfl (Nat.le_succ _)
  | comes name hcore =>
    have hcallers : c'.callers = c.callers.insert name c.callersMade := congrArg Core.callers hcore
    have hmade : c'.callersMade = c.callersMade + 1 := congrArg Core.callersMade hcore
    refine ⟨by omega, fun n hn => ?_⟩
    rw [hcallers] at hn
    rcases OrderedMap.mem_values_insert hn with rfl | hold
    · exact .inr ⟨Nat.le_refl _, by omega⟩
    · exact .inl hold
  | goes name hcore =>
    have hcallers : c'.callers = c.callers.erase name := congrArg Core.callers hcore
    refine ⟨Nat.le_of_eq (congrArg Core.callersMade hcore).symm, fun n hn => .inl ?_⟩
    rw [hcallers] at hn
    exact OrderedMap.mem_values_erase hn
  | own j d hd h => exact h.attends
  | question i q hq hmissing h =>
    cases h with
    | sends hunsent hcore => exact attends_of_core hcore rfl (Nat.le_refl _)
    | counts waiter hsent hanswer hcore => exact attends_of_core hcore rfl (Nat.le_refl _)
  | nothing a hcore
  | evicts name hcore
  | sends a id command waiters hle hwaiter hcore
  | reacts id o own hcore
  | hears j d which due timely answer hd hstage hcore =>
    exact attends_of_core hcore rfl (Nat.le_refl _)

/-- A caller that is there is one of the callers. -/
theorem callerAlive_some {n : Nat} : c.callerAlive (some n) = true ↔ n ∈ c.callers.values := by
  rw [callerAlive]
  exact decide_eq_true_iff

section run

variable {setup : Setup} {tree : FileTree}

/-- Callers come with new numbers in every run. -/
theorem attends_run (before after : List Action) :
    Attends ((start setup tree).run before) ((start setup tree).run (before ++ after)) := by
  induction after using List.reverseRecOn with
  | nil =>
    rw [List.append_nil]
    exact attends_of_core rfl rfl (Nat.le_refl _)
  | append_singleton after a ih =>
    rw [← List.append_assoc, run_concat]
    exact ih.trans (happens_act _ a).attends

/-- Whoever is there has a number that was given. -/
theorem present_run {actions : List Action} {n : Nat}
    (hn : n ∈ ((start setup tree).run actions).callers.values) :
    n < ((start setup tree).run actions).callersMade := by
  rcases (attends_run [] actions).present n hn with hstart | ⟨_, hlast⟩
  · cases hstart
  · exact hlast

/-- Discoveries are for callers whose numbers were given. -/
theorem caller_run {actions : List Action} {id : Nat} {v : View}
    (hv : ((start setup tree).run actions).view? id = some v) :
    ∀ n, v.discovery.caller = some n → n < ((start setup tree).run actions).callersMade := by
  refine view_run_induct (P := fun actions v => ∀ n, v.discovery.caller = some n →
    n < ((start setup tree).run actions).callersMade)
    (fun before label caller callback n hn => ?_) (fun before a v v' _ hturn h n hn => ?_) hv
  · have hmade : ((start setup tree).run (before ++ [.search label caller callback])).callersMade =
        ((start setup tree).run before).callersMade + 1 := by
      rw [run_concat]
      exact congrArg Core.callersMade (core_search _ label caller callback)
    rw [hmade]
    obtain ⟨name, _, rfl⟩ := Option.map_eq_some_iff.mp hn
    rcases hname : ((start setup tree).run before).callers.get? name with _ | n
    · exact Nat.lt_succ_self _
    · exact Nat.lt_succ_of_lt (present_run (OrderedMap.mem_values_of_get? hname))
  · rw [hturn.later.caller] at hn
    exact Nat.lt_of_lt_of_le (h n hn) (attends_run before [a]).made

/-- **A caller that has vanished does not come back.** -/
theorem gone_run {before : List Action} {id : Nat} {d : Discovery}
    (hd : ((start setup tree).run before).discoveries[id]? = some d)
    (hgone : ((start setup tree).run before).callerAlive d.caller = false) (after : List Action) :
    ((start setup tree).run (before ++ after)).callerAlive d.caller = false := by
  rcases hcaller : d.caller with _ | n
  · rw [hcaller] at hgone
    cases hgone
  · have hgiven := caller_run (view?_of_discovery hd) n hcaller
    rw [hcaller] at hgone
    rw [← Bool.not_eq_true, callerAlive_some] at hgone ⊢
    intro hback
    rcases (attends_run before after).present n hback with hstill | ⟨hnew, _⟩
    · exact hgone hstill
    · omega

end run

end Roster.Client
