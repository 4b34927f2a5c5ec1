import Roster.Proofs.Manager.Conservation
import Roster.Proofs.Manager.Disposal
import Roster.Proofs.Manager.Finality

/-!
# Being told to stop

A proxy looks at its commands in the order in which they were sent, so what is in its queue is what was
sent last (`queue_run`). The command to stop is the last one that it ever looks at.

* `proceeds_or_ends`: what a reaction does to the queue of a proxy that goes on.
* `mem_queue_iff_told`: a proxy that goes on was told to stop exactly if that command waits in its
  queue.
* `live_of_untold` and `not_ended_of_live`: a proxy that nobody tells to stop and that somebody holds
  goes on, and tells nobody of the end.
* `ended_of_asked_late`: whoever asks after the proxy was told to stop is told of the end, whether the
  proxy has stopped by then or not.
-/

namespace Roster.Manager

/-- The commands that are sent in the course of a run, in order. -/
def sent (occurrences : List Occurrence) : List Command :=
  occurrences.filterMap fun o => match o with
    | .sent c => some c
    | _ => none

/-- The commands that are sent in two runs one after the other. -/
theorem sent_append (before after : List Occurrence) :
    sent (before ++ after) = sent before ++ sent after :=
  List.filterMap_append

/-- Those who ask are those whose commands are sent. -/
theorem asked_eq (occurrences : List Occurrence) : asked occurrences = requests (sent occurrences) :=
  rfl

/-- A command was sent where something says so. -/
theorem mem_sent {occurrences : List Occurrence} {c : Command} :
    c ∈ sent occurrences ↔ .sent c ∈ occurrences := by
  unfold sent
  rw [List.mem_filterMap]
  constructor
  · rintro ⟨o, ho, hc⟩
    cases o with
    | sent c' =>
      cases hc
      exact ho
    | _ => cases hc
  · exact fun h => ⟨.sent c, h, rfl⟩

/-- Nothing is sent by anything else. -/
theorem sent_of_not_sent {o : Occurrence} (ho : ∀ c, o ≠ .sent c) : sent [o] = [] := by
  cases o with
  | sent c => exact absurd rfl (ho c)
  | _ => rfl

variable {m : Manager}

/-! ## The queue -/

/-- What a proxy does that goes on: it takes commands from the head of its queue, not the one to stop,
and those that are sent are added at the end. -/
structure Proceeds (m : Manager) (o : Occurrence) (m' : Manager) : Prop where
  /-- It does not stop. -/
  live : m'.disposed = false
  /-- The queue moves on. -/
  queue : ∃ taken, m.queue ++ sent [o] = taken ++ m'.queue ∧ .dispose ∉ taken

/-- A proxy goes on whose queue is left alone, when nothing is sent. -/
theorem Proceeds.of_same {o : Occurrence} {m' : Manager} (hlive : m.disposed = false)
    (ho : ∀ c, o ≠ .sent c) (hqueue : m'.queue = m.queue) (hdisposed : m'.disposed = m.disposed) :
    Proceeds m o m' := by
  refine ⟨hdisposed.trans hlive, [], ?_, List.not_mem_nil⟩
  rw [sent_of_not_sent ho, List.append_nil, hqueue, List.nil_append]

/-- **A proxy that has not stopped goes on**, unless one of the two ends is there. -/
theorem proceeds_or_ends (hlive : m.disposed = false) (o : Occurrence) :
    Proceeds m o (m.react o) ∨ ∃ behind, Ends m o behind := by
  have hhandled := handled_react hlive o
  generalize m.react o = m' at hhandled
  -- all but commands and what is sent leave the queue alone
  have hstanding : ∀ after : Standing, m'.standing = after → after.queue = m.queue →
      after.disposed = m.disposed → (∀ c, o ≠ .sent c) → Proceeds m o m' :=
    fun after hafter hqueue hdisposed ho => .of_same hlive ho
      ((congrArg Standing.queue hafter).trans hqueue)
      ((congrArg Standing.disposed hafter).trans hdisposed)
  cases hhandled with
  | sent c => exact .inl ⟨hlive, [], rfl, List.not_mem_nil⟩
  | nothing ho => exact .inl (.of_same hlive ho rfl rfl)
  | command found c rest hqueue =>
    by_cases hc : c = .dispose
    · rw [hc] at hqueue
      exact .inr ⟨rest, .told found rest hqueue⟩
    · obtain ⟨_, _, hafter⟩ := standing_onCommand { m with queue := rest } found hc
      refine .inl ⟨(congrArg Standing.disposed hafter).trans hlive, [c], ?_,
        fun hmem => hc (List.mem_singleton.mp hmem).symm⟩
      rw [sent_of_not_sent (fun _ h => by cases h), List.append_nil, hqueue]
      exact congrArg (c :: ·) (congrArg Standing.queue hafter).symm
  | owner owner hwatching =>
    exact .inl (hstanding _ (standing_onOwner m owner) rfl rfl fun _ h => by cases h)
  | closed hknown => exact .inl (.of_same hlive (fun _ h => by cases h) rfl rfl)
  | closedUnknown hunknown =>
    exact .inl (hstanding _ (standing_onOwner { m with watching := false } none) rfl rfl
      fun _ h => by cases h)
  | reply answer =>
    exact .inl (hstanding _ (standing_onReply m answer) rfl rfl fun _ h => by cases h)
  | cacheRead result =>
    exact .inl (hstanding _ (standing_onCacheRead m result) rfl rfl fun _ h => by cases h)
  | forsaken => exact .inr ⟨m.queue, .forsaken⟩

/-- Either end makes the proxy stop. -/
theorem Ends.disposed {o : Occurrence} {behind : List Command} (h : Ends m o behind)
    (hlive : m.disposed = false) : (m.react o).disposed = true := by
  cases h with
  | told found behind hqueue =>
    rw [react_command hlive, takeCommand, hqueue]
    rfl
  | forsaken =>
    rw [react_forsaken hlive]
    rfl

section run

variable {busName : String} {always : Bool} {path : Option Path} {before after : List Occurrence}

/-- **What is in the queue is what was sent last**: the commands before that were taken, and the one to
stop is not among them, as long as the proxy goes on. -/
theorem queue_run (hlive : ((start busName always path).run before).disposed = false) :
    ∃ taken, sent before = taken ++ ((start busName always path).run before).queue ∧
      .dispose ∉ taken := by
  induction before using List.reverseRecOn with
  | nil => exact ⟨[], rfl, List.not_mem_nil⟩
  | append_singleton before o ih =>
    rw [run_concat] at hlive ⊢
    have hbefore := disposed_of_step hlive
    obtain ⟨taken, hsent, htaken⟩ := ih hbefore
    rw [disposed_step] at hlive
    obtain hgoes | ⟨behind, hends⟩ := proceeds_or_ends hbefore o
    swap
    · rw [hends.disposed hbefore] at hlive
      cases hlive
    obtain ⟨taken', hstep, htaken'⟩ := hgoes.queue
    refine ⟨taken ++ taken', ?_, fun hmem => ?_⟩
    · rw [sent_append, hsent, List.append_assoc, hstep, List.append_assoc, step, queue_runDeferred]
    · exact (List.mem_append.mp hmem).elim htaken htaken'

/-- **A proxy that goes on was told to stop exactly if the command waits in its queue.** -/
theorem mem_queue_iff_told (hlive : ((start busName always path).run before).disposed = false) :
    .dispose ∈ ((start busName always path).run before).queue ↔ .sent .dispose ∈ before := by
  obtain ⟨taken, hsent, htaken⟩ := queue_run hlive
  rw [← mem_sent, hsent, List.mem_append]
  exact ⟨.inr, fun h => h.resolve_left htaken⟩

/-- **A proxy that nobody tells to stop and that somebody holds goes on.** -/
theorem live_of_untold (hlive : ((start busName always path).run before).disposed = false)
    (htold : .sent .dispose ∉ before ++ after) (hforsaken : .forsaken ∉ after) :
    ((start busName always path).run (before ++ after)).disposed = false := by
  induction after using List.reverseRecOn with
  | nil =>
    rw [List.append_nil]
    exact hlive
  | append_singleton after o ih =>
    rw [← List.append_assoc] at htold ⊢
    have hgoes := ih (fun hmem => htold (List.mem_append_left _ hmem))
      fun hmem => hforsaken (List.mem_append_left _ hmem)
    rw [run_concat]
    rw [disposed_step]
    obtain hon | ⟨behind, hends⟩ := proceeds_or_ends hgoes o
    · exact hon.live
    · cases hends with
      | told found behind hqueue =>
        have hmem := (mem_queue_iff_told hgoes).mp (by rw [hqueue]; exact List.mem_cons_self)
        exact absurd (List.mem_append_left _ hmem) htold
      | forsaken => exact absurd (List.mem_append_right _ (List.mem_singleton_self _)) hforsaken

/-- **A proxy that goes on has told nobody of the end.** -/
theorem not_ended_of_live (hlive : ((start busName always path).run before).disposed = false)
    (w : Nat) : (w, .failed .disposed) ∉ ((start busName always path).run before).answers := by
  induction before using List.reverseRecOn with
  | nil => exact List.not_mem_nil
  | append_singleton before o ih =>
    rw [run_concat] at hlive ⊢
    rw [answers_step_run, List.mem_append]
    rintro (hold | hnew)
    · exact ih (disposed_of_step hlive) hold
    · rw [disposed_step] at hlive
      have hcall := (sound_react_run hlive).callError_of_failed .disposed (told_run hnew).outcome
      cases hcall

/-- As long as a proxy goes on that was told to stop, nobody is answered who asked since: what was sent
since is behind the command to stop. -/
theorem not_answered_of_told (htold : .sent .dispose ∈ before)
    (hlive : ((start busName always path).run (before ++ after)).disposed = false) {w : Nat}
    (hlate : w ∉ asked before) :
    w ∉ ((start busName always path).run (before ++ after)).answers.map Prod.fst := by
  obtain ⟨taken, hsent, htaken⟩ := queue_run hlive
  have hplaces : places ((start busName always path).run (before ++ after)) w =
      (asked (before ++ after)).count w := places_run (before ++ after) w
  rw [sent_append] at hsent
  rcases List.append_eq_append_iff.mp hsent with ⟨extra, htook, _⟩ | ⟨behind, _, hqueue⟩
  · exact absurd (by rw [htook]; exact List.mem_append_left _ (mem_sent.mpr htold)) htaken
  · have hbehind : (requests ((start busName always path).run (before ++ after)).queue).count w =
        (requests behind).count w + (asked after).count w := by
      rw [hqueue, requests_append, List.count_append, asked_eq]
    rw [asked_append, List.count_append, List.count_eq_zero.mpr hlate] at hplaces
    unfold places at hplaces
    rw [hbehind] at hplaces
    refine List.count_eq_zero.mp ?_
    omega

/-- **Whoever asks after the proxy was told to stop is told of the end**, and nothing else, whether the
proxy has stopped by then or not. -/
theorem ended_of_asked_late (htold : .sent .dispose ∈ before) {w : Nat} (hlate : w ∉ asked before)
    {outcome : Outcome ManagerError}
    (hanswer : (w, outcome) ∈ ((start busName always path).run (before ++ after)).answers) :
    outcome = .failed .disposed := by
  induction after using List.reverseRecOn with
  | nil =>
    rw [List.append_nil] at hanswer
    have hplaces : places ((start busName always path).run before) w = (asked before).count w :=
      places_run before w
    rw [List.count_eq_zero.mpr hlate] at hplaces
    have hmem : 0 < (((start busName always path).run before).answers.map Prod.fst).count w :=
      List.count_pos_iff.mpr (List.mem_map_of_mem (f := Prod.fst) hanswer)
    unfold places at hplaces
    omega
  | append_singleton after o ih =>
    rcases hstop : ((start busName always path).run (before ++ (after ++ [o]))).disposed with _ | _
    · exact absurd (List.mem_map_of_mem (f := Prod.fst) hanswer)
        (not_answered_of_told htold hstop hlate)
    · rw [← List.append_assoc, run_concat] at hanswer hstop
      rw [answers_step_run, List.mem_append] at hanswer
      rcases hanswer with hold | hnew
      · exact ih hold
      · rw [disposed_step] at hstop
        have houtcome := (told_run hnew).outcome
        rw [(stopped_react_run hstop).outcome] at houtcome
        exact (Option.some.inj houtcome).symm

end run

end Roster.Manager
