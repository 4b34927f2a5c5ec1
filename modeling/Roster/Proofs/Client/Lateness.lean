import Roster.Proofs.Client.Lives
import Roster.Proofs.Manager.Ownership

/-!
# What comes too late

A call may be over before its answer is there, as the manager has left, and a cache read may be given
up before it ends, as another file is to be read. The answer and the end of the read still come, at any
time later. In every run of a client they come too late for good: answers by `callOver_run`, ends of
cache reads by `late_read_run`.
-/

namespace Roster

namespace Manager

variable {busName : String} {always : Bool} {path : Option Path}

/-- A cache read that was begun and is not on its way will not be on its way again. -/
theorem read_run_of_gone {before : List Occurrence} {k : Nat}
    (hbegun : k ≤ ((start busName always path).run before).readsStarted.length)
    (hgone : ((start busName always path).run before).read ≠ some k) (after : List Occurrence) :
    ((start busName always path).run (before ++ after)).read ≠ some k := by
  have hlive : ((start busName always path).run (before ++ after)).disposed = false →
      k ≤ ((start busName always path).run (before ++ after)).readsStarted.length ∧
        ((start busName always path).run (before ++ after)).read ≠ some k := by
    induction after using List.reverseRecOn with
    | nil =>
      intro _
      rw [List.append_nil]
      exact ⟨hbegun, hgone⟩
    | append_singleton after o ih =>
      rw [← List.append_assoc, run_concat]
      intro hd
      obtain ⟨hle, hother⟩ := ih (disposed_of_step hd)
      obtain ⟨hgrown, hread⟩ := reads_step _ (disposed_of_step hd) o
      refine ⟨Nat.le_trans hle hgrown, fun hk => ?_⟩
      rcases hread k hk with hsame | hnew
      · exact hother hsame
      · omega
  rcases hd : ((start busName always path).run (before ++ after)).disposed with _ | _
  · exact (hlive hd).2
  · rw [(stopped_run hd).read]
    simp

end Manager

namespace Client

open Manager (CallOver)

section run

variable {setup : Setup} {tree : FileTree} {before after : List Action} {id : Nat} {p p' : Proxy}

/-- A proxy of a client has had a life of its own, which goes on. -/
theorem exists_life (hp : ((start setup tree).run before).proxy? id = some p)
    (hp' : ((start setup tree).run (before ++ after)).proxy? id = some p') :
    ∃ busName always path past later,
      p.manager = (Manager.start busName always path).run past ∧
        p'.manager = (Manager.start busName always path).run (past ++ later) := by
  have hknown := known?_of_proxy? _ hp
  obtain ⟨past, ⟨path, hlived⟩, _⟩ := lived_run setup tree before id p.name p.manager hknown
  obtain ⟨later, _, hlater⟩ := (goesOn_run setup tree before after).known id p.name p.manager hknown
  rw [known?_of_proxy? _ hp'] at hlater
  refine ⟨_, _, path, past, later, hlived, ?_⟩
  rw [Manager.run_append, ← hlived]
  exact congrArg Prod.snd (Option.some.inj hlater)

/-- **A call that is over stays over** in every run of a client: whatever the client does later, the
proxy takes no answer that was sent for it. -/
theorem callOver_run (hp : ((start setup tree).run before).proxy? id = some p)
    (hp' : ((start setup tree).run (before ++ after)).proxy? id = some p') {k : Nat}
    (hbegun : k ≤ p.manager.callsStarted) (hgone : p.manager.call ≠ some k) :
    CallOver k p'.manager := by
  obtain ⟨busName, always, path, past, later, hpast, hlater⟩ := exists_life hp hp'
  rw [hpast] at hbegun hgone
  rw [hlater, Manager.run_append]
  exact Manager.callOver_run hbegun hgone later

/-- **A cache read that is over stays over** in every run of a client: whatever the client does later,
the proxy passes its end over. What the proxy does next is to send the call on its way, or it takes
something that is no end of a cache read. -/
theorem late_read_run (hp : ((start setup tree).run before).proxy? id = some p)
    (hp' : ((start setup tree).run (before ++ after)).proxy? id = some p') {f : FinishedRead}
    (hbegun : f.number ≤ p.manager.readsStarted.length) (hgone : p.manager.read ≠ some f.number)
    (hfinished : p'.finished = some f) :
    let c := (start setup tree).run (before ++ after)
    c.readStep? id p' = none ∧ ∀ c', c.proxyStep? id = some c' →
      (∃ j, p'.manager.call = some j ∧ Sends c id p' j c') ∨
      ∃ o, (∀ result, o ≠ .cacheRead result) ∧
        c'.known? id = some (p'.name, p'.manager.step o) := by
  intro c
  obtain ⟨busName, always, path, past, later, hpast, hlater⟩ := exists_life hp hp'
  have hover : p'.manager.read ≠ some f.number := by
    rw [hpast] at hbegun hgone
    rw [hlater]
    exact Manager.read_run_of_gone hbegun hgone later
  refine ⟨readStep?_of_gone c id hfinished hover, fun c' hstep => ?_⟩
  refine (timely_of_proxyStep? hp' hstep).imp_right ?_
  rintro ⟨o, htimely, hknown⟩
  refine ⟨o, ?_, hknown⟩
  rintro result rfl
  obtain ⟨f', hfinished', hread, _⟩ := htimely
  cases hfinished.symm.trans hfinished'
  exact hover hread

end run

end Client

end Roster
