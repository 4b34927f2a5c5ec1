import Roster.Proofs.Client.Frame

/-!
# What a proxy takes

All that a proxy can do when its turn comes, said once (`Takes`, `takes_of_proxyStep?`). Whatever is
said of a turn of a proxy is derived from that.

Calls and cache reads have numbers, and so have the answer and the end of a read that came last. A proxy
takes them only under the number that is on its way, so what it reacts to is never too late (`Timely`,
`timely_of_proxyStep?`). An answer that comes when its call is over is passed over as if it had not come
(`callStep?_of_gone`), and what the proxy has of an answer when it has sent a call is what the bus said to
that call (`Sends`). The end of a cache read that was given up is passed over too (`readStep?_of_gone`).
-/

namespace Roster.Client

open Manager (Occurrence)

variable {c c' : Client} {id : Nat} {p : Proxy}

/-! ## Calls -/

/-- The answer that a proxy looks at is one to the call on its way. -/
theorem sentCall?_eq_some_iff {s : SentCall} :
    sentCall? p = some s ↔ p.sent = some s ∧ p.manager.call = some s.number := by
  unfold sentCall?
  rw [Option.filter_eq_some_iff, decide_eq_true_eq]

/-- An answer that was sent for another call than the one on its way is not looked at. -/
theorem sentCall?_of_gone {s : SentCall} (hsent : p.sent = some s)
    (hgone : p.manager.call ≠ some s.number) : sentCall? p = none := by
  rw [Option.eq_none_iff_forall_ne_some]
  intro s' hs'
  obtain ⟨hsent', hcall⟩ := sentCall?_eq_some_iff.mp hs'
  rw [← Option.some.inj (hsent.symm.trans hsent')] at hcall
  exact hgone hcall

/-- **An answer that comes too late is passed over**: the proxy sends the call on its way, if there is
one, as it would have done without that answer. -/
theorem callStep?_of_gone (c : Client) (id : Nat) {s : SentCall} (hsent : p.sent = some s)
    (hgone : p.manager.call ≠ some s.number) :
    c.callStep? id p = p.manager.call.map (c.sendCall id p) := by
  unfold callStep?
  rw [sentCall?_of_gone hsent hgone]
  cases p.manager.call <;> rfl

/-- What the bus says now to the call of a proxy, as the proxy gets it. -/
def freshAnswer (c : Client) (p : Proxy) (number : Nat) : SentCall :=
  let call := callOf c.setup.config p.name
  let answer := inTime call.method c.setup.config.callTimeout (c.bus.call call).2
  ⟨number, c.now + answer.1, answer.2⟩

/-- A call that is sent goes to the bus, and the proxy notes what the bus says to it. It reacts to that
if it is there at once. -/
theorem sendCall_eq (c : Client) (id : Nat) (p : Proxy) (number : Nat) :
    ∃ ready, c.sendCall id p number =
      let call := callOf c.setup.config p.name
      let sent := c.freshAnswer p number
      let called := { c with
        bus := (c.bus.call call).1
        callLog := c.callLog ++ [call]
        ready := ready }.modifyProxy id fun p => { p with sent := some sent }
      if sent.due ≤ c.now then called.happen id (.reply sent.answer) else called := by
  obtain ⟨ready, hwoken⟩ := exists_foldl_wake
    { c with
      bus := (c.bus.call (callOf c.setup.config p.name)).1
      callLog := c.callLog ++ [callOf c.setup.config p.name] }
    (fun x : Proxy × Nat => .proxy x.2) _
  refine ⟨ready, ?_⟩
  unfold sendCall
  dsimp only
  rw [wakeTold, hwoken]
  refine if_congr ?_ rfl rfl
  show _ ↔ c.now + _ ≤ c.now
  omega

/-- A proxy has sent a call: all that it has of an answer is what the bus said to this call, and it has
reacted to that if it was there at once. -/
def Sends (c : Client) (id : Nat) (p : Proxy) (number : Nat) (c' : Client) : Prop :=
  ∃ q, c'.proxy? id = some q ∧ q.name = p.name ∧ q.sent = some (c.freshAnswer p number) ∧
    q.manager = if (c.freshAnswer p number).due ≤ c.now then
        p.manager.step (.reply (c.freshAnswer p number).answer)
      else p.manager

/-- **The call that is sent is the one that is answered.** -/
theorem sends_sendCall (hp : c.proxy? id = some p) (number : Nat) :
    Sends c id p number (c.sendCall id p number) := by
  obtain ⟨ready, hsend⟩ := sendCall_eq c id p number
  have hnoted := proxy?_modifyProxy
    { c with
      bus := (c.bus.call (callOf c.setup.config p.name)).1
      callLog := c.callLog ++ [callOf c.setup.config p.name]
      ready := ready }
    hp fun p' => { p' with sent := some (c.freshAnswer p number) }
  rw [hsend]
  dsimp only
  split
  · rename_i hdue
    obtain ⟨q, hq, hname, hmanager, hsent⟩ :=
      proxy?_happen _ hnoted (.reply (c.freshAnswer p number).answer)
    exact ⟨q, hq, hname, hsent, hmanager.trans (if_pos hdue).symm⟩
  · rename_i hlater
    exact ⟨_, hnoted, rfl, rfl, (if_neg hlater).symm⟩

/-! ## Cache reads -/

/-- **The end of a cache read that comes too late is passed over.** -/
theorem readStep?_of_gone (c : Client) (id : Nat) {f : FinishedRead} (hfinished : p.finished = some f)
    (hgone : p.manager.read ≠ some f.number) : c.readStep? id p = none := by
  unfold readStep?
  rw [hfinished, Option.filter_some, if_neg (by simpa using hgone)]

/-! ## Turns -/

/-- All that a proxy can do when its turn comes. -/
inductive Takes (c : Client) (id : Nat) (p : Proxy) : Client → Prop where
  /-- It takes the next command of its queue. -/
  | command (hqueue : p.manager.queue ≠ []) :
      Takes c id p (c.happen id (.command (c.foundCacheFile p.name)))
  /-- It notices that nobody holds it any more. -/
  | forsaken (hheld : c.isHeld id = false) : Takes c id p (c.happen id .forsaken)
  /-- It takes the next report of its watch, or learns that there will be none. -/
  | report {c' : Client} (h : c.watchStep? id p = some c') : Takes c id p c'
  /-- It sends the call on its way, to which no answer has come. -/
  | call {number : Nat} (hcall : p.manager.call = some number)
      (hsent : ∀ s, p.sent = some s → s.number ≠ number) : Takes c id p (c.sendCall id p number)
  /-- It takes the answer to the call on its way, whose time has come. -/
  | answer {s : SentCall} (hsent : p.sent = some s) (hcall : p.manager.call = some s.number)
      (hdue : s.due ≤ c.now) : Takes c id p (c.happen id (.reply s.answer))
  /-- It takes the end of the cache read on its way. -/
  | readEnd {f : FinishedRead} (hfinished : p.finished = some f)
      (hread : p.manager.read = some f.number) : Takes c id p (c.happen id (.cacheRead f.result))

/-- What a proxy finds at its watch: the next report, or that there will be none. -/
theorem watchStep?_cases (h : c.watchStep? id p = some c') :
    ∃ w, c.watchOf p = some w ∧ p.manager.watching = true ∧
      ((∃ report rest, w.take? = some (report, rest) ∧
          c' = (c.modifyWatch id fun _ => rest).happen id (.owner report)) ∨
        w.registered = false ∧ c' = c.happen id .watchClosed) := by
  unfold watchStep? at h
  split at h
  · cases h
  · rename_i w hthere
    obtain ⟨hw, hwatching⟩ := Option.filter_eq_some_iff.mp hthere
    refine ⟨w, hw, hwatching, ?_⟩
    split at h
    · rename_i report rest htake
      cases h
      exact .inl ⟨report, rest, htake, rfl⟩
    · split at h
      · cases h
      · rename_i hleft
        cases h
        exact .inr ⟨Bool.eq_false_iff.mpr hleft, rfl⟩

/-- A proxy sends the call on its way, or takes the answer to that call. -/
theorem takes_of_callStep? (h : c.callStep? id p = some c') : Takes c id p c' := by
  unfold callStep? at h
  split at h
  · cases h
  · rename_i number hcall
    split at h
    · rename_i hnone
      cases h
      refine .call hcall fun s hsent hnumber => ?_
      have hs : sentCall? p = some s := sentCall?_eq_some_iff.mpr ⟨hsent, hnumber ▸ hcall⟩
      rw [hnone] at hs
      cases hs
    · rename_i s hs
      obtain ⟨hsent, hown⟩ := sentCall?_eq_some_iff.mp hs
      split at h
      · rename_i hdue
        cases h
        exact .answer hsent hown hdue
      · cases h

/-- A proxy takes the end of the cache read on its way. -/
theorem takes_of_readStep? (h : c.readStep? id p = some c') : Takes c id p c' := by
  unfold readStep? at h
  split at h
  · rename_i f hf
    obtain ⟨hfinished, hread⟩ := Option.filter_eq_some_iff.mp hf
    cases h
    exact .readEnd hfinished (of_decide_eq_true hread)
  · cases h

/-- **What a proxy does when its turn comes is one of these**, and it has not stopped. -/
theorem takes_of_proxyStep? (h : c.proxyStep? id = some c') :
    ∃ p, c.proxy? id = some p ∧ p.manager.disposed = false ∧ Takes c id p c' := by
  obtain ⟨p, hp, h⟩ := Option.bind_eq_some_iff.mp h
  split at h
  · cases h
  rename_i hlive
  refine ⟨p, hp, Bool.eq_false_iff.mpr hlive, ?_⟩
  split at h
  · rename_i hqueue
    cases h
    exact .command hqueue
  split at h
  · rename_i hheld
    cases h
    exact .forsaken (by simpa using hheld)
  -- the watch comes first, then the call, then the cache read
  rcases hwatch : c.watchStep? id p with _ | c₁
  · rcases hcall : c.callStep? id p with _ | c₁
    · rw [hwatch, hcall] at h
      exact takes_of_readStep? h
    · rw [hwatch, hcall] at h
      cases h
      exact takes_of_callStep? hcall
  · rw [hwatch] at h
    cases h
    exact .report hwatch

/-! ## In time -/

/-- Something comes in time for a proxy to react to it: an answer while its call is on its way, and the
end of a cache read while that read is. -/
def Timely (p : Proxy) : Occurrence → Prop
  | .reply answer => ∃ s, p.sent = some s ∧ p.manager.call = some s.number ∧ s.answer = answer
  | .cacheRead result => ∃ f, p.finished = some f ∧ p.manager.read = some f.number ∧ f.result = result
  | _ => True

/-- What a proxy does is to send the call on its way, or to react to something that comes in time. -/
theorem Takes.timely (h : Takes c id p c') (hp : c.proxy? id = some p) :
    (∃ number, p.manager.call = some number ∧ Sends c id p number c') ∨
      ∃ o, Timely p o ∧ c'.known? id = some (p.name, p.manager.step o) := by
  have hknown := known?_of_proxy? c hp
  have hreacts : ∀ o, (c.happen id o).known? id = some (p.name, p.manager.step o) := by
    intro o
    rw [known?_happen, hknown]
    rfl
  cases h with
  | command _ => exact .inr ⟨.command _, trivial, hreacts _⟩
  | forsaken _ => exact .inr ⟨.forsaken, trivial, hreacts _⟩
  | report h =>
    obtain ⟨w, _, _, ⟨report, rest, _, rfl⟩ | ⟨_, rfl⟩⟩ := watchStep?_cases h
    · refine .inr ⟨.owner report, trivial, ?_⟩
      rw [known?_happen, known?_modifyWatch, hknown]
      rfl
    · exact .inr ⟨.watchClosed, trivial, hreacts _⟩
  | call hcall _ => exact .inl ⟨_, hcall, sends_sendCall hp _⟩
  | answer hsent hcall _ => exact .inr ⟨.reply _, ⟨_, hsent, hcall, rfl⟩, hreacts _⟩
  | readEnd hfinished hread => exact .inr ⟨.cacheRead _, ⟨_, hfinished, hread, rfl⟩, hreacts _⟩

/-- **A proxy reacts only to what comes in time**, or it sends the call on its way. -/
theorem timely_of_proxyStep? (hp : c.proxy? id = some p) (h : c.proxyStep? id = some c') :
    (∃ number, p.manager.call = some number ∧ Sends c id p number c') ∨
      ∃ o, Timely p o ∧ c'.known? id = some (p.name, p.manager.step o) := by
  obtain ⟨p', hp', _, htakes⟩ := takes_of_proxyStep? h
  cases hp.symm.trans hp'
  exact htakes.timely hp

end Roster.Client
