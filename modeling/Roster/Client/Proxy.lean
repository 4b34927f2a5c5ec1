import Roster.Client.Registry

/-!
# How a proxy runs

A proxy looks for the next occurrence by priority: a command, then a report about the owner of its
name, then the answer to its call, then the end of its cache read. A call is sent to the bus only
when nothing of higher priority is there; an answer that is not held back is taken in the same step,
before the reports that the call itself brings about.
-/

namespace Roster.Client

/-! ## Watches -/

/-- The watch of a proxy. -/
def watchOf (c : Client) (p : Proxy) : Option Watch :=
  match p.watch with
  | .onBus id => c.bus.watch? id
  | .apart w => some w

/-- Changes the watch of a proxy. -/
def modifyWatch (c : Client) (id : Nat) (f : Watch → Watch) : Client :=
  match c.proxy? id with
  | none => c
  | some p =>
    match p.watch with
    | .onBus n => { c with bus := c.bus.modifyWatch n f }
    | .apart w => c.modifyProxy id fun p => { p with watch := .apart (f w) }

/-! ## Occurrences -/

/-- Makes the questions ready whose answers are new. -/
def wakeAsked (c : Client) (answered : List Nat) : Client :=
  (c.questions.zipIdx.filter fun (q, _) => !q.counted && q.waiter.any (· ∈ answered)).foldl
    (fun c (_, i) => c.wake (.question i)) c

/-- Lets a proxy react to an occurrence. A proxy that stops leaves its watch. -/
def happen (c : Client) (id : Nat) (occurrence : Manager.Occurrence) : Client :=
  match c.proxy? id with
  | none => c
  | some p =>
    let after := p.manager.step occurrence
    let fresh := (after.answers.drop p.manager.answers.length).map Prod.fst
    let begun := after.readsStarted.drop p.manager.readsStarted.length
    let c := { c with readLog := c.readLog ++ begun.map fun path => (p.name, path) }
    let c := c.modifyProxy id fun p => { p with manager := after }
    let c := if after.disposed ∧ p.manager.disposed = false then
        c.modifyWatch id fun w =>
          { w with held := false, registered := w.registered && !p.manager.watching }
      else c
    c.wakeAsked fresh

/-- The answer to the call on its way, if it was sent. -/
def sentCall? (p : Proxy) : Option SentCall :=
  p.sent.filter fun s => p.manager.call = some s.number

/-- The question for all properties of a manager. -/
def callOf (config : Config) (name : ServiceName) : MethodCall :=
  MethodCall.getAll (config.busName name) (config.objectPath name) config.managerInterface
    config.callTimeout

/-- An answer that is held back, as the caller gets it: in time, or as an error when the time is up. -/
def inTime (what : String) (timeout : Nat) (answer : Answer) : Nat × Except BusError Json :=
  if answer.delay ≤ timeout then (answer.delay, answer.value)
  else (timeout, .error (.notInTime what timeout))

/-- Makes the proxies ready that the bus has told something. -/
def wakeTold (c : Client) (before : Bus) : Client :=
  (c.proxies.zipIdx.filter fun (p, _) =>
    match p.watch with
    | .onBus n => !p.manager.disposed && (before.watch? n) ≠ (c.bus.watch? n)
    | .apart _ => false).foldl (fun c (_, i) => c.wake (.proxy i)) c

/-- Changes the bus, and makes the proxies ready that it tells something. -/
def onBus (c : Client) (f : Bus → Bus) : Client :=
  { c with bus := f c.bus }.wakeTold c.bus

/-- Sends the call of a proxy. An answer that is there at once is taken at once. -/
def sendCall (c : Client) (id : Nat) (p : Proxy) (number : Nat) : Client :=
  let config := c.setup.config
  let call := callOf config p.name
  let (bus, answer) := c.bus.call call
  let (wait, value) := inTime call.method config.callTimeout answer
  let c := { c with bus := bus, callLog := c.callLog ++ [call] }.wakeTold c.bus
  let c := c.modifyProxy id fun p => { p with sent := some ⟨number, c.now + wait, value⟩ }
  if wait = 0 then c.happen id (.reply value) else c

/-- Takes the next report from the watch of a proxy, or learns that there will be none. -/
def watchStep? (c : Client) (id : Nat) (p : Proxy) : Option Client :=
  match (c.watchOf p).filter fun _ => p.manager.watching with
  | none => none
  | some w =>
    match w.take? with
    | some (report, rest) => some ((c.modifyWatch id fun _ => rest).happen id (.owner report))
    | none => if w.registered then none else some (c.happen id .watchClosed)

/-- Sends the call of a proxy, or takes the answer to it if that is there. -/
def callStep? (c : Client) (id : Nat) (p : Proxy) : Option Client :=
  match p.manager.call with
  | none => none
  | some number =>
    match sentCall? p with
    | none => some (c.sendCall id p number)
    | some s => if s.due ≤ c.now then some (c.happen id (.reply s.answer)) else none

/-- Takes the end of the cache read of a proxy, if that has come. -/
def readStep? (c : Client) (id : Nat) (p : Proxy) : Option Client :=
  match p.finished.filter fun f => p.manager.read = some f.number with
  | some f => some (c.happen id (.cacheRead f.result))
  | none => none

/-- Does the next thing that a proxy can do, if there is any. -/
def proxyStep? (c : Client) (id : Nat) : Option Client := do
  let p ← c.proxy? id
  if p.manager.disposed then none
  else if p.manager.queue ≠ [] then some (c.happen id (.command (c.foundCacheFile p.name)))
  else if !c.isHeld id then some (c.happen id .forsaken)
  else c.watchStep? id p <|> c.callStep? id p <|> c.readStep? id p

end Roster.Client
