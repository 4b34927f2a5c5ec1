import Roster.Client.Proxy

/-!
# Discoveries

A discovery finds every manager that can be started or runs. It asks the bus for the names that can
be started and then for the names that have owners, takes a proxy for each manager among them, asks
every proxy whether it is ready, and waits for all the answers, failures included.

After each list and at the end it looks whether the one who asked is still there; if not, it is over
and does nothing more. A list that fails ends it too.

A discovery works in small steps, so that anything may happen in between: the registry is asked for
one proxy in each step, and one question is made. The questions run on their own.
-/

namespace Roster.Client

/-- Sets the discovery of a number. -/
def setDiscovery (c : Client) (id : Nat) (d : Discovery) : Client :=
  { c with discoveries := c.discoveries.set id d }

/-! ## Lists -/

/-- For how long a list is held back. -/
def listDelay (c : Client) : Listing → Nat
  | .activatable => c.setup.activatableDelay
  | .owned => c.setup.ownedDelay

/-- A list as the bus gives it now, or the error of one that did not come in time. -/
def listNames (c : Client) (which : Listing) (timely : Bool) : Except BusError (List String) :=
  if !timely then .error (.notInTime which.method c.setup.config.listTimeout)
  else
    match which with
    | .activatable => c.bus.activatableNames
    | .owned => c.bus.ownedNames

/-- Asks for a list: it is there after its delay, or fails when the time is up. -/
def askList (c : Client) (id : Nat) (d : Discovery) (which : Listing) : Client :=
  let delay := c.listDelay which
  let timeout := c.setup.config.listTimeout
  c.setDiscovery id
    { d with stage := .listing which (c.now + min delay timeout) (delay ≤ timeout) }

/-- Gives a discovery the list that it awaits. -/
def giveList (c : Client) (id : Nat) (answer : Except BusError (List String)) : Client :=
  match c.discoveries[id]? with
  | none => c
  | some d =>
    match d.stage with
    | .listing which _ _ => c.setDiscovery id (d.hear (c.callerAlive d.caller) which answer)
    | _ => c

/-- Looks at a bus name, and takes the proxy of the manager that it belongs to, unless that was
found before. -/
def collect (c : Client) (id : Nat) (d : Discovery) (busName : String) : Client :=
  match (c.setup.config.serviceName? busName).filter fun name => !d.found.contains name with
  | none => c.setDiscovery id d
  | some name =>
    let (c, proxy) := c.getManager name .search
    c.setDiscovery id { d with found := d.found.insert name proxy }

/-! ## Steps -/

/-- Makes the question of a discovery to a proxy. -/
def question (c : Client) (id : Nat) (d : Discovery) (proxy : Nat) : Client :=
  let question : Question := { discovery := id, proxy := proxy }
  { c.setDiscovery id d with questions := c.questions ++ [question] }.wake
    (.question c.questions.length)

/-- Does the next thing that a discovery can do by itself, if there is any. -/
def ownStep? (c : Client) (id : Nat) : Option Client :=
  match c.discoveries[id]? with
  | none => none
  | some d =>
    match d.stage with
    | .start => some (c.askList id d .activatable)
    | .listing _ _ _ => none
    | .collecting which (busName :: rest) =>
      some (c.collect id { d with stage := .collecting which rest } busName)
    | .collecting .activatable [] => some (c.askList id d .owned)
    | .collecting .owned [] =>
      some (c.setDiscovery id
        { d with stage := .asking d.found.values (.ofTotal d.found.size) })
    | .asking (proxy :: rest) countdown =>
      some (c.question id { d with stage := .asking rest countdown } proxy)
    | .asking [] countdown => some (c.setDiscovery id { d with stage := .waiting countdown.wait })
    | .waiting _ =>
      if d.isAnswered then some (c.setDiscovery id (d.conclude (c.callerAlive d.caller))) else none
    | .done _ => none

/-- Does the next thing that a discovery can do, if there is any: it takes the list that it awaits as
soon as that is there. -/
def discoveryStep? (c : Client) (id : Nat) : Option Client :=
  match (c.discoveries[id]?).map Discovery.stage with
  | some (.listing which due timely) =>
    if c.now < due then none else some (c.giveList id (c.listNames which timely))
  | _ => c.ownStep? id

/-- Begins a discovery, and tells its number. -/
def beginDiscovery (c : Client) (caller : Option Nat) (callback : Bool) : Client × Nat :=
  let id := c.discoveries.length
  let discovery : Discovery := { caller := caller, callback := callback }
  ({ c with discoveries := c.discoveries ++ [discovery] }.wake (.discovery id), id)

/-! ## Questions -/

/-- Sends a command to a proxy, and makes it ready. -/
def send (c : Client) (proxy : Nat) (command : Command) : Client :=
  match c.proxy? proxy with
  | none => c
  | some p =>
    let c := c.modifyProxy proxy fun p => { p with manager := p.manager.react (.sent command) }
    if p.manager.disposed then c else c.wake (.proxy proxy)

/-- The answer to somebody who wants to be told when a proxy is ready. -/
def answer? (c : Client) (proxy waiter : Nat) : Option (Outcome ManagerError) :=
  (c.proxy? proxy).bind fun p => p.manager.answers.lookup waiter

/-- Sends a question under a new number. -/
def sendQuestion (c : Client) (id : Nat) (q : Question) : Client :=
  let (c, waiter) := c.freshWaiter
  { c with questions := c.questions.set id { q with waiter := some waiter } }.send q.proxy
    (.requestReady waiter)

/-- Counts the answer to a question for its discovery, and wakes the discovery with the last one. -/
def countAnswer (c : Client) (id : Nat) (q : Question) : Client :=
  let c := { c with questions := c.questions.set id { q with counted := true } }
  match c.discoveries[q.discovery]? with
  | none => c
  | some d =>
    let c := c.setDiscovery q.discovery d.arrive
    if d.arrive.isAnswered then c.wake (.discovery q.discovery) else c

/-- Does the next thing that a question can do, if there is any: it is sent, or its answer is
counted. -/
def questionStep? (c : Client) (id : Nat) : Option Client :=
  match (c.questions[id]?).filter fun q => !q.counted with
  | none => none
  | some q =>
    match q.waiter with
    | none => some (c.sendQuestion id q)
    | some waiter => if (c.answer? q.proxy waiter).isSome then some (c.countAnswer id q) else none

end Roster.Client
