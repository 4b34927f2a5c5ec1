import Roster.Client.Basic

/-!
# The registry of proxies

One proxy is kept for each name. Asking for a name gives the proxy that is kept, or makes one if none
is kept or the kept one has stopped; how the new proxy finds its cache file is settled by whoever
asked first. Evicting a name only ends the keeping.
-/

namespace Roster.Client

/-- Where a cache file of a manager would be found now. -/
def foundCacheFile (c : Client) (name : ServiceName) : Option Path :=
  CacheFile.find? c.tree c.setup.config c.setup.searchDirs name

/-- Begins to watch a name. -/
def beginWatch (c : Client) (busName : String) : Client × ProxyWatch :=
  match c.setup.watchMode with
  | .bus =>
    let (bus, id) := c.bus.watch busName
    ({ c with bus := bus }, .onBus id)
  | .closing => (c, .apart { id := 0, busName := busName, told := [], registered := false })
  | .manual => (c, .apart { id := 0, busName := busName, told := [] })

/-- Makes a proxy, and tells its number. -/
def spawn (c : Client) (name : ServiceName) (setting : CacheSetting) : Client × Nat :=
  let config := c.setup.config
  let (c, watch) := c.beginWatch (config.busName name)
  let manager := Manager.start (config.busName name) config.alwaysIntrospect
    (setting.resolve (c.foundCacheFile name))
  let id := c.proxies.length
  let proxy : Proxy := { name := name, manager := manager, watch := watch }
  ({ c with proxies := c.proxies ++ [proxy] }.wake (.proxy id), id)

/-- Whether the proxy of a number has stopped. -/
def isDisposed (c : Client) (id : Nat) : Bool :=
  match c.proxy? id with
  | some p => p.manager.disposed
  | none => true

/-- The proxy for a name. -/
def getManager (c : Client) (name : ServiceName) (setting : CacheSetting) : Client × Nat :=
  match (c.managers.get? name).filter fun id => !c.isDisposed id with
  | some id => (c, id)
  | none =>
    let (c, id) := c.spawn name setting
    ({ c with managers := c.managers.insert name id }, id)

/-- Stops keeping a name. -/
def evict (c : Client) (name : ServiceName) : Client :=
  { c with managers := c.managers.erase name }

end Roster.Client
