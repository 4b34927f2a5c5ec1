import Roster.Client.Session

/-!
# Preparing one manager

What becomes of a manager that is asked for once: a new client holds a proxy for it, asks whether it is
ready, and settles. On a bus where nobody is, only a cache file can make a manager ready.
-/

namespace Roster.Client

/-- How preparing a manager went. -/
structure Preparation where
  /-- Whether the manager got ready, if that is settled. -/
  outcome : Option (Outcome ManagerError)
  /-- What everyone may see of it. -/
  snapshot : Snapshot
  deriving DecidableEq

/-- Prepares a manager on a bus where nobody is, with the cache file that is found in the directories
of the setup. -/
def prepare (setup : Setup) (tree : FileTree) (name : ServiceName) : Preparation :=
  let (c, id) := Client.getManager { setup := setup, tree := tree } name .search
  let (c, waiter) := c.freshWaiter
  let c := (c.send id (.requestReady waiter)).settle
  ⟨c.answer? id waiter, c.snapshot id⟩

end Roster.Client
