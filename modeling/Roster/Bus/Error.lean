/-!
# Bus errors

An error that the message bus reports: a domain, a code within it, and a text.
-/

namespace Roster

/-- An error of the bus. -/
structure BusError where
  /-- The domain of the code. -/
  domain : String
  /-- What kind of error it is. -/
  code : String
  /-- What happened. -/
  text : String
  deriving DecidableEq, Repr, Inhabited

namespace BusError

/-- The domain of the errors of the bus itself. -/
def busDomain : String := "org.freedesktop.DBus.Error"

/-- The domain of the errors about peers. -/
def peerDomain : String := "org.freedesktop.Telepathy.Error"

/-- Nobody owns the name, and nobody can be started for it. -/
def serviceUnknown (busName : String) : BusError where
  domain := busDomain
  code := "ServiceUnknown"
  text := "the name " ++ busName ++ " was not provided by any service files"

/-- The owner of the name could not be started. -/
def spawnFailed (busName reason : String) : BusError where
  domain := busDomain
  code := "Spawn.Failed"
  text := "activating " ++ busName ++ " failed: " ++ reason

/-- There was no answer in time. -/
def timeout (text : String) : BusError where
  domain := busDomain
  code := "Timeout"
  text := text

/-- The method does not exist. -/
def unknownMethod (interface method : String) : BusError where
  domain := busDomain
  code := "UnknownMethod"
  text := "no method " ++ method ++ " on interface " ++ interface

/-- The peer left while a call to it was waiting for its answer. -/
def nameOwnerLost (text : String) : BusError where
  domain := peerDomain
  code := "NotAvailable"
  text := text

/-- The error of a call that took too long. -/
def notInTime (what : String) (milliseconds : Nat) : BusError :=
  timeout (what ++ " did not complete within " ++ toString milliseconds ++ "ms")

/-- Whether the error has this domain and code. -/
def is (e : BusError) (domain code : String) : Bool := e.domain = domain && e.code = code

/-- The error in words. -/
def message (e : BusError) : String := e.domain ++ "." ++ e.code ++ ": " ++ e.text

end BusError

end Roster
