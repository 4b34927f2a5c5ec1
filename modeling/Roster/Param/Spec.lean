import Roster.Param.Flags
import Roster.Param.Value

/-!
# Parameters

A connection parameter: its name, its signature, its flags and maybe a default value. `ParamSpec.of`
settles the two flags that follow from the rest: a parameter has the default flag exactly when it
has a default value, and one named `password` or `…-password` is secret whatever was declared.
-/

namespace Roster

/-- A connection parameter of a protocol. -/
structure ParamSpec where
  /-- The parameter's name. -/
  name : String
  /-- The type of its values on the bus. -/
  signature : String
  /-- Its flags. -/
  flags : ParamFlags
  /-- Its default value. -/
  default : Option ParamValue
  deriving DecidableEq, Repr

namespace ParamSpec

/-- Whether parameters of this name are secret by their name alone. -/
def isPasswordName (name : String) : Bool :=
  name = "password" || Text.endsWith "-password" name

/-- A parameter as declared, with the flags that follow from its name and default settled. -/
def of (name signature : String) (flags : ParamFlags) (default : Option ParamValue) :
    ParamSpec where
  name := name
  signature := signature
  flags := { flags with
    hasDefault := default.isSome
    secret := flags.secret || isPasswordName name }
  default := default

@[simp] theorem hasDefault_of (name signature : String) (flags : ParamFlags)
    (default : Option ParamValue) :
    (of name signature flags default).flags.hasDefault = default.isSome := rfl

theorem secret_of {name : String} (h : isPasswordName name = true) (signature : String)
    (flags : ParamFlags) (default : Option ParamValue) :
    (of name signature flags default).flags.secret = true := by
  simp [of, h]

end ParamSpec

end Roster
