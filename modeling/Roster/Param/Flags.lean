/-!
# Flags of a parameter

Five independent properties of a connection parameter. On the bus they are the bits of one number,
in a cache file each but one is a word. `ofBits_bits` says that the number of a set of flags stands
for that set; bits of a number that stand for no flag are dropped.
-/

namespace Roster

/-- A set of parameter flags. -/
structure ParamFlags where
  /-- The parameter has to be given. -/
  required : Bool := false
  /-- The parameter has to be given to register an account. -/
  register : Bool := false
  /-- The parameter has a default value. -/
  hasDefault : Bool := false
  /-- The parameter's value is to be kept from view. -/
  secret : Bool := false
  /-- The parameter is also a property of the connection on the bus. -/
  busProperty : Bool := false
  deriving DecidableEq, Repr, Inhabited

namespace ParamFlags

/-- No flag. -/
def none : ParamFlags := {}

/-- The flags in either set. -/
def union (a b : ParamFlags) : ParamFlags where
  required := a.required || b.required
  register := a.register || b.register
  hasDefault := a.hasDefault || b.hasDefault
  secret := a.secret || b.secret
  busProperty := a.busProperty || b.busProperty

/-- The flags of all the sets. -/
def unionAll (sets : List ParamFlags) : ParamFlags := sets.foldl union none

/-- The number of a set of flags on the bus. -/
def bits (f : ParamFlags) : Nat :=
  f.required.toNat + 2 * f.register.toNat + 4 * f.hasDefault.toNat + 8 * f.secret.toNat
    + 16 * f.busProperty.toNat

/-- The flags that a number stands for. -/
def ofBits (n : Nat) : ParamFlags where
  required := n.testBit 0
  register := n.testBit 1
  hasDefault := n.testBit 2
  secret := n.testBit 3
  busProperty := n.testBit 4

theorem ofBits_bits (f : ParamFlags) : ofBits f.bits = f := by
  obtain ⟨a, b, c, d, e⟩ := f
  cases a <;> cases b <;> cases c <;> cases d <;> cases e <;> rfl

/-- The flag that a word of a cache file sets. A default is known by its own line, so no word says
that there is one. -/
def ofWord? : String → Option ParamFlags
  | "required" => some { required := true }
  | "register" => some { register := true }
  | "secret" => some { secret := true }
  | "dbus-property" => some { busProperty := true }
  | _ => Option.none

/-- The words of the flags, that of the default last. -/
def words (f : ParamFlags) : List String :=
  (if f.required then ["required"] else [])
    ++ (if f.register then ["register"] else [])
    ++ (if f.secret then ["secret"] else [])
    ++ (if f.busProperty then ["dbus-property"] else [])
    ++ (if f.hasDefault then ["has-default"] else [])

end ParamFlags

end Roster
