import Roster.Number.Shortest
import Roster.OrderedMap
import Roster.Text.Quoted

/-!
# Structured values

The values that a bus reply is made of: null, truth values, numbers, texts, lists and records.
Integers and floating-point numbers are different values, since a field may accept one and not the
other. The fields of a record are kept in key order, one per key.
-/

namespace Roster

open Number

/-- A structured value. -/
inductive Json where
  /-- The absent value. -/
  | null
  /-- A truth value. -/
  | bool (b : Bool)
  /-- An integer, written without point and exponent. -/
  | int (n : Int)
  /-- A floating-point number. -/
  | float (x : Double)
  /-- A text. -/
  | str (s : String)
  /-- A list. -/
  | arr (items : List Json)
  /-- A record: its fields in key order. -/
  | obj (fields : List (String × Json))
  deriving Repr, Inhabited

namespace Json

/-! ## Equality -/

mutual

/-- Whether two values are the same. -/
def same : Json → Json → Bool
  | .null, .null => true
  | .bool a, .bool b => a = b
  | .int a, .int b => a = b
  | .float a, .float b => a = b
  | .str a, .str b => a = b
  | .arr a, .arr b => sameItems a b
  | .obj a, .obj b => sameFields a b
  | _, _ => false

/-- Whether two lists hold the same values. -/
def sameItems : List Json → List Json → Bool
  | [], [] => true
  | a :: as, b :: bs => same a b && sameItems as bs
  | _, _ => false

/-- Whether two field lists hold the same keys and values. -/
def sameFields : List (String × Json) → List (String × Json) → Bool
  | [], [] => true
  | (k, a) :: as, (l, b) :: bs => k = l && same a b && sameFields as bs
  | _, _ => false

end

mutual

theorem eq_of_same : ∀ {a b : Json}, same a b = true → a = b
  | .null, .null, _ => rfl
  | .bool a, .bool b, h => by simp_all [same]
  | .int a, .int b, h => by simp_all [same]
  | .float a, .float b, h => by simp_all [same]
  | .str a, .str b, h => by simp_all [same]
  | .arr a, .arr b, h => by rw [eq_of_sameItems (a := a) (b := b) (by simpa [same] using h)]
  | .obj a, .obj b, h => by rw [eq_of_sameFields (a := a) (b := b) (by simpa [same] using h)]
  | .null, .bool _, h | .null, .int _, h | .null, .float _, h | .null, .str _, h
  | .null, .arr _, h | .null, .obj _, h | .bool _, .null, h | .bool _, .int _, h
  | .bool _, .float _, h | .bool _, .str _, h | .bool _, .arr _, h | .bool _, .obj _, h
  | .int _, .null, h | .int _, .bool _, h | .int _, .float _, h | .int _, .str _, h
  | .int _, .arr _, h | .int _, .obj _, h | .float _, .null, h | .float _, .bool _, h
  | .float _, .int _, h | .float _, .str _, h | .float _, .arr _, h | .float _, .obj _, h
  | .str _, .null, h | .str _, .bool _, h | .str _, .int _, h | .str _, .float _, h
  | .str _, .arr _, h | .str _, .obj _, h | .arr _, .null, h | .arr _, .bool _, h
  | .arr _, .int _, h | .arr _, .float _, h | .arr _, .str _, h | .arr _, .obj _, h
  | .obj _, .null, h | .obj _, .bool _, h | .obj _, .int _, h | .obj _, .float _, h
  | .obj _, .str _, h | .obj _, .arr _, h => by simp [same] at h

theorem eq_of_sameItems : ∀ {a b : List Json}, sameItems a b = true → a = b
  | [], [], _ => rfl
  | a :: as, b :: bs, h => by
    have h : same a b = true ∧ sameItems as bs = true := by simpa [sameItems] using h
    rw [eq_of_same h.1, eq_of_sameItems h.2]
  | [], _ :: _, h | _ :: _, [], h => by simp [sameItems] at h

theorem eq_of_sameFields : ∀ {a b : List (String × Json)}, sameFields a b = true → a = b
  | [], [], _ => rfl
  | (k, a) :: as, (l, b) :: bs, h => by
    have h : (k = l ∧ same a b = true) ∧ sameFields as bs = true := by
      simpa [sameFields] using h
    rw [h.1.1, eq_of_same h.1.2, eq_of_sameFields h.2]
  | [], _ :: _, h | _ :: _, [], h => by simp [sameFields] at h

end

mutual

theorem same_self : ∀ a : Json, same a a = true
  | .null | .bool _ | .int _ | .float _ | .str _ => by simp [same]
  | .arr a => by simp [same, sameItems_self a]
  | .obj a => by simp [same, sameFields_self a]

theorem sameItems_self : ∀ a : List Json, sameItems a a = true
  | [] => rfl
  | a :: as => by simp [sameItems, same_self a, sameItems_self as]

theorem sameFields_self : ∀ a : List (String × Json), sameFields a a = true
  | [] => rfl
  | (k, a) :: as => by simp [sameFields, same_self a, sameFields_self as]

end

instance : DecidableEq Json := fun a b =>
  if h : same a b = true then isTrue (eq_of_same h)
  else isFalse fun he => h (he ▸ same_self a)

/-! ## Building and reading -/

/-- The record with the given fields; the last of several fields with one key counts. -/
def record (fields : List (String × Json)) : Json :=
  .obj (fields.foldl (fun m f => OrderedMap.insertEntry f.1 f.2 m) [])

/-- The field of a record. -/
def field? (key : String) : Json → Option Json
  | .obj fields => OrderedMap.lookupEntry key fields
  | _ => none

/-- The greatest integer that a value can hold. -/
def maxInteger : Int := Nat.pow 2 64 - 1

/-- The least integer that a value can hold. -/
def minInteger : Int := -(Nat.pow 2 63)

/-! ## Values in error messages -/

/-- How an error message names a value that does not fit. -/
def nounText : Json → String
  | .null => "null"
  | .bool true => "boolean `true`"
  | .bool false => "boolean `false`"
  | .int n => "integer `" ++ toString n ++ "`"
  | .float x =>
    let text := x.plainText
    "floating point `" ++ (if text.toList.contains '.' then text else text ++ ".0") ++ "`"
  | .str s => "string " ++ Text.quoted s
  | .arr _ => "sequence"
  | .obj _ => "map"

/-- The message for a value where something else was expected. -/
def mismatchText (found : Json) (expected : String) : String :=
  "invalid type: " ++ found.nounText ++ ", expected " ++ expected

end Json

end Roster
