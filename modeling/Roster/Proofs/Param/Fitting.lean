import Roster.Param.Value
import Roster.Proofs.Number.Numerals

/-!
# Values that fit a signature

`Fits signature v` spells out which values a signature prescribes: for each of the thirteen signatures the
kind of value and its range, and none for any other signature. Both readers of default values keep to it,
that of cache files (`fits_ofKeyFile?`) and that of a manager's answers (`fits_ofJson?`).

Both look at the type that the signature stands for. So the way there has two parts: what a reader gives is
admitted by the type (`admits_ofTrimmed?`, `admits_ofTyped?`), and a value fits a signature exactly if the
signature's type admits it (`fits_iff`).
-/

namespace Roster.ParamValue

open Number

/-- The signatures of whole numbers from zero on, with the number of their bits. -/
def unsignedSignatures : List (String × Nat) := [("y", 8), ("q", 16), ("u", 32), ("t", 64)]

/-- The signatures of whole numbers of both signs, with the number of their bits, that of the sign
included. -/
def signedSignatures : List (String × Nat) := [("n", 16), ("i", 32), ("x", 64)]

/-- The value is of the kind that the signature prescribes, and in its range. -/
inductive Fits : String → ParamValue → Prop
  /-- A truth value. -/
  | bool (b : Bool) : Fits "b" (.bool b)
  /-- A whole number from zero on. -/
  | uint {signature : String} {bits n : Nat} (hsignature : (signature, bits) ∈ unsignedSignatures)
      (hrange : n < Nat.pow 2 bits) : Fits signature (.uint n)
  /-- A whole number. -/
  | int {signature : String} {bits : Nat} {n : Int} (hsignature : (signature, bits) ∈ signedSignatures)
      (hrange : -(Nat.pow 2 (bits - 1) : Int) ≤ n ∧ n < Nat.pow 2 (bits - 1)) :
      Fits signature (.int n)
  /-- A floating-point number. -/
  | double (x : Double) : Fits "d" (.double x)
  /-- A text. -/
  | string (s : String) : Fits "s" (.string s)
  /-- A text that begins with a slash. -/
  | objectPath (rest : String) : Fits "o" (.objectPath ("/" ++ rest))
  /-- A list of texts. -/
  | stringList (items : List String) : Fits "as" (.stringList items)
  /-- A sequence of octets. -/
  | bytes (octets : List UInt8) : Fits "ay" (.bytes octets)

/-! ## Types -/

/-- A text begins with a slash if it is a slash and something behind it. -/
theorem head?_eq_slash_iff {s : String} : s.toList.head? = some '/' ↔ ∃ rest, s = "/" ++ rest := by
  constructor
  · intro h
    obtain ⟨rest, hrest⟩ := List.head?_eq_some_iff.mp h
    refine ⟨String.ofList rest, String.toList_injective ?_⟩
    simp [hrest]
  · rintro ⟨rest, rfl⟩
    simp

theorem isObjectPath_iff {s : String} : isObjectPath s = true ↔ ∃ rest, s = "/" ++ rest :=
  decide_eq_true_iff.trans head?_eq_slash_iff

section admits

variable {v : ParamValue}

attribute [local simp] ParamType.Admits

theorem admits_boolean_iff : ParamType.boolean.Admits v ↔ ∃ b, v = .bool b := by
  cases v <;> simp

theorem admits_unsigned_iff {bits : Nat} :
    (ParamType.unsigned bits).Admits v ↔ ∃ n, v = .uint n ∧ n < Nat.pow 2 bits := by
  cases v <;> simp

theorem admits_signed_iff {bits : Nat} :
    (ParamType.signed bits).Admits v ↔
      ∃ n, v = .int n ∧ -(Nat.pow 2 (bits - 1) : Int) ≤ n ∧ n < Nat.pow 2 (bits - 1) := by
  cases v <;> simp

theorem admits_double_iff : ParamType.double.Admits v ↔ ∃ x, v = .double x := by
  cases v <;> simp

theorem admits_string_iff : ParamType.string.Admits v ↔ ∃ s, v = .string s := by
  cases v <;> simp

theorem admits_objectPath_iff :
    ParamType.objectPath.Admits v ↔ ∃ rest, v = .objectPath ("/" ++ rest) := by
  cases v with
  | objectPath s => simpa using head?_eq_slash_iff
  | _ => simp

theorem admits_stringList_iff : ParamType.stringList.Admits v ↔ ∃ items, v = .stringList items := by
  cases v <;> simp

theorem admits_bytes_iff : ParamType.bytes.Admits v ↔ ∃ octets, v = .bytes octets := by
  cases v <;> simp

end admits

/-! ## Signatures -/

theorem ofSignature?_of_unsigned {signature : String} {bits : Nat}
    (h : (signature, bits) ∈ unsignedSignatures) :
    ParamType.ofSignature? signature = some (.unsigned bits) := by
  simp only [unsignedSignatures, List.mem_cons, Prod.mk.injEq, List.not_mem_nil, or_false] at h
  rcases h with ⟨rfl, rfl⟩ | ⟨rfl, rfl⟩ | ⟨rfl, rfl⟩ | ⟨rfl, rfl⟩ <;> rfl

theorem ofSignature?_of_signed {signature : String} {bits : Nat}
    (h : (signature, bits) ∈ signedSignatures) :
    ParamType.ofSignature? signature = some (.signed bits) := by
  simp only [signedSignatures, List.mem_cons, Prod.mk.injEq, List.not_mem_nil, or_false] at h
  rcases h with ⟨rfl, rfl⟩ | ⟨rfl, rfl⟩ | ⟨rfl, rfl⟩ <;> rfl

/-- What the type of a signature admits fits the signature. -/
theorem Fits.of_admits {signature : String} {type : ParamType} {v : ParamValue}
    (htype : ParamType.ofSignature? signature = some type) (h : type.Admits v) : Fits signature v := by
  unfold ParamType.ofSignature? at htype
  have hunsigned {signature : String} {bits : Nat} (hmem : (signature, bits) ∈ unsignedSignatures)
      (h : (ParamType.unsigned bits).Admits v) : Fits signature v := by
    obtain ⟨n, rfl, hrange⟩ := admits_unsigned_iff.mp h
    exact .uint hmem hrange
  have hsigned {signature : String} {bits : Nat} (hmem : (signature, bits) ∈ signedSignatures)
      (h : (ParamType.signed bits).Admits v) : Fits signature v := by
    obtain ⟨n, rfl, hrange⟩ := admits_signed_iff.mp h
    exact .int hmem hrange
  split at htype <;> cases htype
  · obtain ⟨b, rfl⟩ := admits_boolean_iff.mp h
    exact .bool b
  · exact hunsigned (by decide) h
  · exact hunsigned (by decide) h
  · exact hunsigned (by decide) h
  · exact hunsigned (by decide) h
  · exact hsigned (by decide) h
  · exact hsigned (by decide) h
  · exact hsigned (by decide) h
  · obtain ⟨x, rfl⟩ := admits_double_iff.mp h
    exact .double x
  · obtain ⟨s, rfl⟩ := admits_string_iff.mp h
    exact .string s
  · obtain ⟨rest, rfl⟩ := admits_objectPath_iff.mp h
    exact .objectPath rest
  · obtain ⟨items, rfl⟩ := admits_stringList_iff.mp h
    exact .stringList items
  · obtain ⟨octets, rfl⟩ := admits_bytes_iff.mp h
    exact .bytes octets

/-- **A value fits a signature** exactly if the signature stands for a type that admits it. -/
theorem fits_iff {signature : String} {v : ParamValue} :
    Fits signature v ↔ ∃ type, ParamType.ofSignature? signature = some type ∧ type.Admits v := by
  constructor
  · intro h
    cases h with
    | bool b => exact ⟨.boolean, rfl, trivial⟩
    | uint hsignature hrange => exact ⟨_, ofSignature?_of_unsigned hsignature, hrange⟩
    | int hsignature hrange => exact ⟨_, ofSignature?_of_signed hsignature, hrange⟩
    | double x => exact ⟨.double, rfl, trivial⟩
    | string s => exact ⟨.string, rfl, trivial⟩
    | objectPath rest => exact ⟨.objectPath, rfl, admits_objectPath_iff.mpr ⟨rest, rfl⟩⟩
    | stringList items => exact ⟨.stringList, rfl, trivial⟩
    | bytes octets => exact ⟨.bytes, rfl, trivial⟩
  · rintro ⟨type, htype, h⟩
    exact .of_admits htype h

/-! ## Readers -/

/-- What a trimmed text writes is a value of the type. -/
theorem admits_ofTrimmed? {type : ParamType} {text : String} {v : ParamValue}
    (h : ofTrimmed? type text = some v) : type.Admits v := by
  cases type with
  | boolean =>
    simp only [ofTrimmed?] at h
    split at h
    · exact admits_boolean_iff.mpr ⟨true, (Option.some.inj h).symm⟩
    · rw [Option.ite_none_right_eq_some] at h
      exact admits_boolean_iff.mpr ⟨false, (Option.some.inj h.2).symm⟩
  | unsigned bits =>
    obtain ⟨n, hn, rfl⟩ := Option.map_eq_some_iff.mp h
    have hpos : 0 < Nat.pow 2 bits := Nat.two_pow_pos bits
    have hmax := (readUnsigned?_eq_some_iff.mp hn).2
    exact admits_unsigned_iff.mpr ⟨n, rfl, by omega⟩
  | signed bits =>
    obtain ⟨n, hn, rfl⟩ := Option.map_eq_some_iff.mp h
    exact admits_signed_iff.mpr ⟨n, rfl, (readSigned?_eq_some_iff.mp hn).2⟩
  | double =>
    obtain ⟨x, _, rfl⟩ := Option.map_eq_some_iff.mp h
    exact admits_double_iff.mpr ⟨x, rfl⟩
  | string => exact admits_string_iff.mpr ⟨text, (Option.some.inj h).symm⟩
  | objectPath =>
    simp only [ofTrimmed?] at h
    rw [Option.ite_none_right_eq_some] at h
    obtain ⟨hpath, hv⟩ := h
    obtain ⟨rest, rfl⟩ := isObjectPath_iff.mp hpath
    exact admits_objectPath_iff.mpr ⟨rest, (Option.some.inj hv).symm⟩
  | stringList => exact admits_stringList_iff.mpr ⟨_, (Option.some.inj h).symm⟩
  | bytes => exact admits_bytes_iff.mpr ⟨_, (Option.some.inj h).symm⟩

/-- What stands in a structured value is a value of the type. -/
theorem admits_ofTyped? {type : ParamType} {value : Json} {v : ParamValue}
    (h : ofTyped? type value = some v) : type.Admits v := by
  unfold ofTyped? at h
  split at h
  · exact admits_boolean_iff.mpr ⟨_, (Option.some.inj h).symm⟩
  · rename_i bits n
    rw [Option.ite_none_right_eq_some] at h
    obtain ⟨hrange, hv⟩ := h
    exact admits_unsigned_iff.mpr ⟨n.toNat, (Option.some.inj hv).symm, by omega⟩
  · rename_i bits n
    rw [Option.ite_none_right_eq_some] at h
    obtain ⟨hrange, hv⟩ := h
    exact admits_signed_iff.mpr ⟨n, (Option.some.inj hv).symm, hrange⟩
  · exact admits_double_iff.mpr ⟨_, (Option.some.inj h).symm⟩
  · exact admits_double_iff.mpr ⟨_, (Option.some.inj h).symm⟩
  · exact admits_string_iff.mpr ⟨_, (Option.some.inj h).symm⟩
  · rw [Option.ite_none_right_eq_some] at h
    obtain ⟨hpath, hv⟩ := h
    obtain ⟨rest, rfl⟩ := isObjectPath_iff.mp hpath
    exact admits_objectPath_iff.mpr ⟨rest, (Option.some.inj hv).symm⟩
  · obtain ⟨items, _, rfl⟩ := Option.map_eq_some_iff.mp h
    exact admits_stringList_iff.mpr ⟨items, rfl⟩
  · exact admits_bytes_iff.mpr ⟨_, (Option.some.inj h).symm⟩
  · obtain ⟨octets, _, rfl⟩ := Option.map_eq_some_iff.mp h
    exact admits_bytes_iff.mpr ⟨octets, rfl⟩
  · cases h

/-- **The default that a cache file gives** fits its signature. -/
theorem fits_ofKeyFile? {signature text : String} {v : ParamValue}
    (h : ofKeyFile? signature text = some v) : Fits signature v := by
  obtain ⟨type, htype, hv⟩ := Option.bind_eq_some_iff.mp h
  exact .of_admits htype (admits_ofTrimmed? hv)

/-- **The default in an answer of a manager** fits its signature. -/
theorem fits_ofJson? {signature : String} {value : Json} {v : ParamValue}
    (h : ofJson? signature value = some v) : Fits signature v := by
  obtain ⟨type, htype, hv⟩ := Option.bind_eq_some_iff.mp h
  exact .of_admits htype (admits_ofTyped? hv)

end Roster.ParamValue
