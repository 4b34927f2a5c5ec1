import Roster.Number.Whole
import Roster.Text.Blank

/-!
# Numerals

A numeral is a sign, where there may be one, and at least one decimal digit (`Numeral`). A whole number is
read from exactly the numerals whose number is in the range of the field, and it is their number
(`readUnsigned?_eq_some_iff`, `readSigned?_eq_some_iff`). A number as it is written is one of its own
numerals (`numeral_nat`, `numeral_int`).
-/

namespace Roster.Number

/-- One decimal digit or more. -/
structure IsDigits (cs : List Char) : Prop where
  /-- There is a digit. -/
  nonempty : cs ≠ []
  /-- There is nothing else. -/
  digits : ∀ c ∈ cs, c.isDigit = true

/-- The characters write the number: decimal digits, maybe behind a plus sign, and in a signed field maybe
behind a minus sign. -/
inductive Numeral (signed : Bool) : List Char → Int → Prop
  /-- Digits alone. -/
  | bare {digits : List Char} (h : IsDigits digits) :
      Numeral signed digits (Nat.ofDigitChars 10 digits 0)
  /-- Digits behind a plus sign. -/
  | plus {digits : List Char} (h : IsDigits digits) :
      Numeral signed ('+' :: digits) (Nat.ofDigitChars 10 digits 0)
  /-- Digits behind a minus sign. -/
  | minus {digits : List Char} (hsigned : signed = true) (h : IsDigits digits) :
      Numeral signed ('-' :: digits) (-Nat.ofDigitChars 10 digits 0)

/-! ## Reading -/

theorem readDigits?_eq_some_iff {cs : List Char} {n : Nat} :
    readDigits? cs = some n ↔ IsDigits cs ∧ Nat.ofDigitChars 10 cs 0 = n := by
  have hdigits : (cs ≠ [] ∧ cs.all isDigit = true) ↔ IsDigits cs := by
    rw [List.all_eq_true]
    exact ⟨fun h => ⟨h.1, h.2⟩, fun h => ⟨h.1, h.2⟩⟩
  unfold readDigits?
  rw [Option.ite_none_right_eq_some, hdigits, Option.some.injEq]
  exact Iff.rfl

/-- A digit is no sign. -/
theorem IsDigits.ne_sign {c : Char} {cs : List Char} (h : IsDigits (c :: cs)) : c ≠ '+' ∧ c ≠ '-' := by
  have hc := h.digits c List.mem_cons_self
  constructor
  all_goals
    rintro rfl
    cases hc

section cases

variable {signed : Bool} {cs : List Char} {z : Int}

/-- Behind a plus sign stand the digits of the number. -/
theorem numeral_plus_iff :
    Numeral signed ('+' :: cs) z ↔ IsDigits cs ∧ (Nat.ofDigitChars 10 cs 0 : Int) = z := by
  constructor
  · intro h
    cases h with
    | bare h => exact absurd rfl h.ne_sign.1
    | plus h => exact ⟨h, rfl⟩
  · rintro ⟨h, rfl⟩
    exact .plus h

/-- Behind a minus sign stand the digits of the number without its sign. -/
theorem numeral_minus_iff :
    Numeral signed ('-' :: cs) z ↔
      signed = true ∧ IsDigits cs ∧ -(Nat.ofDigitChars 10 cs 0 : Int) = z := by
  constructor
  · intro h
    cases h with
    | bare h => exact absurd rfl h.ne_sign.2
    | minus hsigned h => exact ⟨hsigned, h, rfl⟩
  · rintro ⟨hsigned, h, rfl⟩
    exact .minus hsigned h

/-- Without a sign there are the digits. -/
theorem numeral_bare_iff (hplus : ∀ rest, cs ≠ '+' :: rest)
    (hminus : signed = true → ∀ rest, cs ≠ '-' :: rest) :
    Numeral signed cs z ↔ IsDigits cs ∧ (Nat.ofDigitChars 10 cs 0 : Int) = z := by
  constructor
  · intro h
    cases h with
    | bare h => exact ⟨h, rfl⟩
    | plus => exact absurd rfl (hplus _)
    | minus hsigned => exact absurd rfl (hminus hsigned _)
  · rintro ⟨h, rfl⟩
    exact .bare h

end cases

/-- **A number of a field without negative ones** is read from the numerals of the numbers in range. -/
theorem readUnsigned?_eq_some_iff {max : Nat} {text : String} {n : Nat} :
    readUnsigned? max text = some n ↔ Numeral false text.toList n ∧ n ≤ max := by
  unfold readUnsigned?
  rw [Option.filter_eq_some_iff, readDigits?_eq_some_iff, decide_eq_true_eq]
  split
  · rename_i cs rest hcs
    rw [hcs, numeral_plus_iff, Int.natCast_inj]
  · rename_i hplus
    rw [numeral_bare_iff hplus (by simp), Int.natCast_inj]

/-- **A number of a field with negative ones** is read from the numerals of the numbers in range. -/
theorem readSigned?_eq_some_iff {bits : Nat} {text : String} {z : Int} :
    readSigned? bits text = some z ↔
      Numeral true text.toList z ∧ -(Nat.pow 2 (bits - 1) : Int) ≤ z ∧ z < Nat.pow 2 (bits - 1) := by
  have hpos : 0 < Nat.pow 2 (bits - 1) := Nat.two_pow_pos _
  unfold readSigned?
  generalize Nat.pow 2 (bits - 1) = bound at hpos
  -- A number behind a plus sign, or behind none, is below the bound.
  have hpositive (cs : List Char) :
      ((readDigits? cs).filter (· < bound)).map Int.ofNat = some z ↔
        (IsDigits cs ∧ (Nat.ofDigitChars 10 cs 0 : Int) = z) ∧ -bound ≤ z ∧ z < bound := by
    simp only [Option.map_eq_some_iff, Option.filter_eq_some_iff, readDigits?_eq_some_iff,
      decide_eq_true_eq, Int.ofNat_eq_natCast]
    constructor
    · rintro ⟨n, ⟨⟨h, rfl⟩, hrange⟩, rfl⟩
      exact ⟨⟨h, rfl⟩, by omega, by omega⟩
    · rintro ⟨⟨h, rfl⟩, hrange⟩
      exact ⟨_, ⟨⟨h, rfl⟩, by omega⟩, rfl⟩
  split
  · rename_i cs rest hcs
    rw [hcs, numeral_minus_iff]
    simp only [Option.map_eq_some_iff, Option.bind_eq_bind, Option.bind_eq_some_iff, Option.pure_def,
      Option.some.injEq, Option.filter_eq_some_iff, readDigits?_eq_some_iff, decide_eq_true_eq, true_and]
    constructor
    · rintro ⟨_, ⟨n, ⟨⟨h, rfl⟩, hrange⟩, rfl⟩, rfl⟩
      exact ⟨⟨h, rfl⟩, by omega, by omega⟩
    · rintro ⟨⟨h, rfl⟩, hrange⟩
      exact ⟨_, ⟨_, ⟨⟨h, rfl⟩, by omega⟩, rfl⟩, rfl⟩
  · rename_i cs rest hcs
    rw [hcs, numeral_plus_iff]
    exact hpositive rest
  · rename_i hminus hplus
    rw [numeral_bare_iff hplus fun _ => hminus]
    exact hpositive text.toList

/-! ## Writing -/

theorem isDigits_toDigits (n : Nat) : IsDigits (Nat.toDigits 10 n) where
  nonempty := Nat.toDigits_ne_nil
  digits := fun _ hc => Nat.isDigit_of_mem_toDigits (by decide) (by decide) hc

theorem ofDigitChars_toDigits (n : Nat) : Nat.ofDigitChars 10 (Nat.toDigits 10 n) 0 = n :=
  Nat.ofDigitChars_toDigits (by decide) (by decide)

/-- A number from zero on is written as a numeral of its own. -/
theorem numeral_nat (signed : Bool) (n : Nat) : Numeral signed (toString n).toList n := by
  have h : Numeral signed _ _ := .bare (isDigits_toDigits n)
  rw [ofDigitChars_toDigits] at h
  rwa [Nat.toString_eq_repr, Nat.toList_repr]

/-- A number is written as a numeral of its own. -/
theorem numeral_int (z : Int) : Numeral true (toString z).toList z := by
  cases z with
  | ofNat n => exact numeral_nat true n
  | negSucc n =>
    have h : Numeral true _ _ := .minus rfl (isDigits_toDigits (n + 1))
    rw [ofDigitChars_toDigits] at h
    show Numeral true ("-" ++ (n + 1).repr).toList _
    rw [String.toList_append, Nat.toList_repr]
    exact h

/-- There is no blank in a numeral. -/
theorem Numeral.isBlank {signed : Bool} {cs : List Char} {z : Int} (h : Numeral signed cs z) :
    ∀ c ∈ cs, Text.isBlank c = false := by
  have hdigit (c : Char) (hc : c.isDigit = true) : Text.isBlank c = false := by
    have hrange : 48 ≤ c.toNat ∧ c.toNat ≤ 57 := by
      simpa [Char.isDigit, UInt32.le_iff_toNat_le] using hc
    unfold Text.isBlank
    simp only [Bool.or_eq_false_iff, Bool.and_eq_false_iff, decide_eq_false_iff_not]
    omega
  cases h with
  | bare h => exact fun c hc => hdigit c (h.digits c hc)
  | plus h => exact List.forall_mem_cons.mpr ⟨rfl, fun c hc => hdigit c (h.digits c hc)⟩
  | minus _ h => exact List.forall_mem_cons.mpr ⟨rfl, fun c hc => hdigit c (h.digits c hc)⟩

end Roster.Number
