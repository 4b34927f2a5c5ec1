import Mathlib.Tactic.SplitIfs
import Roster.Text.Octets

/-!
# Texts are found again in their octets

The octets of a text are read as the text, without a replacement character (`lossy_octets`). This comes
down to one character: whatever follows its octets, they are taken for the character and for no more and
no less of them (`lead_charOctets`). For two, three and four octets that is a statement about the number
of the character each; the surrogates, which are no characters, are what the second octet after `0xED`
may not reach.
-/

namespace Roster.Text

theorem toNat_toUInt8 {n : Nat} (h : n < 256) : n.toUInt8.toNat = n := by simpa using h

/-! ## One character -/

/-- An octet that goes on carries six bits of the number. -/
theorem toNat_tail (n : Nat) : (0x80 + n % 0x40).toUInt8.toNat = 0x80 + n % 0x40 :=
  toNat_toUInt8 (by omega)

theorem isTail_tail (n : Nat) : isTail (0x80 + n % 0x40).toUInt8 = true := by
  unfold isTail
  rw [toNat_tail]
  simp only [Bool.and_eq_true, decide_eq_true_eq]
  omega

theorem lead_one {n : Nat} (hhigh : n < 0x80) (rest : List UInt8) :
    lead n.toUInt8 rest = .char (Char.ofNat n) 1 := by
  unfold lead
  dsimp only
  rw [toNat_toUInt8 (by omega), if_pos hhigh]

theorem lead_two {n : Nat} (hlow : 0x80 ≤ n) (hhigh : n < 0x800) (rest : List UInt8) :
    lead (0xC0 + n / 0x40).toUInt8 ((0x80 + n % 0x40).toUInt8 :: rest) = .char (Char.ofNat n) 2 := by
  have hfirst : (0xC0 + n / 0x40).toUInt8.toNat = 0xC0 + n / 0x40 := toNat_toUInt8 (by omega)
  have hsecond : secondRange (0xC0 + n / 0x40) = (0x80, 0xBF) := by
    unfold secondRange
    split_ifs <;> first | rfl | omega
  have hnumber : (0xC0 + n / 0x40 - 0xC0) * 0x40 + (0x80 + n % 0x40 - 0x80) = n := by omega
  unfold lead
  dsimp only
  rw [hfirst, toNat_tail, hsecond, hnumber, if_neg (by omega), if_neg (by simp; omega),
    if_neg (by simp; omega), if_pos (by omega)]

theorem lead_three {n : Nat} (hlow : 0x800 ≤ n) (hhigh : n < 0x10000)
    (hvalid : n < 0xD800 ∨ 0xDFFF < n) (rest : List UInt8) :
    lead (0xE0 + n / 0x1000).toUInt8
      ((0x80 + n / 0x40 % 0x40).toUInt8 :: (0x80 + n % 0x40).toUInt8 :: rest) =
        .char (Char.ofNat n) 3 := by
  have hfirst : (0xE0 + n / 0x1000).toUInt8.toNat = 0xE0 + n / 0x1000 := toNat_toUInt8 (by omega)
  have hsecond : (secondRange (0xE0 + n / 0x1000)).1 ≤ 0x80 + n / 0x40 % 0x40 ∧
      0x80 + n / 0x40 % 0x40 ≤ (secondRange (0xE0 + n / 0x1000)).2 := by
    unfold secondRange
    split_ifs <;> dsimp only <;> omega
  have hnumber : (0xE0 + n / 0x1000 - 0xE0) * 0x1000 + (0x80 + n / 0x40 % 0x40 - 0x80) * 0x40 +
      (0x80 + n % 0x40 - 0x80) = n := by omega
  unfold lead
  dsimp only
  rw [hfirst, toNat_tail, toNat_tail, isTail_tail, hnumber, if_neg (by omega),
    if_neg (by simp; omega), if_neg (by simp; omega), if_neg (by omega), if_neg (by simp),
    if_pos (by omega)]

theorem lead_four {n : Nat} (hlow : 0x10000 ≤ n) (hhigh : n < 0x110000) (rest : List UInt8) :
    lead (0xF0 + n / 0x40000).toUInt8
      ((0x80 + n / 0x1000 % 0x40).toUInt8 :: (0x80 + n / 0x40 % 0x40).toUInt8 ::
        (0x80 + n % 0x40).toUInt8 :: rest) = .char (Char.ofNat n) 4 := by
  have hfirst : (0xF0 + n / 0x40000).toUInt8.toNat = 0xF0 + n / 0x40000 := toNat_toUInt8 (by omega)
  have hsecond : (secondRange (0xF0 + n / 0x40000)).1 ≤ 0x80 + n / 0x1000 % 0x40 ∧
      0x80 + n / 0x1000 % 0x40 ≤ (secondRange (0xF0 + n / 0x40000)).2 := by
    unfold secondRange
    split_ifs <;> dsimp only <;> omega
  have hnumber : (0xF0 + n / 0x40000 - 0xF0) * 0x40000 + (0x80 + n / 0x1000 % 0x40 - 0x80) * 0x1000 +
      (0x80 + n / 0x40 % 0x40 - 0x80) * 0x40 + (0x80 + n % 0x40 - 0x80) = n := by omega
  unfold lead
  dsimp only
  rw [hfirst, toNat_tail, toNat_tail, toNat_tail, isTail_tail, isTail_tail, hnumber,
    if_neg (by omega), if_neg (by simp; omega), if_neg (by simp; omega), if_neg (by omega),
    if_neg (by simp), if_neg (by omega), if_neg (by simp)]

/-- **A character is found in its octets**, whatever follows them. -/
theorem lead_charOctets (c : Char) (rest : List UInt8) :
    ∃ first tail, charOctets c = first :: tail ∧ lead first (tail ++ rest) = .char c (tail.length + 1) := by
  have hvalid : c.toNat < 0xD800 ∨ 0xDFFF < c.toNat ∧ c.toNat < 0x110000 := c.valid
  have hc : Char.ofNat c.toNat = c := Char.ofNat_toNat c
  unfold charOctets
  generalize c.toNat = n at hvalid hc
  subst hc
  dsimp only
  split_ifs with h₁ h₂ h₃
  · exact ⟨_, _, rfl, lead_one h₁ rest⟩
  · exact ⟨_, _, rfl, lead_two (by omega) h₂ rest⟩
  · exact ⟨_, _, rfl, lead_three (by omega) h₃ (by omega) rest⟩
  · exact ⟨_, _, rfl, lead_four (by omega) (by omega) rest⟩

/-! ## Texts -/

theorem lossyChars_append (c : Char) (rest : List UInt8) :
    lossyChars (charOctets c ++ rest) = c :: lossyChars rest := by
  obtain ⟨first, tail, hoctets, hlead⟩ := lead_charOctets c rest
  rw [hoctets, List.cons_append, lossyChars, hlead]
  simp

/-- **The octets of a text show the text.** -/
theorem lossy_octets (text : String) : lossy (octets text) = text := by
  have hchars : ∀ cs : List Char, lossyChars (cs.flatMap charOctets) = cs := by
    intro cs
    induction cs with
    | nil => simp [lossyChars]
    | cons c cs ih => rw [List.flatMap_cons, lossyChars_append, ih]
  unfold lossy octets
  rw [hchars, String.ofList_toList]

end Roster.Text
