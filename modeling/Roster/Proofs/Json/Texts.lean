import Mathlib.Tactic.SplitIfs
import Roster.Json.Printer
import Roster.Json.Reader

/-!
# Texts in the notation of structured values

A text between quotes is read back as it was (`readText?_escaped`): each character is written in a way
that the reader takes for it, whatever stands behind (`readText?_escapedChar`). So a text between quotes
tells which text it is and where it ends (`textLiteral_append_inj`).
-/

namespace Roster.Json

/-- The digits to base 16 of a control character are read back. -/
theorem control_digits : ∀ n < 0x20,
    ("\\u00" ++ (if n < 0x10 then "0" else "") ++ Text.hexText n).toList =
        ['\\', 'u', '0', '0', Nat.digitChar (n / 16), Nat.digitChar (n % 16)] ∧
      hexDigit? (Nat.digitChar (n / 16)) = some (n / 16) ∧
      hexDigit? (Nat.digitChar (n % 16)) = some (n % 16) := by
  decide +kernel

/-- The number of a control character is read back. -/
theorem readNumbered?_control {n : Nat} (h : n < 0x20) (rest : List Char) :
    readNumbered? ('0' :: '0' :: Nat.digitChar (n / 16) :: Nat.digitChar (n % 16) :: rest) =
      some (Char.ofNat n, rest) := by
  obtain ⟨_, hhigh, hlow⟩ := control_digits n h
  have hzero : hexDigit? '0' = some 0 := rfl
  have hunit : readUnit? ('0' :: '0' :: Nat.digitChar (n / 16) :: Nat.digitChar (n % 16) :: rest) =
      some (n, rest) := by
    have hsum : ((0 * 16 + 0) * 16 + n / 16) * 16 + n % 16 = n := by omega
    simp only [readUnit?, hzero, hhigh, hlow, Option.bind_eq_bind, Option.bind_some, Option.pure_def,
      hsum]
  unfold readNumbered?
  rw [hunit]
  simp only [Option.bind_eq_bind, Option.bind_some, Option.pure_def]
  rw [if_neg (by omega), if_neg (by omega)]

/-- A written character is read back, whatever stands behind it. -/
theorem readText?_escapedChar (c : Char) (fuel : Nat) (rest done : List Char) :
    readText? (fuel + 1) ((escapedChar c).toList ++ rest) done = readText? fuel rest (c :: done) := by
  have hcode := control_digits c.toNat
  unfold escapedChar
  generalize "\\u00" ++ (if c.toNat < 0x10 then "0" else "") ++ Text.hexText c.toNat = code at hcode ⊢
  split_ifs with hquote hbackslash hb ht hn hf hr hcontrol
  · subst hquote; rfl
  · subst hbackslash; rfl
  · subst hb; rfl
  · subst ht; rfl
  · subst hn; rfl
  · subst hf; rfl
  · subst hr; rfl
  · rw [(hcode hcontrol).1]
    show readText? (fuel + 1) ('\\' :: 'u' :: '0' :: '0' :: _ :: _ :: rest) done = _
    rw [readText?]
    simp only [show ¬ '\\' = '"' by decide, if_false, if_true, readNumbered?_control hcontrol,
      Char.ofNat_toNat]
  · rw [String.toList_singleton, List.singleton_append, readText?.eq_def]
    dsimp only
    rw [if_neg hquote, if_neg hbackslash, if_neg hcontrol]

/-- The characters of a text as they are written, without the quotes. -/
def escaped (cs : List Char) : List Char := cs.flatMap fun c => (escapedChar c).toList

theorem toList_textLiteral (s : String) : (textLiteral s).toList = '"' :: escaped s.toList ++ ['"'] := by
  simp [textLiteral, escaped, String.toList_join, List.flatMap_map]

/-- **A written text is read back** up to its closing quote. -/
theorem readText?_escaped (cs rest done : List Char) (fuel : Nat) :
    readText? (cs.length + fuel + 1) (escaped cs ++ '"' :: rest) done =
      some (String.ofList (done.reverse ++ cs), rest) := by
  induction cs generalizing done with
  | nil =>
    rw [List.append_nil]
    rfl
  | cons c cs ih =>
    have hfuel : (c :: cs).length + fuel + 1 = (cs.length + fuel + 1) + 1 := by
      rw [List.length_cons]
      omega
    have hcons : escaped (c :: cs) ++ '"' :: rest =
        (escapedChar c).toList ++ (escaped cs ++ '"' :: rest) := List.append_assoc ..
    rw [hfuel, hcons, readText?_escapedChar, ih, List.reverse_cons, List.append_assoc,
      List.singleton_append]

/-- **A text between quotes tells which text it is** and where it ends. -/
theorem textLiteral_append_inj {s t : String} {r q : List Char}
    (h : (textLiteral s).toList ++ r = (textLiteral t).toList ++ q) : s = t ∧ r = q := by
  rw [toList_textLiteral, toList_textLiteral] at h
  have hinner : escaped s.toList ++ '"' :: r = escaped t.toList ++ '"' :: q := by
    simpa using h
  have hs := readText?_escaped s.toList r [] t.toList.length
  have ht := readText?_escaped t.toList q [] s.toList.length
  rw [hinner, Nat.add_comm s.toList.length, ht] at hs
  simpa [eq_comm] using hs

end Roster.Json
