import Roster.Name

/-!
# The grammar of names

A name is a letter and behind it any number of letters, digits and joining characters (`Matches`). These are
exactly the texts without a fault (`fault?_eq_none_iff`).
-/

namespace Roster

variable {kind : NameKind}

/-- A letter, and behind it letters, digits and joining characters. -/
def NameKind.Matches (kind : NameKind) : List Char → Prop
  | [] => False
  | first :: rest => first.isAlpha = true ∧ ∀ c ∈ rest, c.isAlphanum = true ∨ c = kind.joiner

/-- **A text has no fault** exactly if it matches the grammar. -/
theorem NameKind.fault?_eq_none_iff {text : String} :
    kind.fault? text = none ↔ kind.Matches text.toList := by
  unfold fault?
  cases text.toList with
  | nil => simp [charsFault?, Matches]
  | cons first rest =>
    by_cases hfirst : first.isAlpha = true
    · have hlater (c : Char) : kind.allowsLater c = true ↔ c.isAlphanum = true ∨ c = kind.joiner := by
        simp [allowsLater]
      simp [charsFault?, allowsFirst, hfirst, Matches, hlater]
    · simp [charsFault?, allowsFirst, hfirst, Matches]

/-- A name matches the grammar. -/
theorem Name.matches_text (name : Name kind) : kind.Matches name.text.toList :=
  NameKind.fault?_eq_none_iff.mp name.valid

/-- A name has no character but letters, digits and the joining one. -/
theorem Name.allowed_of_mem (name : Name kind) {c : Char} (hc : c ∈ name.text.toList) :
    c.isAlphanum = true ∨ c = kind.joiner := by
  have h := name.matches_text
  cases hcs : name.text.toList with
  | nil => simp [hcs] at hc
  | cons first rest =>
    rw [hcs] at h hc
    rcases List.mem_cons.mp hc with rfl | hc
    · exact .inl (by simp [Char.isAlphanum, h.1])
    · exact h.2 c hc

end Roster
