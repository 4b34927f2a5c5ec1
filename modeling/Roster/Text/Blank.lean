/-!
# Blank characters, trimming and words

The characters with the `White_Space` property, and what is done with them: `trim` takes them off
both ends of a text, `words` are the stretches between them, and `splitOn` cuts at a separator.
All functions here also exist on lists of characters, which is where most of their laws are stated.
-/

namespace Roster.Text

/-- The characters with the `White_Space` property. -/
def isBlank (c : Char) : Bool :=
  let n := c.toNat
  (0x09 ≤ n && n ≤ 0x0D) || n = 0x20 || n = 0x85 || n = 0xA0 || n = 0x1680
    || (0x2000 ≤ n && n ≤ 0x200A) || n = 0x2028 || n = 0x2029 || n = 0x202F || n = 0x205F
    || n = 0x3000

/-! ## Trimming -/

/-- Without the blanks in front. -/
def trimStartChars (cs : List Char) : List Char := cs.dropWhile isBlank

/-- Without the blanks at the end. -/
def trimEndChars (cs : List Char) : List Char := (cs.reverse.dropWhile isBlank).reverse

/-- Without the blanks at either end. -/
def trimChars (cs : List Char) : List Char := trimEndChars (trimStartChars cs)

/-- Without the blanks at either end. -/
def trim (text : String) : String := String.ofList (trimChars text.toList)

/-! ## Words and parts -/

/-- The parts between the characters that satisfy `cut`; there is always at least one part. -/
def splitCharsBy (cut : Char → Bool) : List Char → List (List Char)
  | [] => [[]]
  | c :: rest =>
    if cut c then [] :: splitCharsBy cut rest
    else
      match splitCharsBy cut rest with
      | [] => [[c]]
      | part :: parts => (c :: part) :: parts

/-- The parts of a text between occurrences of a separating character. -/
def splitOn (separator : Char) (text : String) : List String :=
  (splitCharsBy (· = separator) text.toList).map String.ofList

/-- The longest stretches of a text without a blank. -/
def words (text : String) : List String :=
  ((splitCharsBy isBlank text.toList).filter (· ≠ [])).map String.ofList

/-- What follows a given beginning, if the text begins so. -/
def dropStart? : List Char → List Char → Option (List Char)
  | [], cs => some cs
  | _ :: _, [] => none
  | p :: ps, c :: cs => if p = c then dropStart? ps cs else none

/-- What follows a given beginning, if the text begins so. -/
def stripStart? (start text : String) : Option String :=
  (dropStart? start.toList text.toList).map String.ofList

/-- Whether a text ends in the given way. -/
def endsWith (ending text : String) : Bool :=
  (dropStart? ending.toList.reverse text.toList.reverse).isSome

/-! ## Laws -/

theorem dropStart?_append (p cs : List Char) : dropStart? p (p ++ cs) = some cs := by
  induction p with
  | nil => rfl
  | cons c p ih => simp [dropStart?, ih]

theorem eq_append_of_dropStart? {p cs rest : List Char} (h : dropStart? p cs = some rest) :
    cs = p ++ rest := by
  induction p generalizing cs with
  | nil => simpa [dropStart?] using h
  | cons c p ih =>
    cases cs with
    | nil => simp [dropStart?] at h
    | cons d cs =>
      by_cases hc : c = d
      · simp only [dropStart?, hc, if_true] at h
        simp [hc, ih h]
      · simp [dropStart?, hc] at h

/-- What follows a beginning is what the text is after it. -/
theorem stripStart?_eq_some_iff {start text rest : String} :
    stripStart? start text = some rest ↔ text = start ++ rest := by
  unfold stripStart?
  rw [Option.map_eq_some_iff]
  constructor
  · rintro ⟨cs, hcs, rfl⟩
    exact String.toList_injective (by simp [eq_append_of_dropStart? hcs])
  · rintro rfl
    exact ⟨rest.toList, by rw [String.toList_append, dropStart?_append], String.ofList_toList⟩

/-- Nothing stands between the cuts if every character is one. -/
theorem forall_mem_splitCharsBy_eq_nil_iff {cut : Char → Bool} {cs : List Char} :
    (∀ part ∈ splitCharsBy cut cs, part = []) ↔ ∀ c ∈ cs, cut c = true := by
  induction cs with
  | nil => simp [splitCharsBy]
  | cons c cs ih =>
    rw [splitCharsBy]
    split
    · rename_i hcut
      simp [ih, hcut]
    · rename_i hcut
      split <;> simp [hcut]

/-- A text of blanks has no words, and no other text has none. -/
theorem words_eq_nil_iff {text : String} :
    words text = [] ↔ ∀ c ∈ text.toList, isBlank c = true := by
  rw [← forall_mem_splitCharsBy_eq_nil_iff, words, List.map_eq_nil_iff, List.filter_eq_nil_iff]
  simp

end Roster.Text
