import Roster.Proofs.Param.Fitting
import Roster.Proofs.Text.Octets
import Roster.Proofs.Text.Parts

/-!
# Default values are found again

A default value can be written in two ways, and each way has a reader.

* **As the text of a line** (`ParamValue.text`). What was read from a line is read again from its own text,
  floating-point numbers apart (`ofTrimmed?_trim_text`). Lists are the case with something to it: their
  entries are trimmed, not empty and without a semicolon, so they are found again between semicolons
  (`splitList_intercalate`).
* **As a structured value** (`ParamValue.toJson`). Every value that a type admits is read again
  (`ofTyped?_toJson`), only that there is no number for an infinity or a not-a-number.

For whole numbers it is also said which texts give a value at all: the numerals of the numbers in the range
of the signature (`ofKeyFile?_unsigned_iff`, `ofKeyFile?_signed_iff`).
-/

namespace Roster.ParamValue

open Number

/-! ## Lists of texts -/

/-- An entry of a list that is found again in a text. -/
structure IsEntry (item : String) : Prop where
  /-- There is no blank at either end. -/
  trimmed : Text.IsTrimmed item.toList
  /-- The entry is not empty. -/
  nonempty : item ≠ ""
  /-- The entry ends at the semicolon. -/
  noSeparator : ';' ∉ item.toList

/-- The entries of a text are such entries. -/
theorem isEntry_of_mem_splitList {text item : String} (h : item ∈ splitList text) : IsEntry item := by
  unfold splitList at h
  obtain ⟨hmem, hne⟩ := List.mem_filter.mp h
  obtain ⟨part, hpart, rfl⟩ := List.mem_map.mp hmem
  rw [Text.splitOn_eq_map] at hpart
  obtain ⟨cs, hcs, rfl⟩ := List.mem_map.mp hpart
  refine ⟨Text.isTrimmed_trim _, of_decide_eq_true hne, fun hseparator => ?_⟩
  unfold Text.trim at hseparator
  rw [String.toList_ofList, String.toList_ofList] at hseparator
  exact Text.notMem_of_mem_splitOn hcs ((Text.trimChars_sublist cs).subset hseparator)

/-- Entries are found again between semicolons. -/
theorem splitList_intercalate {items : List String} (h : ∀ item ∈ items, IsEntry item) :
    splitList (";".intercalate items) = items := by
  by_cases hitems : items = []
  · subst hitems
    decide +kernel
  · have hparts : Text.splitOn ';' (";".intercalate items) = items :=
      Text.splitOn_intercalate (fun item hitem => (h item hitem).noSeparator) hitems
    unfold splitList
    rw [hparts, List.map_congr_left fun item hitem => Text.trim_eq_self (h item hitem).trimmed,
      List.map_id', List.filter_eq_self]
    intro item hitem
    exact decide_eq_true (h item hitem).nonempty

/-- Entries with semicolons between them are trimmed together. -/
theorem isTrimmed_intercalate {items : List String} (h : ∀ item ∈ items, IsEntry item) :
    Text.IsTrimmed (";".intercalate items).toList := by
  rw [String.toList_intercalate]
  apply Text.isTrimmed_intercalate
  · intro part hpart
    obtain ⟨item, hitem, rfl⟩ := List.mem_map.mp hpart
    exact (h item hitem).trimmed
  · intro part hpart
    obtain ⟨item, hitem, rfl⟩ := List.mem_map.mp hpart
    simpa using (h item hitem).nonempty

/-! ## The text of a line -/

/-- **What a trimmed text writes is found again in its own text**, if it is no floating-point number. -/
theorem ofTrimmed?_trim_text {type : ParamType} {text : String} {v : ParamValue}
    (hdouble : type ≠ .double) (htrimmed : Text.IsTrimmed text.toList)
    (h : ofTrimmed? type text = some v) : ofTrimmed? type (Text.trim v.text) = some v := by
  cases type with
  | boolean =>
    obtain ⟨b, rfl⟩ := admits_boolean_iff.mp (admits_ofTrimmed? h)
    cases b <;> decide +kernel
  | unsigned bits =>
    obtain ⟨n, hn, rfl⟩ := Option.map_eq_some_iff.mp h
    have hnumeral := numeral_nat false n
    simp only [ParamValue.text, ofTrimmed?]
    rw [Text.trim_eq_self (.of_forall hnumeral.isBlank),
      readUnsigned?_eq_some_iff.mpr ⟨hnumeral, (readUnsigned?_eq_some_iff.mp hn).2⟩]
    rfl
  | signed bits =>
    obtain ⟨n, hn, rfl⟩ := Option.map_eq_some_iff.mp h
    have hnumeral := numeral_int n
    simp only [ParamValue.text, ofTrimmed?]
    rw [Text.trim_eq_self (.of_forall hnumeral.isBlank),
      readSigned?_eq_some_iff.mpr ⟨hnumeral, (readSigned?_eq_some_iff.mp hn).2⟩]
    rfl
  | double => exact absurd rfl hdouble
  | string =>
    cases h
    simp only [ParamValue.text, ofTrimmed?]
    rw [Text.trim_eq_self htrimmed]
  | objectPath =>
    have h' := h
    simp only [ofTrimmed?] at h'
    rw [Option.ite_none_right_eq_some] at h'
    obtain ⟨_, hv⟩ := h'
    cases hv
    rw [ParamValue.text, Text.trim_eq_self htrimmed, h]
  | stringList =>
    cases h
    have hentries : ∀ item ∈ splitList text, IsEntry item := fun _ => isEntry_of_mem_splitList
    simp only [ParamValue.text, ofTrimmed?]
    rw [Text.trim_eq_self (isTrimmed_intercalate hentries), splitList_intercalate hentries]
  | bytes =>
    cases h
    simp only [ParamValue.text, ofTrimmed?]
    rw [Text.lossy_octets, Text.trim_eq_self htrimmed]

/-! ## The structured value -/

/-- What is written item by item is read item by item. -/
theorem mapM_map_eq_some {α β : Type} {write : α → β} {read : β → Option α}
    (h : ∀ a, read (write a) = some a) (items : List α) : (items.map write).mapM read = some items := by
  induction items with
  | nil => rfl
  | cons a items ih => simp [h, ih]

theorem textOf?_str (s : String) : textOf? (.str s) = some s := rfl

theorem octetOf?_int (b : UInt8) : octetOf? (.int b.toNat) = some b := by
  have hb := b.toNat_lt
  unfold octetOf?
  dsimp only
  rw [if_pos (by omega)]
  simp

/-- **A value of a type is found again in its structured value**, if it has one. -/
theorem ofTyped?_toJson {type : ParamType} {v : ParamValue} (h : type.Admits v)
    (hfinite : ∀ x, v = .double x → x.isFinite = true) : ofTyped? type v.toJson = some v := by
  cases type with
  | boolean =>
    obtain ⟨b, rfl⟩ := admits_boolean_iff.mp h
    rfl
  | unsigned bits =>
    obtain ⟨n, rfl, hrange⟩ := admits_unsigned_iff.mp h
    simp only [toJson, ofTyped?]
    rw [if_pos (by omega), Int.toNat_natCast]
  | signed bits =>
    obtain ⟨n, rfl, hrange⟩ := admits_signed_iff.mp h
    exact if_pos hrange
  | double =>
    obtain ⟨x, rfl⟩ := admits_double_iff.mp h
    simp only [toJson, hfinite x rfl, if_true]
    rfl
  | string =>
    obtain ⟨s, rfl⟩ := admits_string_iff.mp h
    rfl
  | objectPath =>
    obtain ⟨rest, rfl⟩ := admits_objectPath_iff.mp h
    exact if_pos (isObjectPath_iff.mpr ⟨rest, rfl⟩)
  | stringList =>
    obtain ⟨items, rfl⟩ := admits_stringList_iff.mp h
    simp only [toJson, ofTyped?]
    rw [mapM_map_eq_some textOf?_str]
    rfl
  | bytes =>
    obtain ⟨octets, rfl⟩ := admits_bytes_iff.mp h
    simp only [toJson, ofTyped?]
    rw [mapM_map_eq_some octetOf?_int]
    rfl

/-! ## Whole numbers -/

/-- A whole number from zero on is read from its numerals. -/
theorem ofKeyFile?_unsigned_iff {signature raw : String} {bits : Nat} {v : ParamValue}
    (hsignature : (signature, bits) ∈ unsignedSignatures) :
    ofKeyFile? signature raw = some v ↔
      ∃ n : Nat, Numeral false (Text.trim raw).toList n ∧ n < Nat.pow 2 bits ∧ v = .uint n := by
  have hpos : 0 < Nat.pow 2 bits := Nat.two_pow_pos bits
  unfold ofKeyFile?
  rw [ofSignature?_of_unsigned hsignature]
  simp only [Option.bind_eq_bind, Option.bind_some, ofTrimmed?, Option.map_eq_some_iff, readUnsigned?_eq_some_iff]
  constructor
  · rintro ⟨n, ⟨hnumeral, hrange⟩, rfl⟩
    exact ⟨n, hnumeral, by omega, rfl⟩
  · rintro ⟨n, hnumeral, hrange, rfl⟩
    exact ⟨n, ⟨hnumeral, by omega⟩, rfl⟩

/-- A whole number is read from its numerals. -/
theorem ofKeyFile?_signed_iff {signature raw : String} {bits : Nat} {v : ParamValue}
    (hsignature : (signature, bits) ∈ signedSignatures) :
    ofKeyFile? signature raw = some v ↔
      ∃ n : Int, Numeral true (Text.trim raw).toList n ∧
        (-(Nat.pow 2 (bits - 1) : Int) ≤ n ∧ n < Nat.pow 2 (bits - 1)) ∧ v = .int n := by
  unfold ofKeyFile?
  rw [ofSignature?_of_signed hsignature]
  simp only [Option.bind_eq_bind, Option.bind_some, ofTrimmed?, Option.map_eq_some_iff, readSigned?_eq_some_iff]
  constructor
  · rintro ⟨n, ⟨hnumeral, hrange⟩, rfl⟩
    exact ⟨n, hnumeral, hrange, rfl⟩
  · rintro ⟨n, hnumeral, hrange, rfl⟩
    exact ⟨n, ⟨hnumeral, hrange⟩, rfl⟩

/-! ## All of it -/

/-- **Default values are found again.** What a line gives is given again by its own text, floating-point
numbers apart; what either reader gives is given again by its structured value, unless it is an infinity or
a not-a-number; and the lines that give a whole number are the numerals of the numbers in range. -/
theorem defaults_found_again :
    (∀ signature raw v, signature ≠ "d" → ofKeyFile? signature raw = some v →
      ofKeyFile? signature v.text = some v) ∧
    (∀ signature v,
      ((∃ raw, ofKeyFile? signature raw = some v) ∨ ∃ value, ofJson? signature value = some v) →
        (∀ x, v = .double x → x.isFinite = true) → ofJson? signature v.toJson = some v) ∧
    (∀ signature bits, (signature, bits) ∈ unsignedSignatures → ∀ raw v,
      ofKeyFile? signature raw = some v ↔
        ∃ n : Nat, Numeral false (Text.trim raw).toList n ∧ n < Nat.pow 2 bits ∧ v = .uint n) ∧
    ∀ signature bits, (signature, bits) ∈ signedSignatures → ∀ raw v,
      ofKeyFile? signature raw = some v ↔
        ∃ n : Int, Numeral true (Text.trim raw).toList n ∧
          (-(Nat.pow 2 (bits - 1) : Int) ≤ n ∧ n < Nat.pow 2 (bits - 1)) ∧ v = .int n := by
  refine ⟨?_, ?_, fun _ _ h _ _ => ofKeyFile?_unsigned_iff h, fun _ _ h _ _ => ofKeyFile?_signed_iff h⟩
  · intro signature raw v hsignature h
    obtain ⟨type, htype, hv⟩ := Option.bind_eq_some_iff.mp h
    have hdouble : type ≠ .double := by
      rintro rfl
      have hfits : Fits signature (.double .nan) := .of_admits htype trivial
      cases hfits
      exact hsignature rfl
    unfold ofKeyFile?
    rw [htype]
    exact ofTrimmed?_trim_text hdouble (Text.isTrimmed_trim raw) hv
  · intro signature v hread hfinite
    have hfits : Fits signature v := by
      rcases hread with ⟨raw, h⟩ | ⟨value, h⟩
      · exact fits_ofKeyFile? h
      · exact fits_ofJson? h
    obtain ⟨type, htype, hv⟩ := fits_iff.mp hfits
    unfold ofJson?
    rw [htype]
    exact ofTyped?_toJson hv hfinite

/-- A list with blanks and empty entries, the least number of 64 bits, a fraction, and a number that is just
in range. -/
theorem defaults_found_again_edges :
    (ofKeyFile? "as" " a b ;; ü ;" = some (.stringList ["a b", "ü"]) ∧
      ofKeyFile? "as" (stringList ["a b", "ü"]).text = some (.stringList ["a b", "ü"])) ∧
    (ofKeyFile? "x" "-9223372036854775808" = some (.int (-9223372036854775808)) ∧
      ofJson? "x" (toJson (.int (-9223372036854775808))) = some (.int (-9223372036854775808))) ∧
    (∃ x : Double, ofKeyFile? "d" "-0.1" = some (.double x) ∧ x.isFinite = true ∧
      ofJson? "d" (toJson (.double x)) = some (.double x)) ∧
    (("y", 8) ∈ unsignedSignatures ∧ ∃ n : Nat, Numeral false (Text.trim " +255").toList n ∧
      n < Nat.pow 2 8 ∧ uint 255 = .uint n) ∧
    ("n", 16) ∈ signedSignatures ∧ ∃ n : Int, Numeral true (Text.trim "-32768 ").toList n ∧
      (-(Nat.pow 2 (16 - 1) : Int) ≤ n ∧ n < Nat.pow 2 (16 - 1)) ∧ int (-32768) = .int n := by
  obtain ⟨htext, hjson, hunsigned, hsigned⟩ := defaults_found_again
  have hlist : ofKeyFile? "as" " a b ;; ü ;" = some (.stringList ["a b", "ü"]) := by decide +kernel
  have hleast : ofKeyFile? "x" "-9223372036854775808" = some (.int (-9223372036854775808)) := by
    decide +kernel
  have hfraction : ofKeyFile? "d" "-0.1" = some (.double ⟨0xBFB999999999999A⟩) := by decide +kernel
  have hbyte : ofKeyFile? "y" " +255" = some (.uint 255) := by decide +kernel
  have hshort : ofKeyFile? "n" "-32768 " = some (.int (-32768)) := by decide +kernel
  refine ⟨⟨hlist, htext _ _ _ (by decide) hlist⟩, ⟨hleast, hjson _ _ (.inl ⟨_, hleast⟩) ?_⟩,
    ⟨_, hfraction, by decide +kernel, hjson _ _ (.inl ⟨_, hfraction⟩) ?_⟩,
    ⟨by decide, (hunsigned "y" 8 (by decide) _ _).mp hbyte⟩,
    by decide, (hsigned "n" 16 (by decide) _ _).mp hshort⟩
  · intro x hx
    cases hx
  · intro x hx
    cases hx
    decide +kernel

end Roster.ParamValue
