import Mathlib.Data.List.DropRight
import Roster.Text.Blank

/-!
# Trimmed texts and their parts

A text is trimmed if there is no blank at either end (`IsTrimmed`). Trimming gives such a text
(`isTrimmed_trim`) and leaves exactly such texts alone (`trimChars_eq_self_iff`).

Cutting at a separator is `List.splitOn` (`splitOn_eq_map`), so no part holds the separator, and parts
without it are found again when it is put between them (`splitOn_intercalate`). What is put together in
that way from parts that are trimmed and not empty is trimmed itself (`isTrimmed_intercalate`).
-/

namespace Roster.Text

/-! ## Trimming -/

/-- There is no blank at either end. -/
structure IsTrimmed (cs : List Char) : Prop where
  /-- The first character is no blank. -/
  head : ∀ c ∈ cs.head?, isBlank c = false
  /-- The last character is no blank. -/
  last : ∀ c ∈ cs.getLast?, isBlank c = false

/-- Characters of which none is a blank are trimmed. -/
theorem IsTrimmed.of_forall {cs : List Char} (h : ∀ c ∈ cs, isBlank c = false) : IsTrimmed cs where
  head := fun c hc => h c (List.mem_of_mem_head? hc)
  last := fun c hc => h c (List.mem_of_mem_getLast? hc)

theorem trimEndChars_eq_rdropWhile (cs : List Char) : trimEndChars cs = cs.rdropWhile isBlank := rfl

/-- Trimming only takes characters away. -/
theorem trimChars_sublist (cs : List Char) : (trimChars cs).Sublist cs := by
  unfold trimChars
  rw [trimEndChars_eq_rdropWhile]
  exact (List.rdropWhile_prefix isBlank _).sublist.trans (List.dropWhile_sublist isBlank)

/-- Trimming leaves no blank at either end. -/
theorem isTrimmed_trimChars (cs : List Char) : IsTrimmed (trimChars cs) := by
  unfold trimChars
  rw [trimEndChars_eq_rdropWhile]
  constructor
  · intro c hc
    -- Without its end the text begins as it did before.
    obtain ⟨blanks, hblanks⟩ := List.rdropWhile_prefix isBlank (trimStartChars cs)
    have hhead : (trimStartChars cs).head? = some c := by
      rw [← hblanks, List.head?_append, hc]
      rfl
    have hfirst := List.head?_dropWhile_not isBlank cs
    unfold trimStartChars at hhead
    rw [hhead] at hfirst
    exact hfirst
  · intro c hc
    obtain ⟨hne, rfl⟩ := List.mem_getLast?_eq_getLast hc
    exact Bool.eq_false_iff.mpr (List.rdropWhile_last_not isBlank _ hne)

/-- Trimming leaves exactly the trimmed characters alone. -/
theorem trimChars_eq_self_iff {cs : List Char} : trimChars cs = cs ↔ IsTrimmed cs := by
  constructor
  · intro h
    rw [← h]
    exact isTrimmed_trimChars cs
  · intro h
    have hstart : trimStartChars cs = cs := by
      unfold trimStartChars
      cases cs with
      | nil => rfl
      | cons c rest => exact List.dropWhile_cons_of_neg (by simp [h.head c rfl])
    unfold trimChars
    rw [hstart, trimEndChars_eq_rdropWhile, List.rdropWhile_eq_self_iff]
    intro hne
    simp [h.last _ (List.getLast?_eq_some_getLast hne)]

theorem isTrimmed_trim (text : String) : IsTrimmed (trim text).toList := by
  unfold trim
  rw [String.toList_ofList]
  exact isTrimmed_trimChars text.toList

/-- A trimmed text stays as it is. -/
theorem trim_eq_self {text : String} (h : IsTrimmed text.toList) : trim text = text := by
  unfold trim
  rw [trimChars_eq_self_iff.mpr h, String.ofList_toList]

/-! ## Parts -/

theorem splitCharsBy_eq_splitOn (separator : Char) (cs : List Char) :
    splitCharsBy (· = separator) cs = cs.splitOn separator := by
  induction cs with
  | nil => rfl
  | cons c rest ih =>
    rw [splitCharsBy, List.splitOn_cons_eq_if_modifyHead, ih]
    by_cases hc : c = separator
    · simp [hc]
    · cases hparts : rest.splitOn separator with
      | nil => exact absurd hparts (List.splitOn_ne_nil separator rest)
      | cons part parts => simp [hc]

/-- Texts are cut as the lists of their characters are. -/
theorem splitOn_eq_map (separator : Char) (text : String) :
    splitOn separator text = (text.toList.splitOn separator).map String.ofList := by
  unfold splitOn
  rw [splitCharsBy_eq_splitOn]

/-- No part holds the separator. -/
theorem notMem_of_mem_splitOn {separator : Char} {cs part : List Char}
    (h : part ∈ cs.splitOn separator) : separator ∉ part := by
  induction cs generalizing part with
  | nil => simp_all
  | cons c rest ih =>
    rw [List.splitOn_cons_eq_if_modifyHead] at h
    by_cases hc : c = separator
    · rw [if_pos (by simpa using hc), List.mem_cons] at h
      rcases h with rfl | h
      · exact List.not_mem_nil
      · exact ih h
    · rw [if_neg (by simpa using hc)] at h
      cases hparts : rest.splitOn separator with
      | nil => exact absurd hparts (List.splitOn_ne_nil separator rest)
      | cons first parts =>
        rw [hparts, List.modifyHead_cons, List.mem_cons] at h
        rcases h with rfl | h
        · have hfirst : separator ∉ first := ih (by simp [hparts])
          simpa [Ne.symm hc] using hfirst
        · exact ih (by simp [hparts, h])

/-- The last part is empty only if the text is empty or ends in the separator. -/
theorem getLast?_of_splitOn {separator : Char} {cs : List Char}
    (h : (cs.splitOn separator).getLast? = some []) : cs = [] ∨ cs.getLast? = some separator := by
  induction cs with
  | nil => exact .inl rfl
  | cons c rest ih =>
    right
    rw [List.splitOn_cons_eq_if_modifyHead] at h
    cases hparts : rest.splitOn separator with
    | nil => exact absurd hparts (List.splitOn_ne_nil separator rest)
    | cons first parts =>
      rw [hparts] at h ih
      by_cases hc : c = separator
      · rw [if_pos (by simpa using hc), List.getLast?_cons_cons] at h
        rcases ih h with rfl | hlast
        · simp [hc]
        · simp [List.getLast?_cons, hlast]
      · rw [if_neg (by simpa using hc), List.modifyHead_cons] at h
        cases parts with
        | nil => simp at h
        | cons next parts =>
          rw [List.getLast?_cons_cons] at h ih
          rcases ih h with rfl | hlast
          · simp at hparts
          · simp [List.getLast?_cons, hlast]

/-- Parts without the separator are found again between the separators. -/
theorem splitOn_intercalate {separator : Char} {items : List String}
    (hitems : ∀ item ∈ items, separator ∉ item.toList) (hne : items ≠ []) :
    splitOn separator ((String.singleton separator).intercalate items) = items := by
  rw [splitOn_eq_map, String.toList_intercalate, String.toList_singleton,
    List.splitOn_intercalate separator (by simpa using hitems) (by simpa using hne), List.map_map]
  simp

/-- What is put together from trimmed parts that are not empty is trimmed. -/
theorem isTrimmed_intercalate {separator : List Char} {parts : List (List Char)}
    (htrimmed : ∀ part ∈ parts, IsTrimmed part) (hne : ∀ part ∈ parts, part ≠ []) :
    IsTrimmed (separator.intercalate parts) := by
  induction parts with
  | nil => exact .of_forall (by simp)
  | cons part rest ih =>
    obtain ⟨hpart, hrest⟩ := List.forall_mem_cons.mp htrimmed
    obtain ⟨hpartne, hrestne⟩ := List.forall_mem_cons.mp hne
    cases rest with
    | nil => simpa using hpart
    | cons next rest =>
      have hnext := ih hrest hrestne
      rw [List.intercalate_cons_cons, List.append_assoc]
      constructor
      · intro c hc
        rw [List.head?_append_of_ne_nil _ hpartne] at hc
        exact hpart.head c hc
      · intro c hc
        -- The end is that of the parts behind the first one, which are not empty.
        have htail : separator.intercalate (next :: rest) ≠ [] := by
          have hnextne := hrestne next List.mem_cons_self
          cases rest <;> simp [List.intercalate_cons_cons, hnextne]
        rw [List.getLast?_append_of_ne_nil _ (by simp [htail]),
          List.getLast?_append_of_ne_nil _ htail] at hc
        exact hnext.last c hc

/-! ## Endings -/

/-- A text ends in the given way if the ending stands behind something. -/
theorem endsWith_iff {ending text : String} :
    endsWith ending text = true ↔ ∃ start, text = start ++ ending := by
  unfold endsWith
  rw [Option.isSome_iff_exists]
  constructor
  · rintro ⟨rest, hrest⟩
    have htext := congrArg List.reverse (eq_append_of_dropStart? hrest)
    refine ⟨String.ofList rest.reverse, String.toList_injective ?_⟩
    simpa using htext
  · rintro ⟨start, rfl⟩
    refine ⟨start.toList.reverse, ?_⟩
    rw [String.toList_append, List.reverse_append, dropStart?_append]

end Roster.Text
