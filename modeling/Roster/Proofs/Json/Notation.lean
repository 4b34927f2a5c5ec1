import Mathlib.Data.List.Forall2
import Roster.Proofs.Json.Texts
import Roster.Proofs.Number.Numerals

/-!
# The notation of structured values is unambiguous

A written value (`Json.pretty`) tells where it ends and how its parts are written. Two values are written
alike (`Alike`) if they are written in the same way at every level; values that are not the same may be,
as what is no finite number is written as nothing.

* **Words** (`isWordly_of_opener?`): null, the truth values and the numbers are written with
  characters that neither begin another value nor follow one.
* **Parts** (`bracketed_append_inj`): if every part tells where it ends, so do parts between brackets.
* **Values** (`splitsOff_value`): by induction on the value, with one case for each kind.
* **Lists and records** (`alike_arr_iff`, `alike_obj_iff`) are written alike exactly if their parts are,
  and values are written alike exactly if they are written in the same way once (`pretty_eq_iff`).
  So two records with a last value of their own tell whether it is the same (`alike_obj_concat_iff`).
-/

namespace Roster.Json

open Number

/-! ## Words -/

/-- A character of a word: of null, a truth value or a number. -/
def isWordChar (c : Char) : Bool := c.isAlphanum || c = '-' || c = '+' || c = '.'

/-- All characters are those of words. -/
def IsWordly (s : String) : Prop := ∀ c ∈ s.toList, isWordChar c = true

instance (s : String) : Decidable (IsWordly s) :=
  decidable_of_iff (s.toList.all isWordChar = true) List.all_eq_true

theorem IsWordly.append {s t : String} (hs : IsWordly s) (ht : IsWordly t) : IsWordly (s ++ t) := by
  intro c hc
  rw [String.toList_append] at hc
  exact (List.mem_append.mp hc).elim (hs c) (ht c)

theorem isWordly_ofList {cs : List Char} (h : ∀ c ∈ cs, c.isDigit = true) :
    IsWordly (String.ofList cs) := by
  intro c hc
  rw [String.toList_ofList] at hc
  simp [isWordChar, Char.isAlphanum, h c hc]

theorem isWordly_nat (n : Nat) : IsWordly (toString n) := by
  have h := isWordly_ofList (isDigits_toDigits n).digits
  rwa [← Nat.toList_repr, String.ofList_toList] at h

theorem isWordly_int (z : Int) : IsWordly (toString z) := by
  cases z with
  | ofNat n => exact isWordly_nat n
  | negSucc n =>
    have hminus : IsWordly "-" := by decide
    exact hminus.append (isWordly_nat (n + 1))

theorem isWordly_signText (x : Double) : IsWordly x.signText := by
  unfold Double.signText
  split <;> decide

/-- Digits stay digits when a point is put between them, and zeros where digits are missing. -/
theorem isDigit_of_mem_positional {digits : List Char} (h : ∀ c ∈ digits, c.isDigit = true)
    (point : Int) :
    (∀ c ∈ (Double.positional digits point).1, c.isDigit = true) ∧
      ∀ c ∈ (Double.positional digits point).2, c.isDigit = true := by
  have hzeros (n : Nat) : ∀ c ∈ List.replicate n '0', c.isDigit = true := by
    intro c hc
    rw [List.eq_of_mem_replicate hc]
    rfl
  unfold Double.positional
  split
  · refine ⟨List.forall_mem_singleton.mpr rfl, ?_⟩
    exact List.forall_mem_append.mpr ⟨hzeros _, h⟩
  · split
    · exact ⟨List.forall_mem_append.mpr ⟨h, hzeros _⟩, fun c hc => by cases hc⟩
    · exact ⟨fun c hc => h c (List.mem_of_mem_take hc), fun c hc => h c (List.mem_of_mem_drop hc)⟩

theorem isWordly_fieldText (x : Double) : IsWordly x.fieldText := by
  have hsign := isWordly_signText x
  have hdigits := (isDigits_toDigits (x.shortest .toEven).digits).digits
  have hpoint : IsWordly "." := by decide
  unfold Double.fieldText
  split
  · decide
  split
  · exact hsign.append (by decide)
  dsimp only
  split
  · obtain ⟨hwhole, hfraction⟩ := isDigit_of_mem_positional hdigits
      ((x.shortest .toEven).exponent + (Nat.toDigits 10 (x.shortest .toEven).digits).length)
    refine ((hsign.append (isWordly_ofList hwhole)).append hpoint).append (isWordly_ofList ?_)
    split
    · exact List.forall_mem_singleton.mpr rfl
    · exact hfraction
  · have hfraction : ∀ c ∈ (Nat.toDigits 10 (x.shortest .toEven).digits).drop 1, c.isDigit = true :=
      fun c hc => hdigits c (List.mem_of_mem_drop hc)
    have hfirst : ∀ c ∈ (Nat.toDigits 10 (x.shortest .toEven).digits).take 1, c.isDigit = true :=
      fun c hc => hdigits c (List.mem_of_mem_take hc)
    refine ((((hsign.append (isWordly_ofList hfirst)).append ?_).append (by decide)).append ?_).append
      (isWordly_nat _)
    · split
      · decide
      · exact hpoint.append (isWordly_ofList hfraction)
    · split <;> decide

/-! ## What follows a value -/

/-- What may follow a written value: nothing, a comma or a line end. -/
def Stops (cs : List Char) : Prop := ∀ c ∈ cs.head?, c = ',' ∨ c = '\n'

theorem stops_cons {c : Char} {cs : List Char} : Stops (c :: cs) ↔ c = ',' ∨ c = '\n' := by
  simp [Stops]

/-- No character of a word may follow a value. -/
theorem not_stops_of_isWordChar {c : Char} (h : isWordChar c = true) (cs : List Char) :
    ¬ Stops (c :: cs) := by
  rw [stops_cons]
  rintro (rfl | rfl)
  · exact absurd h (by decide)
  · exact absurd h (by decide)

/-- Words are told apart by their characters, whatever may follow a value. -/
theorem word_append_inj {p q r s : List Char} (hp : ∀ c ∈ p, isWordChar c = true)
    (hq : ∀ c ∈ q, isWordChar c = true) (hr : Stops r) (hs : Stops s) (h : p ++ r = q ++ s) :
    p = q ∧ r = s := by
  induction p generalizing q with
  | nil =>
    cases q with
    | nil => exact ⟨rfl, h⟩
    | cons d q =>
      rw [List.nil_append] at h
      rw [h] at hr
      exact absurd hr (not_stops_of_isWordChar (hq d List.mem_cons_self) _)
  | cons c p ih =>
    cases q with
    | nil =>
      rw [List.nil_append] at h
      rw [← h] at hs
      exact absurd hs (not_stops_of_isWordChar (hp c List.mem_cons_self) _)
    | cons d q =>
      obtain ⟨rfl, htail⟩ := List.cons.inj h
      obtain ⟨rfl, hrest⟩ := ih (fun c hc => hp c (List.mem_cons_of_mem _ hc))
        (fun c hc => hq c (List.mem_cons_of_mem _ hc)) htail
      exact ⟨rfl, hrest⟩

/-! ## Parts between brackets -/

section parts

variable {α : Type}

/-- Whatever else is written in the same way, followed by what may follow a value, is the same in this
sense, and the same follows. -/
def SplitsOff (same : α → α → Prop) (written : α → String) (a : α) : Prop :=
  ∀ b r s, Stops r → Stops s → (written a).toList ++ r = (written b).toList ++ s → same a b ∧ r = s

variable {same : α → α → Prop} {written : α → String}

/-- Parts, each on a line of its own behind a comma. -/
def furtherLines (blank : List Char) (written : α → String) (parts : List α) : List Char :=
  parts.flatMap fun a => ',' :: '\n' :: (blank ++ (written a).toList)

theorem stops_furtherLines (blank : List Char) (parts : List α) (r : List Char) :
    Stops (furtherLines blank written parts ++ '\n' :: r) := by
  cases parts with
  | nil => exact stops_cons.mpr (.inr rfl)
  | cons a parts => exact stops_cons.mpr (.inl rfl)

/-- Further parts tell which they are and where they end. -/
theorem furtherLines_append_inj {blank r s : List Char} {as bs : List α}
    (h : ∀ a ∈ as, SplitsOff same written a)
    (heq : furtherLines blank written as ++ '\n' :: r = furtherLines blank written bs ++ '\n' :: s) :
    List.Forall₂ same as bs ∧ r = s := by
  induction as generalizing bs with
  | nil =>
    cases bs with
    | nil => exact ⟨.nil, (List.cons.inj heq).2⟩
    | cons b bs => exact absurd (List.cons.inj heq).1 (by decide)
  | cons a as ih =>
    cases bs with
    | nil => exact absurd (List.cons.inj heq).1 (by decide)
    | cons b bs =>
      obtain ⟨ha, has⟩ := List.forall_mem_cons.mp h
      have hline : (written a).toList ++ (furtherLines blank written as ++ '\n' :: r) =
          (written b).toList ++ (furtherLines blank written bs ++ '\n' :: s) := by
        simpa [furtherLines] using heq
      obtain ⟨hsame, hrest⟩ := ha b _ _ (stops_furtherLines _ as r) (stops_furtherLines _ bs s) hline
      obtain ⟨hall, hend⟩ := ih has hrest
      exact ⟨.cons hsame hall, hend⟩

/-- What is written of parts between brackets. -/
theorem toList_bracketed_cons (opening closing : String) (level : Nat) (a : α) (parts : List α) :
    (bracketed opening closing level ((a :: parts).map written)).toList =
      opening.toList ++ '\n' :: ((indentation (level + 1)).toList ++ ((written a).toList ++
        (furtherLines (indentation (level + 1)).toList written parts ++
          '\n' :: ((indentation level).toList ++ closing.toList)))) := by
  have hlines (line : List Char) (lines : List (List Char)) :
      [','].intercalate (line :: lines) = line ++ lines.flatMap (',' :: ·) := by
    induction lines generalizing line with
    | nil => simp
    | cons next lines ih => simp [List.intercalate_cons_cons, ih]
  have hcomma : ",".toList = [','] := rfl
  have hend : "\n".toList = ['\n'] := rfl
  simp only [bracketed, List.map_cons, String.toList_append, String.toList_intercalate, hcomma, hlines,
    hend, furtherLines, List.flatMap_map, List.map_map, Function.comp_def]
  simp

/-- **Parts between brackets** tell which they are and where they end. -/
theorem bracketed_append_inj {opening closing : String} {c : Char} (hclosing : closing.toList = [c])
    (hc : c ≠ '\n') {level : Nat} {as bs : List α} {r s : List Char}
    (h : ∀ a ∈ as, SplitsOff same written a)
    (heq : (bracketed opening closing level (as.map written)).toList ++ r =
      (bracketed opening closing level (bs.map written)).toList ++ s) :
    List.Forall₂ same as bs ∧ r = s := by
  have hnil : (bracketed opening closing level (([] : List α).map written)).toList =
      opening.toList ++ [c] := by
    rw [← hclosing, ← String.toList_append]
    rfl
  cases as with
  | nil =>
    cases bs with
    | nil => exact ⟨.nil, List.append_cancel_left heq⟩
    | cons b bs =>
      rw [hnil, toList_bracketed_cons, List.append_assoc, List.append_assoc] at heq
      exact absurd (List.cons.inj (List.append_cancel_left heq)).1 hc
  | cons a as =>
    cases bs with
    | nil =>
      rw [hnil, toList_bracketed_cons, List.append_assoc, List.append_assoc] at heq
      exact absurd (List.cons.inj (List.append_cancel_left heq)).1.symm hc
    | cons b bs =>
      obtain ⟨ha, has⟩ := List.forall_mem_cons.mp h
      simp only [toList_bracketed_cons, List.append_assoc, List.cons_append] at heq
      have hlines := List.append_cancel_left (List.cons.inj (List.append_cancel_left heq)).2
      obtain ⟨hsame, hrest⟩ := ha b _ _ (stops_furtherLines _ as _) (stops_furtherLines _ bs _) hlines
      obtain ⟨hall, hend⟩ := furtherLines_append_inj has hrest
      exact ⟨.cons hsame hall, List.append_cancel_left (List.append_cancel_left hend)⟩

end parts

/-! ## Values -/

/-- The two values are written in the same way at every level. -/
def Alike (a b : Json) : Prop := ∀ level, prettyAt level a = prettyAt level b

@[refl] theorem Alike.refl (a : Json) : Alike a a := fun _ => rfl

theorem prettyItems_eq (level : Nat) (items : List Json) :
    prettyItems level items = items.map (prettyAt level) := by
  induction items with
  | nil => rfl
  | cons v rest ih => rw [prettyItems, ih, List.map_cons]

/-- How a field is written. -/
def prettyField (level : Nat) (field : String × Json) : String :=
  textLiteral field.1 ++ ": " ++ prettyAt level field.2

theorem prettyFields_eq (level : Nat) (fields : List (String × Json)) :
    prettyFields level fields = fields.map (prettyField level) := by
  induction fields with
  | nil => rfl
  | cons f rest ih => rw [prettyFields, ih, List.map_cons, prettyField]

theorem prettyAt_arr (level : Nat) (items : List Json) :
    prettyAt level (.arr items) = bracketed "[" "]" level (items.map (prettyAt (level + 1))) := by
  rw [prettyAt, prettyItems_eq]

theorem prettyAt_obj (level : Nat) (fields : List (String × Json)) :
    prettyAt level (.obj fields) =
      bracketed "\x7b" "\x7d" level (fields.map (prettyField (level + 1))) := by
  rw [prettyAt, prettyFields_eq]

/-- The two fields have one key and values that are written alike. -/
def FieldAlike (f g : String × Json) : Prop := f.1 = g.1 ∧ Alike f.2 g.2

theorem map_eq_of_forall₂ {α β : Type} {same : α → α → Prop} {f : α → β}
    (hf : ∀ a b, same a b → f a = f b) {as bs : List α} (h : List.Forall₂ same as bs) :
    as.map f = bs.map f := by
  induction h with
  | nil => rfl
  | cons hab _ ih => rw [List.map_cons, List.map_cons, hf _ _ hab, ih]

theorem alike_arr {as bs : List Json} (h : List.Forall₂ Alike as bs) : Alike (.arr as) (.arr bs) := by
  intro level
  rw [prettyAt_arr, prettyAt_arr, map_eq_of_forall₂ (fun a b hab => hab (level + 1)) h]

theorem alike_obj {as bs : List (String × Json)} (h : List.Forall₂ FieldAlike as bs) :
    Alike (.obj as) (.obj bs) := by
  intro level
  have hfields : as.map (prettyField (level + 1)) = bs.map (prettyField (level + 1)) := by
    refine map_eq_of_forall₂ (fun f g hfg => ?_) h
    unfold prettyField
    rw [hfg.1, hfg.2 (level + 1)]
  rw [prettyAt_obj, prettyAt_obj, hfields]

/-- The character that begins every value of a kind that has one. -/
def opener? : Json → Option Char
  | .str _ => some '"'
  | .arr _ => some '['
  | .obj _ => some '\x7b'
  | .null | .bool _ | .int _ | .float _ => none

/-- A value of a kind with an opener begins with it. -/
theorem exists_eq_cons_of_opener? {v : Json} {c : Char} (h : v.opener? = some c) (level : Nat) :
    ∃ rest, (prettyAt level v).toList = c :: rest := by
  have hbracketed (opening closing : String) (hopening : opening.toList = [c]) (parts : List String) :
      ∃ rest, (bracketed opening closing level parts).toList = c :: rest := by
    cases parts with
    | nil => exact ⟨_, by rw [bracketed, String.toList_append, hopening]; rfl⟩
    | cons p parts => exact ⟨_, by simp [bracketed, hopening]; rfl⟩
  cases v with
  | str s =>
    cases h
    exact ⟨_, toList_textLiteral s⟩
  | arr items =>
    cases h
    rw [prettyAt_arr]
    exact hbracketed _ _ rfl _
  | obj fields =>
    cases h
    rw [prettyAt_obj]
    exact hbracketed _ _ rfl _
  | null | bool _ | int _ | float _ => cases h

/-- The other values are words, at every level the same. -/
theorem prettyAt_of_opener? {v : Json} (h : v.opener? = none) (level : Nat) :
    prettyAt level v = scalarText v := by
  cases v with
  | null | bool _ | int _ | float _ => rfl
  | str _ | arr _ | obj _ => cases h

theorem isWordly_of_opener? {v : Json} (h : v.opener? = none) : IsWordly (scalarText v) := by
  cases v with
  | null => decide
  | bool b => cases b <;> decide
  | int n => exact isWordly_int n
  | float x => exact isWordly_fieldText x
  | str _ | arr _ | obj _ => cases h

/-- **The kind of a value shows**, whatever may follow it. -/
theorem opener?_eq {level : Nat} {a b : Json} {r s : List Char} (hr : Stops r) (hs : Stops s)
    (h : (prettyAt level a).toList ++ r = (prettyAt level b).toList ++ s) : a.opener? = b.opener? := by
  -- A value that begins with an opener is no word followed by what may follow one.
  have hword {v w : Json} {c : Char} {r s : List Char} (hv : v.opener? = some c)
      (hw : w.opener? = none) (hs : Stops s)
      (h : (prettyAt level v).toList ++ r = (prettyAt level w).toList ++ s) : False := by
    obtain ⟨rest, hrest⟩ := exists_eq_cons_of_opener? hv level
    have hopener : isWordChar c = false ∧ c ≠ ',' ∧ c ≠ '\n' := by
      cases v <;> cases hv <;> decide
    have hchars := isWordly_of_opener? hw
    rw [hrest, prettyAt_of_opener? hw] at h
    cases hcs : (scalarText w).toList with
    | nil =>
      rw [hcs, List.nil_append, List.cons_append] at h
      rw [← h, stops_cons] at hs
      exact hs.elim hopener.2.1 hopener.2.2
    | cons d cs =>
      rw [hcs] at h
      have hd := hchars d (hcs ▸ List.mem_cons_self)
      rw [← (List.cons.inj h).1, hopener.1] at hd
      cases hd
  rcases ha : a.opener? with _ | c
  · rcases hb : b.opener? with _ | d
    · rfl
    · exact (hword hb ha hr h.symm).elim
  · rcases hb : b.opener? with _ | d
    · exact (hword ha hb hs h).elim
    · obtain ⟨_, hrest⟩ := exists_eq_cons_of_opener? ha level
      obtain ⟨_, hrest'⟩ := exists_eq_cons_of_opener? hb level
      rw [hrest, hrest'] at h
      exact congrArg some (List.cons.inj h).1

/-- A field tells where it ends if its value does. -/
theorem splitsOff_field {level : Nat} {f : String × Json}
    (h : SplitsOff Alike (prettyAt level) f.2) : SplitsOff FieldAlike (prettyField level) f := by
  intro g r s hr hs heq
  have hgap : ": ".toList = [':', ' '] := rfl
  unfold prettyField at heq
  simp only [String.toList_append, List.append_assoc, hgap] at heq
  obtain ⟨hkey, hvalue⟩ := textLiteral_append_inj heq
  obtain ⟨halike, hrest⟩ := h g.2 r s hr hs (List.append_cancel_left hvalue)
  exact ⟨⟨hkey, halike⟩, hrest⟩

mutual

/-- **A written value tells how it is written and where it ends.** -/
theorem splitsOff_value (level : Nat) : ∀ v : Json, SplitsOff Alike (prettyAt level) v
  | .arr items => by
    intro b r s hr hs heq
    have hkind := opener?_eq hr hs heq
    cases b with
    | arr others =>
      rw [prettyAt_arr, prettyAt_arr] at heq
      obtain ⟨hall, hrest⟩ :=
        bracketed_append_inj rfl (by decide) (splitsOff_items (level + 1) items) heq
      exact ⟨alike_arr hall, hrest⟩
    | _ => cases hkind
  | .obj fields => by
    intro b r s hr hs heq
    have hkind := opener?_eq hr hs heq
    cases b with
    | obj others =>
      rw [prettyAt_obj, prettyAt_obj] at heq
      obtain ⟨hall, hrest⟩ :=
        bracketed_append_inj rfl (by decide) (splitsOff_fields (level + 1) fields) heq
      exact ⟨alike_obj hall, hrest⟩
    | _ => cases hkind
  | .str text => by
    intro b r s hr hs heq
    have hkind := opener?_eq hr hs heq
    cases b with
    | str other =>
      obtain ⟨rfl, hrest⟩ := textLiteral_append_inj heq
      exact ⟨.refl _, hrest⟩
    | _ => cases hkind
  | .null | .bool _ | .int _ | .float _ => by
    intro b r s hr hs heq
    have hkind := opener?_eq hr hs heq
    have hb : b.opener? = none := hkind.symm
    rw [prettyAt_of_opener? rfl, prettyAt_of_opener? hb] at heq
    obtain ⟨htext, hrest⟩ :=
      word_append_inj (isWordly_of_opener? rfl) (isWordly_of_opener? hb) hr hs heq
    refine ⟨fun level => ?_, hrest⟩
    rw [prettyAt_of_opener? rfl, prettyAt_of_opener? hb]
    exact String.toList_inj.mp htext

theorem splitsOff_items (level : Nat) :
    ∀ items : List Json, ∀ v ∈ items, SplitsOff Alike (prettyAt level) v
  | [] => fun _ hv => absurd hv List.not_mem_nil
  | v :: rest => List.forall_mem_cons.mpr ⟨splitsOff_value level v, splitsOff_items level rest⟩

theorem splitsOff_fields (level : Nat) :
    ∀ fields : List (String × Json), ∀ f ∈ fields, SplitsOff FieldAlike (prettyField level) f
  | [] => fun _ hf => absurd hf List.not_mem_nil
  | (k, v) :: rest =>
    List.forall_mem_cons.mpr
      ⟨splitsOff_field (f := (k, v)) (splitsOff_value level v), splitsOff_fields level rest⟩

end

/-! ## Whole texts -/

/-- **Values are written alike at every level** if they are at one. -/
theorem alike_of_prettyAt_eq {level : Nat} {a b : Json} (h : prettyAt level a = prettyAt level b) :
    Alike a b := by
  have hstops : Stops [] := fun _ hc => by cases hc
  have htext := congrArg (fun s : String => s.toList ++ []) h
  exact (splitsOff_value level a b [] [] hstops hstops htext).1

theorem pretty_eq_iff {a b : Json} : pretty a = pretty b ↔ Alike a b :=
  ⟨alike_of_prettyAt_eq, fun h => h 0⟩

/-- **Lists are written alike** exactly if their items are. -/
theorem alike_arr_iff {as bs : List Json} : Alike (.arr as) (.arr bs) ↔ List.Forall₂ Alike as bs := by
  refine ⟨fun h => ?_, alike_arr⟩
  have htext := congrArg (fun s : String => s.toList ++ []) (h 0)
  simp only [prettyAt_arr] at htext
  exact (bracketed_append_inj rfl (by decide) (splitsOff_items 1 as) htext).1

/-- Lists of what is made of parts are written alike exactly if what is made of each part is. -/
theorem alike_arr_map_iff {α : Type} {f : α → Json} {as bs : List α} :
    Alike (.arr (as.map f)) (.arr (bs.map f)) ↔ List.Forall₂ (fun a b => Alike (f a) (f b)) as bs := by
  rw [alike_arr_iff, List.forall₂_map_left_iff, List.forall₂_map_right_iff]

/-- **Records are written alike** exactly if they have the same keys and their values are. -/
theorem alike_obj_iff {as bs : List (String × Json)} :
    Alike (.obj as) (.obj bs) ↔ List.Forall₂ FieldAlike as bs := by
  refine ⟨fun h => ?_, alike_obj⟩
  have htext := congrArg (fun s : String => s.toList ++ []) (h 0)
  simp only [prettyAt_obj] at htext
  exact (bracketed_append_inj rfl (by decide) (splitsOff_fields 1 as) htext).1

/-- Records that may differ in the last value only are written alike exactly if it is. -/
theorem alike_obj_concat_iff (fields : List (String × Json)) {key : String} {a b : Json} :
    Alike (.obj (fields ++ [(key, a)])) (.obj (fields ++ [(key, b)])) ↔ Alike a b := by
  rw [alike_obj_iff]
  induction fields with
  | nil => simp [FieldAlike]
  | cons f fields ih =>
    have hfield : FieldAlike f f := ⟨rfl, .refl _⟩
    rw [List.cons_append, List.cons_append, List.forall₂_cons, ih]
    exact and_iff_right hfield

end Roster.Json
