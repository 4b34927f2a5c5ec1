import Mathlib.Computability.Language
import Roster.Config.Basic
import Roster.Proofs.Name.Grammar

/-!
# Names and bus names correspond one to one

* **The language of names** (`NameKind.language`): a letter, and then any letters, digits and joining
  characters, written as a regular expression. No character outside of ASCII occurs in it. The texts that
  match the grammar of a kind are those of its language (`matches_iff_mem_language`), so that the names of
  a kind are the language of the kind (`Name.exists_ofText_iff`).
* **Bus names** (`Config.busName_injective`): what all bus names begin with can be cut off again, also if
  it is empty or could itself be the beginning of a name. So the manager is found again from its bus name,
  and nobody from any other text.
-/

namespace Roster

open scoped Computability

/-! ## The language of names -/

namespace NameKind

/-- The characters from one to another, each of them as a text. -/
def range (first last : Char) : Language Char := {word | ∃ c, word = [c] ∧ first ≤ c ∧ c ≤ last}

/-- The letters `[A-Za-z]`. -/
def letter : Language Char := range 'A' 'Z' + range 'a' 'z'

/-- The digits `[0-9]`. -/
def digit : Language Char := range '0' '9'

/-- The names with a joining character: `[A-Za-z][A-Za-z0-9_]*` if that is the underscore. -/
def language (joiner : Char) : Language Char := letter * (letter + digit + {[joiner]})∗

/-- The texts of the language are the characters with a property. -/
def IsClass (l : Language Char) (P : Char → Prop) : Prop := ∀ word, word ∈ l ↔ ∃ c, word = [c] ∧ P c

section classes

variable {l l' : Language Char} {P P' : Char → Prop}

theorem isClass_range (first last : Char) :
    IsClass (range first last) fun c => first ≤ c ∧ c ≤ last := fun _ => Iff.rfl

theorem isClass_singleton (d : Char) : IsClass {[d]} fun c => c = d := by
  intro word
  constructor
  · intro hword
    exact ⟨d, hword, rfl⟩
  · rintro ⟨_, rfl, rfl⟩
    rfl

theorem IsClass.add (h : IsClass l P) (h' : IsClass l' P') : IsClass (l + l') fun c => P c ∨ P' c := by
  intro word
  rw [Language.mem_add, h, h', ← exists_or]
  simp only [← and_or_left]

theorem IsClass.congr (h : IsClass l P) (hP : ∀ c, P' c ↔ P c) : IsClass l P' := by
  simpa only [IsClass, hP] using h

/-- The texts of a starred class have no characters but those of the class. -/
theorem IsClass.mem_kstar_iff (h : IsClass l P) {cs : List Char} : cs ∈ l∗ ↔ ∀ c ∈ cs, P c := by
  rw [Language.mem_kstar]
  constructor
  · rintro ⟨words, rfl, hwords⟩ c hc
    obtain ⟨word, hword, hmem⟩ := List.mem_flatten.mp hc
    obtain ⟨d, rfl, hd⟩ := (h word).mp (hwords word hword)
    rwa [List.mem_singleton.mp hmem]
  · intro hall
    refine ⟨cs.map fun c => [c], by simp [← List.flatMap_def], fun word hword => ?_⟩
    obtain ⟨c, hc, rfl⟩ := List.mem_map.mp hword
    exact (h [c]).mpr ⟨c, rfl, hall c hc⟩

end classes

theorem isClass_letter : IsClass letter fun c => c.isAlpha = true := by
  refine ((isClass_range 'A' 'Z').add (isClass_range 'a' 'z')).congr fun c => ?_
  have hupper : c.isUpper = true ↔ 'A' ≤ c ∧ c ≤ 'Z' := decide_eq_true_iff
  have hlower : c.isLower = true ↔ 'a' ≤ c ∧ c ≤ 'z' := by
    show (decide ('a' ≤ c) && decide (c ≤ 'z')) = true ↔ _
    rw [Bool.and_eq_true, decide_eq_true_iff, decide_eq_true_iff]
  rw [← hupper, ← hlower]
  exact Bool.or_eq_true_iff

theorem isClass_digit : IsClass digit fun c => c.isDigit = true := by
  refine (isClass_range '0' '9').congr fun c => ?_
  show (decide ('0' ≤ c) && decide (c ≤ '9')) = true ↔ _
  rw [Bool.and_eq_true, decide_eq_true_iff, decide_eq_true_iff]

/-- The characters behind the first one. -/
theorem isClass_later (joiner : Char) :
    IsClass (letter + digit + {[joiner]}) fun c => c.isAlphanum = true ∨ c = joiner :=
  ((isClass_letter.add isClass_digit).add (isClass_singleton joiner)).congr fun _ =>
    or_congr_left Bool.or_eq_true_iff

/-- **What matches the grammar** of a kind is the language of its joining character. -/
theorem matches_iff_mem_language {kind : NameKind} {cs : List Char} :
    kind.Matches cs ↔ cs ∈ language kind.joiner := by
  have hletter := isClass_letter
  have hlater (rest : List Char) : rest ∈ (letter + digit + {[kind.joiner]})∗ ↔
      ∀ c ∈ rest, c.isAlphanum = true ∨ c = kind.joiner := (isClass_later kind.joiner).mem_kstar_iff
  rw [language, Language.mem_mul]
  constructor
  · intro h
    cases cs with
    | nil => exact h.elim
    | cons first rest =>
      exact ⟨[first], (hletter _).mpr ⟨first, rfl, h.1⟩, rest, (hlater rest).mpr h.2, rfl⟩
  · rintro ⟨word, hword, rest, hrest, rfl⟩
    obtain ⟨first, rfl, hfirst⟩ := (hletter word).mp hword
    exact ⟨hfirst, (hlater rest).mp hrest⟩

end NameKind

/-- A text is accepted as a name of a kind exactly if it is in the language of the kind. -/
theorem Name.exists_ofText_iff {kind : NameKind} {text : String} :
    (∃ name, Name.ofText kind text = .ok name) ↔ text.toList ∈ NameKind.language kind.joiner := by
  rw [← NameKind.matches_iff_mem_language, ← NameKind.fault?_eq_none_iff]
  simp only [Name.ofText_eq_ok_iff]
  constructor
  · rintro ⟨name, rfl⟩
    exact name.valid
  · intro hvalid
    exact ⟨⟨text, hvalid⟩, rfl⟩

/-! ## Bus names -/

namespace Config

/-- Distinct managers have distinct bus names. -/
theorem busName_injective (c : Config) : Function.Injective c.busName := by
  intro a b hab
  have ha : c.serviceName? (c.busName b) = some a := serviceName?_eq_some_iff.mpr hab.symm
  have hb : c.serviceName? (c.busName b) = some b := serviceName?_eq_some_iff.mpr rfl
  exact Option.some.inj (ha.symm.trans hb)

/-- **Names and bus names correspond one to one.** The texts that are accepted as names of managers are
those of the form `[A-Za-z][A-Za-z0-9_]*`, and as names of protocols those of the form
`[A-Za-z][A-Za-z0-9-]*`, over all characters; a name that is accepted is the text itself. Whatever bus
names begin with, a manager is read off a text exactly if the text is the bus name of the manager. So
distinct managers never share a bus name, and every bus name belongs to at most one manager. -/
theorem names_busNames_one_to_one :
    (∀ text : String, (∃ name, Name.ofText .service text = .ok name) ↔
      text.toList ∈ NameKind.language '_') ∧
    (∀ text : String, (∃ name, Name.ofText .protocol text = .ok name) ↔
      text.toList ∈ NameKind.language '-') ∧
    (∀ kind text (name : Name kind), Name.ofText kind text = .ok name ↔ name.text = text) ∧
    ∀ c : Config,
      (∀ name busName, c.serviceName? busName = some name ↔ busName = c.busName name) ∧
        Function.Injective c.busName ∧ ∀ busName, {name | busName = c.busName name}.Subsingleton := by
  refine ⟨fun _ => Name.exists_ofText_iff, fun _ => Name.exists_ofText_iff,
    fun _ _ _ => Name.ofText_eq_ok_iff, fun c => ⟨?_, c.busName_injective, ?_⟩⟩
  · intro name busName
    exact serviceName?_eq_some_iff
  · intro busName a ha b hb
    exact c.busName_injective (ha.symm.trans hb)

/-- What bus names begin with is cut off once, also if it could be a name. -/
example :
    let c : Config := { busNameStart := "haze" }
    (c.serviceName? "hazehaze").map Name.text = some "haze" ∧ c.serviceName? "haze" = none := by
  decide

end Config

end Roster
