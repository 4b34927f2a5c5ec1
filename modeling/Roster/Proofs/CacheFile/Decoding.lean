import Mathlib.Data.List.Induction
import Roster.CacheFile.Basic
import Roster.Proofs.KeyFile.Written
import Roster.Proofs.OrderedMap.Laws

/-!
# What a cache file says

`Says file d` spells out which description a key file gives, without a word on how it is found: which
lines count where a group or a key comes back, which lines declare a parameter, and what a parameter
takes from the words of its line and from the line of its default. Every key file says what
`Description.ofKeyFile` makes of it (`says_ofKeyFile`), so reading the text of a cache file gives what
the file says (`parse_text`).

Groups, keys and parameters treat what comes back differently, and so there are three rules.

* **Groups**: of the groups of a protocol the last one counts, of the manager's own the first one.
* **Keys**: of the lines of a key the first one counts.
* **Parameters**: each line that declares one counts (`IsParamLine`, `Declares`), and a line that
  declares none is passed over.
-/

namespace Roster

/-! ## Flags -/

namespace ParamFlags

/-- The flags that are among the words. -/
def among (words : List String) : ParamFlags where
  required := "required" ∈ words
  register := "register" ∈ words
  secret := "secret" ∈ words
  busProperty := "dbus-property" ∈ words

/-- A word adds its own flag, and a word that stands for no flag adds none. -/
theorem among_append_singleton (words : List String) (word : String) :
    among (words ++ [word]) = (among words).union ((ofWord? word).getD none) := by
  unfold ofWord?
  split
  · simp [among, union, none]
  · simp [among, union, none]
  · simp [among, union, none]
  · simp [among, union, none]
  · rename_i h₁ h₂ h₃ h₄
    simp [among, union, none, Ne.symm h₁, Ne.symm h₂, Ne.symm h₃, Ne.symm h₄]

/-- A flag is set if its word is there, however often and in whatever order. -/
theorem unionAll_filterMap_ofWord? (words : List String) :
    unionAll (words.filterMap ofWord?) = among words := by
  induction words using List.reverseRecOn with
  | nil => rfl
  | append_singleton words word ih =>
    rw [among_append_singleton, ← ih, List.filterMap_append]
    cases hword : ofWord? word with
    | none => simp [hword, union, none]
    | some f => simp [hword, unionAll]

end ParamFlags

namespace CacheFile

/-! ## Lines and parameters -/

/-- The line declares a parameter: its key is `param-` with a name, and its value is not blank. -/
def IsParamLine (line : String × String) : Prop :=
  (∃ name, name ≠ "" ∧ line.1 = "param-" ++ name) ∧
    ∃ c ∈ line.2.toList, Text.isBlank c = false

/-- The parameter is the one that the line declares in the group. -/
structure Declares (group : KeyGroup) (line : String × String) (spec : ParamSpec) : Prop where
  /-- The key gives the name. -/
  name : line.1 = "param-" ++ spec.name
  /-- The first word is the signature. The flags are those among the words after it; only the one for
  a default depends on whether there is one, and a password is always secret. -/
  value : ∃ words, Text.words line.2 = spec.signature :: words ∧
    spec.flags = { ParamFlags.among words with
      secret := (ParamFlags.among words).secret || ParamSpec.isPasswordName spec.name
      hasDefault := spec.default.isSome }
  /-- The default is what the first line for it gives, wherever it stands, if that is a value of the
  signature. -/
  default : spec.default =
    (group.lines.lookup ("default-" ++ spec.name)).bind (ParamValue.ofKeyFile? spec.signature)

/-- The parameter that a line of a group declares, as it is found. -/
def spec? (group : KeyGroup) (line : String × String) : Option ParamSpec :=
  (Text.stripStart? "param-" line.1).bind fun name => ParamSpec.ofLine? group name line.2

/-- What is found in a line is what the line declares. -/
theorem spec?_eq_some_iff {group : KeyGroup} {line : String × String} {spec : ParamSpec} :
    spec? group line = some spec ↔ spec.name ≠ "" ∧ Declares group line spec := by
  unfold spec?
  rw [Option.bind_eq_some_iff]
  constructor
  · rintro ⟨name, hname, h⟩
    rw [Text.stripStart?_eq_some_iff] at hname
    unfold ParamSpec.ofLine? at h
    split at h
    · cases h
    · rename_i hne
      split at h
      · cases h
      · rename_i signature words hwords
        cases h
        refine ⟨hne, hname, ⟨words, hwords, ?_⟩, rfl⟩
        rw [← ParamFlags.unionAll_filterMap_ofWord?]
        rfl
  · rintro ⟨hne, h⟩
    obtain ⟨words, hwords, hflags⟩ := h.value
    refine ⟨spec.name, Text.stripStart?_eq_some_iff.mpr h.name, ?_⟩
    obtain ⟨name, signature, flags, default⟩ := spec
    have hdefault := h.default
    dsimp only at hne hwords hflags hdefault
    subst hflags hdefault
    rw [ParamSpec.ofLine?, if_neg hne, hwords, ← ParamFlags.unionAll_filterMap_ofWord?]
    rfl

/-- A name and a value give a parameter unless the name is empty or the value is blank. -/
theorem isSome_ofLine?_iff {group : KeyGroup} {name value : String} :
    (ParamSpec.ofLine? group name value).isSome = true ↔
      name ≠ "" ∧ ∃ c ∈ value.toList, Text.isBlank c = false := by
  have hblank : (∃ c ∈ value.toList, Text.isBlank c = false) ↔ Text.words value ≠ [] := by
    rw [ne_eq, Text.words_eq_nil_iff]
    simp
  rw [hblank, ParamSpec.ofLine?]
  split
  · simp_all
  · split <;> simp_all

/-- A parameter is found in a line exactly if the line declares one. -/
theorem isSome_spec?_iff (group : KeyGroup) {line : String × String} :
    (spec? group line).isSome = true ↔ IsParamLine line := by
  unfold spec? IsParamLine
  rw [Option.isSome_bind]
  cases hname : Text.stripStart? "param-" line.1 with
  | none =>
    have hno : ∀ name, line.1 ≠ "param-" ++ name := fun name h => by
      rw [Text.stripStart?_eq_some_iff.mpr h] at hname
      cases hname
    simp [hno]
  | some name =>
    rw [Text.stripStart?_eq_some_iff] at hname
    simp [isSome_ofLine?_iff, hname]

instance (line : String × String) : Decidable (IsParamLine line) :=
  decidable_of_iff _ (isSome_spec?_iff ⟨none, []⟩)

/-- **The parameters of a group** are those that its lines declare, line by line. -/
theorem forall₂_declares (name : ProtocolName) (group : KeyGroup) :
    List.Forall₂ (Declares group) (group.lines.filter fun line => IsParamLine line)
      (Protocol.ofGroup name group).params := by
  show List.Forall₂ _ _ (group.lines.filterMap (spec? group))
  generalize group.lines = lines
  induction lines with
  | nil => exact .nil
  | cons line lines ih =>
    cases hspec : spec? group line with
    | none =>
      have hno : ¬ IsParamLine line := fun h => by
        rw [← isSome_spec?_iff group, hspec] at h
        cases h
      simpa [hspec, hno] using ih
    | some spec =>
      have hdeclares : IsParamLine line := (isSome_spec?_iff group).mp (by rw [hspec]; rfl)
      simpa [hspec, hdeclares] using ⟨(spec?_eq_some_iff.mp hspec).2, ih⟩

/-! ## Groups and protocols -/

/-- The description is the one that the file gives. -/
structure Says (file : KeyFile) (d : Description) : Prop where
  /-- The manager's own interfaces are listed in the first such line of the manager's first group. -/
  interfaces : d.interfaces =
    (((file.find? fun group => group.name = some "ConnectionManager").bind fun group =>
      group.lines.lookup "Interfaces").map ParamValue.splitList).getD []
  /-- There is a protocol for each valid name that a group has. -/
  names : ∀ name : ProtocolName, d.protocols.contains name = true ↔
    ∃ group ∈ file, group.name = some ("Protocol " ++ name.text)
  /-- A protocol is what the last group of its name makes of it, and its parameters are those that the
  lines of that group declare, line by line. -/
  protocols : ∀ name p, d.protocols.get? name = some p →
    ∃ group, (file.filter fun group => group.name = some ("Protocol " ++ name.text)).getLast? =
        some group ∧
      p = Protocol.ofGroup name group ∧
      List.Forall₂ (Declares group) (group.lines.filter fun line => IsParamLine line) p.params

/-- A group describes a protocol if it has the protocol's name. -/
theorem nameOfGroup?_eq_some_iff {group : KeyGroup} {name : ProtocolName} :
    Protocol.nameOfGroup? group = some name ↔ group.name = some ("Protocol " ++ name.text) := by
  unfold Protocol.nameOfGroup?
  simp only [Option.bind_eq_some_iff, Text.stripStart?_eq_some_iff, Name.ofText?_eq_some_iff]
  constructor
  · rintro ⟨_, ⟨text, htext, rfl⟩, rfl⟩
    exact htext
  · intro h
    exact ⟨name.text, ⟨_, h, rfl⟩, rfl⟩

/-- The groups of a name are those that describe the protocol of the name. -/
theorem filter_described (file : KeyFile) (name : ProtocolName) :
    (file.filterMap fun group =>
        (Protocol.nameOfGroup? group).map fun name => (name, Protocol.ofGroup name group)).filter
          (fun e => e.1 = name) =
      (file.filter fun group => group.name = some ("Protocol " ++ name.text)).map
        fun group => (name, Protocol.ofGroup name group) := by
  induction file with
  | nil => rfl
  | cons group file ih =>
    by_cases hname : group.name = some ("Protocol " ++ name.text)
    · have hsome := nameOfGroup?_eq_some_iff.mpr hname
      simp [hsome, hname, ih]
    · have hother (other : ProtocolName) (h : Protocol.nameOfGroup? group = some other) :
          other ≠ name := fun heq => hname (nameOfGroup?_eq_some_iff.mp (heq ▸ h))
      cases hgroup : Protocol.nameOfGroup? group with
      | none => simp [hgroup, hname, ih]
      | some other => simp [hgroup, hname, ih, hother other hgroup]

/-- What stands under a name is what the last group of the name makes of it. -/
theorem get?_protocols (file : KeyFile) (name : ProtocolName) :
    (Description.ofKeyFile file).protocols.get? name =
      (file.filter fun group => group.name = some ("Protocol " ++ name.text)).getLast?.map
        (Protocol.ofGroup name) := by
  rw [Description.ofKeyFile, OrderedMap.get?_ofList, filter_described, List.getLast?_map,
    Option.map_map]
  rfl

/-- Every key file gives the description that is made of it. -/
theorem says_ofKeyFile (file : KeyFile) : Says file (Description.ofKeyFile file) where
  interfaces := rfl
  names name := by
    rw [OrderedMap.contains, get?_protocols, Option.isSome_map, List.getLast?_isSome]
    simp [List.filter_eq_nil_iff]
  protocols name p hp := by
    rw [get?_protocols] at hp
    obtain ⟨group, hgroup, rfl⟩ := Option.map_eq_some_iff.mp hp
    exact ⟨group, hgroup, rfl, forall₂_declares name group⟩

/-- **The text of a cache file is read as it is written.** -/
theorem parse_text {file : KeyFile} (hplain : ∀ g ∈ file, g.IsPlain) (hclosed : ∀ g ∈ file, g.IsClosed)
    {ending : String} (hending : ending = "" ∨ ending = "\n") :
    ∃ d, parse (KeyFile.text file ++ ending) = .ok d ∧ Says file d :=
  ⟨Description.ofKeyFile file, by rw [parse, KeyFile.read_text hplain hclosed hending],
    says_ofKeyFile file⟩

/-- A protocol that is described twice, and the second time with a parameter that is declared twice
behind its default. -/
theorem parse_text_repeated :
    let file : KeyFile := [
      ⟨some "Protocol irc", [("param-nick", "s")]⟩,
      ⟨some "Protocol irc",
        [("default-port", "6667"), ("param-port", "q required"), ("param-", "s"), ("param-port", "b")]⟩]
    (∀ g ∈ file, g.IsPlain) ∧ (∀ g ∈ file, g.IsClosed) ∧
      ∃ d, parse (KeyFile.text file ++ "\n") = .ok d ∧ Says file d := by
  intro file
  have hplain : ∀ g ∈ file, g.IsPlain := by decide
  have hclosed : ∀ g ∈ file, g.IsClosed := by decide
  exact ⟨hplain, hclosed, parse_text hplain hclosed (.inr rfl)⟩

/-- A value that ends in a backslash takes in the row below it, here the heading of a protocol: the
list in the value has another entry than the one written, and the protocol is not there. -/
theorem not_says_of_open_value :
    let file : KeyFile := [
      ⟨some "ConnectionManager", [("Interfaces", "a\\")]⟩,
      ⟨some "Protocol jabber", [("param-x", "s")]⟩]
    (∀ g ∈ file, g.IsPlain) ∧
      parse (KeyFile.text file ++ "\n") = .ok ⟨["a[Protocol jabber]"], ∅⟩ ∧
      ¬ ∃ d, parse (KeyFile.text file ++ "\n") = .ok d ∧ Says file d := by
  intro file
  have hread : parse (KeyFile.text file ++ "\n") = .ok ⟨["a[Protocol jabber]"], ∅⟩ := by
    decide +kernel
  refine ⟨by decide, hread, ?_⟩
  rintro ⟨d, hd, hsays⟩
  rw [hread] at hd
  cases hd
  have hinterfaces := hsays.interfaces
  revert hinterfaces
  decide

end CacheFile

end Roster
