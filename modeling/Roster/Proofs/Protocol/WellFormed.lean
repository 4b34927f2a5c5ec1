import Roster.Proofs.CacheFile.Decoding
import Roster.Proofs.Name.Grammar
import Roster.Proofs.Param.Fitting
import Roster.Proofs.Reply.Entries
import Roster.Proofs.Text.Parts

/-!
# Descriptions are well formed

`Description.IsWellFormed` collects what the users of a description rely on: protocols stand under their own
names, texts that are there say something, and the flags and the default of a parameter belong together.
There are two sources of descriptions with nothing in common, the text of a cache file and the reply of a
manager, and what either gives is well formed (`decoded_isWellFormed`).

Both make their parameters with `ParamSpec.of`, which settles the flags. So a parameter is well formed if its
default fits its signature (`ParamSpec.isWellFormed_of`), and that is what the two readers of defaults see
to.
-/

namespace Roster

/-! ## What is well formed -/

/-- The flags and the default of a parameter belong together. -/
structure ParamSpec.IsWellFormed (s : ParamSpec) : Prop where
  /-- The flag for a default says whether there is one. -/
  hasDefault : s.flags.hasDefault = true ↔ ∃ v, s.default = some v
  /-- No bit is set beyond those of the five flags. -/
  bits : ∀ i, s.flags.bits.testBit i = true → i < 5
  /-- A password is secret. -/
  secret : (s.name = "password" ∨ ∃ start, s.name = start ++ "-password") → s.flags.secret = true
  /-- A default is of the kind that the signature prescribes, and in its range. -/
  default : ∀ v, s.default = some v → ParamValue.Fits s.signature v

/-- The texts of a protocol that are there say something, and its parameters are well formed. -/
structure Protocol.IsWellFormed (p : Protocol) : Prop where
  /-- The field of a contact card has a name. -/
  vcardField : p.vcardField ≠ some ""
  /-- The declared name for people is a name. -/
  englishName : p.declaredEnglishName ≠ some ""
  /-- The declared icon has a name. -/
  icon : p.declaredIcon ≠ some ""
  /-- So are its parameters. -/
  params : ∀ s ∈ p.params, s.IsWellFormed

/-- Each protocol stands under its own name, which is a valid one, and is well formed. -/
structure Description.IsWellFormed (d : Description) : Prop where
  /-- The keys match the grammar of names. -/
  keys : ∀ key p, (key, p) ∈ d.protocols.toList → NameKind.protocol.Matches key.text.toList
  /-- A protocol has the name under which it stands. -/
  names : ∀ key p, (key, p) ∈ d.protocols.toList → p.name = key
  /-- So are the protocols. -/
  protocols : ∀ key p, (key, p) ∈ d.protocols.toList → p.IsWellFormed

/-! ## Parameters and protocols -/

namespace ParamFlags

theorem bits_lt (f : ParamFlags) : f.bits < 32 := by
  have h₁ := Bool.toNat_le f.required
  have h₂ := Bool.toNat_le f.register
  have h₃ := Bool.toNat_le f.hasDefault
  have h₄ := Bool.toNat_le f.secret
  have h₅ := Bool.toNat_le f.busProperty
  unfold bits
  omega

/-- The number of flags has no bits but theirs. -/
theorem lt_of_testBit_bits {f : ParamFlags} {i : Nat} (h : f.bits.testBit i = true) : i < 5 := by
  by_contra hi
  have hpow : 2 ^ 5 ≤ 2 ^ i := Nat.pow_le_pow_right (by decide) (by omega)
  have hbits := f.bits_lt
  rw [Nat.testBit_lt_two_pow (by omega)] at h
  cases h

end ParamFlags

theorem ParamSpec.isPasswordName_iff {name : String} :
    isPasswordName name = true ↔ name = "password" ∨ ∃ start, name = start ++ "-password" := by
  unfold isPasswordName
  rw [Bool.or_eq_true, decide_eq_true_eq, Text.endsWith_iff]

/-- **A parameter is well formed** if its default fits its signature. -/
theorem ParamSpec.isWellFormed_of {name signature : String} {flags : ParamFlags}
    {default : Option ParamValue} (h : ∀ v, default = some v → ParamValue.Fits signature v) :
    (of name signature flags default).IsWellFormed where
  hasDefault := by
    rw [hasDefault_of]
    exact Option.isSome_iff_exists
  bits := fun _ => ParamFlags.lt_of_testBit_bits
  secret := fun hname => secret_of (isPasswordName_iff.mpr hname) signature flags default
  default := h

/-- A text that says nothing is not given. -/
theorem Protocol.given_ne_some_empty (text : Option String) : given text ≠ some "" := by
  intro h
  have hne := (Option.filter_eq_some_iff.mp h).2
  simp at hne

/-- Protocols that stand under their own names and are well formed make up a well-formed description. -/
theorem Description.isWellFormed_of_protocols {d : Description}
    (h : ∀ key p, (key, p) ∈ d.protocols.toList → p.name = key ∧ p.IsWellFormed) : d.IsWellFormed where
  keys := fun key _ _ => key.matches_text
  names := fun key p hmem => (h key p hmem).1
  protocols := fun key p hmem => (h key p hmem).2

/-! ## Cache files -/

namespace CacheFile

theorem isWellFormed_ofLine? {group : KeyGroup} {name value : String} {s : ParamSpec}
    (h : ParamSpec.ofLine? group name value = some s) : s.IsWellFormed := by
  unfold ParamSpec.ofLine? at h
  split at h
  · cases h
  · split at h
    · cases h
    · cases h
      apply ParamSpec.isWellFormed_of
      intro v hv
      obtain ⟨raw, _, hraw⟩ := Option.bind_eq_some_iff.mp hv
      exact ParamValue.fits_ofKeyFile? hraw

theorem isWellFormed_ofGroup (name : ProtocolName) (group : KeyGroup) :
    (Protocol.ofGroup name group).IsWellFormed where
  vcardField := Protocol.given_ne_some_empty _
  englishName := Protocol.given_ne_some_empty _
  icon := Protocol.given_ne_some_empty _
  params := by
    intro s hs
    obtain ⟨line, _, hline⟩ := List.mem_filterMap.mp hs
    obtain ⟨param, _, hparam⟩ := Option.bind_eq_some_iff.mp hline
    exact isWellFormed_ofLine? hparam

theorem isWellFormed_ofKeyFile (file : KeyFile) : (Description.ofKeyFile file).IsWellFormed := by
  apply Description.isWellFormed_of_protocols
  intro key p hmem
  have hfound := OrderedMap.get?_eq_some_iff.mpr hmem
  rw [get?_protocols] at hfound
  obtain ⟨group, _, rfl⟩ := Option.map_eq_some_iff.mp hfound
  exact ⟨rfl, isWellFormed_ofGroup key group⟩

end CacheFile

/-! ## Replies -/

namespace Reply

section readers

variable {α β : Type}

/-- Readers one after the other give what the second makes of what the first gives. -/
theorem bind_eq_ok_iff {r : Except ReplyFault α} {f : α → Except ReplyFault β} {b : β} :
    r >>= f = .ok b ↔ ∃ a, r = .ok a ∧ f a = .ok b := by
  cases r with
  | error e => exact ⟨fun h => (by cases h), fun ⟨a, ha, _⟩ => (by cases ha)⟩
  | ok a => exact ⟨fun h => ⟨a, rfl, h⟩, fun ⟨_, ha, h⟩ => (by cases ha; exact h)⟩

/-- What is read of a list is read of its items. -/
theorem exists_of_mem_mapM {read : Json → Except ReplyFault α} {items : List Json} {results : List α}
    (h : items.mapM read = .ok results) {a : α} (ha : a ∈ results) : ∃ i ∈ items, read i = .ok a := by
  induction items generalizing results with
  | nil =>
    cases h
    cases ha
  | cons i rest ih =>
    rw [List.mapM_cons] at h
    obtain ⟨b, hb, h⟩ := bind_eq_ok_iff.mp h
    obtain ⟨bs, hbs, h⟩ := bind_eq_ok_iff.mp h
    cases h
    rcases List.mem_cons.mp ha with rfl | ha
    · exact ⟨i, List.mem_cons_self, hb⟩
    · obtain ⟨j, hj, hread⟩ := ih hbs ha
      exact ⟨j, List.mem_cons_of_mem i hj, hread⟩

end readers

theorem isWellFormed_param {v : Json} {s : ParamSpec} (h : param v = .ok s) : s.IsWellFormed := by
  unfold param at h
  split at h
  · simp only [bind_eq_ok_iff] at h
    obtain ⟨name, _, bits, _, signature, _, h⟩ := h
    cases h
    apply ParamSpec.isWellFormed_of
    intro v hv
    split at hv
    · exact ParamValue.fits_ofJson? hv
    · cases hv
  · cases h

theorem isWellFormed_params {o : Option Json} {specs : List ParamSpec}
    (h : orDefault params [] o = .ok specs) : ∀ s ∈ specs, s.IsWellFormed := by
  intro s hs
  cases o with
  | none =>
    cases h
    cases hs
  | some v =>
    cases v with
    | arr items =>
      obtain ⟨i, _, hi⟩ := exists_of_mem_mapM h hs
      exact isWellFormed_param hi
    | _ => cases h

theorem isWellFormed_protocol {name : ProtocolName} {v : Json} {p : Protocol}
    (h : protocol name v = .ok p) : p.name = name ∧ p.IsWellFormed := by
  unfold protocol at h
  simp only [bind_eq_ok_iff] at h
  obtain ⟨get, _, specs, hspecs, _, _, _, _, _, _, _, _, _, _, _, _, _, _, h⟩ := h
  cases h
  exact ⟨rfl, Protocol.given_ne_some_empty _, Protocol.given_ne_some_empty _,
    Protocol.given_ne_some_empty _, isWellFormed_params hspecs⟩

theorem isWellFormed_description {reply : Json} {d : Description} (h : description reply = .ok d) :
    d.IsWellFormed := by
  unfold description at h
  simp only [bind_eq_ok_iff] at h
  obtain ⟨get, _, interfaces, _, entries, _, _, _, h⟩ := h
  cases h
  apply Description.isWellFormed_of_protocols
  intro key p hmem
  obtain ⟨⟨name, v⟩, _, hentry⟩ :=
    List.mem_filterMap.mp (OrderedMap.mem_of_get?_ofList (OrderedMap.get?_eq_some_iff.mpr hmem))
  exact isWellFormed_protocol (protocolEntry?_eq_some_iff.mp hentry).2

end Reply

/-! ## Both -/

/-- **What is read is well formed**, be it from the text of a cache file or from the reply of a manager. -/
theorem decoded_isWellFormed :
    (∀ text d, CacheFile.parse text = .ok d → d.IsWellFormed) ∧
      ∀ reply d, Reply.description reply = .ok d → d.IsWellFormed := by
  constructor
  · intro text d h
    unfold CacheFile.parse at h
    split at h
    · cases h
      exact CacheFile.isWellFormed_ofKeyFile _
    · cases h
  · intro reply d h
    exact Reply.isWellFormed_description h

/-- Defaults at the ends of their ranges, and one beyond it that is declared with every bit of a word set. -/
theorem decoded_isWellFormed_limits :
    let text := "[Protocol irc]\nIcon= \nparam-port=q\ndefault-port=65535\nparam-nick-password=s\n"
    let reply : Json := .obj [("Protocols", .obj [("irc", .obj [(Reply.full "Parameters",
      .arr [.arr [.str "port", .int 4294967295, .str "q", .int 65536],
        .arr [.str "lag", .int 4, .str "n", .int (-32768)]])])])]
    let defaults (d : Description) := d.protocols.values.map fun p => p.params.map ParamSpec.default
    (∃ d, CacheFile.parse text = .ok d ∧ defaults d = [[some (.uint 65535), none]] ∧ d.IsWellFormed) ∧
      ∃ d, Reply.description reply = .ok d ∧ defaults d = [[none, some (.int (-32768))]] ∧
        d.IsWellFormed := by
  intro text reply defaults
  have htext : (CacheFile.parse text).toOption.map defaults = some [[some (.uint 65535), none]] := by
    decide +kernel
  have hreply : (Reply.description reply).toOption.map defaults = some [[none, some (.int (-32768))]] := by
    decide +kernel
  constructor
  · cases hd : CacheFile.parse text with
    | error fault =>
      rw [hd] at htext
      cases htext
    | ok d =>
      rw [hd] at htext
      exact ⟨d, rfl, Option.some.inj htext, decoded_isWellFormed.1 text d hd⟩
  · cases hd : Reply.description reply with
    | error fault =>
      rw [hd] at hreply
      cases hreply
    | ok d =>
      rw [hd] at hreply
      exact ⟨d, rfl, Option.some.inj hreply, decoded_isWellFormed.2 reply d hd⟩

end Roster
