import Roster.Proofs.Cli.Agreement
import Roster.Proofs.Json.Notation

/-!
# Who is shown the default of a secret parameter

Two descriptions are the same but for secrets (`Description.SameButSecrets`) if they differ in nothing but
the values of the defaults of secret parameters. A reader of the program's reports who cannot tell two such
descriptions apart learns nothing of the secrets.

**Theorem** (`World.secret_defaults_told_iff`): when a cache file is inspected, and when the manager that it
describes is prepared, people are told nothing of the secrets: two descriptions that are the same but for
them give the same output. Programs are told all of them: they are given the same output exactly if every
default is the same for them in the one description and in the other (`ProtocolSet.ToldAlike`).

`World.storing_told` shows two files with different passwords that programs tell apart.

* **People** are shown names, signatures, flags and the text of the defaults, which is one word for every
  secret one (`ParamSpec.SameButSecret.cells_eq`). Whether accounts can be registered, which a report says
  as well, does not depend on defaults (`Protocol.SameButSecrets.canRegister_eq`).
* **Programs** are given records with the defaults behind the rest. Such records are written in the same way
  exactly if the last values are (`Json.alike_obj_concat_iff`), so an output tells every default on its way
  from the parameters (`ParamSpec.SameButSecret.alike_json_iff`) to the whole.
-/

namespace Roster

open Json (Alike alike_arr_map_iff alike_obj_concat_iff map_eq_of_forall₂ pretty_eq_iff)

/-- Where a relation holds along two lists, two further ones do together if they do so wherever the first
holds. -/
theorem forall₂_iff_forall₂ {α β : Type} {r p q : α → β → Prop} (hpq : ∀ a b, r a b → (p a b ↔ q a b))
    {as : List α} {bs : List β} (h : List.Forall₂ r as bs) :
    List.Forall₂ p as bs ↔ List.Forall₂ q as bs := by
  induction h with
  | nil => simp
  | cons hab _ ih => rw [List.forall₂_cons, List.forall₂_cons, hpq _ _ hab, ih]

/-! ## Parameters -/

namespace ParamSpec

/-- The two parameters are the same, but the value of the default may differ if they are secret. -/
inductive SameButSecret (s : ParamSpec) : ParamSpec → Prop
  /-- Nothing differs. -/
  | same : SameButSecret s s
  /-- The parameter is secret and has a default; the other one may have any other default. -/
  | secret {value : ParamValue} (hsecret : s.flags.secret = true) (hdefault : s.default = some value)
      (other : ParamValue) : SameButSecret s { s with default := some other }

/-- What programs are given of the default. -/
def defaultJson (s : ParamSpec) : Json := (s.default.map ParamValue.toJson).getD .null

variable {s t : ParamSpec}

theorem SameButSecret.name_eq (h : SameButSecret s t) : t.name = s.name := by
  cases h <;> rfl

theorem SameButSecret.signature_eq (h : SameButSecret s t) : t.signature = s.signature := by
  cases h <;> rfl

theorem SameButSecret.flags_eq (h : SameButSecret s t) : t.flags = s.flags := by
  cases h <;> rfl

/-- **People are shown no secret default**, only that there is one. -/
theorem SameButSecret.defaultText_eq (h : SameButSecret s t) : t.defaultText = s.defaultText := by
  cases h with
  | same => rfl
  | secret hsecret hdefault other => simp [defaultText, hsecret, hdefault]

theorem SameButSecret.cells_eq (h : SameButSecret s t) : t.cells = s.cells := by
  simp only [cells, h.name_eq, h.signature_eq, h.flags_eq, h.defaultText_eq]

/-- **Programs are given secret defaults** like any other. -/
theorem SameButSecret.alike_json_iff (h : SameButSecret s t) :
    Alike s.json t.json ↔ Alike s.defaultJson t.defaultJson := by
  unfold json
  rw [h.name_eq, h.signature_eq, h.flags_eq]
  exact alike_obj_concat_iff [_, _, _]

end ParamSpec

/-! ## Protocols -/

namespace Protocol

/-- The two protocols are the same but for the values of secret defaults. -/
structure SameButSecrets (p q : Protocol) : Prop where
  /-- Nothing but parameters differs. -/
  rest : q = { p with params := q.params }
  /-- The parameters are the same but for the values of secret defaults. -/
  params : List.Forall₂ ParamSpec.SameButSecret p.params q.params

/-- Programs are given the same defaults of the one protocol and of the other. -/
def ToldAlike (p q : Protocol) : Prop :=
  List.Forall₂ (fun s t => s.defaultJson.pretty = t.defaultJson.pretty) p.params q.params

variable {p q : Protocol}

/-- What is under a name is the same but for a secret default. -/
theorem SameButSecrets.signature_param? (h : p.SameButSecrets q) (name : String) :
    (q.param? name).map ParamSpec.signature = (p.param? name).map ParamSpec.signature := by
  obtain ⟨-, hparams⟩ := h
  unfold param?
  generalize p.params = ss, q.params = ts at hparams ⊢
  induction hparams with
  | nil => rfl
  | cons hst _ ih =>
    rw [List.find?_cons, List.find?_cons, hst.name_eq]
    split
    · exact congrArg some hst.signature_eq
    · exact ih

/-- Whether accounts can be registered does not depend on defaults. -/
theorem SameButSecrets.canRegister_eq (h : p.SameButSecrets q) : q.canRegister = p.canRegister := by
  have hregister (r : Protocol) : r.canRegister =
      ((r.param? "register").map ParamSpec.signature).any (· = "b") := by
    unfold canRegister
    cases r.param? "register" <;> rfl
  rw [hregister, hregister, h.signature_param?]

theorem SameButSecrets.paramsText_eq (h : p.SameButSecrets q) (colours : Bool) :
    q.paramsText colours = p.paramsText colours := by
  have hcells : q.params.map ParamSpec.cells = p.params.map ParamSpec.cells :=
    (map_eq_of_forall₂ (fun _ _ hst => hst.cells_eq.symm) h.params).symm
  have hempty : q.params = [] ↔ p.params = [] := by
    rw [← List.map_eq_nil_iff, hcells, List.map_eq_nil_iff]
  simp only [paramsText, hempty, hcells]

/-- **People are told the same** of two protocols that are the same but for secrets. -/
theorem SameButSecrets.text_eq (h : p.SameButSecrets q) (colours : Bool) :
    q.text colours = p.text colours := by
  have hparams := h.paramsText_eq colours
  have hregister := h.canRegister_eq
  unfold text heading
  rw [hparams, hregister, h.rest]
  rfl

/-- **Programs are told the same** of them exactly if they are given the same defaults. -/
theorem SameButSecrets.alike_json_iff (h : p.SameButSecrets q) :
    Alike p.json q.json ↔ p.ToldAlike q := by
  have hparams : Alike (.arr (p.params.map ParamSpec.json)) (.arr (q.params.map ParamSpec.json)) ↔
      p.ToldAlike q := by
    rw [alike_arr_map_iff]
    exact forall₂_iff_forall₂ (fun _ _ hst => hst.alike_json_iff.trans pretty_eq_iff.symm) h.params
  have hregister := h.canRegister_eq
  rw [← hparams]
  unfold json
  -- The parameters come last; all that comes before is the same for both protocols.
  rw [hregister, h.rest]
  exact alike_obj_concat_iff [_, _, _, _, _, _, _, _]

end Protocol

/-! ## Descriptions -/

namespace ProtocolSet

/-- The two sets have the same protocols but for the values of secret defaults. -/
def SameButSecrets (ps qs : ProtocolSet) : Prop :=
  List.Forall₂ (fun a b => a.1 = b.1 ∧ a.2.SameButSecrets b.2) ps.entries qs.entries

/-- Programs are given the same defaults of the one set and of the other. -/
def ToldAlike (ps qs : ProtocolSet) : Prop := List.Forall₂ Protocol.ToldAlike ps.values qs.values

variable {ps qs : ProtocolSet}

theorem SameButSecrets.values (h : SameButSecrets ps qs) :
    List.Forall₂ Protocol.SameButSecrets ps.values qs.values := by
  unfold OrderedMap.values
  rw [List.forall₂_map_left_iff, List.forall₂_map_right_iff]
  exact List.Forall₂.imp (fun _ _ hab => hab.2) h

theorem SameButSecrets.countText_eq (h : SameButSecrets ps qs) : countText qs = countText ps := by
  unfold countText OrderedMap.size
  rw [List.Forall₂.length_eq h]

theorem SameButSecrets.text_eq (h : SameButSecrets ps qs) (colours : Bool) :
    text colours qs = text colours ps := by
  have hparagraph (p q : Protocol) (hpq : p.SameButSecrets q) :
      "\n" ++ p.text colours = "\n" ++ q.text colours := by
    rw [hpq.text_eq]
  exact congrArg String.join (map_eq_of_forall₂ hparagraph h.values).symm

theorem SameButSecrets.alike_json_iff (h : SameButSecrets ps qs) :
    Alike (json ps) (json qs) ↔ ToldAlike ps qs := by
  unfold json
  rw [alike_arr_map_iff]
  exact forall₂_iff_forall₂ (fun _ _ hpq => hpq.alike_json_iff) h.values

end ProtocolSet

/-- The two descriptions are the same but for the values of secret defaults. -/
structure Description.SameButSecrets (d e : Description) : Prop where
  /-- The interfaces are the same. -/
  interfaces : e.interfaces = d.interfaces
  /-- The protocols are the same but for the values of secret defaults. -/
  protocols : ProtocolSet.SameButSecrets d.protocols e.protocols

/-! ## Reports -/

namespace Cli

theorem printed_eq_iff {a b : Json} : printed a = printed b ↔ Alike a b := by
  rw [← pretty_eq_iff]
  exact ⟨String.append_left_inj _ |>.mp, congrArg (· ++ "\n")⟩

/-- Two outputs that are the same for people are the same, unless they are for programs and differ
there. -/
theorem output_eq_iff {same : Prop} {text text' : String} {json json' : Json} (htext : text' = text)
    (hjson : Alike json json' ↔ same) (asJson : Bool) :
    (if asJson then printed json else text) = (if asJson then printed json' else text') ↔
      asJson = false ∨ same := by
  cases asJson with
  | false => simp [htext]
  | true => simp [printed_eq_iff, hjson]

variable {d e : Description} (h : d.SameButSecrets e) (colours asJson : Bool)

include h

/-- What is printed of a file that was inspected. -/
theorem Inspection.output_eq_iff (manager : ServiceName) (file : Path) :
    Inspection.output colours asJson ⟨manager, file, d⟩ =
        Inspection.output colours asJson ⟨manager, file, e⟩ ↔
      asJson = false ∨ ProtocolSet.ToldAlike d.protocols e.protocols := by
  apply Cli.output_eq_iff
  · simp only [text, h.interfaces, h.protocols.countText_eq, h.protocols.text_eq]
  · rw [← h.protocols.alike_json_iff]
    unfold json
    rw [h.interfaces]
    exact alike_obj_concat_iff [_, _, _]

/-- What is printed of a manager that was prepared. -/
theorem Prepared.output_eq_iff (manager : ServiceName) (busName : String) (source : InfoSource)
    (file : Option Path) :
    Prepared.output colours asJson ⟨manager, busName, source, file, d.protocols⟩ =
        Prepared.output colours asJson ⟨manager, busName, source, file, e.protocols⟩ ↔
      asJson = false ∨ ProtocolSet.ToldAlike d.protocols e.protocols := by
  apply Cli.output_eq_iff
  · simp only [text, h.protocols.countText_eq, h.protocols.text_eq]
  · rw [← h.protocols.alike_json_iff]
    exact alike_obj_concat_iff [_, _, _, _]

omit h

/-! ## Runs -/

namespace World

variable {w v : World}

/-- Whether a file that gives a description can be inspected hangs on the name. So it is the same for all
files, whatever description they give. -/
theorem inspection_of_readable (file : Path) (name : Option String) :
    (∃ manager, ∀ (w : World) d, CacheFile.read w.tree file = .ok d →
      w.inspection file name = .ok ⟨manager, file, d⟩) ∨
    ∃ c, ∀ (w : World) d, CacheFile.read w.tree file = .ok d → w.inspection file name = .error c := by
  cases hname : name.or (Path.stem? file) with
  | none => exact .inr ⟨_, fun w d _ => by simp only [inspection, hname]; rfl⟩
  | some text =>
    cases hmanager : named .service text with
    | error c => exact .inr ⟨_, fun w d _ => by simp only [inspection, hname, hmanager]; rfl⟩
    | ok manager =>
      exact .inl ⟨manager, fun w d hread => by
        simp only [inspection, hname, hmanager, CacheFile.load, hread]⟩

/-- How a run ends that can inspect its file. -/
theorem run_of_inspection {arguments : List String} {given : Option Path} {file : Path}
    {name : Option String} {asJson : Bool}
    (htask : Task.ofArguments arguments = .ok ⟨given, .inspect file name asJson⟩) {i : Inspection}
    (h : w.inspection file name = .ok i) :
    w.run arguments = { code := 0, output := i.output w.colours asJson } := by
  simp only [run, htask, perform, h, Except.map]

/-- How a run ends that cannot. -/
theorem run_of_inspection_error {arguments : List String} {given : Option Path} {file : Path}
    {name : Option String} {asJson : Bool}
    (htask : Task.ofArguments arguments = .ok ⟨given, .inspect file name asJson⟩) {c : Complaint}
    (h : w.inspection file name = .error c) :
    w.run arguments = { code := 1, complaint := c.text } := by
  simp only [run, htask, perform, h, Except.map]

/-- How a run ends that prepares a manager with a cache file that describes it. -/
theorem run_of_described {arguments : List String} {given : Option Path} {config : Config}
    {name : ServiceName} {asJson : Bool}
    (htask : Task.ofArguments arguments = .ok ⟨given, .prepare name.text asJson⟩)
    (hconfig : w.config given = .ok config) {file : Path} {d : Description}
    (h : CacheFile.described? w.tree config (CacheFile.searchDirs w.env config) name =
      some (file, d)) :
    w.run arguments =
      { code := 0, output := Prepared.output w.colours asJson
          ⟨name, config.busName name, .file, some file, d.protocols⟩ } := by
  simp only [run, htask, perform, hconfig, prepared_of_described h, bind, Except.bind, pure,
    Except.pure]

/-- **Secret defaults are shown to no person and told to every program.** Where a cache file is inspected,
or the manager that it describes is prepared, two descriptions that are the same but for the values of
secret defaults give the same output, unless it is for programs and these are given different defaults. -/
theorem secret_defaults_told_iff {d e : Description} (hsame : d.SameButSecrets e) (w v : World)
    (henv : v.env = w.env) (arguments : List String) (asJson : Bool) :
    let toldAlike := asJson = false ∨ ProtocolSet.ToldAlike d.protocols e.protocols
    (∀ given file name, Task.ofArguments arguments = .ok ⟨given, .inspect file name asJson⟩ →
      CacheFile.read w.tree file = .ok d → CacheFile.read v.tree file = .ok e →
        (v.run arguments).code = (w.run arguments).code ∧
        ((w.run arguments).output = (v.run arguments).output ↔
          (w.run arguments).code ≠ 0 ∨ toldAlike)) ∧
    ∀ given config file (name : ServiceName),
      Task.ofArguments arguments = .ok ⟨given, .prepare name.text asJson⟩ →
      w.config given = .ok config → v.config given = .ok config →
      CacheFile.described? w.tree config (CacheFile.searchDirs w.env config) name = some (file, d) →
      CacheFile.described? v.tree config (CacheFile.searchDirs w.env config) name = some (file, e) →
        (w.run arguments).code = 0 ∧ (v.run arguments).code = 0 ∧
        ((w.run arguments).output = (v.run arguments).output ↔ toldAlike) := by
  intro toldAlike
  have hcolours : v.colours = w.colours := by rw [colours, colours, henv]
  constructor
  · intro given file name htask hw hv
    rcases inspection_of_readable file name with ⟨manager, hinspection⟩ | ⟨c, hinspection⟩
    · rw [run_of_inspection htask (hinspection w d hw), run_of_inspection htask (hinspection v e hv),
        hcolours]
      refine ⟨rfl, ?_⟩
      simpa using Inspection.output_eq_iff hsame w.colours asJson manager file
    · rw [run_of_inspection_error htask (hinspection w d hw),
        run_of_inspection_error htask (hinspection v e hv)]
      exact ⟨rfl, iff_of_true rfl (.inl Nat.one_ne_zero)⟩
  · intro given config file name htask hw hv hd he
    rw [run_of_described htask hw hd, run_of_described htask hv (henv ▸ he), hcolours]
    exact ⟨rfl, rfl, Prepared.output_eq_iff hsame w.colours asJson name _ _ _⟩

/-! ## Two passwords -/

/-- The files of somebody whose manager `gabble` has a password as a secret default. -/
def storing (password : String) : World :=
  let file := "[Protocol jabber]\nparam-password=s secret\ndefault-password=" ++ password
  ⟨⟨.dir [("d", .dir [("telepathy", .dir [("managers", .dir
    [("gabble.manager", .file (Text.octets file))])])])], []⟩, ⟨[("XDG_DATA_HOME", "/d")]⟩⟩

/-- What the cache file of that manager says. -/
def stored (password : String) : Description :=
  let param := ParamSpec.of "password" "s" { secret := true } (some (.string password))
  ⟨[], ⟨[(⟨"jabber", by decide⟩, { name := ⟨"jabber", by decide⟩, params := [param] })],
    List.pairwise_singleton _ _⟩⟩

/-- Such cache files say the same but for secrets. -/
theorem stored_sameButSecrets (password other : String) :
    (stored password).SameButSecrets (stored other) := by
  have hparam : ParamSpec.SameButSecret
      (.of "password" "s" { secret := true } (some (.string password)))
      (.of "password" "s" { secret := true } (some (.string other))) :=
    .secret rfl rfl (.string other)
  exact ⟨rfl, .cons ⟨rfl, rfl, .cons hparam .nil⟩ .nil⟩

/-- Two of them are found and read, with the usual configuration. -/
theorem described_storing : ∀ password ∈ ["hunter2", "swordfish"],
    (storing password).tree.contains ((storing password).configPath none) = false ∧
      CacheFile.described? (storing password).tree {} (CacheFile.searchDirs (storing password).env {})
          ⟨"gabble", by decide⟩ =
        some ("/d/telepathy/managers/gabble.manager", stored password) := by
  decide +kernel

theorem config_of_absent {given : Option Path} (h : w.tree.contains (w.configPath given) = false) :
    w.config given = .ok {} := by
  simp only [config, Config.load, h]
  rfl

/-- Nobody who inspects the file or prepares the manager sees which of two passwords is the default. -/
theorem secret_defaults_told_iff_stored :
    ((storing "hunter2").run ["inspect", "/d/telepathy/managers/gabble.manager"]).output =
        ((storing "swordfish").run ["inspect", "/d/telepathy/managers/gabble.manager"]).output ∧
      ((storing "hunter2").run ["show", "gabble"]).code = 0 ∧
      ((storing "hunter2").run ["show", "gabble"]).output =
        ((storing "swordfish").run ["show", "gabble"]).output := by
  have hsame := stored_sameButSecrets "hunter2" "swordfish"
  obtain ⟨hw, hd⟩ := described_storing "hunter2" (by simp)
  obtain ⟨hv, he⟩ := described_storing "swordfish" (by simp)
  have hinspect := (secret_defaults_told_iff hsame (storing "hunter2") (storing "swordfish") rfl
    ["inspect", "/d/telepathy/managers/gabble.manager"] false).1 none _ none (by decide +kernel)
    (CacheFile.described?_eq_some_iff.mp hd).2 (CacheFile.described?_eq_some_iff.mp he).2
  have hshow := (secret_defaults_told_iff hsame (storing "hunter2") (storing "swordfish") rfl
    ["show", "gabble"] false).2 none {} _ ⟨"gabble", by decide⟩ (by decide +kernel)
    (config_of_absent hw) (config_of_absent hv) hd he
  exact ⟨hinspect.2.mpr (.inr (.inl rfl)), hshow.1, hshow.2.2.mpr (.inl rfl)⟩

/-- Programs are given different defaults of two different passwords. -/
theorem toldAlike_stored_iff {password other : String} :
    ProtocolSet.ToldAlike (stored password).protocols (stored other).protocols ↔ password = other := by
  have htext : Json.pretty (.str password) = Json.pretty (.str other) ↔ password = other := by
    refine ⟨fun h => ?_, fun h => h ▸ rfl⟩
    exact (Json.textLiteral_append_inj (congrArg (fun s : String => s.toList ++ []) h)).1
  unfold ProtocolSet.ToldAlike Protocol.ToldAlike
  simpa [stored, OrderedMap.values, ParamSpec.of, ParamSpec.defaultJson, ParamValue.toJson]

/-- Programs that inspect the file or prepare the manager are given different outputs for the two
passwords. -/
theorem storing_told :
    (stored "hunter2").SameButSecrets (stored "swordfish") ∧
      (∀ password ∈ ["hunter2", "swordfish"],
        CacheFile.read (storing password).tree "/d/telepathy/managers/gabble.manager" =
          .ok (stored password)) ∧
      ((storing "hunter2").run
          ["inspect", "/d/telepathy/managers/gabble.manager", "--name=gabble", "--json"]).output ≠
        ((storing "swordfish").run
          ["inspect", "/d/telepathy/managers/gabble.manager", "--name=gabble", "--json"]).output ∧
      ((storing "hunter2").run ["show", "gabble", "--json"]).output ≠
        ((storing "swordfish").run ["show", "gabble", "--json"]).output := by
  have hsame := stored_sameButSecrets "hunter2" "swordfish"
  have htold : ¬ ProtocolSet.ToldAlike (stored "hunter2").protocols (stored "swordfish").protocols := by
    rw [toldAlike_stored_iff]
    decide
  have hread : ∀ password ∈ ["hunter2", "swordfish"],
      CacheFile.read (storing password).tree "/d/telepathy/managers/gabble.manager" =
        .ok (stored password) := fun password h =>
    (CacheFile.described?_eq_some_iff.mp (described_storing password h).2).2
  have hinspect : Task.ofArguments
      ["inspect", "/d/telepathy/managers/gabble.manager", "--name=gabble", "--json"] =
        .ok ⟨none, .inspect "/d/telepathy/managers/gabble.manager"
          (some (⟨"gabble", by decide⟩ : ServiceName).text) true⟩ := by decide +kernel
  have hshow : Task.ofArguments ["show", "gabble", "--json"] =
      .ok ⟨none, .prepare (⟨"gabble", by decide⟩ : ServiceName).text true⟩ := by
    decide +kernel
  obtain ⟨hw, hd⟩ := described_storing "hunter2" (by simp)
  obtain ⟨hv, he⟩ := described_storing "swordfish" (by simp)
  have hcolours : (storing "swordfish").colours = (storing "hunter2").colours := by
    simp only [colours, storing]
  refine ⟨hsame, hread, ?_, ?_⟩
  · rw [run_of_inspection hinspect (inspection_of_read (hread "hunter2" (by simp))),
      run_of_inspection hinspect (inspection_of_read (hread "swordfish" (by simp))), hcolours]
    simpa [htold] using Inspection.output_eq_iff hsame (storing "hunter2").colours true
      ⟨"gabble", by decide⟩ "/d/telepathy/managers/gabble.manager"
  · rw [run_of_described hshow (config_of_absent hw) hd,
      run_of_described hshow (config_of_absent hv) he, hcolours]
    simpa [htold] using Prepared.output_eq_iff hsame (storing "hunter2").colours true
      ⟨"gabble", by decide⟩ _ .file (some "/d/telepathy/managers/gabble.manager")

end World

end Cli

end Roster
