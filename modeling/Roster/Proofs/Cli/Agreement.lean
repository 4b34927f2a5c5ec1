import Roster.Cli.Run
import Roster.Proofs.Client.Preparation

/-!
# Preparing a manager agrees with reading its cache file

**Theorem** (`preparation_agrees_with_inspection`): a manager that is prepared on a bus where nobody is
gets ready if and only if the search finds a cache file for it and that file gives a description. Then
it offers the protocols of the description and was never called, and the two commands of the program,
to prepare a manager and to inspect a file, show the same protocols. Otherwise the manager was called
once, and whoever asked is told that nobody knows the service.

The reference is `CacheFile.described?`: find the file, read it. The client goes a long way to the same
end, and that way is in `Roster.Proofs.Client.Preparation`; what is left here is to compare its end with
the reference (`prepared_of_described`, `prepared_of_undescribed`) and to follow the description through
the commands (`performs_of_described`).

The theorem says nothing about what else the commands print: the one tells of the bus and the other of
the interfaces.
-/

namespace Roster

/-! ## The reference -/

namespace CacheFile

variable {tree : FileTree} {config : Config} {dirs : List Path} {name : ServiceName}

/-- The cache file that describes a manager, with what it says: the first that is found, if it can be
read. -/
def described? (tree : FileTree) (config : Config) (dirs : List Path) (name : ServiceName) :
    Option (Path × Description) :=
  match find? tree config dirs name with
  | none => none
  | some file =>
    match read tree file with
    | .ok d => some (file, d)
    | .error _ => none

theorem described?_eq_some_iff {file : Path} {d : Description} :
    described? tree config dirs name = some (file, d) ↔
      find? tree config dirs name = some file ∧ read tree file = .ok d := by
  unfold described?
  constructor
  · intro h
    split at h
    · cases h
    · split at h
      · cases h
        exact ⟨‹_›, ‹_›⟩
      · cases h
  · rintro ⟨hfind, hread⟩
    rw [hfind]
    dsimp only
    rw [hread]

end CacheFile

/-! ## The client -/

namespace Client

open CacheFile (described?)

variable {setup : Setup} (tree : FileTree) (name : ServiceName)

/-- A cache file that gives a description makes the manager ready, without a call. -/
theorem prepared_of_described (hbus : setup.watchMode = .bus) (hsound : setup.brokenReader = false)
    {file : Path} {d : Description}
    (h : described? tree setup.config setup.searchDirs name = some (file, d)) :
    prepared setup tree name =
      { described setup name file d with now := 1 }.client setup tree name := by
  obtain ⟨hfind, hread⟩ := CacheFile.described?_eq_some_iff.mp h
  rw [prepared_eq tree name hbus hsound, hfind, settled_of_ok hread]

/-- Without one the manager is called, and nobody knows it. -/
theorem prepared_of_undescribed (hbus : setup.watchMode = .bus)
    (hsound : setup.brokenReader = false)
    (h : described? tree setup.config setup.searchDirs name = none) :
    ∃ path finished, prepared setup tree name =
      { refused setup name path finished with now := 1 }.client setup tree name := by
  unfold described? at h
  rw [prepared_eq tree name hbus hsound]
  split at h
  · rename_i hfind
    rw [hfind]
    exact ⟨none, none, rfl⟩
  · rename_i file hfind
    rw [hfind]
    split at h
    · cases h
    · rename_i e hread
      rw [settled_of_error hread]
      exact ⟨_, _, rfl⟩

/-- What the preparation tells of a manager that a cache file describes. -/
theorem prepare_of_described (hbus : setup.watchMode = .bus) (hsound : setup.brokenReader = false)
    {file : Path} {d : Description}
    (h : described? tree setup.config setup.searchDirs name = some (file, d)) :
    prepare setup tree name = ⟨some .ready, (described setup name file d).manager.snapshot⟩ := by
  rw [prepare_eq tree name hbus, prepared_of_described tree name hbus hsound h]
  rfl

end Client

namespace Cli

/-- What is printed shows these protocols: behind everything else for people, and in the last field
for programs. -/
def Shows (colours asJson : Bool) (protocols : ProtocolSet) (output : String) : Prop :=
  if asJson then ∃ fields, output = printed (.obj (fields ++ [("protocols", protocols.json)]))
  else ∃ start, output = start ++ protocols.text colours

variable {colours asJson : Bool}

theorem Prepared.shows_output (p : Prepared) :
    Shows colours asJson p.protocols (p.output colours asJson) := by
  cases asJson
  · exact ⟨_, rfl⟩
  · exact ⟨[_, _, _, _], rfl⟩

theorem Inspection.shows_output (i : Inspection) :
    Shows colours asJson i.description.protocols (i.output colours asJson) := by
  cases asJson
  · exact ⟨_, rfl⟩
  · exact ⟨[_, _, _], rfl⟩

namespace World

variable {w : World} {config : Config} {name : ServiceName} {file : Path} {d : Description}

/-- The text of a name is read as that name. -/
@[simp] theorem named_text {kind : NameKind} (name : Name kind) :
    named kind name.text = .ok name := by
  simp [named, Name.read, Except.mapError]

/-- A cache file with a description can be inspected. -/
theorem inspection_of_read (hread : CacheFile.read w.tree file = .ok d) :
    w.inspection file (some name.text) = .ok ⟨name, file, d⟩ := by
  simp [inspection, CacheFile.load, hread]

/-- A manager that a cache file describes is shown with the protocols of the file. -/
theorem prepared_of_described
    (h : CacheFile.described? w.tree config (CacheFile.searchDirs w.env config) name =
      some (file, d)) :
    w.prepared config name.text =
      .ok ⟨name, config.busName name, .file, some file, d.protocols⟩ := by
  have hclient : Client.prepare
      { config := config, searchDirs := CacheFile.searchDirs w.env config } w.tree name =
        ⟨some .ready, _⟩ := Client.prepare_of_described w.tree name rfl rfl h
  simp only [World.prepared, named_text, hclient, bind, Except.bind]
  rfl

/-- Both commands succeed then, and show these protocols. -/
theorem performs_of_described {given : Option Path} (hconfig : w.config given = .ok config)
    (h : CacheFile.described? w.tree config (CacheFile.searchDirs w.env config) name =
      some (file, d)) (asJson : Bool) :
    ∃ shown inspected,
      w.perform ⟨given, .prepare name.text asJson⟩ = .ok shown ∧
      w.perform ⟨given, .inspect file (some name.text) asJson⟩ = .ok inspected ∧
      Shows w.colours asJson d.protocols shown ∧ Shows w.colours asJson d.protocols inspected := by
  have hread := (CacheFile.described?_eq_some_iff.mp h).2
  refine ⟨_, _, ?_, ?_,
    Prepared.shows_output ⟨name, config.busName name, .file, some file, d.protocols⟩,
    Inspection.shows_output ⟨name, file, d⟩⟩
  · simp only [perform, hconfig, prepared_of_described h, bind, Except.bind, pure, Except.pure]
  · simp only [perform, inspection_of_read hread, Except.map]

/-- **Preparing a manager agrees with inspecting its cache file**, for all settings, directories, files
and names. The client `c` is the one that the preparation `p` tells of, and nothing is left to do in
it. -/
theorem preparation_agrees_with_inspection (config : Config) (dirs : List Path) (tree : FileTree)
    (name : ServiceName) :
    let setup : Setup := { config := config, searchDirs := dirs }
    let p := Client.prepare setup tree name
    let c := Client.prepared setup tree name
    (p.outcome = c.answer? 0 0 ∧ p.snapshot = c.snapshot 0 ∧
      c.dueTimes = [] ∧ ∀ fuel, c.runReady fuel = c) ∧
    (p.outcome = some .ready ↔
      ∃ file d, CacheFile.find? tree config dirs name = some file ∧
        CacheFile.read tree file = .ok d) ∧
    match CacheFile.described? tree config dirs name with
    | some (file, d) =>
      p.outcome = some .ready ∧ p.snapshot.source = .file ∧
      p.snapshot.protocols = d.protocols ∧ p.snapshot.cacheFile = some file ∧
      c.callLog = [] ∧ c.bus.calls = ∅ ∧
      ∀ (env : Environment) (given : Option Path) (asJson : Bool),
        let w : World := ⟨tree, env⟩
        w.config given = .ok config → CacheFile.searchDirs env config = dirs →
          ∃ shown inspected,
            w.perform ⟨given, .prepare name.text asJson⟩ = .ok shown ∧
            w.perform ⟨given, .inspect file (some name.text) asJson⟩ = .ok inspected ∧
            Shows w.colours asJson d.protocols shown ∧ Shows w.colours asJson d.protocols inspected
    | none =>
      p.outcome = some (.failed (.transport (.serviceUnknown (config.busName name)))) ∧
      c.callLog = [Client.callOf config name] ∧
      c.bus.calls = OrderedMap.ofList [(config.busName name, 1)] := by
  intro setup p c
  have hp : p = ⟨c.answer? 0 0, c.snapshot 0⟩ := Client.prepare_eq tree name rfl
  cases h : CacheFile.described? tree config dirs name with
  | some found =>
    obtain ⟨file, d⟩ := found
    have hc : c = { Client.described setup name file d with now := 1 }.client setup tree name :=
      Client.prepared_of_described tree name rfl rfl h
    have hover := (Client.described_over setup name file d).later 1
    clear_value p c
    subst hc hp
    refine ⟨⟨rfl, rfl, hover.dueTimes, hover.runReady⟩, ?_, ?_⟩
    · exact ⟨fun _ => ⟨file, d, CacheFile.described?_eq_some_iff.mp h⟩, fun _ => rfl⟩
    · refine ⟨rfl, rfl, rfl, rfl, rfl, rfl, ?_⟩
      rintro env given asJson w hconfig rfl
      exact performs_of_described hconfig h asJson
  | none =>
    have hrefused : ∃ path finished, Client.prepared setup tree name =
        { Client.refused setup name path finished with now := 1 }.client setup tree name :=
      Client.prepared_of_undescribed tree name rfl rfl h
    obtain ⟨path, finished, hc⟩ := hrefused
    replace hc : c = _ := hc
    have hover := (Client.refused_over setup name path finished).later 1
    clear_value p c
    subst hc hp
    refine ⟨⟨rfl, rfl, hover.dueTimes, hover.runReady⟩, ?_, ?_⟩
    · constructor
      · intro hready
        cases hready
      · rintro ⟨file, d, hboth⟩
        have hsome := CacheFile.described?_eq_some_iff.mpr hboth
        rw [h] at hsome
        cases hsome
    · exact ⟨rfl, rfl, rfl⟩

/-- One cache file is found, and both commands show its protocol. -/
theorem preparation_agrees_with_inspection_found :
    let tree : FileTree :=
      ⟨.dir [("d", .dir [("telepathy", .dir [("managers", .dir
        [("gabble.manager", .file (Text.octets "[Protocol jabber]\n"))])])])], []⟩
    let w : World := ⟨tree, ⟨[("XDG_DATA_HOME", "/d")]⟩⟩
    let file := "/d/telepathy/managers/gabble.manager"
    ∃ d, CacheFile.read w.tree file = .ok d ∧ ∃ shown inspected,
      w.perform ⟨none, .prepare "gabble" false⟩ = .ok shown ∧
      w.perform ⟨none, .inspect file (some "gabble") false⟩ = .ok inspected ∧
      Shows w.colours false d.protocols shown ∧ Shows w.colours false d.protocols inspected := by
  intro tree w file
  let dirs := CacheFile.searchDirs w.env {}
  have hfound : (CacheFile.described? tree {} dirs ⟨"gabble", by decide⟩).map Prod.fst =
      some file := by decide +kernel
  obtain ⟨⟨f, d⟩, hdescribed, rfl⟩ := Option.map_eq_some_iff.mp hfound
  have habsent : w.tree.contains (w.configPath none) = false := by decide +kernel
  have hconfig : w.config none = .ok {} := by
    unfold World.config Config.load
    dsimp only
    rw [habsent]
    rfl
  have hagrees := (preparation_agrees_with_inspection {} dirs tree ⟨"gabble", by decide⟩).2.2
  rw [hdescribed] at hagrees
  exact ⟨d, (CacheFile.described?_eq_some_iff.mp hdescribed).2,
    hagrees.2.2.2.2.2.2 w.env none false hconfig rfl⟩

end World

end Cli

end Roster
