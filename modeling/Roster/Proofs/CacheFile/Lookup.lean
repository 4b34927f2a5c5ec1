import Roster.Proofs.CacheFile.Listing

/-!
# Listing and lookup

Both look for a manager in one data directory after the other. What stops the listing is an entry with the
manager's file name (`hasEntry`), and what stops the lookup is a file at its path. A file is an entry
(`hasEntry_of_isFile`), and there are two ways in which the two still come apart.

* An entry can be a directory, or a file that cannot be reached. The listing has it, and the lookup goes on.
* The directory of cache files can have the empty path. It cannot be listed, and the lookup still finds a file
  through it, in the current directory.

Where neither is the case for a manager they agree on it, and nowhere else (`get?_eq_find?_iff`).
-/

namespace Roster.CacheFile

variable {tree : FileTree} {config : Config}

/-! ## Files of one directory -/

/-- A manager's file name can be the name of an entry. -/
theorem isEntryName_fileName (hslash : '/' ∉ config.managerFileExtension.toList) (name : ServiceName) :
    Path.IsEntryName (fileName config name) := by
  have hchars : (fileName config name).toList =
      name.text.toList ++ '.' :: config.managerFileExtension.toList := by
    simp [fileName]
  -- A letter comes first, so the name is neither empty nor made of dots.
  obtain ⟨first, rest, htext, hfirst⟩ : ∃ first rest, name.text.toList = first :: rest ∧
      first.isAlpha = true := by
    have hmatches := name.matches_text
    cases htext : name.text.toList with
    | nil => exact absurd hmatches (by simp [htext, NameKind.Matches])
    | cons first rest =>
      rw [htext] at hmatches
      exact ⟨first, rest, rfl, hmatches.1⟩
  have hother (text : String) (hhead : text.toList.head? ≠ some first) :
      fileName config name ≠ text := by
    rintro rfl
    apply hhead
    rw [hchars, htext]
    rfl
  have hdot : '.' ≠ first := by
    rintro rfl
    exact absurd hfirst (by decide)
  constructor
  · exact hother "" (by simp)
  · rw [hchars]
    intro hmem
    rcases List.mem_append.mp hmem with hmem | hmem
    · rcases name.allowed_of_mem hmem with h | h
      · exact absurd h (by decide)
      · exact absurd h (by decide)
    · rcases List.mem_cons.mp hmem with h | h
      · exact absurd h (by decide)
      · exact hslash h
  · exact hother "." (by simpa using hdot)
  · exact hother ".." (by simpa using hdot)

/-- The path of a manager's file is its bare name exactly if the directory has the empty path. -/
theorem path_eq_fileName_iff (hslash : '/' ∉ config.managerFileExtension.toList) {dataDir : Path}
    {name : ServiceName} :
    path config dataDir name = fileName config name ↔ directory config dataDir = "" := by
  have hname := isEntryName_fileName hslash name
  unfold path
  constructor
  · intro h
    by_contra hdir
    obtain ⟨base, hjoin, -⟩ := Path.exists_base_of_join hdir hname.no_slash
    apply hname.no_slash
    rw [← h, hjoin]
    simp
  · intro hdir
    rw [hdir]
    exact Path.join_empty hname.no_slash

/-- What has an entry has a path. -/
theorem directory_ne_empty_of_hasEntry {dataDir : Path} {name : ServiceName}
    (h : hasEntry tree config dataDir name = true) : directory config dataDir ≠ "" := by
  intro hempty
  unfold hasEntry at h
  rw [hempty, FileTree.list_empty] at h
  cases h

/-- A manager's file is an entry of its directory. -/
theorem hasEntry_of_isFile (hslash : '/' ∉ config.managerFileExtension.toList) {dataDir : Path}
    {name : ServiceName} (hdir : directory config dataDir ≠ "")
    (h : tree.isFile (path config dataDir name) = true) : hasEntry tree config dataDir name = true := by
  obtain ⟨names, hlist, hmem⟩ :=
    FileTree.exists_listing_of_isFile_join hdir (isEntryName_fileName hslash name) h
  unfold hasEntry
  rw [hlist]
  exact List.contains_iff_mem.mpr hmem

/-! ## The first of several directories -/

/-- The lookup takes the first data directory in which the manager's path is a file. -/
theorem find?_eq (dirs : List Path) (name : ServiceName) :
    find? tree config dirs name =
      (dirs.find? fun d => tree.isFile (path config d name)).map fun d => path config d name :=
  List.find?_map

/-- What the lookup finds is a file. -/
theorem isFile_of_find? {dirs : List Path} {name : ServiceName} {p : Path}
    (h : find? tree config dirs name = some p) : tree.isFile p = true :=
  List.find?_some h

/-- **Where the two searches end in one place**: the path in the first directory with an entry is that of a
file, and the lookup has not found one in the current directory before. -/
theorem map_find?_hasEntry_eq_iff (hslash : '/' ∉ config.managerFileExtension.toList)
    (dirs : List Path) (name : ServiceName) :
    ((dirs.find? fun d => hasEntry tree config d name).map fun d => path config d name) =
        find? tree config dirs name ↔
      (∀ p ∈ (dirs.find? fun d => hasEntry tree config d name).map fun d => path config d name,
        tree.isFile p = true) ∧
      find? tree config dirs name ≠ some (fileName config name) := by
  induction dirs with
  | nil => simp [find?]
  | cons dataDir rest ih =>
    have hstep : find? tree config (dataDir :: rest) name =
        if tree.isFile (path config dataDir name) then some (path config dataDir name)
        else find? tree config rest name := by
      rw [find?_eq, find?_eq, List.find?_cons]
      cases tree.isFile (path config dataDir name) <;> rfl
    rw [hstep, List.find?_cons]
    cases hentry : hasEntry tree config dataDir name with
    | true =>
      have hpath : path config dataDir name ≠ fileName config name := fun h =>
        directory_ne_empty_of_hasEntry hentry ((path_eq_fileName_iff hslash).mp h)
      by_cases hfile : tree.isFile (path config dataDir name) = true
      · simp [hfile, hpath]
      · -- The listing stops at an entry that is no file, and the lookup goes on.
        have hne : find? tree config rest name ≠ some (path config dataDir name) := fun h =>
          hfile (isFile_of_find? h)
        simp [hfile, hne.symm]
    | false =>
      by_cases hfile : tree.isFile (path config dataDir name) = true
      · -- Only the empty path leads to a file that is no entry.
        have hdir : directory config dataDir = "" := by
          by_contra hdir
          rw [hasEntry_of_isFile hslash hdir hfile] at hentry
          cases hentry
        have hpath : path config dataDir name = fileName config name :=
          (path_eq_fileName_iff hslash).mpr hdir
        have hne : ∀ d, rest.find? (fun d => hasEntry tree config d name) = some d →
            path config d name ≠ fileName config name := by
          intro d hd h
          have hentry : hasEntry tree config d name = true :=
            List.find?_some (p := fun d => hasEntry tree config d name) hd
          exact directory_ne_empty_of_hasEntry hentry ((path_eq_fileName_iff hslash).mp h)
        rw [if_pos hfile, hpath]
        simpa using hne
      · rw [if_neg hfile]
        exact ih

/-- A manager that the lookup finds, other than in the current directory, has an entry in one of the
directories. -/
theorem isSome_find?_hasEntry (hslash : '/' ∉ config.managerFileExtension.toList) {dirs : List Path}
    {name : ServiceName} {p : Path} (h : find? tree config dirs name = some p)
    (hp : p ≠ fileName config name) :
    (dirs.find? fun d => hasEntry tree config d name).isSome = true := by
  rw [find?_eq, Option.map_eq_some_iff] at h
  obtain ⟨dataDir, hfirst, rfl⟩ := h
  have hfile : tree.isFile (path config dataDir name) = true :=
    List.find?_some (p := fun d => tree.isFile (path config d name)) hfirst
  rw [List.find?_isSome]
  refine ⟨dataDir, List.mem_of_find?_eq_some hfirst, ?_⟩
  apply hasEntry_of_isFile hslash _ hfile
  intro hdir
  exact hp ((path_eq_fileName_iff hslash).mpr hdir)

/-- **Listing and lookup agree on a manager** exactly if what is listed for it is a file and the lookup does
not find it in the current directory, through an empty path. Whatever the lookup finds elsewhere is listed, if
with another path. -/
theorem get?_eq_find?_iff (hdot : '.' ∉ config.managerFileExtension.toList)
    (hslash : '/' ∉ config.managerFileExtension.toList) {dirs : List Path}
    {found : OrderedMap ServiceName Path} (h : list tree config dirs = .ok found)
    (name : ServiceName) :
    (found.get? name = find? tree config dirs name ↔
      (∀ p, found.get? name = some p → tree.isFile p = true) ∧
      find? tree config dirs name ≠ some (fileName config name)) ∧
    ∀ p, find? tree config dirs name = some p → p ≠ fileName config name →
      ∃ q, found.get? name = some q := by
  have hget : found.get? name =
      (dirs.find? fun d => hasEntry tree config d name).map fun d => path config d name :=
    get?_listFrom hdot h name
  rw [hget]
  constructor
  · exact map_find?_hasEntry_eq_iff hslash dirs name
  · intro p hp hne
    obtain ⟨dataDir, hfirst⟩ := Option.isSome_iff_exists.mp (isSome_find?_hasEntry hslash hp hne)
    exact ⟨path config dataDir name, by rw [hfirst]; rfl⟩

/-- One manager's first entry is a file, and listing and lookup agree on it. Another one's is a directory, and
they do not. -/
theorem get?_eq_find?_iff_shadowed :
    let tree : FileTree :=
      { root := .dir [
          ("sys", .dir [("managers", .dir [("gabble.manager", .file []), ("idle.manager", .dir [])])]),
          ("usr", .dir [("managers", .dir [("gabble.manager", .file []), ("idle.manager", .file [])])])]
        current := [] }
    let config : Config := { managersSubdir := "managers" }
    let gabble : ServiceName := ⟨"gabble", by decide⟩
    let idle : ServiceName := ⟨"idle", by decide⟩
    let found : OrderedMap ServiceName Path :=
      .ofList [(gabble, "sys/managers/gabble.manager"), (idle, "sys/managers/idle.manager")]
    '.' ∉ config.managerFileExtension.toList ∧ '/' ∉ config.managerFileExtension.toList ∧
      list tree config ["sys", "usr"] = .ok found ∧
      found.get? gabble = find? tree config ["sys", "usr"] gabble ∧
      found.get? idle ≠ find? tree config ["sys", "usr"] idle := by
  intro tree config gabble idle found
  have hdot : '.' ∉ config.managerFileExtension.toList := by decide
  have hslash : '/' ∉ config.managerFileExtension.toList := by decide
  have hlist : list tree config ["sys", "usr"] = .ok found := by decide +kernel
  have hgabble : found.get? gabble = some "sys/managers/gabble.manager" := by decide +kernel
  have hidle : found.get? idle = some "sys/managers/idle.manager" := by decide +kernel
  refine ⟨hdot, hslash, hlist, ?_, ?_⟩
  · apply (get?_eq_find?_iff hdot hslash hlist gabble).1.mpr
    constructor
    · intro p hp
      rw [hgabble] at hp
      cases hp
      decide +kernel
    · decide +kernel
  · intro heq
    have hfile := ((get?_eq_find?_iff hdot hslash hlist idle).1.mp heq).1 _ hidle
    exact absurd hfile (by decide +kernel)

/-- A directory with a manager's file name is listed as the manager's file, and the lookup finds nothing. -/
theorem listed_directory :
    let tree : FileTree :=
      { root := .dir [("data", .dir [("telepathy", .dir [("managers",
          .dir [("gabble.manager", .dir [])])])])]
        current := [] }
    let config : Config := {}
    let gabble : ServiceName := ⟨"gabble", by decide⟩
    '.' ∉ config.managerFileExtension.toList ∧ '/' ∉ config.managerFileExtension.toList ∧
      list tree config ["data"] = .ok (.ofList [(gabble, "data/telepathy/managers/gabble.manager")]) ∧
      find? tree config ["data"] gabble = none := by
  intro tree config gabble
  exact ⟨by decide, by decide, by decide +kernel, by decide +kernel⟩

end Roster.CacheFile
