import Roster.CacheFile.Search
import Roster.Proofs.FileTree.Paths
import Roster.Proofs.Name.Grammar
import Roster.Proofs.OrderedMap.Laws

/-!
# The listing of cache files

An entry of a directory is the cache file of a manager exactly if its name is the manager's file name
(`entryOwner?_eq_some_iff`), so what is read back out of the names of the entries is what was put in.

Of each data directory the listing adds what it does not have yet. So the listing of two stretches of
directories is that of the first one, completed from that of the second (`listFrom_append`,
`listFrom_eq_map`), and for a manager it has the path in the first directory with an entry for it
(`get?_listFrom`).
-/

namespace Roster.CacheFile

variable {tree : FileTree} {config : Config}

/-! ## Entries -/

/-- The directory of cache files in a data directory has an entry with a manager's file name. -/
def hasEntry (tree : FileTree) (config : Config) (dataDir : Path) (name : ServiceName) : Bool :=
  match tree.list (directory config dataDir) with
  | .ok entries => entries.contains (fileName config name)
  | .error _ => false

/-- Why the directory of cache files in a data directory cannot be listed, with its path. That it does not
exist is no reason. -/
def obstacle? (tree : FileTree) (config : Config) (dataDir : Path) : Option (Path × FileFault) :=
  match tree.list (directory config dataDir) with
  | .ok _ => none
  | .error .notFound => none
  | .error fault => some (directory config dataDir, fault)

/-- **An entry is a manager's** exactly if its name is the manager's file name. -/
theorem entryOwner?_eq_some_iff (hext : '.' ∉ config.managerFileExtension.toList) {entry : String}
    {name : ServiceName} : entryOwner? config entry = some name ↔ entry = fileName config name := by
  have hne : name.text ≠ "" := by
    intro hempty
    have hmatches := name.matches_text
    rw [hempty] at hmatches
    exact hmatches
  have hsplit : Path.splitName entry = (name.text, some config.managerFileExtension) ↔
      entry = fileName config name := by
    rw [Path.splitName_eq_iff]
    exact ⟨fun h => h.2.2, fun h => ⟨hne, hext, h⟩⟩
  rw [← hsplit, Prod.ext_iff]
  unfold entryOwner?
  split
  · rename_i hmatch
    rw [Name.ofText?_eq_some_iff]
    simp [hmatch, eq_comm]
  · rename_i hmatch
    simp [hmatch]

/-- What the entries of a directory give for a manager is the path of its file, if the file is among
them. -/
theorem lookupEntry_filterMap (hext : '.' ∉ config.managerFileExtension.toList) (dir : Path)
    (names : List String) (name : ServiceName) :
    OrderedMap.lookupEntry name
        (names.filterMap fun e => (entryOwner? config e).map fun n => (n, Path.join dir e)) =
      if names.contains (fileName config name) then some (Path.join dir (fileName config name))
      else none := by
  induction names with
  | nil => rfl
  | cons entry rest ih =>
    by_cases hentry : entry = fileName config name
    · have howner := (entryOwner?_eq_some_iff hext).mpr hentry
      rw [List.filterMap_cons_some (by rw [howner]; rfl)]
      simp [OrderedMap.lookupEntry, hentry]
    · have hother : ∀ owner, entryOwner? config entry = some owner → owner ≠ name := by
        rintro owner howner rfl
        exact hentry ((entryOwner?_eq_some_iff hext).mp howner)
      rw [List.contains_cons, beq_false_of_ne (Ne.symm hentry), Bool.false_or, ← ih]
      cases howner : entryOwner? config entry with
      | none => rw [List.filterMap_cons_none (by rw [howner]; rfl)]
      | some owner =>
        rw [List.filterMap_cons_some (by rw [howner]; rfl), OrderedMap.lookupEntry,
          if_neg (hother owner howner)]

/-- A data directory that can be listed gives a manager the path of its file, if it has an entry for
it. -/
theorem lookupEntry_listDirectory (hext : '.' ∉ config.managerFileExtension.toList) {dataDir : Path}
    {entries : List (ServiceName × Path)}
    (h : listDirectory tree config (directory config dataDir) = .ok entries) (name : ServiceName) :
    OrderedMap.lookupEntry name entries =
      if hasEntry tree config dataDir name then some (path config dataDir name) else none := by
  unfold listDirectory at h
  unfold hasEntry
  split at h
  · rename_i names hlist
    cases h
    rw [hlist]
    exact lookupEntry_filterMap hext (directory config dataDir) names name
  · rename_i hlist
    cases h
    rw [hlist]
    rfl
  · cases h

/-- What is in the way of listing a data directory is the fault with which its listing fails. -/
theorem obstacle?_eq (dataDir : Path) :
    obstacle? tree config dataDir =
      match listDirectory tree config (directory config dataDir) with
      | .ok _ => none
      | .error fault => some (directory config dataDir, fault) := by
  unfold listDirectory obstacle?
  cases tree.list (directory config dataDir) with
  | ok names => rfl
  | error fault => cases fault <;> rfl

/-! ## One directory after the other -/

/-- What is added for a key is the first entry for it, where there was none. -/
theorem get?_addMissing (found : OrderedMap ServiceName Path) (entries : List (ServiceName × Path))
    (name : ServiceName) :
    (addMissing found entries).get? name =
      (found.get? name).or (OrderedMap.lookupEntry name entries) := by
  induction entries generalizing found with
  | nil => simp [addMissing, OrderedMap.lookupEntry]
  | cons e rest ih =>
    have hcons : addMissing found (e :: rest) =
        addMissing (if found.contains e.1 then found else found.insert e.1 e.2) rest := rfl
    rw [hcons, ih, OrderedMap.lookupEntry]
    by_cases hname : e.1 = name
    · subst hname
      rw [if_pos rfl]
      unfold OrderedMap.contains
      cases hfound : found.get? e.1 <;> simp [hfound]
    · rw [if_neg hname]
      split
      · rfl
      · rw [OrderedMap.get?_insert_of_ne _ (Ne.symm hname)]

theorem listFrom_nil (found : OrderedMap ServiceName Path) :
    listFrom tree config found [] = .ok found := rfl

/-- A directory in front is listed first. -/
theorem listFrom_cons (found : OrderedMap ServiceName Path) (dataDir : Path) (rest : List Path) :
    listFrom tree config found (dataDir :: rest) =
      match listDirectory tree config (directory config dataDir) with
      | .ok entries => listFrom tree config (addMissing found entries) rest
      | .error fault => .error (directory config dataDir, fault) := by
  cases hlist : listDirectory tree config (directory config dataDir) with
  | ok entries =>
    rw [listFrom.eq_def]
    simp only [hlist]
  | error fault =>
    rw [listFrom.eq_def]
    simp only [hlist]

/-- Directories are listed one stretch after the other. -/
theorem listFrom_append (found : OrderedMap ServiceName Path) (first second : List Path) :
    listFrom tree config found (first ++ second) =
      (listFrom tree config found first).bind fun m => listFrom tree config m second := by
  induction first generalizing found with
  | nil => rfl
  | cons dataDir rest ih =>
    rw [List.cons_append, listFrom_cons, listFrom_cons]
    split
    · exact ih _
    · rfl

/-- What was found before is completed with what a listing by itself finds. -/
theorem listFrom_eq_map (found : OrderedMap ServiceName Path) (dirs : List Path) :
    listFrom tree config found dirs = (list tree config dirs).map (found ∪ ·) := by
  unfold list
  induction dirs generalizing found with
  | nil =>
    apply congrArg Except.ok
    apply OrderedMap.ext_get?
    intro name
    rw [OrderedMap.get?_union]
    exact Option.or_none.symm
  | cons dataDir rest ih =>
    rw [listFrom_cons, listFrom_cons]
    split
    · rename_i entries _
      rw [ih, ih (addMissing ∅ entries)]
      cases listFrom tree config ∅ rest with
      | error e => rfl
      | ok later =>
        apply congrArg Except.ok
        apply OrderedMap.ext_get?
        intro name
        have hempty : (∅ : OrderedMap ServiceName Path).get? name = none := rfl
        simp only [OrderedMap.get?_union, get?_addMissing, hempty, Option.none_or, Option.or_assoc]
    · rfl

/-- **For a manager stands**, where nothing was found before, the path in the first directory with an entry
for it. -/
theorem get?_listFrom (hext : '.' ∉ config.managerFileExtension.toList)
    {found result : OrderedMap ServiceName Path} {dirs : List Path}
    (h : listFrom tree config found dirs = .ok result) (name : ServiceName) :
    result.get? name = (found.get? name).or
      ((dirs.find? fun d => hasEntry tree config d name).map fun d => path config d name) := by
  induction dirs generalizing found with
  | nil =>
    cases h
    simp
  | cons dataDir rest ih =>
    rw [listFrom_cons] at h
    split at h
    · rename_i entries hlist
      rw [ih h, get?_addMissing, lookupEntry_listDirectory hext hlist, Option.or_assoc,
        List.find?_cons]
      cases hasEntry tree config dataDir name <;> simp
    · cases h

/-- **A listing fails** exactly with the first obstacle. -/
theorem listFrom_eq_error_iff {found : OrderedMap ServiceName Path} {dirs : List Path}
    {e : Path × FileFault} :
    listFrom tree config found dirs = .error e ↔ dirs.findSome? (obstacle? tree config) = some e := by
  induction dirs generalizing found with
  | nil => simp [listFrom_nil]
  | cons dataDir rest ih =>
    rw [listFrom_cons, List.findSome?_cons, obstacle?_eq]
    cases listDirectory tree config (directory config dataDir) with
    | ok entries => exact ih
    | error fault => simp

/-- **The listing is a merge by priority.** Of two stretches of directories it fails as the first one
does, or else as the second one does, and otherwise has what the first one has for a manager, or else what
the second one has. A manager stands in it with the path in the first directory that has an entry with the
manager's file name. It fails exactly with the first directory that is there and cannot be listed. -/
theorem list_merges (tree : FileTree) {config : Config}
    (hext : '.' ∉ config.managerFileExtension.toList) :
    (∀ first second, list tree config (first ++ second) = (do
      let found ← list tree config first
      let more ← list tree config second
      pure (found ∪ more))) ∧
    (∀ dirs found, list tree config dirs = .ok found → ∀ name, found.get? name =
      (dirs.find? fun d => hasEntry tree config d name).map fun d => path config d name) ∧
    ∀ dirs e, list tree config dirs = .error e ↔ dirs.findSome? (obstacle? tree config) = some e := by
  refine ⟨?_, ?_, ?_⟩
  · intro first second
    calc list tree config (first ++ second)
        = (list tree config first).bind fun m => listFrom tree config m second :=
          listFrom_append ∅ first second
      _ = (list tree config first).bind fun m => (list tree config second).map (m ∪ ·) := by
          simp only [listFrom_eq_map]
      _ = _ := by
          apply congrArg (list tree config first).bind
          funext m
          cases list tree config second <;> rfl
  · intro dirs found hlist name
    exact get?_listFrom hext hlist name
  · intro dirs e
    exact listFrom_eq_error_iff

/-- A manager with entries in two directories stands in the listing with the first, a directory that does not
exist does not matter, and a file in a directory's place does. -/
theorem list_merges_shadowed :
    let tree : FileTree :=
      { root := .dir [
          ("sys", .dir [("managers", .dir [("gabble.manager", .file []), ("notes.txt", .file [])])]),
          ("usr", .dir [("managers", .dir [("gabble.manager", .file []), ("idle.manager", .file [])])]),
          ("tmp", .dir [("managers", .file [])])]
        current := [] }
    let config : Config := { managersSubdir := "managers" }
    let gabble : ServiceName := ⟨"gabble", by decide⟩
    let idle : ServiceName := ⟨"idle", by decide⟩
    let merged : OrderedMap ServiceName Path :=
      .ofList [(gabble, "sys/managers/gabble.manager"), (idle, "usr/managers/idle.manager")]
    '.' ∉ config.managerFileExtension.toList ∧
      list tree config (["home", "sys"] ++ ["usr"]) = .ok merged ∧
      ((["home", "sys", "usr"].find? fun d => hasEntry tree config d gabble).map fun d =>
        path config d gabble) = some "sys/managers/gabble.manager" ∧
      list tree config ["sys", "tmp", "usr"] = .error ("tmp/managers", .notADirectory) := by
  intro tree config gabble idle merged
  have hext : '.' ∉ config.managerFileExtension.toList := by decide
  obtain ⟨happend, hget, herror⟩ := list_merges tree hext
  have hmerged : list tree config (["home", "sys"] ++ ["usr"]) = .ok merged := by
    apply (happend ["home", "sys"] ["usr"]).trans
    decide +kernel
  refine ⟨hext, hmerged, ?_, ?_⟩
  · apply (hget ["home", "sys", "usr"] merged hmerged gabble).symm.trans
    decide +kernel
  · apply (herror ["sys", "tmp", "usr"] _).mpr
    decide +kernel

end Roster.CacheFile
