import Roster.FileTree
import Roster.Proofs.Text.Parts

/-!
# Paths through directories

A file name with an extension is a stem, a dot and the extension, and it falls apart in no other way
(`Path.splitName_eq_iff`).

Steps are followed one stretch after the other (`follow_append`). So what a path in a directory leads to is
an entry of the directory, and the directory's own path leads to the directory
(`exists_dir_of_lookup_join`). The one directory of which this is not true is the one with the empty path:
that path leads nowhere, while a path in it starts in the current directory.
-/

namespace Roster

/-! ## File names -/

/-- A name falls apart into a stem and an extension exactly if it is made of them. -/
theorem Path.splitName_eq_iff {name stem extension : String} :
    splitName name = (stem, some extension) ↔
      stem ≠ "" ∧ '.' ∉ extension.toList ∧ name = stem ++ "." ++ extension := by
  have hreverse : name = stem ++ "." ++ extension ↔
      name.toList.reverse = extension.toList.reverse ++ '.' :: stem.toList.reverse := by
    rw [← String.toList_inj, ← List.reverse_inj]
    simp
  have hnodot : '.' ∉ extension.toList ↔ ∀ c ∈ extension.toList.reverse, c ≠ '.' := by
    simp only [List.mem_reverse]
    exact ⟨fun h c hc hdot => h (hdot ▸ hc), fun h hdot => h '.' hdot rfl⟩
  rw [hreverse, hnodot]
  unfold splitName
  generalize name.toList.reverse = cs
  constructor
  · intro h
    have happend := List.takeWhile_append_dropWhile (p := fun c => decide (c ≠ '.')) (l := cs)
    have hhead := List.head?_dropWhile_not (fun c => decide (c ≠ '.')) cs
    dsimp only at h
    split at h
    · rename_i dot d before hdrop
      rw [hdrop] at happend hhead
      obtain ⟨rfl, hext⟩ := Prod.mk.inj h
      cases hext
      have hdot : dot = '.' := by simpa using hhead
      refine ⟨by simp, ?_, ?_⟩
      · intro c hc
        rw [String.toList_ofList, List.reverse_reverse] at hc
        simpa using List.mem_takeWhile_imp hc
      · rw [hdot] at happend
        simpa only [String.toList_ofList, List.reverse_reverse] using happend.symm
    · cases h
  · rintro ⟨hstem, hext, rfl⟩
    have hall : ∀ c ∈ extension.toList.reverse, decide (c ≠ '.') = true := by simpa using hext
    obtain ⟨d, before, hbefore⟩ : ∃ d before, stem.toList.reverse = d :: before := by
      apply List.exists_cons_of_ne_nil
      simpa using hstem
    have hstem : String.ofList (d :: before).reverse = stem := by simp [← hbefore]
    dsimp only
    rw [List.takeWhile_append_of_pos hall, List.dropWhile_append_of_pos hall, hbefore]
    simpa using hstem

/-! ## Paths in a directory -/

/-- What can be the name of an entry: it is not empty, has no slash and is no step to where one is or
above. -/
structure Path.IsEntryName (name : String) : Prop where
  /-- There is a character. -/
  ne_empty : name ≠ ""
  /-- There is no slash. -/
  no_slash : '/' ∉ name.toList
  /-- It is not the directory itself. -/
  ne_here : name ≠ "."
  /-- It is not the directory above. -/
  ne_above : name ≠ ".."

/-- What has no slash does not start at the root. -/
theorem Path.not_isAbsolute {name : String} (hname : '/' ∉ name.toList) : ¬ isAbsolute name = true :=
  fun habsolute => hname (List.mem_of_mem_head? (of_decide_eq_true habsolute))

/-- Seen from the empty path a name is itself. -/
theorem Path.join_empty {name : String} (hname : '/' ∉ name.toList) : join "" name = name := by
  unfold join
  rw [if_neg (not_isAbsolute hname), if_pos (.inl rfl), String.empty_append]

/-- A path in a directory is the directory's without a slash at its end, a slash, and the name. -/
theorem Path.exists_base_of_join {dir name : String} (hdir : dir ≠ "") (hname : '/' ∉ name.toList) :
    ∃ base, join dir name = base ++ "/" ++ name ∧
      (dir = base ++ "/" ∨ dir = base ∧ dir.toList.getLast? ≠ some '/') := by
  unfold join
  rw [if_neg (not_isAbsolute hname)]
  by_cases hlast : dir.toList.getLast? = some '/'
  · obtain ⟨base, hbase⟩ := List.getLast?_eq_some_iff.mp hlast
    have hend : dir = String.ofList base ++ "/" := by
      apply String.toList_injective
      simpa using hbase
    refine ⟨String.ofList base, ?_, .inl hend⟩
    rw [if_pos (.inr hlast), ← hend]
  · refine ⟨dir, ?_, .inr ⟨rfl, hlast⟩⟩
    rw [if_neg (by simp [hdir, hlast])]

namespace FileTree

/-- The steps of a path in a directory are those of the directory, then the name. If the directory's path
ends in a slash, one more step stays where it is. -/
theorem steps_join {dir name : String} (hdir : dir ≠ "") (hname : Path.IsEntryName name) :
    ∃ way stay, steps dir = way ++ stay ∧ (stay = [] ∨ stay = ["."]) ∧
      steps (Path.join dir name) = way ++ [name] := by
  obtain ⟨base, hjoin, hbase⟩ := Path.exists_base_of_join hdir hname.no_slash
  have hslash (tail : String) : Text.splitOn '/' (base ++ "/" ++ tail) =
      Text.splitOn '/' base ++ Text.splitOn '/' tail := by
    simp [Text.splitOn_eq_map, List.splitOn_append_cons_self]
  have hsingle : Text.splitOn '/' name = [name] := by
    rw [Text.splitOn_eq_map, List.splitOn_eq_singleton hname.no_slash]
    simp
  have hsteps : steps (Path.join dir name) = (Text.splitOn '/' base).filter (· ≠ "") ++ [name] := by
    unfold steps
    rw [hjoin, hslash, hsingle]
    simp [hname.ne_empty]
  rcases hbase with rfl | ⟨rfl, hlast⟩
  · refine ⟨_, ["."], ?_, .inr rfl, hsteps⟩
    have hend : Text.splitOn '/' (base ++ "/") = Text.splitOn '/' base ++ [""] := by
      simpa [Text.splitOn_eq_map] using hslash ""
    unfold steps
    rw [hend]
    simp
  · refine ⟨_, [], ?_, .inl rfl, hsteps⟩
    have hend : (Text.splitOn '/' dir).getLast? ≠ some "" := by
      intro hend
      rw [Text.splitOn_eq_map, List.getLast?_map, Option.map_eq_some_iff] at hend
      obtain ⟨last, hsplit, hempty⟩ := hend
      have hnil : last = [] := by simpa using congrArg String.toList hempty
      rcases Text.getLast?_of_splitOn (hnil ▸ hsplit) with hcs | hcs
      · exact hdir (String.toList_injective (by simpa using hcs))
      · exact hlast hcs
    simp [steps, hend]

/-- Steps are followed one stretch after the other. -/
theorem follow_append (first second : List String) (chain : List Node) :
    follow (first ++ second) chain = (follow first chain).bind (follow second) := by
  induction first generalizing chain with
  | nil => rfl
  | cons name rest ih =>
    cases chain with
    | nil => rfl
    | cons node outer =>
      cases node with
      | file content => rfl
      | dir entries =>
        simp only [List.cons_append, follow]
        split_ifs with hhere habove hlong
        · exact ih _
        · cases outer with
          | nil => exact ih _
          | cons above outer => exact ih _
        · rfl
        · cases entries.lookup name with
          | none => rfl
          | some node => exact ih _

/-- Where a path starts: at the top or in the current directory. -/
def start (tree : FileTree) (path : Path) : Except FileFault (List Node) :=
  if Path.isAbsolute path then .ok [tree.root] else follow tree.current [tree.root]

/-- The innermost of a chain of nested directories. -/
def innermost : List Node → Except FileFault Node
  | [] => .error .notFound
  | node :: _ => .ok node

/-- A path in a directory starts where the directory's path starts. -/
theorem start_join {tree : FileTree} {dir name : String} (hdir : dir ≠ "")
    (hname : '/' ∉ name.toList) : tree.start (Path.join dir name) = tree.start dir := by
  obtain ⟨base, hjoin, hbase⟩ := Path.exists_base_of_join hdir hname
  have habsolute : Path.isAbsolute (Path.join dir name) = Path.isAbsolute dir := by
    unfold Path.isAbsolute
    rw [hjoin]
    rcases hbase with rfl | ⟨rfl, _⟩
    · rw [String.toList_append, List.head?_append_of_ne_nil _ (by simp)]
    · have hne : dir.toList ≠ [] := by simpa using hdir
      rw [String.append_assoc, String.toList_append, List.head?_append_of_ne_nil _ hne]
  unfold start
  rw [habsolute]

/-- A path leads to a node if it holds no character that no path can hold, is not empty, and its steps lead
there from its start. -/
theorem lookup_eq_ok_iff {tree : FileTree} {path : Path} {node : Node} :
    tree.lookup path = .ok node ↔
      '\x00' ∉ path.toList ∧ path ≠ "" ∧
        ∃ top outer, tree.start path = .ok top ∧ follow (steps path) top = .ok (node :: outer) := by
  by_cases hnul : '\x00' ∈ path.toList
  · simp [lookup, hnul, bind, Except.bind, throw, throwThe, MonadExceptOf.throw]
  by_cases hempty : path = ""
  · simp [lookup, hempty, bind, Except.bind, throw, throwThe, MonadExceptOf.throw]
  have hlookup : tree.lookup path = (do
      let top ← tree.start path
      let chain ← follow (steps path) top
      innermost chain) := by
    unfold lookup start
    simp only [hnul, hempty, List.contains_eq_mem, decide_false, Bool.false_eq_true, if_false]
    split <;> rfl
  rw [hlookup]
  cases tree.start path with
  | error fault => simp [bind, Except.bind]
  | ok top =>
    cases hchain : follow (steps path) top with
    | error fault => simp [hchain, bind, Except.bind]
    | ok chain =>
      cases chain <;> simp [hnul, hempty, hchain, innermost, bind, Except.bind]

/-- One step by a name leads from a directory to its entry. -/
theorem exists_entry_of_follow {name : String} {node : Node} {chain outer : List Node}
    (hname : Path.IsEntryName name) (h : follow [name] chain = .ok (node :: outer)) :
    ∃ entries above, chain = .dir entries :: above ∧ entries.lookup name = some node := by
  cases chain with
  | nil => cases h
  | cons here above =>
    cases here with
    | file content => cases h
    | dir entries =>
      simp only [follow, if_neg hname.ne_here, if_neg hname.ne_above] at h
      split at h
      · cases h
      · cases hfound : entries.lookup name with
        | none => simp [hfound] at h
        | some found =>
          rw [hfound] at h
          cases h
          exact ⟨entries, above, rfl, hfound⟩

/-- **What a path in a directory leads to** is an entry of the directory, and the directory's own path
leads there. -/
theorem exists_dir_of_lookup_join {tree : FileTree} {dir name : String} {node : Node}
    (hdir : dir ≠ "") (hname : Path.IsEntryName name)
    (h : tree.lookup (Path.join dir name) = .ok node) :
    ∃ entries, tree.lookup dir = .ok (.dir entries) ∧ entries.lookup name = some node := by
  obtain ⟨hnul, -, top, outer, htop, hfollow⟩ := lookup_eq_ok_iff.mp h
  obtain ⟨way, stay, hsteps, hstay, hjoin⟩ := steps_join hdir hname
  rw [start_join hdir hname.no_slash] at htop
  rw [hjoin, follow_append] at hfollow
  cases hway : follow way top with
  | error fault =>
    rw [hway] at hfollow
    cases hfollow
  | ok chain =>
    rw [hway] at hfollow
    obtain ⟨entries, above, rfl, hentry⟩ := exists_entry_of_follow hname hfollow
    refine ⟨entries, lookup_eq_ok_iff.mpr ⟨?_, hdir, top, above, htop, ?_⟩, hentry⟩
    · intro hmem
      obtain ⟨base, hpath, hbase⟩ := Path.exists_base_of_join hdir hname.no_slash
      rw [hpath] at hnul
      rcases hbase with rfl | ⟨rfl, _⟩ <;> simp_all
    · rw [hsteps, follow_append, hway]
      rcases hstay with rfl | rfl <;> rfl

/-- A file in a directory stands in the directory's listing. -/
theorem exists_listing_of_isFile_join {tree : FileTree} {dir name : String} (hdir : dir ≠ "")
    (hname : Path.IsEntryName name) (h : tree.isFile (Path.join dir name) = true) :
    ∃ names, tree.list dir = .ok names ∧ name ∈ names := by
  unfold isFile at h
  split at h
  · rename_i content hlookup
    obtain ⟨entries, hdir, hentry⟩ := exists_dir_of_lookup_join hdir hname hlookup
    refine ⟨entries.map Prod.fst, ?_, ?_⟩
    · unfold list
      rw [hdir]
      rfl
    · obtain ⟨before, after, rfl, -⟩ := List.lookup_eq_some_iff.mp hentry
      simp
  · cases h

/-- The empty path cannot be listed. -/
theorem list_empty (tree : FileTree) : tree.list "" = .error .notFound := rfl

end FileTree

end Roster
