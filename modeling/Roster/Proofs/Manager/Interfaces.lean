import Mathlib.Data.List.Nodup
import Roster.Proofs.Manager.Mirror

/-!
# The interfaces of a manager accumulate

A proxy adds the interfaces of every description that it takes over to those that it holds, unless they are
there already. Said of a whole run: it holds the interfaces of all descriptions that were taken over
(`installed`), one description after the other, without any interface that has occurred before.

* `addNew_eraseDups`: adding to a list without duplicates what is not in it yet is the same as removing the
  later duplicates of both lists together.
* `interfaces_run`: the interfaces after a run, by induction on the run. What a step adds comes from the
  news that it brings (`knowledge_step_run`).
-/

namespace Roster.Manager

/-! ## Lists without duplicates -/

/-- A member at the end of a list is a duplicate if it is in the list before. -/
theorem eraseDups_concat (l : List String) (i : String) :
    (l ++ [i]).eraseDups = if i ∈ l then l.eraseDups else l.eraseDups ++ [i] := by
  rw [List.eraseDups_append]
  by_cases hi : i ∈ l
  · simp [List.removeAll, hi]
  · simp [List.removeAll, List.eraseDups_cons, hi]

/-- **Adding what is new** to a list without duplicates removes the duplicates of both. -/
theorem addNew_eraseDups (old new : List String) :
    addNew old.eraseDups new = (old ++ new).eraseDups := by
  induction new using List.reverseRecOn with
  | nil => rw [List.append_nil, addNew, List.foldl_nil]
  | append_singleton new i ih =>
    have hstep : addNew old.eraseDups (new ++ [i]) =
        if i ∈ addNew old.eraseDups new then addNew old.eraseDups new
        else addNew old.eraseDups new ++ [i] := List.foldl_append
    rw [hstep, ih, ← List.append_assoc, eraseDups_concat]
    exact if_congr List.mem_eraseDups rfl rfl

theorem nodup_eraseDups (l : List String) : l.eraseDups.Nodup := by
  induction l using List.reverseRecOn with
  | nil => exact List.nodup_nil
  | append_singleton l i ih =>
    rw [eraseDups_concat]
    split
    · exact ih
    · rename_i hnew
      refine List.nodup_append.mpr ⟨ih, List.nodup_singleton i, ?_⟩
      rintro j hj k hk rfl
      rw [List.mem_singleton.mp hk] at hj
      exact hnew (List.mem_eraseDups.mp hj)

/-! ## What was taken over -/

/-- The descriptions that are taken over in the course of a run, each with its source, in order. -/
def installed (m : Manager) : List Occurrence → List (InfoSource × Description)
  | [] => []
  | o :: rest => (news m o).toList ++ installed (m.step o) rest

theorem installed_append (m : Manager) (before after : List Occurrence) :
    installed m (before ++ after) = installed m before ++ installed (m.run before) after := by
  induction before generalizing m with
  | nil => rfl
  | cons o rest ih =>
    show (news m o).toList ++ installed (m.step o) (rest ++ after) = _
    rw [ih, ← List.append_assoc]
    rfl

/-- The interfaces of descriptions, one description after the other. -/
def listedInterfaces (descriptions : List (InfoSource × Description)) : List String :=
  descriptions.flatMap fun n => n.2.interfaces

section run

variable (busName : String) (always : Bool) (path : Option Path)

/-- What a step adds to the interfaces are those of its news. -/
theorem interfaces_step_run (before : List Occurrence) (o : Occurrence) :
    let m := (start busName always path).run before
    (m.step o).interfaces = addNew m.interfaces (listedInterfaces (news m o).toList) := by
  intro m
  have hlearnt := congrArg Knowledge.interfaces (knowledge_step_run busName always path before o)
  change (m.step o).interfaces = (m.knowledge.learn (news m o)).interfaces at hlearnt
  rw [hlearnt]
  rcases news m o with _ | ⟨source, d⟩
  · rfl
  · show addNew m.interfaces d.interfaces = addNew m.interfaces (d.interfaces ++ [])
    rw [List.append_nil]

/-- **The interfaces after a run** are those of all descriptions that were taken over, without later
duplicates. -/
theorem interfaces_run (occurrences : List Occurrence) :
    ((start busName always path).run occurrences).interfaces =
      (listedInterfaces (installed (start busName always path) occurrences)).eraseDups := by
  induction occurrences using List.reverseRecOn with
  | nil => rfl
  | append_singleton before o ih =>
    rw [run_concat, interfaces_step_run, ih, addNew_eraseDups, installed_append, listedInterfaces,
      listedInterfaces, listedInterfaces, List.flatMap_append]
    show _ = (_ ++ List.flatMap _ ((news _ o).toList ++ [])).eraseDups
    rw [List.append_nil]

/-- **Interfaces accumulate without duplicates.** After every run the interfaces that a proxy holds, and
lets everyone see, are those of all descriptions that it took over, in the order in which it did, each
interface where it occurred first. So none is there twice, and what happens later leaves them in place and
only adds behind them. What brings no news adds nothing: a cache file when something is known already, a
cache read that fails, is given up or is not on its way, an answer that cannot be understood or that nobody
waits for. -/
theorem interfaces_accumulate_run (occurrences : List Occurrence) :
    let m₀ := start busName always path
    let m := m₀.run occurrences
    m.interfaces = (listedInterfaces (installed m₀ occurrences)).eraseDups ∧
      m.snapshot.interfaces = m.interfaces ∧
      m.interfaces.Nodup ∧
      (∀ after, m.interfaces <+: (m.run after).interfaces) ∧
      (∀ o, news m o = none → (m.step o).interfaces = m.interfaces) ∧
      (∀ result, m.source ≠ .none ∨ m.read = none ∨ (∀ d, result ≠ .described d) →
        (m.step (.cacheRead result)).interfaces = m.interfaces) ∧
      ∀ answer, m.call = none ∨ (∀ d, decode answer ≠ .ok d) →
        (m.step (.reply answer)).interfaces = m.interfaces := by
  intro m₀ m
  have hinterfaces : m.interfaces = _ := interfaces_run busName always path occurrences
  have hnothing (o : Occurrence) (hnews : news m o = none) :
      (m.step o).interfaces = m.interfaces := by
    have hstep := interfaces_step_run busName always path occurrences o
    dsimp only at hstep
    rw [hnews] at hstep
    exact hstep
  refine ⟨hinterfaces, ?_, ?_, ?_, hnothing, ?_, ?_⟩
  · exact congrArg Snapshot.interfaces (faithful_run busName always path occurrences).current
  · rw [hinterfaces]
    exact nodup_eraseDups _
  · intro after
    have hlater := interfaces_run busName always path (occurrences ++ after)
    rw [run_append, installed_append, listedInterfaces, List.flatMap_append,
      List.eraseDups_append] at hlater
    rw [hlater, hinterfaces]
    exact List.prefix_append ..
  · intro result hold
    apply hnothing
    cases result with
    | described d =>
      rcases hold with hknown | hidle | hnone
      · simp [news, understood, hknown]
      · simp [news, understood, hidle]
      · exact absurd rfl (hnone d)
    | failed => rfl
    | cancelled => rfl
  · intro answer hold
    apply hnothing
    rcases hold with hidle | hnone
    · simp [news, understood, hidle]
    · rcases hdecode : decode answer with e | d
      · simp [news, understood, hdecode, Except.toOption]
      · exact absurd hdecode (hnone d)

end run

/-- A cache file and two answers of the manager, with interfaces that occur again. The second read comes too
late. -/
theorem interfaces_accumulate_run_answered :
    let reply (interfaces : List String) : Occurrence :=
      .reply (.ok (.obj [("Interfaces", .arr (interfaces.map .str)), ("Protocols", .obj [])]))
    let read (interfaces : List String) : Occurrence := .cacheRead (.described ⟨interfaces, ∅⟩)
    let m₀ := start "x" true (some "p")
    let occurrences : List Occurrence := [.owner none, read ["a", "b", "a"], .owner (some ":1.1"),
      read ["z"], reply ["c", "b", "c"], .owner (some ":1.2"), reply ["d", "a"]]
    (installed m₀ occurrences).map (fun n => (n.1, n.2.interfaces)) =
        [(.file, ["a", "b", "a"]), (.live, ["c", "b", "c"]), (.live, ["d", "a"])] ∧
      (m₀.run occurrences).interfaces = ["a", "b", "c", "d"] ∧
      ((m₀.run occurrences).step (read ["e"])).interfaces = ["a", "b", "c", "d"] := by
  intro reply read m₀ occurrences
  have hinstalled : (installed m₀ occurrences).map (fun n => (n.1, n.2.interfaces)) =
      [(.file, ["a", "b", "a"]), (.live, ["c", "b", "c"]), (.live, ["d", "a"])] := by decide +kernel
  obtain ⟨hall, _, _, _, _, hread, _⟩ := interfaces_accumulate_run "x" true (some "p") occurrences
  have hheld : (m₀.run occurrences).interfaces = ["a", "b", "c", "d"] := by
    refine hall.trans ?_
    decide +kernel
  refine ⟨hinstalled, hheld, ?_⟩
  exact (hread (.described ⟨["e"], ∅⟩) (.inl (by decide +kernel))).trans hheld

end Roster.Manager
