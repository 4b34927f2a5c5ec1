import Roster.Proofs.Manager.Knowledge
import Roster.Proofs.Manager.Underway

/-!
# Where the information comes from

What a proxy holds is nothing, or the protocols of a cache file, or those of the manager's last
answer (`Provenance`). The two last things are said about the run, not about the state:

* `latest f m occurrences`: the last thing that `f` gives in a run. The last answer that could be
  understood is `latest understood`, and `cacheFileAfter` is the cache file that was set last.
* `ReadsInEffect`: a cache read on its way reads the cache file in effect. The command that sets
  another one gives the read up, so what a read gives is never that of a file set before.

**Not said here** is what stands in the file: which description a cache read gives is up to the
reader.
-/

namespace Roster.Manager

/-! ## The last of its kind in a run -/

/-- The last thing that a function gives in the course of a run, if it gives any. -/
def latest {α : Type} (f : Manager → Occurrence → Option α) (m : Manager) :
    List Occurrence → Option α
  | [] => none
  | o :: rest => (latest f (m.step o) rest).or (f m o)

/-- The last thing in a run with one more occurrence is the one that this one gives, if it gives
one. -/
theorem latest_concat {α : Type} (f : Manager → Occurrence → Option α) (m : Manager)
    (before : List Occurrence) (o : Occurrence) :
    latest f m (before ++ [o]) = (f (m.run before) o).or (latest f m before) := by
  induction before generalizing m with
  | nil =>
    show Option.or none (f m o) = (f m o).or none
    rw [Option.none_or, Option.or_none]
  | cons first rest ih =>
    show (latest f (m.step first) (rest ++ [o])).or (f m first) = _
    rw [ih, Option.or_assoc]
    rfl

/-- The cache file that a command sets when something happens, if one does. -/
def setting (m : Manager) (o : Occurrence) : Option (Option Path) :=
  match o, m.queue with
  | .command found, .setCacheFile setting :: _ => some (setting.resolve found)
  | _, _ => none

/-- The cache file that was set last in a run, or the one from before. -/
def cacheFileAfter (m : Manager) (occurrences : List Occurrence) : Option Path :=
  (latest setting m occurrences).getD m.cachePath

/-! ## Where the information comes from -/

/-- The file that the cache read on its way reads. -/
def readingPath (m : Manager) : Option Path := m.read.bind fun k => m.readsStarted[k - 1]?

/-- Where the information that is held after a run comes from. -/
inductive Provenance (m₀ : Manager) (occurrences : List Occurrence) :
    InfoSource → ProtocolSet → Prop where
  /-- There is none. -/
  | unknown : Provenance m₀ occurrences .none ∅
  /-- From a cache read that ended well when nothing was known. The file that it read is the one
  that was set last before. -/
  | file {before after : List Occurrence} {d : Description} {p : Path}
      (hrun : occurrences = before ++ .cacheRead (.described d) :: after)
      (hunknown : (m₀.run before).source = .none)
      (hreading : (m₀.run before).readingPath = some p)
      (heffect : cacheFileAfter m₀ before = some p) :
      Provenance m₀ occurrences .file d.protocols
  /-- From the last answer of the manager that could be understood. -/
  | live {d : Description} (hlast : latest understood m₀ occurrences = some d) :
      Provenance m₀ occurrences .live d.protocols

/-- What brings no news leaves the information where it comes from. -/
theorem Provenance.concat {m₀ : Manager} {before : List Occurrence} {source : InfoSource}
    {protocols : ProtocolSet} (h : Provenance m₀ before source protocols) {o : Occurrence}
    (hnews : news (m₀.run before) o = none) :
    Provenance m₀ (before ++ [o]) source protocols := by
  cases h with
  | unknown => exact .unknown
  | @file first after d p hrun hunknown hreading heffect =>
    have hlonger : before ++ [o] = first ++ .cacheRead (.described d) :: (after ++ [o]) := by
      rw [hrun, List.append_assoc]
      rfl
    exact .file hlonger hunknown hreading heffect
  | live hlast =>
    refine .live ?_
    rw [latest_concat, hlast]
    rcases hu : understood (m₀.run before) o with _ | d'
    · rfl
    · rw [news_of_understood hu] at hnews
      cases hnews

/-! ## The cache file in effect -/

/-- A cache read that is on its way reads the cache file in effect. -/
def ReadsInEffect (m : Manager) : Prop :=
  m.read ≠ none → ∃ p, m.cachePath = some p ∧ m.readingPath = some p

variable {m : Manager}

/-- Without a command nothing is set. -/
theorem setting_of_queue_nil (hqueue : m.queue = []) (o : Occurrence) : setting m o = none := by
  unfold setting
  rw [hqueue]
  cases o <;> rfl

/-- The cache file in effect after a reaction is the one that was set just now, or else the one from
before. -/
theorem cachePath_react (hlive : m.disposed = false) (o : Occurrence) :
    (m.react o).cachePath = (setting m o).getD m.cachePath := by
  cases o with
  | command found =>
    rw [react_command hlive, takeCommand]
    unfold setting
    rcases m.queue with _ | ⟨c, rest⟩
    · rfl
    · show (onCommand _ found c).cachePath = _
      rw [cachePath_onCommand]
      cases c <;> rfl
  | _ =>
    exact ((handled_react hlive _).settings fun _ h => by cases h).1

/-- The command that sets a cache file gives the cache read up that is on its way. -/
theorem read_react_of_setting (hlive : m.disposed = false)
    (hbegin : m.nameKnown = false → m.read = none) {o : Occurrence} {path : Option Path}
    (h : setting m o = some path) : (m.react o).read = none := by
  unfold setting at h
  split at h
  · rename_i found setting rest hqueue
    rw [react_command hlive, takeCommand, hqueue]
    show (setCacheFile { m with queue := rest } (setting.resolve found)).read = none
    have hdue := (keeps_schedule
      { m with queue := rest, cachePath := setting.resolve found, read := none }
      .readCacheFile).read
    unfold setCacheFile
    dsimp only
    split
    · exact hdue
    · rename_i hunknown
      exact hbegin (Bool.eq_false_iff.mpr hunknown)
  · cases h

/-- A reaction leaves a cache read on its way only if it keeps the cache file. -/
theorem ReadsInEffect.react (h : ReadsInEffect m) (hlive : m.disposed = false)
    (hbegin : m.nameKnown = false → m.read = none) (o : Occurrence) :
    ReadsInEffect (m.react o) := by
  intro hread
  have hhandled := handled_react hlive o
  have hsame : (m.react o).read = m.read := hhandled.beginsNothing.read.resolve_left hread
  rcases hs : setting m o with _ | path
  · have hpath := cachePath_react hlive o
    rw [hs] at hpath
    obtain ⟨p, heffect, hreading⟩ := h (by rwa [hsame] at hread)
    refine ⟨p, hpath.trans heffect, ?_⟩
    unfold readingPath at hreading ⊢
    rw [hsame, hhandled.started.2]
    exact hreading
  · exact absurd (read_react_of_setting hlive hbegin hs) hread

/-- A cache read that begins reads the cache file in effect. -/
theorem ReadsInEffect.runStep (h : ReadsInEffect m) (s : Deferred) (rest : List Deferred) :
    ReadsInEffect ({ m with deferred := rest }.runStep s) := by
  cases s with
  | readCacheFile =>
    show ReadsInEffect (Manager.readCacheFile _)
    unfold Manager.readCacheFile
    split
    · exact h
    · dsimp only
      split
      · unfold Manager.schedule
        split <;> exact h
      · rename_i p hpath
        intro _
        refine ⟨p, hpath, ?_⟩
        simp [readingPath]
  | introspect =>
    show ReadsInEffect (Manager.introspect _)
    unfold Manager.introspect
    split <;> exact h

section run

variable {busName : String} {always : Bool} {path : Option Path}

/-- **A cache read on its way reads the cache file in effect**, after every run of a proxy that has
not stopped. -/
theorem readsInEffect_run {occurrences : List Occurrence}
    (hd : ((start busName always path).run occurrences).disposed = false) :
    ReadsInEffect ((start busName always path).run occurrences) := by
  induction occurrences using List.reverseRecOn with
  | nil => exact fun hread => absurd rfl hread
  | append_singleton before o ih =>
    rw [run_concat] at hd ⊢
    have hlive := disposed_of_step hd
    have hreact := (ih hlive).react hlive (fun hk => (unbegun_run hlive hk).read) o
    exact runDeferred_induct (fun n s rest _ hn => hn.runStep s rest) _ hreact

/-- The cache file in effect after a run is the one that was set last. -/
theorem cachePath_run (occurrences : List Occurrence) :
    ((start busName always path).run occurrences).cachePath =
      cacheFileAfter (start busName always path) occurrences := by
  induction occurrences using List.reverseRecOn with
  | nil => rfl
  | append_singleton before o ih =>
    have hreact : (((start busName always path).run before).react o).cachePath =
        (setting ((start busName always path).run before) o).getD
          ((start busName always path).run before).cachePath := by
      rcases hd : ((start busName always path).run before).disposed with _ | _
      · exact cachePath_react hd o
      · -- a proxy that has stopped has no command left to look at
        rw [react_frame_of_disposed Manager.cachePath (fun _ _ => rfl) (fun _ _ => rfl) hd o,
          setting_of_queue_nil (stopped_run hd).queue]
        rfl
    unfold cacheFileAfter at ih ⊢
    rw [run_concat, latest_concat, step, runDeferred_frame Manager.cachePath
      (runStep_frame _ (fun _ _ => rfl) (fun _ _ _ => rfl) (fun _ _ _ _ => rfl)), hreact, ih]
    rcases setting ((start busName always path).run before) o with _ | p
    · rfl
    · rfl

/-- **The information that is held after a run comes from where its source says.** -/
theorem provenance_of_run (occurrences : List Occurrence) :
    Provenance (start busName always path) occurrences
      ((start busName always path).run occurrences).source
      ((start busName always path).run occurrences).protocols := by
  induction occurrences using List.reverseRecOn with
  | nil => exact .unknown
  | append_singleton before o ih =>
    have hknowledge := knowledge_step_run busName always path before o
    have hsource := congrArg Knowledge.source hknowledge
    have hprotocols := congrArg Knowledge.protocols hknowledge
    change (step _ o).source = _ at hsource
    change (step _ o).protocols = _ at hprotocols
    rw [run_concat, hsource, hprotocols]
    rcases hnews : news ((start busName always path).run before) o with _ | ⟨source, d⟩
    · exact ih.concat hnews
    rcases hu : understood ((start busName always path).run before) o with _ | d'
    · obtain ⟨rfl, rfl, hread, hunknown⟩ := news_of_not_understood hu hnews
      obtain ⟨p, heffect, hreading⟩ := readsInEffect_run (live_of_read_run hread) hread
      rw [cachePath_run] at heffect
      exact .file rfl hunknown hreading heffect
    · rw [news_of_understood hu] at hnews
      cases hnews
      refine .live ?_
      rw [latest_concat, hu]
      rfl

end run

/-- **Provenance.** After every run the source and the protocols that a proxy holds are nothing at
all, or those of a cache read that ended well when nothing was known, and read the cache file that
was in effect then, or those of the last answer of the manager that could be understood. The source
never decreases. And whatever happens next, only news change what is known, the interfaces included,
and they are taken over as a whole. -/
theorem provenance_run (busName : String) (always : Bool) (path : Option Path)
    (occurrences : List Occurrence) :
    let m₀ := start busName always path
    let m := m₀.run occurrences
    Provenance m₀ occurrences m.source m.protocols ∧
      (∀ after, m.source ≤ (m.run after).source) ∧
      ∀ o, (m.step o).knowledge = m.knowledge.learn (news m o) := by
  intro m₀ m
  refine ⟨provenance_of_run occurrences, fun after => ?_,
    fun o => knowledge_step_run busName always path occurrences o⟩
  rw [← run_append]
  exact source_le_run busName always path occurrences after

/-- While the first cache file is being read another one is set, and that one is read and taken
over. -/
theorem provenance_run_reset :
    let m₀ := start "x" false (some "a")
    let before : List Occurrence := [.owner none, .sent (.setCacheFile (.path "b")), .command none]
    let d : Description := { interfaces := ["i"], protocols := ∅ }
    let m := m₀.run (before ++ [.cacheRead (.described d)])
    (m₀.run before).readsStarted = ["a", "b"] ∧ (m₀.run before).readingPath = some "b" ∧
      m.source = .file ∧ m.interfaces = ["i"] ∧
      Provenance m₀ (before ++ [.cacheRead (.described d)]) m.source m.protocols ∧
      (m.step (.cacheRead (.described { d with interfaces := ["j"] }))).knowledge = m.knowledge := by
  intro m₀ before d m
  obtain ⟨hprovenance, _, hlearn⟩ :=
    provenance_run "x" false (some "a") (before ++ [.cacheRead (.described d)])
  refine ⟨by decide +kernel, by decide +kernel, by decide +kernel, by decide +kernel, hprovenance, ?_⟩
  have hnone : news m (.cacheRead (.described { d with interfaces := ["j"] })) = none := by
    decide +kernel
  exact (hlearn (.cacheRead (.described { d with interfaces := ["j"] }))).trans
    (congrArg m.knowledge.learn hnone)

end Roster.Manager
