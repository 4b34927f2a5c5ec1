import Mathlib.Order.Defs.PartialOrder
import Roster.Proofs.Manager.Arrivals
import Roster.Proofs.Manager.Ending

/-!
# What is known of a manager, and what changes it

A proxy holds information about its manager (`Knowledge`): where it comes from, the protocols, and
the manager's own interfaces. Two things bring news (`news`): the answer to the call on its way, if
it can be understood, and the end of the cache read on its way, if it gives a description and
nothing is known yet. News are taken over as a whole.

* `knowledge_react`: nothing but news changes what is known, whatever the proxy reacts to.
* `knowledge_step_run`: so it is with every step of every run, also after the proxy has stopped.
* `source_le_run`: the source of what is known never decreases, as only fresher news are taken over
  (`supersedes_of_news`).
-/

namespace Roster

/-- What is known of a manager, and from where. -/
structure Knowledge where
  /-- Where it comes from. -/
  source : InfoSource
  /-- The manager's protocols. -/
  protocols : ProtocolSet
  /-- The manager's own interfaces. -/
  interfaces : List String

/-- What is known after news, if there are any: they replace the source and the protocols, and
interfaces are added. -/
def Knowledge.learn (k : Knowledge) : Option (InfoSource × Description) → Knowledge
  | none => k
  | some (source, d) =>
    { source := source
      protocols := d.protocols
      interfaces := Manager.addNew k.interfaces d.interfaces }

namespace InfoSource

instance : Preorder InfoSource where
  le_refl s := Nat.le_refl s.rank
  le_trans _ _ _ h h' := Nat.le_trans h h'

/-- Fresher information raises the source. -/
theorem le_of_supersedes {incoming current : InfoSource} (h : incoming.supersedes current = true) :
    current ≤ incoming := by
  have hle := le_merge current incoming
  rwa [merge, if_pos h] at hle

/-- Where something was known, something is known after the source has been raised. -/
theorem ne_none_of_le {a b : InfoSource} (h : a ≤ b) (ha : a ≠ .none) : b ≠ .none := by
  rintro rfl
  cases a with
  | none => exact ha rfl
  | file => exact absurd h (by decide)
  | live => exact absurd h (by decide)

end InfoSource

namespace Manager

/-- What a proxy knows of its manager. -/
def knowledge (m : Manager) : Knowledge where
  source := m.source
  protocols := m.protocols
  interfaces := m.interfaces

/-- The description in the answer to the call on its way, if it can be understood. -/
def understood (m : Manager) : Occurrence → Option Description
  | .reply answer => if m.call.isSome then (decode answer).toOption else none
  | _ => none

/-- The description that is taken over when something happens, and where it comes from: the answer
to the call on its way, or the cache file if nothing is known. -/
def news (m : Manager) (o : Occurrence) : Option (InfoSource × Description) :=
  match understood m o with
  | some d => some (.live, d)
  | none =>
    match o with
    | .cacheRead (.described d) =>
      if m.read.isSome ∧ m.source = .none then some (.file, d) else none
    | _ => none

section handlers

variable (m : Manager)

/-! ## What brings no news -/

/-- Making a step due teaches nothing. -/
@[simp] theorem knowledge_schedule (s : Deferred) : (m.schedule s).knowledge = m.knowledge := by
  unfold schedule
  split <;> rfl

/-- Answering those who wait teaches nothing. -/
@[simp] theorem knowledge_resolveReady (error : Option ManagerError) :
    (m.resolveReady error).knowledge = m.knowledge := by
  unfold resolveReady
  split
  · dsimp only
    split <;> rfl
  · rfl

/-- Ending the call on its way teaches nothing. -/
@[simp] theorem knowledge_endIntrospection (error : Option ManagerError) :
    (m.endIntrospection error).knowledge = m.knowledge := by
  unfold endIntrospection
  rw [knowledge_resolveReady]
  rfl

/-- Losing the owner teaches nothing. -/
@[simp] theorem knowledge_onNameLost : m.onNameLost.knowledge = m.knowledge := by
  have hlost : { m with running := false }.loseCall.knowledge = m.knowledge := by
    unfold loseCall
    split
    · rw [knowledge_endIntrospection]
      rfl
    · rfl
  unfold onNameLost
  dsimp only
  split
  · exact hlost
  · exact hlost

/-- Getting an owner teaches nothing. -/
@[simp] theorem knowledge_onNameGained : m.onNameGained.knowledge = m.knowledge := by
  unfold onNameGained
  rw [knowledge_schedule]
  split
  · exact knowledge_onNameLost m
  · rfl

/-- Learning the owner for the first time teaches nothing else. -/
@[simp] theorem knowledge_learnName : m.learnName.knowledge = m.knowledge := by
  unfold learnName
  split
  · rfl
  · dsimp only
    split
    · exact (knowledge_schedule _ .introspect).trans (knowledge_schedule m .readCacheFile)
    · exact knowledge_schedule m .readCacheFile

/-- A report about the owner teaches nothing else. -/
@[simp] theorem knowledge_onOwner (owner : Option String) :
    (m.onOwner owner).knowledge = m.knowledge := by
  unfold onOwner
  show (learnName _).knowledge = _
  rw [knowledge_learnName]
  split
  · exact knowledge_onNameLost m
  · exact knowledge_onNameGained m

/-- Letting someone in at the gate teaches nothing. -/
@[simp] theorem knowledge_requestReady (w : Nat) : (m.requestReady w).knowledge = m.knowledge := by
  have hprepare : ∀ n : Manager, n.prepare.knowledge = n.knowledge := by
    intro n
    unfold prepare
    split
    · rfl
    · exact knowledge_schedule n .introspect
  rcases ho : m.gate.outcome with _ | outcome
  · rw [requestReady_of_none m ho]
    split
    · rw [hprepare]
      rfl
    · rfl
  · rw [requestReady_of_some m ho]
    rfl

/-- Commands teach nothing. -/
theorem knowledge_onCommand (found : Option Path) (c : Command) :
    (m.onCommand found c).knowledge = m.knowledge := by
  cases c with
  | requestReady w => exact knowledge_requestReady m w
  | activate w =>
    show (m.activate w).knowledge = _
    unfold activate
    dsimp only
    split
    · rfl
    · split
      · rfl
      · exact knowledge_schedule m .introspect
  | setAlwaysIntrospect always =>
    show (m.setAlwaysIntrospect always).knowledge = _
    unfold setAlwaysIntrospect
    dsimp only
    split
    · exact knowledge_schedule _ .introspect
    · rfl
  | setCacheFile setting =>
    show (m.setCacheFile (setting.resolve found)).knowledge = _
    unfold setCacheFile
    dsimp only
    split
    · exact knowledge_schedule _ .readCacheFile
    · rfl
  | dispose => rfl

/-! ## What brings news -/

/-- What an answer of the manager tells is known as a whole. -/
theorem knowledge_install_live (d : Description) :
    (m.install .live d).knowledge = m.knowledge.learn (some (.live, d)) := rfl

/-- What a cache file tells is known as a whole, if nothing was known. -/
theorem knowledge_install_file (hunknown : m.source = .none) (d : Description) :
    (m.install .file d).knowledge = m.knowledge.learn (some (.file, d)) := by
  show Knowledge.mk (m.source.merge .file) _ _ = _
  rw [hunknown]
  rfl

/-- The answer to a call teaches its news. -/
theorem knowledge_onReply (answer : Except BusError Json) :
    (m.onReply answer).knowledge = m.knowledge.learn (news m (.reply answer)) := by
  rcases hcall : m.call with _ | k
  · rw [onReply_of_idle hcall]
    simp [news, understood, hcall, Knowledge.learn]
  have hsome : m.call ≠ none := by
    rw [hcall]
    simp
  rcases hdecode : decode answer with e | d
  · have hnews : news m (.reply answer) = none := by
      simp [news, understood, hcall, hdecode, Except.toOption]
    rw [onReply_of_error hsome hdecode, knowledge_endIntrospection, hnews]
    split <;> rfl
  · have hnews : news m (.reply answer) = some (.live, d) := by
      simp [news, understood, hcall, hdecode, Except.toOption]
    rw [onReply_of_ok hsome hdecode, knowledge_endIntrospection, hnews]
    exact knowledge_install_live { m with call := none } d

/-- The end of a cache read teaches its news. -/
theorem knowledge_onCacheRead (result : ReadEnd) :
    (m.onCacheRead result).knowledge = m.knowledge.learn (news m (.cacheRead result)) := by
  rcases hread : m.read with _ | k
  · rw [onCacheRead_of_idle hread]
    cases result <;> simp [news, understood, hread, Knowledge.learn]
  have hsome : m.read ≠ none := by
    rw [hread]
    simp
  cases result with
  | described d =>
    by_cases hunknown : m.source = .none
    · have hnews : news m (.cacheRead (.described d)) = some (.file, d) := by
        simp [news, understood, hread, hunknown]
      rw [onCacheRead_described hsome hunknown, knowledge_resolveReady, hnews]
      exact knowledge_install_file { m with read := none } hunknown d
    · have hnews : news m (.cacheRead (.described d)) = none := by
        simp [news, understood, hunknown]
      rw [onCacheRead_superseded hsome hunknown, hnews]
      rfl
  | failed =>
    show _ = m.knowledge
    rcases hheld : m.heldFailure with _ | e
    · rw [onCacheRead_failed hsome hheld]
      split
      · rw [knowledge_schedule]
        rfl
      · rfl
    · rw [onCacheRead_released hsome hheld, knowledge_resolveReady]
      rfl
  | cancelled =>
    rw [onCacheRead_cancelled hsome]
    rfl

end handlers

variable {m : Manager}

/-! ## Reactions, steps and runs -/

/-- **Nothing but news changes what is known**, whatever a proxy reacts to that has not stopped. -/
theorem knowledge_react (hlive : m.disposed = false) (o : Occurrence) :
    (m.react o).knowledge = m.knowledge.learn (news m o) := by
  cases o with
  | sent c =>
    rw [react_sent hlive]
    rfl
  | command found =>
    rw [react_command hlive, takeCommand]
    split
    · rfl
    · exact knowledge_onCommand _ found _
  | owner owner =>
    rw [react_owner hlive]
    split
    · exact knowledge_onOwner m owner
    · rfl
  | watchClosed =>
    rw [react_watchClosed hlive]
    split
    · unfold onWatchClosed
      dsimp only
      split
      · rfl
      · exact knowledge_onOwner _ none
    · rfl
  | reply answer =>
    rw [react_reply hlive]
    exact knowledge_onReply m answer
  | cacheRead result =>
    rw [react_cacheRead hlive]
    exact knowledge_onCacheRead m result
  | forsaken =>
    rw [react_forsaken hlive]
    rfl

/-- A proxy that has stopped learns nothing. -/
theorem knowledge_react_of_disposed (hd : m.disposed = true) (o : Occurrence) :
    (m.react o).knowledge = m.knowledge :=
  react_frame_of_disposed knowledge (fun _ _ => rfl) (fun _ _ => rfl) hd o

/-- Where nothing is on its way nothing brings news. -/
theorem news_of_idle (hcall : m.call = none) (hread : m.read = none) (o : Occurrence) :
    news m o = none := by
  cases o with
  | reply answer => simp [news, understood, hcall]
  | cacheRead result => cases result <;> simp [news, understood, hread]
  | _ => rfl

/-- The steps that are due teach nothing. -/
theorem knowledge_runDeferred (m : Manager) : m.runDeferred.knowledge = m.knowledge :=
  runDeferred_frame knowledge
    (runStep_frame _ (fun _ _ => rfl) (fun _ _ _ => rfl) (fun _ _ _ _ => rfl)) m

/-- The steps that are due leave the source as the reaction left it. -/
theorem source_step (m : Manager) (o : Occurrence) : (m.step o).source = (m.react o).source :=
  congrArg Knowledge.source (knowledge_runDeferred (m.react o))

/-- What can be understood is news, and comes from the manager itself. -/
theorem news_of_understood {o : Occurrence} {d : Description} (h : understood m o = some d) :
    news m o = some (.live, d) := by
  unfold news
  rw [h]

/-- News that are not from the manager itself come from the end of a cache read, when nothing is
known. -/
theorem news_of_not_understood {o : Occurrence} (h : understood m o = none)
    {source : InfoSource} {d : Description} (hnews : news m o = some (source, d)) :
    source = .file ∧ o = .cacheRead (.described d) ∧ m.read ≠ none ∧ m.source = .none := by
  unfold news at hnews
  rw [h] at hnews
  dsimp only at hnews
  split at hnews
  · split at hnews
    · rename_i hnew
      cases hnews
      exact ⟨rfl, rfl, Option.isSome_iff_ne_none.mp hnew.1, hnew.2⟩
    · cases hnews
  · cases hnews

/-- News may replace what is known. -/
theorem supersedes_of_news {o : Occurrence} {source : InfoSource} {d : Description}
    (h : news m o = some (source, d)) : source.supersedes m.source = true := by
  rcases hu : understood m o with _ | d'
  · obtain ⟨rfl, _, _, hunknown⟩ := news_of_not_understood hu h
    rw [hunknown]
    rfl
  · rw [news_of_understood hu] at h
    cases h
    rfl

section run

variable {busName : String} {always : Bool} {path : Option Path}

variable (busName always path) in
/-- **Nothing but news changes what is known**, in every step of every run. -/
theorem knowledge_step_run (before : List Occurrence) (o : Occurrence) :
    (((start busName always path).run before).step o).knowledge =
      ((start busName always path).run before).knowledge.learn
        (news ((start busName always path).run before) o) := by
  rw [step, knowledge_runDeferred]
  rcases hd : ((start busName always path).run before).disposed with _ | _
  · exact knowledge_react hd o
  · have hstopped := stopped_run hd
    rw [knowledge_react_of_disposed hd, news_of_idle hstopped.call hstopped.read]
    rfl

variable (busName always path) in
/-- The source of what is known never decreases. -/
theorem source_le_run (before after : List Occurrence) :
    ((start busName always path).run before).source ≤
      ((start busName always path).run (before ++ after)).source := by
  induction after using List.reverseRecOn with
  | nil => rw [List.append_nil]
  | append_singleton after o ih =>
    refine le_trans ih ?_
    rw [← List.append_assoc, run_concat]
    have hknowledge := congrArg Knowledge.source
      (knowledge_step_run busName always path (before ++ after) o)
    change Manager.source _ = _ at hknowledge
    rw [hknowledge]
    rcases hnews : news _ o with _ | ⟨source, d⟩
    · exact le_rfl
    · exact InfoSource.le_of_supersedes (supersedes_of_news hnews)

end run

end Manager

end Roster
