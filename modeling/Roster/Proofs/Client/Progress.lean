import Mathlib.Data.Nat.Pairing
import Mathlib.Data.Prod.Lex
import Mathlib.Order.WellFounded
import Roster.Proofs.Client.Listings

/-!
# A discovery comes to its end

Every turn of a discovery brings it nearer to its end (`Turn.nearer`), so it cannot take turns forever.
And as long as it is not over there is somebody whose turn it is: the discovery itself, the bus that
owes it a list, or a question that was not counted.

A schedule in which everybody gets turns is `Fair`. Then the discovery is over at some moment
(`exists_over`). The schedule says nothing of what the bus and the proxies answer, of callers, and of
what else happens in between.
-/

namespace Roster

/-! ## What is left to do -/

/-- What a discovery has to do at its stage; everyone who has to be asked has to answer as well. -/
def DiscoveryStage.pending : DiscoveryStage → Nat
  | collecting _ busNames => busNames.length
  | asking proxies _ => 2 * proxies.length
  | _ => 0

/-- Whether a discovery can do something by itself. -/
def Discovery.canGoOn (d : Discovery) : Bool :=
  match d.stage with
  | .start | .collecting _ _ | .asking _ _ => true
  | .waiting _ => d.isAnswered
  | .listing _ _ _ | .done _ => false

namespace Client

/-- What is left to do for a discovery: first by stages, and then at the stage where it is. -/
def View.toGo (v : View) : ℕ ×ₗ ℕ :=
  toLex (7 - v.discovery.stage.rank, v.discovery.stage.pending + v.missing)

section turns

variable {c c' : Client} {id : Nat} {v v' : View} {a : Action}

/-- Less is left at a later stage. -/
theorem toGo_lt_of_rank (h : v.discovery.stage.rank < v'.discovery.stage.rank) :
    v'.toGo < v.toGo := by
  have hlast := rank_le v'.discovery.stage
  exact Prod.Lex.toLex_lt_toLex.mpr (.inl (by dsimp only; omega))

/-- Less is left where there is less to do, at the same stage or a later one. -/
theorem toGo_lt_of_pending (hrank : v.discovery.stage.rank ≤ v'.discovery.stage.rank)
    (hpending : v'.discovery.stage.pending + v'.missing < v.discovery.stage.pending + v.missing) :
    v'.toGo < v.toGo := by
  rcases Nat.lt_or_eq_of_le hrank with hlater | hsame
  · exact toGo_lt_of_rank hlater
  · exact Prod.Lex.toLex_lt_toLex.mpr (.inr ⟨by dsimp only; rw [hsame], hpending⟩)

/-- An answer leaves the discovery with what it has to do by itself. -/
theorem pending_arrive (d : Discovery) : d.arrive.stage.pending = d.stage.pending := by
  refine d.arrive_induct (P := fun d' => d'.stage.pending = d.stage.pending)
    (fun rest countdown countdown' hstage => ?_) (fun countdown countdown' hstage => ?_) rfl
  · rw [hstage]
    rfl
  · rw [hstage]
    rfl

/-- A discovery for which everyone has answered has waited for that. -/
theorem rank_of_isAnswered {d : Discovery} (h : d.isAnswered = true) : d.stage.rank = 6 := by
  obtain ⟨countdown, hstage⟩ := Discovery.exists_waiting_of_isAnswered h
  rw [hstage]
  rfl

/-- **Every turn of a discovery brings it nearer to its end.** -/
theorem Turn.nearer (h : Turn c c' id v a v') : v' = v ∨ v'.toGo < v.toGo := by
  cases h with
  | rests a => exact .inl rfl
  | hears which due timely answer hstage =>
    exact .inr (toGo_lt_of_rank (rank_hear hstage _ answer))
  | asks which due timely hstage =>
    refine .inr (toGo_lt_of_rank ?_)
    rcases hstage with ⟨hstage, rfl⟩ | ⟨hstage, rfl⟩
    · rw [hstage]
      exact Nat.lt_succ_self 0
    · rw [hstage]
      exact Nat.lt_succ_self 2
  | passes which busName rest hstage hold =>
    refine .inr (toGo_lt_of_pending ?_ ?_)
    · rw [hstage]
      cases which <;> exact Nat.le_refl _
    · rw [hstage]
      simp [DiscoveryStage.pending]
  | finds which busName rest name hstage hname hnew hkept =>
    refine .inr (toGo_lt_of_pending ?_ ?_)
    · rw [hstage]
      cases which <;> exact Nat.le_refl _
    · rw [hstage]
      simp [DiscoveryStage.pending]
  | counts hstage =>
    refine .inr (toGo_lt_of_rank ?_)
    rw [hstage]
    exact Nat.lt_succ_self 4
  | questions proxy rest countdown hstage =>
    refine .inr (toGo_lt_of_pending ?_ ?_)
    · rw [hstage]
      exact Nat.le_refl _
    · rw [hstage]
      simp only [DiscoveryStage.pending, List.length_cons]
      omega
  | waits countdown hstage =>
    refine .inr (toGo_lt_of_rank ?_)
    rw [hstage]
    exact Nat.lt_succ_self 5
  | arrives i missing hmissing =>
    refine .inr (toGo_lt_of_pending (later_arrive _).rank ?_)
    dsimp only
    rw [pending_arrive]
    omega
  | concludes hanswered =>
    refine .inr (toGo_lt_of_rank ?_)
    rw [rank_of_isAnswered hanswered]
    exact Nat.lt_succ_self 6

/-! ## Whose turn it is -/

/-- A discovery that can do something by itself does something when it is its turn. -/
theorem isSome_ownStep? {d : Discovery} (hd : c.discoveries[id]? = some d)
    (hcan : d.canGoOn = true) : (c.ownStep? id).isSome := by
  rw [Discovery.canGoOn] at hcan
  rw [ownStep?, hd]
  dsimp only
  cases hstage : d.stage with
  | start => rfl
  | listing which due timely =>
    rw [hstage] at hcan
    cases hcan
  | collecting which busNames =>
    cases busNames with
    | cons busName rest => rfl
    | nil => cases which <;> rfl
  | asking proxies countdown => cases proxies <;> rfl
  | waiting countdown =>
    rw [hstage] at hcan
    dsimp only at hcan ⊢
    rw [if_pos hcan]
    rfl
  | done outcome =>
    rw [hstage] at hcan
    cases hcan

/-- What a discovery does by itself brings it to another stage, or on at the stage where it is. -/
theorem OwnStep.stage_ne {d : Discovery} (h : OwnStep c id d c') (hd : c.discoveries[id]? = some d) :
    ∃ d', c'.discoveries[id]? = some d' ∧ d'.stage ≠ d.stage := by
  obtain ⟨hlt, _⟩ := List.getElem?_eq_some_iff.mp hd
  have hset : ∀ {d'}, c'.core.discoveries = c.discoveries.set id d' →
      c'.discoveries[id]? = some d' := by
    intro d' hdiscoveries
    show c'.core.discoveries[id]? = some d'
    rw [hdiscoveries, List.getElem?_set_self hlt]
  cases h with
  | asks which due timely hstage hcore =>
    refine ⟨_, hset (congrArg Core.discoveries hcore), fun hsame => ?_⟩
    rcases hstage with ⟨hstage, _⟩ | ⟨hstage, _⟩
    · exact absurd (hsame.trans hstage) (by simp)
    · exact absurd (hsame.trans hstage) (by simp)
  | passes which busName rest hstage hold hcore =>
    refine ⟨_, hset (congrArg Core.discoveries hcore), fun hsame => ?_⟩
    exact absurd (hsame.trans hstage) (by simp)
  | finds which busName rest name hstage hname hnew hcore =>
    have hdiscoveries := congrArg Core.discoveries hcore
    rw [Core.withDiscovery] at hdiscoveries
    dsimp only at hdiscoveries
    rw [(gives_getManager c name .search).view.1] at hdiscoveries
    refine ⟨_, hset hdiscoveries, fun hsame => ?_⟩
    exact absurd (hsame.trans hstage) (by simp)
  | counts hstage hcore =>
    refine ⟨_, hset (congrArg Core.discoveries hcore), fun hsame => ?_⟩
    exact absurd (hsame.trans hstage) (by simp)
  | questions proxy rest countdown hstage hcore =>
    refine ⟨_, hset (congrArg Core.discoveries hcore), fun hsame => ?_⟩
    exact absurd (hsame.trans hstage) (by simp)
  | waits countdown hstage hcore =>
    refine ⟨_, hset (congrArg Core.discoveries hcore), fun hsame => ?_⟩
    exact absurd (hsame.trans hstage) (by simp)
  | concludes hanswered hcore =>
    refine ⟨_, hset (congrArg Core.discoveries hcore), fun hsame => ?_⟩
    have hrank := rank_of_isAnswered hanswered
    rw [← hsame] at hrank
    cases hrank

/-! ## Questions that are not counted -/

section question

variable {i : Nat} {q : Question}

/-- A question that was not sent is sent when it is its turn. -/
theorem questions_act_of_unsent (hq : c.questions[i]? = some q) (hmissing : q.counted = false)
    (hunsent : q.waiter = none) :
    (c.act (.question i)).questions[i]? = some { q with waiter := some c.waiters } := by
  have hstep : c.questionStep? i = some (c.sendQuestion i q) := by
    rw [questionStep?, hq, Option.filter_some, if_pos (by rw [hmissing]; rfl)]
    dsimp only
    rw [hunsent]
  obtain ⟨q', hq', _, hquestion⟩ := questionStep_of_eq_some hstep
  obtain rfl := Option.some.inj (hq.symm.trans hq')
  show ((c.questionStep? i).getD c).core.questions[i]? = _
  rw [hstep, Option.getD_some]
  cases hquestion with
  | sends _ hcore =>
    rw [hcore]
    exact List.getElem?_set_self (List.getElem?_eq_some_iff.mp hq).1
  | counts waiter hsent hanswer hcore =>
    rw [hunsent] at hsent
    cases hsent

/-- A question whose answer is there is counted when it is its turn. -/
theorem questions_act_of_answered (hq : c.questions[i]? = some q) (hmissing : q.counted = false)
    {waiter : Nat} (hsent : q.waiter = some waiter)
    (hanswer : (c.answer? q.proxy waiter).isSome) :
    (c.act (.question i)).questions[i]? = some { q with counted := true } := by
  have hstep : c.questionStep? i = some (c.countAnswer i q) := by
    rw [questionStep?, hq, Option.filter_some, if_pos (by rw [hmissing]; rfl)]
    dsimp only
    rw [hsent]
    exact if_pos hanswer
  obtain ⟨q', hq', _, hquestion⟩ := questionStep_of_eq_some hstep
  obtain rfl := Option.some.inj (hq.symm.trans hq')
  show ((c.questionStep? i).getD c).core.questions[i]? = _
  rw [hstep, Option.getD_some]
  cases hquestion with
  | sends hunsent hcore =>
    rw [hsent] at hunsent
    cases hunsent
  | counts _ _ _ hcore =>
    rw [hcore]
    exact List.getElem?_set_self (List.getElem?_eq_some_iff.mp hq).1

end question

/-- A question goes on as `q` was, and was not counted. -/
structure Pending (c : Client) (i : Nat) (q q' : Question) : Prop where
  /-- It is what the question has become. -/
  question : c.questions[i]? = some q'
  /-- It was not counted. -/
  missing : q'.counted = false
  /-- It is for the same discovery. -/
  discovery : q'.discovery = q.discovery
  /-- It is to the same proxy. -/
  proxy : q'.proxy = q.proxy
  /-- It keeps its number. -/
  waiter : ∀ w, q.waiter = some w → q'.waiter = some w

/-- A question is not counted unless the count goes down. -/
theorem Effect.pending {q : Question} {i : Nat} (h : Effect c c' a) (hq : c.questions[i]? = some q)
    (hmissing : q.counted = false) :
    (∃ q', Pending c' i q q') ∨
      missing c'.questions q.discovery < missing c.questions q.discovery := by
  have hsame : c'.core.questions[i]? = some q → ∃ q', Pending c' i q q' :=
    fun hq' => ⟨q, hq', hmissing, rfl, rfl, fun _ hw => hw⟩
  cases h with
  | nothing _ hdiscoveries hquestions =>
    rw [← hquestions] at hq
    exact .inl (hsame hq)
  | begins label caller callback hdiscoveries hquestions =>
    rw [← hquestions] at hq
    exact .inl (hsame hq)
  | hears j d which due timely answer hd hstage hcore =>
    rw [hcore] at hsame
    exact .inl (hsame hq)
  | own j d hd hown =>
    cases hown with
    | finds which busName rest name hstage hname hnew hcore =>
      rw [hcore] at hsame
      rw [← (gives_getManager c name .search).view.2] at hq
      exact .inl (hsame hq)
    | questions proxy rest countdown hstage hcore =>
      rw [hcore] at hsame
      refine .inl (hsame ?_)
      rw [List.getElem?_append_left (List.getElem?_eq_some_iff.mp hq).1]
      exact hq
    | asks which due timely hstage hcore
    | passes which busName rest hstage hold hcore
    | counts hstage hcore
    | waits countdown hstage hcore
    | concludes hanswered hcore =>
      rw [hcore] at hsame
      exact .inl (hsame hq)
  | question j q₁ hq₁ hmissing₁ hquestion =>
    have hlt := (List.getElem?_eq_some_iff.mp hq).1
    by_cases hj : j = i
    · subst hj
      obtain rfl := Option.some.inj (hq.symm.trans hq₁)
      cases hquestion with
      | sends hunsent hcore =>
        refine .inl ⟨{ q with waiter := some c.waiters }, ?_, hmissing, rfl, rfl, fun w hw => ?_⟩
        · show c'.core.questions[j]? = _
          rw [hcore]
          exact List.getElem?_set_self hlt
        · rw [hunsent] at hw
          cases hw
      | counts waiter hsent hanswer hcore =>
        have hcount := missing_set_counted hq hmissing q.discovery
        rw [if_pos rfl] at hcount
        refine .inr ?_
        show missing c'.core.questions _ < _
        rw [hcore]
        dsimp only
        omega
    · refine .inl (hsame ?_)
      cases hquestion with
      | sends hunsent hcore =>
        rw [hcore]
        exact (List.getElem?_set_ne hj).trans hq
      | counts waiter hsent hanswer hcore =>
        rw [hcore]
        exact (List.getElem?_set_ne hj).trans hq

end turns

/-! ## Schedules -/

section schedule

variable (setup : Setup) (tree : FileTree) (actions : List Action) (next : Nat → Action)

/-- A run that goes on with so many actions of a schedule. -/
def history (n : Nat) : List Action := actions ++ (List.range n).map next

/-- The client when, after a run, so many actions of a schedule have happened. -/
def moment (n : Nat) : Client := (start setup tree).run (history actions next n)

/-- A schedule in which everybody whom a discovery depends on gets turns, and in which the bus and the
proxies answer. -/
structure Fair (id : Nat) : Prop where
  /-- The discovery gets a turn again and again. -/
  discovery : ∀ n, ∃ m, n ≤ m ∧ next m = .discovery id
  /-- Every question gets a turn again and again. -/
  question : ∀ i n, ∃ m, n ≤ m ∧ next m = .question i
  /-- The bus gives a list that is awaited, or an error. -/
  list : ∀ n which d, Awaits (moment setup tree actions next n) id which d →
    ∃ m answer, n ≤ m ∧ next m = .list id answer
  /-- A proxy that was asked answers. -/
  answer : ∀ n, ∀ q ∈ (moment setup tree actions next n).questions, q.discovery = id →
    ∀ waiter, q.waiter = some waiter →
      ∃ m, ((moment setup tree actions next m).answer? q.proxy waiter).isSome

variable {setup tree actions next}

/-- One action later. -/
theorem moment_succ (n : Nat) :
    moment setup tree actions next (n + 1) = (moment setup tree actions next n).act (next n) := by
  rw [moment, history, List.range_succ, List.map_append, List.map_singleton, ← List.append_assoc,
    run_concat]
  rfl

/-- Later moments come by going on. -/
theorem moment_of_le {n m : Nat} (h : n ≤ m) : ∃ later, moment setup tree actions next m =
    (start setup tree).run (history actions next n ++ later) := by
  induction m, h using Nat.le_induction with
  | base => exact ⟨[], by rw [List.append_nil, moment]⟩
  | succ m _ ih =>
    obtain ⟨later, hlater⟩ := ih
    refine ⟨later ++ [next m], ?_⟩
    rw [moment_succ, hlater, ← List.append_assoc, run_concat]

/-- An answer that is there stays. -/
theorem isSome_answer?_of_le {n m proxy waiter : Nat} (h : n ≤ m)
    (hanswer : ((moment setup tree actions next n).answer? proxy waiter).isSome) :
    ((moment setup tree actions next m).answer? proxy waiter).isSome := by
  obtain ⟨outcome, houtcome⟩ := Option.isSome_iff_exists.mp hanswer
  obtain ⟨later, hlater⟩ := @moment_of_le setup tree actions next n m h
  rw [hlater, (goesOn_run setup tree _ later).answer? (lived_run setup tree _) houtcome]
  rfl

variable {id n : Nat} {v : View}

/-- At every later moment a discovery is as it was or nearer to its end. -/
theorem nearer_of_le (hv : (moment setup tree actions next n).view? id = some v) {m : Nat}
    (h : n ≤ m) : ∃ v', (moment setup tree actions next m).view? id = some v' ∧
      (v' = v ∨ v'.toGo < v.toGo) := by
  induction m, h using Nat.le_induction with
  | base => exact ⟨v, hv, .inl rfl⟩
  | succ m _ ih =>
    obtain ⟨v', hv', hnearer⟩ := ih
    obtain ⟨v'', hv'', hturn⟩ := turn_act hv' (next m)
    rw [← moment_succ] at hv''
    refine ⟨v'', hv'', ?_⟩
    rcases hturn.nearer with rfl | hless
    · exact hnearer
    · rcases hnearer with rfl | hless'
      · exact .inr hless
      · exact .inr (hless.trans hless')

/-! ## Nothing stays as it is -/

section stays

variable (hfair : Fair setup tree actions next id)
  (hstays : ∀ m, n ≤ m → (moment setup tree actions next m).view? id = some v)

include hstays

/-- What is seen of a discovery is the discovery. -/
theorem discovery_of_stays {m : Nat} (h : n ≤ m) :
    (moment setup tree actions next m).discoveries[id]? = some v.discovery ∧
      missing (moment setup tree actions next m).questions id = v.missing := by
  obtain ⟨d, hd, rfl⟩ := Option.map_eq_some_iff.mp (hstays m h)
  exact ⟨hd, rfl⟩

/-- A question that is not counted stays so. -/
theorem pending_of_stays {i : Nat} {q : Question}
    (hq : (moment setup tree actions next n).questions[i]? = some q) (hmissing : q.counted = false)
    (hid : q.discovery = id) {m : Nat} (h : n ≤ m) :
    ∃ q', Pending (moment setup tree actions next m) i q q' := by
  induction m, h using Nat.le_induction with
  | base => exact ⟨q, hq, hmissing, rfl, rfl, fun _ hw => hw⟩
  | succ m hm ih =>
    obtain ⟨q', hq'⟩ := ih
    have heffect := (happens_act _ (next m)).effect.pending hq'.question hq'.missing
    rw [← moment_succ, hq'.discovery, hid, (discovery_of_stays hstays hm).2,
      (discovery_of_stays hstays (Nat.le_succ_of_le hm)).2] at heffect
    obtain ⟨q'', hq''⟩ := heffect.resolve_right (Nat.lt_irrefl _)
    exact ⟨q'', hq''.question, hq''.missing, hq''.discovery.trans hq'.discovery,
      hq''.proxy.trans hq'.proxy, fun w hw => hq''.waiter w (hq'.waiter w hw)⟩

include hfair

/-- A discovery that can do something by itself does not stay as it is. -/
theorem not_canGoOn_of_stays : v.discovery.canGoOn = false := by
  rw [← Bool.not_eq_true]
  intro hcan
  obtain ⟨m, hm, hnext⟩ := hfair.discovery n
  obtain ⟨hd, _⟩ := discovery_of_stays hstays hm
  obtain ⟨c', hstep⟩ := Option.isSome_iff_exists.mp (isSome_ownStep? hd hcan)
  obtain ⟨d, hd', hown⟩ := ownStep_of_eq_some hstep
  obtain ⟨d', hnew, hne⟩ := hown.stage_ne hd'
  have hact : moment setup tree actions next (m + 1) = c' := by
    rw [moment_succ, hnext, act, hstep]
    rfl
  rw [← hact, (discovery_of_stays hstays (Nat.le_succ_of_le hm)).1] at hnew
  rw [hd] at hd'
  cases hd'
  cases hnew
  exact hne rfl

/-- A discovery that awaits a list does not stay as it is. -/
theorem not_listing_of_stays {which : Listing} {due : Nat} {timely : Bool} :
    v.discovery.stage ≠ .listing which due timely := by
  intro hstage
  obtain ⟨hd, _⟩ := discovery_of_stays hstays (Nat.le_refl n)
  obtain ⟨m, answer, hm, hnext⟩ := hfair.list n which v.discovery ⟨hd, due, timely, hstage⟩
  obtain ⟨hd', _⟩ := discovery_of_stays hstays hm
  have hheard := Awaits.discoveries ⟨hd', due, timely, hstage⟩ answer
  rw [← hnext, ← moment_succ, (discovery_of_stays hstays (Nat.le_succ_of_le hm)).1] at hheard
  have hfurther := rank_hear hstage
    ((moment setup tree actions next m).callerAlive v.discovery.caller) answer
  rw [← Option.some.inj hheard] at hfurther
  exact Nat.lt_irrefl _ hfurther

/-- A discovery with a question that is not counted does not stay as it is. -/
theorem counted_of_stays {i : Nat} {q : Question}
    (hq : (moment setup tree actions next n).questions[i]? = some q) (hid : q.discovery = id) :
    q.counted = true := by
  rw [← Bool.not_eq_false]
  intro hmissing
  have hpending : ∀ {m}, n ≤ m → ∃ q', Pending (moment setup tree actions next m) i q q' :=
    fun h => pending_of_stays hstays hq hmissing hid h
  -- it is sent when it is its turn, unless it was sent before
  have hsent : ∃ m q' waiter, n ≤ m ∧ Pending (moment setup tree actions next m) i q q' ∧
      q'.waiter = some waiter := by
    obtain ⟨m, hm, hnext⟩ := hfair.question i n
    obtain ⟨q', hq'⟩ := hpending hm
    rcases hwaiter : q'.waiter with _ | waiter
    · obtain ⟨q'', hq''⟩ := hpending (Nat.le_succ_of_le hm)
      have hturn := questions_act_of_unsent hq'.question hq'.missing hwaiter
      rw [← hnext, ← moment_succ, hq''.question] at hturn
      exact ⟨m + 1, q'', _, Nat.le_succ_of_le hm, hq'', congrArg Question.waiter
        (Option.some.inj hturn)⟩
    · exact ⟨m, q', waiter, hm, hq', hwaiter⟩
  obtain ⟨m, q', waiter, hm, hq', hwaiter⟩ := hsent
  -- then its answer comes, and it is counted when it is its turn again
  obtain ⟨m', hanswer⟩ := hfair.answer m q' (List.mem_of_getElem? hq'.question)
    (hq'.discovery.trans hid) waiter hwaiter
  obtain ⟨k, hk, hnext⟩ := hfair.question i (max m m')
  have hmk : m ≤ k := Nat.le_trans (Nat.le_max_left m m') hk
  obtain ⟨q₁, hq₁⟩ := pending_of_stays (fun k hk => hstays k (Nat.le_trans hm hk)) hq'.question
    hq'.missing (hq'.discovery.trans hid) hmk
  have hturn := questions_act_of_answered hq₁.question hq₁.missing (hq₁.waiter waiter hwaiter)
    (hq₁.proxy ▸ isSome_answer?_of_le (Nat.le_trans (Nat.le_max_right m m') hk) hanswer)
  obtain ⟨q₂, hq₂⟩ := hpending (Nat.le_succ_of_le (Nat.le_trans hm hmk))
  rw [← hnext, ← moment_succ, hq₂.question] at hturn
  have hcounted := hq₂.missing
  rw [Option.some.inj hturn] at hcounted
  cases hcounted

/-- A discovery that stays as it is has come to its end. -/
theorem over_of_stays : ∃ outcome, v.discovery.stage = .done outcome := by
  have hview := hstays n (Nat.le_refl n)
  have hfanIn : FanIn v := fanIn_run hview
  have hcan := not_canGoOn_of_stays hfair hstays
  rw [Discovery.canGoOn] at hcan
  cases hstage : v.discovery.stage with
  | done outcome => exact ⟨outcome, rfl⟩
  | listing which due timely => exact absurd hstage (not_listing_of_stays hfair hstays)
  | waiting countdown =>
    rw [hstage] at hcan
    dsimp only at hcan
    -- somebody is missing, whose answer is counted sooner or later
    have hpos : 0 < missing (moment setup tree actions next n).questions id := by
      rw [(discovery_of_stays hstays (Nat.le_refl n)).2, Nat.pos_iff_ne_zero]
      intro hzero
      rw [hfanIn.isAnswered_iff.mpr ⟨⟨countdown, hstage⟩, hzero⟩] at hcan
      cases hcan
    obtain ⟨q, hq, hmissing⟩ := List.countP_pos_iff.mp hpos
    rw [Bool.and_eq_true, decide_eq_true_iff] at hmissing
    obtain ⟨i, hi⟩ := List.getElem?_of_mem hq
    have hcounted := counted_of_stays hfair hstays hi hmissing.1
    rw [hcounted] at hmissing
    cases hmissing.2
  | _ =>
    rw [hstage] at hcan
    cases hcan

end stays

/-- **In a fair schedule every discovery is over at some moment.** -/
theorem exists_over (hfair : Fair setup tree actions next id)
    (hv : (moment setup tree actions next n).view? id = some v) :
    ∃ m d outcome, n ≤ m ∧ (moment setup tree actions next m).discoveries[id]? = some d ∧
      d.stage = .done outcome := by
  -- by induction on what is left to do
  induction htoGo : v.toGo using WellFoundedLT.induction generalizing n v with
  | ind toGo ih =>
    by_cases hstays : ∀ m, n ≤ m → (moment setup tree actions next m).view? id = some v
    · obtain ⟨outcome, hover⟩ := over_of_stays hfair hstays
      exact ⟨n, v.discovery, outcome, Nat.le_refl n,
        (discovery_of_stays hstays (Nat.le_refl n)).1, hover⟩
    · push Not at hstays
      obtain ⟨m, hm, hchanged⟩ := hstays
      obtain ⟨v', hv', hnearer⟩ := nearer_of_le hv hm
      have hless : v'.toGo < toGo := by
        rw [← htoGo]
        refine hnearer.resolve_left fun hsame => hchanged ?_
        rw [hv', hsame]
      obtain ⟨k, d, outcome, hk, hd, hover⟩ := ih v'.toGo hless hv' rfl
      exact ⟨k, d, outcome, Nat.le_trans hm hk, hd, hover⟩

/-! ## There are fair schedules -/

/-- A proxy that was asked and has stopped has answered. -/
theorem AskedAs.isSome_answer? {c : Client} {proxy waiter : Nat} (h : AskedAs c proxy waiter)
    (hstopped : ∀ name m, c.known? proxy = some (name, m) → m.disposed = true) :
    (c.answer? proxy waiter).isSome := by
  obtain ⟨name, m, occurrences, hm, ⟨⟨path, hrun⟩, _⟩, hasked⟩ := h
  have hmem : waiter ∈ m.answers.map Prod.fst := by
    -- nobody is in the queue or parked any more
    have hplaces := @Manager.places_run (c.setup.config.busName name)
      c.setup.config.alwaysIntrospect path occurrences waiter
    have hempty := Manager.stopped_run (hrun ▸ hstopped name m hm)
    rw [Manager.places, hempty.queue, hempty.waiters, ← hrun] at hplaces
    rw [← List.count_pos_iff] at hasked ⊢
    rw [← hplaces] at hasked
    simpa [Manager.requests] using hasked
  obtain ⟨p, hp, hsame⟩ := Option.map_eq_some_iff.mp hm
  obtain ⟨_, rfl⟩ := Prod.mk.inj hsame
  obtain ⟨e, he, rfl⟩ := List.mem_map.mp hmem
  rw [answer?, hp, Option.bind_some, List.lookup_isSome_iff]
  exact ⟨e, he, beq_self_eq_true _⟩

/-- A proxy that is forsaken has stopped. -/
theorem disposed_of_forsaken (m : Manager) : (m.step .forsaken).disposed = true := by
  rw [Manager.disposed_step]
  rcases hd : m.disposed with _ | _
  · rw [Manager.react, hd]
    rfl
  · exact Manager.disposed_react hd .forsaken

/-- A schedule in which everybody gets turns, the bus has no names to give, and all proxies are
stopped. -/
def stopping (id n : Nat) : Action :=
  match n % 4 with
  | 0 => .discovery id
  | 1 => .list id (.ok [])
  | 2 => .question (n / 4).unpair.1
  | _ => .proxy (n / 4).unpair.1 .forsaken fun _ h => by cases h

/-- **After every run there is a fair schedule.** -/
theorem fair_stopping (setup : Setup) (tree : FileTree) (actions : List Action) (id : Nat) :
    Fair setup tree actions (stopping id) id where
  discovery n := by
    refine ⟨4 * n, by omega, ?_⟩
    rw [stopping, Nat.mul_mod_right]
    rfl
  list n which d _ := by
    refine ⟨4 * n + 1, .ok [], by omega, ?_⟩
    rw [stopping, Nat.mul_add_mod]
    rfl
  question i n := by
    have hle := Nat.right_le_pair i n
    refine ⟨4 * Nat.pair i n + 2, by omega, ?_⟩
    rw [stopping, Nat.mul_add_mod, show (4 * Nat.pair i n + 2) / 4 = Nat.pair i n by omega,
      Nat.unpair_pair]
    rfl
  answer n q hq _ waiter hwaiter := by
    have hle := Nat.right_le_pair q.proxy n
    -- the proxy is stopped at this moment
    let k := 4 * Nat.pair q.proxy n + 3
    have hnext : moment setup tree actions (stopping id) (k + 1) =
        (moment setup tree actions (stopping id) k).happen q.proxy .forsaken := by
      rw [moment_succ, stopping, Nat.mul_add_mod,
        show k / 4 = Nat.pair q.proxy n by omega, Nat.unpair_pair]
      rfl
    obtain ⟨later, hlater⟩ := @moment_of_le setup tree actions (stopping id) n (k + 1) (by omega)
    have hasked : AskedAs (moment setup tree actions (stopping id) (k + 1)) q.proxy waiter := by
      rw [hlater]
      exact ((sound_questions_run setup tree _ q hq).sent waiter hwaiter).goesOn
        (goesOn_run setup tree _ later)
    refine ⟨k + 1, hasked.isSome_answer? fun name m hm => ?_⟩
    rw [hnext, known?_happen] at hm
    obtain ⟨p, _, hp⟩ := Option.map_eq_some_iff.mp hm
    obtain ⟨_, rfl⟩ := Prod.mk.inj hp
    exact disposed_of_forsaken p.2

end schedule

end Client

end Roster
