import Mathlib.Data.List.Chain
import Mathlib.Data.List.Nodup
import Mathlib.Data.List.Range
import Roster.Proofs.Bus.Watches

/-!
# What a watch was told is the history of the owner

Everything that a watch was ever told, whether it was taken out since or not, is the owner that its
name had when the watch began, followed by every later change of that owner (`changes`), each told once
and in order. That holds as long as the watch is neither cancelled nor let go of, whatever else is done
with the bus.

* `owning_use`: all that a use of a bus can do to owners. It is an alteration of one name (`Alters`) or
  none at all, and every new owner has the next unique name.
* `Listens.use`: a use tells a watch exactly the change that it makes.
* `given_eq`: the unique names that owners get count up.

`history_run` puts these together for every run of a bus.
-/

namespace Roster.Bus

/-- The unique name that a bus gives as the one of this number. -/
def uniqueName (n : Nat) : String := ":1." ++ toString n

/-- Unique names of different numbers are different. -/
theorem uniqueName_injective : Function.Injective uniqueName := by
  intro n m h
  have hdigits : Nat.toDigits 10 n = Nat.toDigits 10 m :=
    String.ofList_inj.mp ((String.append_right_inj _).mp h)
  rw [← Nat.ofDigitChars_ten_toDigits (n := n), ← Nat.ofDigitChars_ten_toDigits (n := m), hdigits]

/-- What alters the owner of a name: giving it one, taking away the one that it has, and the call that
starts its service. -/
inductive Alters (bus : Bus) (busName : String) : Use → Prop where
  /-- The name gets a new owner. -/
  | gains : Alters bus busName (.setOwner busName)
  /-- The owner of the name goes. -/
  | loses (howned : (bus.owner? busName).isSome) : Alters bus busName (.release busName)
  /-- A call for all properties starts the service of a name that nobody owns, and is answered. -/
  | starts (c : MethodCall) (service : Service) (reply : Json) (hdestination : c.destination = busName)
      (hgetAll : c.isGetAll = true) (hunowned : bus.owner? busName = none)
      (hservice : bus.services.get? busName = some service)
      (hactivatable : service.activatable = true) (hanswer : service.answer = .ok reply) :
      Alters bus busName (.call c)

variable {bus bus' : Bus}

/-- A call alters an owner if it finds everything that a start needs. -/
theorem alters_call_iff (c : MethodCall) :
    bus.Alters c.destination (.call c) ↔ c.isGetAll = true ∧ bus.owner? c.destination = none ∧
      ∃ service, bus.services.get? c.destination = some service ∧ service.activatable = true ∧
        ∃ reply, service.answer = .ok reply := by
  constructor
  · rintro (_ | _ | ⟨_, service, reply, _, hgetAll, hunowned, hservice, hactivatable, hanswer⟩)
    exact ⟨hgetAll, hunowned, service, hservice, hactivatable, reply, hanswer⟩
  · rintro ⟨hgetAll, hunowned, service, hservice, hactivatable, reply, hanswer⟩
    exact .starts c service reply rfl hgetAll hunowned hservice hactivatable hanswer

/-- **A call** is counted and nothing else, or it starts its service and is answered. -/
theorem call_alters (bus : Bus) (c : MethodCall) :
    (bus.call c).1 = bus.countCall c.destination ∧ ¬ bus.Alters c.destination (.call c) ∨
      (bus.call c).1 = ((bus.countCall c.destination).setOwner c.destination).1 ∧
        bus.Alters c.destination (.call c) ∧ ∃ reply, (bus.call c).2.value = .ok reply := by
  have howner : (bus.countCall c.destination).owners.contains c.destination =
      (bus.owner? c.destination).isSome := rfl
  have hservices : (bus.countCall c.destination).services = bus.services := rfl
  rw [alters_call_iff]
  unfold Bus.call
  dsimp only
  rw [hservices, howner]
  split
  · rename_i hnone
    exact .inl ⟨rfl, by simp [hnone]⟩
  · rename_i service hservice
    split
    · rename_i hother
      exact .inl ⟨rfl, by simp_all⟩
    · split
      · rename_i howned
        exact .inl ⟨rfl, by simp [Option.isSome_iff_ne_none.mp howned]⟩
      · split
        · rename_i hdormant
          exact .inl ⟨rfl, by simp_all⟩
        · split
          · rename_i e herror
            exact .inl ⟨rfl, by simp_all⟩
          · rename_i hgetAll hunowned hactivatable _ reply hreply
            refine .inr ⟨rfl, ⟨?_, ?_, service, hservice, ?_, reply, hreply⟩, reply, hreply⟩
            · simpa using hgetAll
            · simpa using hunowned
            · simpa using hactivatable

/-! ## Owners -/

/-- All that a use of a bus can do to owners. -/
inductive Owning (bus : Bus) (use : Use) : Prop where
  /-- It leaves them as they are. -/
  | keeps (howners : (use.apply bus).owners = bus.owners)
      (hnames : (use.apply bus).uniqueNames = bus.uniqueNames)
      (halters : ∀ name, ¬ bus.Alters name use)
  /-- It gives a name a new owner, which has the next unique name. -/
  | gives (busName : String)
      (howners : (use.apply bus).owners =
        bus.owners.insert busName (uniqueName (bus.uniqueNames + 1)))
      (hnames : (use.apply bus).uniqueNames = bus.uniqueNames + 1)
      (halters : ∀ name, bus.Alters name use ↔ name = busName)
  /-- It takes the owner of a name away. -/
  | takes (busName : String) (howned : (bus.owner? busName).isSome)
      (howners : (use.apply bus).owners = bus.owners.erase busName)
      (hnames : (use.apply bus).uniqueNames = bus.uniqueNames)
      (halters : ∀ name, bus.Alters name use ↔ name = busName)

/-- A use that neither gives an owner, nor releases a name, nor calls alters nothing. -/
theorem owning_of_others {use : Use} (howners : (use.apply bus).owners = bus.owners)
    (hnames : (use.apply bus).uniqueNames = bus.uniqueNames)
    (hgives : ∀ busName, use ≠ .setOwner busName) (htakes : ∀ busName, use ≠ .release busName)
    (hcalls : ∀ c, use ≠ .call c) : Owning bus use := by
  refine .keeps howners hnames fun name h => ?_
  cases h with
  | gains => exact hgives name rfl
  | loses howned => exact htakes name rfl
  | starts c service reply _ _ _ _ _ _ => exact hcalls c rfl

/-- **Every use of a bus** does one of these. -/
theorem owning_use (bus : Bus) (use : Use) : Owning bus use := by
  cases use with
  | setOwner busName =>
    refine .gives busName rfl rfl fun name => ⟨?_, ?_⟩
    · rintro ⟨⟩
      rfl
    · rintro rfl
      exact .gains
  | release busName =>
    have hrelease : Use.apply bus (.release busName) =
        if (bus.owner? busName).isSome then
          { bus with owners := bus.owners.erase busName }.notify busName none
        else bus := rfl
    by_cases howned : (bus.owner? busName).isSome
    · rw [if_pos howned] at hrelease
      refine .takes busName howned (by rw [hrelease]; rfl) (by rw [hrelease]; rfl)
        fun name => ⟨?_, ?_⟩
      · rintro ⟨⟩
        rfl
      · rintro rfl
        exact .loses howned
    · rw [if_neg howned] at hrelease
      refine .keeps (by rw [hrelease]) (by rw [hrelease]) ?_
      rintro name ⟨⟩
      contradiction
  | call c =>
    have hname : ∀ {name}, bus.Alters name (.call c) → name = c.destination := by
      rintro name ⟨⟩
      exact Eq.symm ‹_›
    rcases bus.call_alters c with ⟨hcall, hno⟩ | ⟨hcall, hstarts, _⟩
    · have howners := congrArg Bus.owners hcall
      have hnames := congrArg Bus.uniqueNames hcall
      exact .keeps howners hnames fun name h => hno (hname h ▸ h)
    · have howners := congrArg Bus.owners hcall
      have hnames := congrArg Bus.uniqueNames hcall
      refine .gives c.destination howners hnames fun name => ⟨hname, ?_⟩
      rintro rfl
      exact hstarts
  | setReply busName reply =>
    have hsame : (bus.setReply busName reply).owners = bus.owners ∧
        (bus.setReply busName reply).uniqueNames = bus.uniqueNames := by
      unfold Bus.setReply
      split <;> exact ⟨rfl, rfl⟩
    exact owning_of_others hsame.1 hsame.2 (by simp) (by simp) (by simp)
  | _ => exact owning_of_others rfl rfl (by simp) (by simp) (by simp)

/-- Every owner has a unique name that was given before. -/
def Stamped (bus : Bus) : Prop :=
  ∀ owner ∈ bus.owners.values, ∃ n ≤ bus.uniqueNames, owner = uniqueName n

/-- On a new bus there are no owners. -/
theorem stamped_empty : Stamped {} := by
  intro owner howner
  cases howner

/-- Whatever is done with a bus, every owner has a unique name that was given before. -/
theorem Stamped.use (h : bus.Stamped) (use : Use) : (use.apply bus).Stamped := by
  intro owner howner
  cases owning_use bus use with
  | keeps howners hnames _ =>
    rw [howners] at howner
    rw [hnames]
    exact h owner howner
  | gives busName howners hnames _ =>
    rw [howners] at howner
    rw [hnames]
    rcases OrderedMap.mem_values_insert howner with rfl | hold
    · exact ⟨_, Nat.le_refl _, rfl⟩
    · obtain ⟨n, hn, rfl⟩ := h owner hold
      exact ⟨n, Nat.le_succ_of_le hn, rfl⟩
  | takes busName _ howners hnames _ =>
    rw [howners] at howner
    rw [hnames]
    exact h owner (OrderedMap.mem_values_erase howner)

/-- The next unique name is that of no owner. -/
theorem Stamped.fresh (h : bus.Stamped) :
    uniqueName (bus.uniqueNames + 1) ∉ bus.owners.values := by
  intro hmem
  obtain ⟨n, hn, hsame⟩ := h _ hmem
  have := uniqueName_injective hsame
  omega

/-- What there is to tell of a name after a change of the bus: its owner, if that is another one. -/
def change (busName : String) (bus bus' : Bus) : List (Option String) :=
  if bus'.owner? busName = bus.owner? busName then [] else [bus'.owner? busName]

/-- A new owner is to be told to those who watch its name. -/
theorem Stamped.change_insert (h : bus.Stamped) {name : String}
    (howners : bus'.owners = bus.owners.insert name (uniqueName (bus.uniqueNames + 1)))
    (busName : String) : change busName bus bus' =
      if busName = name then [some (uniqueName (bus.uniqueNames + 1))] else [] := by
  unfold change owner?
  rw [howners]
  by_cases hname : busName = name
  · have hnew : bus.owners.get? name ≠ some (uniqueName (bus.uniqueNames + 1)) := fun hold =>
      h.fresh (OrderedMap.mem_values_of_get? hold)
    rw [hname, OrderedMap.get?_insert_self, if_neg (Ne.symm hnew), if_pos rfl]
  · rw [OrderedMap.get?_insert_of_ne _ hname, if_pos rfl, if_neg hname]

/-- The loss of an owner is to be told to those who watch its name. -/
theorem change_erase {name : String} (howned : (bus.owner? name).isSome)
    (howners : bus'.owners = bus.owners.erase name) (busName : String) :
    change busName bus bus' = if busName = name then [none] else [] := by
  unfold change owner?
  rw [howners]
  by_cases hname : busName = name
  · have hold : bus.owners.get? name ≠ none := Option.isSome_iff_ne_none.mp howned
    rw [hname, OrderedMap.get?_erase_self, if_neg (Ne.symm hold), if_pos rfl]
  · rw [OrderedMap.get?_erase_of_ne _ hname, if_pos rfl, if_neg hname]

/-- **The owner of a name changes** exactly if something alters it. -/
theorem Stamped.owner?_ne_iff (h : bus.Stamped) (use : Use) (busName : String) :
    (use.apply bus).owner? busName ≠ bus.owner? busName ↔ bus.Alters busName use := by
  have hchange : (use.apply bus).owner? busName ≠ bus.owner? busName ↔
      change busName bus (use.apply bus) ≠ [] := by
    unfold change
    split <;> simp_all
  rw [hchange]
  cases owning_use bus use with
  | keeps howners _ halters =>
    have hnone : change busName bus (use.apply bus) = [] :=
      if_pos (congrArg (OrderedMap.get? · busName) howners)
    simp [hnone, halters busName]
  | gives name howners _ halters =>
    rw [h.change_insert howners, halters]
    split <;> simp_all
  | takes name howned howners _ halters =>
    rw [change_erase howned howners, halters]
    split <;> simp_all

/-! ## Unique names -/

/-- The unique names of those who own a name after a change of the bus and did not own it before. -/
def newOwners (bus bus' : Bus) : List String :=
  (bus'.owners.toList.filter fun e => e ∉ bus.owners.toList).map Prod.snd

/-- A new owner has the next unique name. -/
theorem Stamped.newOwners_use (h : bus.Stamped) (use : Use) :
    newOwners bus (use.apply bus) = [] ∧ (use.apply bus).uniqueNames = bus.uniqueNames ∨
      newOwners bus (use.apply bus) = [uniqueName (bus.uniqueNames + 1)] ∧
        (use.apply bus).uniqueNames = bus.uniqueNames + 1 := by
  unfold newOwners
  cases owning_use bus use with
  | keeps howners hnames _ =>
    refine .inl ⟨?_, hnames⟩
    rw [howners]
    simp
  | gives busName howners hnames _ =>
    refine .inr ⟨?_, hnames⟩
    have hnew : (busName, uniqueName (bus.uniqueNames + 1)) ∉ bus.owners.toList := fun hmem =>
      h.fresh (List.mem_map_of_mem hmem)
    have hentries := OrderedMap.filter_insertEntry (l := bus.owners.entries)
      (p := fun e => e ∉ bus.owners.toList) (decide_eq_true hnew)
      fun e he => decide_eq_false fun hno => hno he
    rw [howners]
    exact congrArg (List.map Prod.snd) hentries
  | takes busName _ howners hnames _ =>
    refine .inl ⟨?_, hnames⟩
    rw [howners, List.map_eq_nil_iff, List.filter_eq_nil_iff]
    intro e he hnew
    have hold := (OrderedMap.eraseEntry_sublist busName bus.owners.entries).subset he
    exact of_decide_eq_true hnew hold

/-! ## Runs -/

/-- A bus after a number of uses, one after another. -/
def run (bus : Bus) (uses : List Use) : Bus := uses.foldl Use.apply bus

/-- What there is to tell of a name in the course of a number of uses. -/
def changes (busName : String) (bus : Bus) : List Use → List (Option String)
  | [] => []
  | use :: rest =>
    change busName bus (use.apply bus) ++ changes busName (use.apply bus) rest

/-- The unique names that owners get in the course of a number of uses. -/
def given (bus : Bus) : List Use → List String
  | [] => []
  | use :: rest => newOwners bus (use.apply bus) ++ given (use.apply bus) rest

/-- Whatever is done with a bus, every owner has a unique name that was given before. -/
theorem Stamped.run (h : bus.Stamped) (uses : List Use) : (bus.run uses).Stamped := by
  induction uses generalizing bus with
  | nil => exact h
  | cons use rest ih => exact ih (h.use use)

/-- Whatever is done with a bus keeps it in order. -/
theorem Orderly.run (h : bus.Orderly) (uses : List Use) : (bus.run uses).Orderly := by
  induction uses generalizing bus with
  | nil => exact h
  | cons use rest ih => exact ih (h.use use)

/-- **Unique names count up.** -/
theorem Stamped.given_eq (h : bus.Stamped) (uses : List Use) :
    ∃ count, given bus uses = (List.range' (bus.uniqueNames + 1) count).map uniqueName := by
  induction uses generalizing bus with
  | nil => exact ⟨0, rfl⟩
  | cons use rest ih =>
    obtain ⟨count, hrest⟩ := ih (h.use use)
    rcases h.newOwners_use use with ⟨hnew, hnames⟩ | ⟨hnew, hnames⟩
    · refine ⟨count, ?_⟩
      rw [given, hnew, hrest, hnames]
      rfl
    · refine ⟨count + 1, ?_⟩
      rw [given, hnew, hrest, hnames, List.range'_succ]
      rfl

/-- The owner after a run is the last one that there was to tell of. -/
theorem getLast?_changes (busName : String) (uses : List Use) :
    (bus.owner? busName :: changes busName bus uses).getLast? =
      some ((bus.run uses).owner? busName) := by
  induction uses generalizing bus with
  | nil => rfl
  | cons use rest ih =>
    have hrest : ((use.apply bus).owner? busName ::
        changes busName (use.apply bus) rest).getLast? =
          some (((use.apply bus).run rest).owner? busName) := ih
    show (bus.owner? busName :: (change busName bus (use.apply bus) ++ _)).getLast? = _
    unfold change
    split
    · rename_i hsame
      rw [hsame] at hrest
      exact hrest
    · rw [List.singleton_append, List.getLast?_cons_cons]
      exact hrest

/-- What there is to tell is never what was told just before. -/
theorem isChain_changes (busName : String) (uses : List Use) :
    (bus.owner? busName :: changes busName bus uses).IsChain (· ≠ ·) := by
  induction uses generalizing bus with
  | nil => exact .singleton _
  | cons use rest ih =>
    have hrest : ((use.apply bus).owner? busName ::
        changes busName (use.apply bus) rest).IsChain (· ≠ ·) := ih
    show (bus.owner? busName :: (change busName bus (use.apply bus) ++ _)).IsChain _
    unfold change
    split
    · rename_i hsame
      rw [hsame] at hrest
      exact hrest
    · rename_i hother
      exact .cons_cons (Ne.symm hother) hrest

/-! ## What watches are told -/

/-- A watch that is told of a name: it is neither cancelled nor let go of. -/
structure Listens (busName : String) (w : Watch) : Prop where
  /-- The watch is on the name. -/
  name : w.busName = busName
  /-- Reports can still be taken out. -/
  held : w.held = true
  /-- The bus tells the watch of changes. -/
  registered : w.registered = true

variable {busName : String} {id : Nat} {w : Watch}

/-- If the watches of a name are told its owner, the others are told nothing. -/
theorem Listens.notify (h : Listens busName w) (hw : bus.watch? id = some w) (name : String)
    (owner : Option String) : ∃ w', (bus.notify name owner).watch? id = some w' ∧
      Listens busName w' ∧ w'.told = w.told ++ if busName = name then [owner] else [] := by
  refine ⟨if w.busName = name then w.tell owner else w, ?_, ?_⟩
  · rw [watch?_notify, hw, Option.map_some]
  · have htold : w.tell owner = { w with told := w.told ++ [owner] } := by
      unfold Watch.tell
      rw [if_pos h.registered, if_pos h.held]
    rw [h.name, htold]
    split
    · exact ⟨⟨h.name, h.held, h.registered⟩, rfl⟩
    · exact ⟨h, (List.append_nil _).symm⟩

/-- A new owner is told to those who watch its name. -/
theorem Listens.setOwner (h : Listens busName w) (hw : bus.watch? id = some w)
    (hstamped : bus.Stamped) (name : String) :
    ∃ w', (bus.setOwner name).1.watch? id = some w' ∧ Listens busName w' ∧
      w'.told = w.told ++ change busName bus (bus.setOwner name).1 := by
  let owned : Bus := { bus with
    uniqueNames := bus.uniqueNames + 1
    owners := bus.owners.insert name (uniqueName (bus.uniqueNames + 1)) }
  have hthere : owned.watch? id = some w := hw
  have hchange : change busName bus (bus.setOwner name).1 =
      if busName = name then [some (uniqueName (bus.uniqueNames + 1))] else [] :=
    hstamped.change_insert rfl busName
  rw [hchange]
  exact h.notify hthere name _

/-- The loss of an owner is told to those who watch its name. -/
theorem Listens.release (h : Listens busName w) (hw : bus.watch? id = some w) (name : String) :
    ∃ w', (bus.release name).watch? id = some w' ∧ Listens busName w' ∧
      w'.told = w.told ++ change busName bus (bus.release name) := by
  unfold Bus.release
  split
  · rename_i howned
    let unowned : Bus := { bus with owners := bus.owners.erase name }
    have hthere : unowned.watch? id = some w := hw
    have hchange : change busName bus (unowned.notify name none) =
        if busName = name then [none] else [] :=
      change_erase howned rfl busName
    rw [hchange]
    exact h.notify hthere name none
  · refine ⟨w, hw, h, ?_⟩
    rw [change, if_pos rfl, List.append_nil]

/-- A change of one watch that neither cancels nor lets go of another one tells that nothing. -/
theorem Listens.modifyWatch (h : Listens busName w) (hw : bus.watch? id = some w) {id' : Nat}
    {f : Watch → Watch} (hf : ∀ w, w.id = id' → (f w).id = id')
    (hself : id' = id → Listens busName (f w) ∧ (f w).told = w.told) :
    ∃ w', (bus.modifyWatch id' f).watch? id = some w' ∧ Listens busName w' ∧
      w'.told = w.told ++ change busName bus (bus.modifyWatch id' f) := by
  have hsame : change busName bus (bus.modifyWatch id' f) = [] := if_pos rfl
  rw [hsame, List.append_nil]
  by_cases hid : id' = id
  · subst hid
    exact ⟨f w, watch?_modifyWatch_self hw hf, hself rfl⟩
  · exact ⟨w, (watch?_modifyWatch_of_ne (Ne.symm hid) hf).trans hw, h, rfl⟩

/-- **A use of the bus tells a watch exactly the change that it makes**, as long as it neither cancels
the watch nor lets go of it. -/
theorem Listens.use (h : Listens busName w) (hw : bus.watch? id = some w) (hstamped : bus.Stamped)
    (use : Use) (hcancel : use ≠ .cancelWatch busName id) (hdrop : use ≠ .dropWatch id) :
    ∃ w', (use.apply bus).watch? id = some w' ∧ Listens busName w' ∧
      w'.told = w.told ++ change busName bus (use.apply bus) := by
  have hquiet : ∀ {bus' : Bus}, bus'.watch? id = some w → bus'.owners = bus.owners →
      ∃ w', bus'.watch? id = some w' ∧ Listens busName w' ∧
        w'.told = w.told ++ change busName bus bus' := by
    intro bus' hw' howners
    have hsame : bus'.owner? busName = bus.owner? busName :=
      congrArg (OrderedMap.get? · busName) howners
    refine ⟨w, hw', h, ?_⟩
    rw [change, if_pos hsame, List.append_nil]
  cases use with
  | setOwner name => exact h.setOwner hw hstamped name
  | release name => exact h.release hw name
  | call c =>
    show ∃ w', (bus.call c).1.watch? id = some w' ∧ Listens busName w' ∧
      w'.told = w.told ++ change busName bus (bus.call c).1
    rcases bus.call_alters c with ⟨hcall, _⟩ | ⟨hcall, _⟩
    · rw [hcall]
      exact hquiet hw rfl
    · rw [hcall]
      have hthere : (bus.countCall c.destination).watch? id = some w := hw
      exact h.setOwner hthere hstamped c.destination
  | addService name service => exact hquiet hw rfl
  | setReply name reply =>
    refine hquiet ?_ ?_
    · show (bus.setReply name reply).watch? id = some w
      unfold Bus.setReply
      split <;> exact hw
    · show (bus.setReply name reply).owners = bus.owners
      unfold Bus.setReply
      split <;> rfl
  | failListing error => exact hquiet hw rfl
  | watch name => exact hquiet (watch?_watch hw name) rfl
  | cancelWatch name id' =>
    refine h.modifyWatch hw (fun w hid => by split <;> exact hid) fun hid => ?_
    have hother : w.busName ≠ name := by
      intro hname
      rw [h.name] at hname
      exact hcancel (by rw [hid, hname])
    rw [if_neg hother]
    exact ⟨h, rfl⟩
  | dropWatch id' =>
    exact h.modifyWatch hw (fun w hid => hid) fun hid => absurd (by rw [hid]) hdrop
  | drainWatch id' =>
    exact h.modifyWatch hw (fun w hid => hid) fun _ => ⟨⟨h.name, h.held, h.registered⟩, rfl⟩

/-- **A run of the bus tells a watch exactly the changes that it makes.** -/
theorem Listens.run (h : Listens busName w) (hw : bus.watch? id = some w) (hstamped : bus.Stamped)
    (uses : List Use)
    (hkept : ∀ use ∈ uses, use ≠ .cancelWatch busName id ∧ use ≠ .dropWatch id) :
    ∃ w', (bus.run uses).watch? id = some w' ∧ Listens busName w' ∧
      w'.told = w.told ++ changes busName bus uses := by
  induction uses generalizing bus w with
  | nil => exact ⟨w, hw, h, (List.append_nil _).symm⟩
  | cons use rest ih =>
    obtain ⟨⟨hcancel, hdrop⟩, hlater⟩ := List.forall_mem_cons.mp hkept
    obtain ⟨w₁, hw₁, h₁, htold₁⟩ := h.use hw hstamped use hcancel hdrop
    obtain ⟨w₂, hw₂, h₂, htold₂⟩ := ih h₁ hw₁ (hstamped.use use) hlater
    refine ⟨w₂, hw₂, h₂, ?_⟩
    rw [htold₂, htold₁, List.append_assoc]
    rfl

/-- **What a watch is told is the history of the owner**, in every run of a bus.

A watch that began in the run, and was neither cancelled nor let go of since, was told the owner that
its name had then, followed by every later change of that owner, in order; so the last report is the
present owner, and no two reports that follow each other are the same, in particular not two of no
owner. No two owners ever get the same unique name. A use alters the owner of a name exactly if it
gives the name an owner, takes away the one that it has, or is a call that starts its service and is
answered (`Alters`). A call that fails only adds one to the count of calls to its destination. -/
theorem history_run (uses : List Use) :
    let bus := run {} uses
    (∀ before busName after, uses = before ++ .watch busName :: after →
      let begun := (run {} before).watch busName
      (∀ use ∈ after, use ≠ .cancelWatch busName begun.2 ∧ use ≠ .dropWatch begun.2) →
      ∃ w, bus.watch? begun.2 = some w ∧ w.busName = busName ∧ w.registered = true ∧
        w.told = (run {} before).owner? busName :: changes busName begun.1 after ∧
        w.told.getLast? = some (bus.owner? busName) ∧ w.told.IsChain (· ≠ ·)) ∧
    (given {} uses).Nodup ∧
    (∀ use busName, (use.apply bus).owner? busName ≠ bus.owner? busName ↔
      bus.Alters busName use) ∧
    ∀ c e, (bus.call c).2.value = .error e →
      (bus.call c).1 = { bus with
        calls := bus.calls.insert c.destination (bus.callCount c.destination + 1) } := by
  intro bus
  refine ⟨?_, ?_, fun use busName => ?_, fun c e hfails => ?_⟩
  · intro before busName after huses begun hkept
    have hbus : bus = begun.1.run after := by
      show run {} uses = _
      rw [huses, run, List.foldl_append]
      rfl
    have hbegun := watch?_watch_self (orderly_empty.run before) busName
    obtain ⟨w, hw, hlistens, htold⟩ := Listens.run ⟨rfl, rfl, rfl⟩ hbegun
      (stamped_empty.run before) after hkept
    have hhistory : w.told = begun.1.owner? busName :: changes busName begun.1 after := htold
    refine ⟨w, ?_, hlistens.name, hlistens.registered, hhistory, ?_, ?_⟩
    · rw [hbus]
      exact hw
    · rw [hhistory, hbus]
      exact getLast?_changes busName after
    · rw [hhistory]
      exact isChain_changes busName after
  · obtain ⟨count, hgiven⟩ := stamped_empty.given_eq uses
    rw [hgiven]
    exact List.Nodup.map uniqueName_injective List.nodup_range'
  · exact (stamped_empty.run uses).owner?_ne_iff use busName
  · rcases bus.call_alters c with ⟨hcall, _⟩ | ⟨_, _, reply, hreply⟩
    · exact hcall
    · rw [hreply] at hfails
      cases hfails

/-- A watch begins on an owned name. The name is handed over, released twice and started by a call; the
watch is drained meanwhile, another watch on the name is let go of, and a watch of its number on
another name is cancelled. It was told of four owners. -/
theorem history_run_handed_over :
    let busName : String := "org.example.salut"
    let uses : List Use := [.setOwner busName, .watch busName, .watch busName, .dropWatch 2,
      .setOwner busName, .drainWatch 1, .cancelWatch "org.example" 1, .release busName,
      .release busName, .addService busName { answer := .ok (.obj []) },
      .call (.getAll busName "/" "org.example" 0)]
    ∃ w, (run {} uses).watch? 1 = some w ∧
      w.told = [some ":1.1", some ":1.2", none, some ":1.3"] ∧
      given {} uses = [":1.1", ":1.2", ":1.3"] ∧ (given {} uses).Nodup := by
  intro busName uses
  obtain ⟨htold, hgiven, _, _⟩ := history_run uses
  have hbegun : ((run {} [.setOwner busName]).watch busName).2 = 1 := rfl
  obtain ⟨w, hw, _, _, hhistory, _, _⟩ := htold [.setOwner busName] busName _ rfl
    (by simp [hbegun, busName])
  have hchanges : changes busName ((run {} [.setOwner busName]).watch busName).1 (uses.drop 2) =
      [some ":1.2", none, some ":1.3"] := by
    decide +kernel
  refine ⟨w, hw, ?_, ?_, hgiven⟩
  · rw [hhistory]
    exact congrArg (some ":1.1" :: ·) hchanges
  · decide +kernel

end Roster.Bus
