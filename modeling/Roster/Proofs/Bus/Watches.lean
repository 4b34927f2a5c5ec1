import Mathlib.Data.List.Nodup
import Roster.Bus.Basic
import Roster.Proofs.Manager.Presence

/-!
# What a watch tells of the owner

A watch lags behind the bus by the reports that nobody took yet. What it is told is enough to catch up
(`Follows`): whoever knows whether the name had an owner before those reports, and hears them in order,
knows whether it has one now.

* `Bus.Use`: what anyone can do with the bus.
* `Follows.use`: whatever is done with the bus, the watch still follows it, as long as nobody lets go
  of that watch. `follows_watch` says that a new watch does, and `Follows.take` that it does when a
  report is taken.
-/

namespace Roster

namespace Bus

/-- Something that somebody does with a bus. -/
inductive Use where
  /-- A name gets a new owner. -/
  | setOwner (busName : String)
  /-- The owner of a name goes. -/
  | release (busName : String)
  /-- A call is sent. -/
  | call (c : MethodCall)
  /-- A service is installed. -/
  | addService (busName : String) (service : Service)
  /-- The reply of a service is set. -/
  | setReply (busName : String) (reply : Json)
  /-- Lists of names fail from now on, or work again. -/
  | failListing (error : Option BusError)
  /-- A watch begins. -/
  | watch (busName : String)
  /-- The watch of a number is taken off the bus. -/
  | cancelWatch (busName : String) (id : Nat)
  /-- The receiver of a watch goes. -/
  | dropWatch (id : Nat)
  /-- Everything that a watch was told is taken out. -/
  | drainWatch (id : Nat)

/-- The bus after a use. -/
def Use.apply (bus : Bus) : Use → Bus
  | .setOwner busName => (bus.setOwner busName).1
  | .release busName => bus.release busName
  | .call c => (bus.call c).1
  | .addService busName service => bus.addService busName service
  | .setReply busName reply => bus.setReply busName reply
  | .failListing error => bus.failListing error
  | .watch busName => (bus.watch busName).1
  | .cancelWatch busName id => bus.cancelWatch busName id
  | .dropWatch id => bus.dropWatch id
  | .drainWatch id => bus.drainWatch id

/-- The number of the watch that a use takes from, if any. -/
def Use.watch? : Use → Option Nat
  | .cancelWatch _ id | .dropWatch id | .drainWatch id => some id
  | _ => none

/-! ## Watches of a bus -/

variable {bus : Bus} {id id' : Nat} {w : Watch}

/-- The watch of a number has that number. -/
theorem id_of_watch? (h : bus.watch? id = some w) : w.id = id := by
  have hid := List.find?_some h
  exact of_decide_eq_true hid

/-- Watches that are changed keep their numbers, so each is found under its own. -/
theorem watch?_map (f : Watch → Watch) (hf : ∀ w, (f w).id = w.id) (id : Nat) :
    ({ bus with watches := bus.watches.map f } : Bus).watch? id = (bus.watch? id).map f := by
  unfold watch?
  rw [List.find?_map]
  congr 2
  funext w
  exact congrArg (fun n => decide (n = id)) (hf w)

/-- A change of one watch that keeps its number keeps all numbers. -/
theorem id_ite_of_kept {f : Watch → Watch} (hf : ∀ w, w.id = id → (f w).id = id) (w : Watch) :
    (if w.id = id then f w else w).id = w.id := by
  split
  · rename_i hid
    rw [hf w hid, hid]
  · rfl

/-- What the watches of a name are told keeps all numbers. -/
theorem id_ite_tell (busName : String) (owner : Option String) (w : Watch) :
    (if w.busName = busName then w.tell owner else w).id = w.id := by
  unfold Watch.tell
  split
  · split
    · split <;> rfl
    · rfl
  · rfl

/-- A watch that is changed is found as it is then. -/
theorem watch?_modifyWatch_self (h : bus.watch? id = some w) {f : Watch → Watch}
    (hf : ∀ w, w.id = id → (f w).id = id) : (bus.modifyWatch id f).watch? id = some (f w) := by
  rw [modifyWatch, watch?_map _ (id_ite_of_kept hf), h, Option.map_some, if_pos (id_of_watch? h)]

/-- A change of one watch leaves the others alone. -/
theorem watch?_modifyWatch_of_ne (hne : id' ≠ id) {f : Watch → Watch}
    (hf : ∀ w, w.id = id → (f w).id = id) : (bus.modifyWatch id f).watch? id' = bus.watch? id' := by
  rw [modifyWatch, watch?_map _ (id_ite_of_kept hf)]
  rcases h : bus.watch? id' with _ | w
  · rfl
  · have hother : w.id ≠ id := fun hid => hne ((id_of_watch? h).symm.trans hid)
    rw [Option.map_some, if_neg hother]

/-- The watches of a name are told its owner. -/
theorem watch?_notify (busName : String) (owner : Option String) (id : Nat) :
    (bus.notify busName owner).watch? id =
      (bus.watch? id).map fun w => if w.busName = busName then w.tell owner else w :=
  watch?_map _ (id_ite_tell busName owner) id

/-- What a call does to the bus: it is counted, and it may start the service. -/
theorem call_cases (c : MethodCall) :
    (bus.call c).1 = bus.countCall c.destination ∨
      (bus.call c).1 = ((bus.countCall c.destination).setOwner c.destination).1 := by
  unfold Bus.call
  dsimp only
  split
  · exact .inl rfl
  · split
    · exact .inl rfl
    · split
      · exact .inl rfl
      · split
        · exact .inl rfl
        · split
          · exact .inl rfl
          · exact .inr rfl

/-! ## Order -/

/-- What holds of every bus: watches are numbered one after another, and owners have names. -/
structure Orderly (bus : Bus) : Prop where
  /-- No watch has a number that is still to come. -/
  numbered : ∀ w ∈ bus.watches, w.id ≤ bus.watches.length
  /-- No owner is without a name. -/
  named : ∀ busName owner, bus.owner? busName = some owner → owner ≠ ""

/-- A new bus is in order. -/
theorem orderly_empty : Orderly {} where
  numbered := by
    intro w hw
    cases hw
  named := by
    intro busName owner howner
    cases howner

/-- Changes of watches that keep their numbers keep a bus in order. -/
theorem Orderly.map (h : bus.Orderly) {f : Watch → Watch} (hf : ∀ w, (f w).id = w.id) :
    ({ bus with watches := bus.watches.map f } : Bus).Orderly where
  numbered := by
    intro w hw
    obtain ⟨v, hv, rfl⟩ := List.mem_map.mp hw
    rw [hf, List.length_map]
    exact h.numbered v hv
  named := h.named

/-- A change of one watch that keeps its number keeps a bus in order. -/
theorem Orderly.modifyWatch (h : bus.Orderly) {f : Watch → Watch}
    (hf : ∀ w, w.id = id → (f w).id = id) : (bus.modifyWatch id f).Orderly :=
  h.map (id_ite_of_kept hf)

/-- What the watches of a name are told keeps a bus in order. -/
theorem Orderly.notify (h : bus.Orderly) (busName : String) (owner : Option String) :
    (bus.notify busName owner).Orderly :=
  h.map (id_ite_tell busName owner)

/-- The unique names that the bus gives are names. -/
theorem unique_ne (n : Nat) : ":1." ++ toString n ≠ "" := by
  intro h
  have hlength := congrArg String.length h
  rw [String.length_append] at hlength
  simp at hlength

/-- A new owner keeps a bus in order. -/
theorem Orderly.setOwner (h : bus.Orderly) (busName : String) :
    (bus.setOwner busName).1.Orderly := by
  have hset : Orderly { bus with
      uniqueNames := bus.uniqueNames + 1
      owners := bus.owners.insert busName (":1." ++ toString (bus.uniqueNames + 1)) } := by
    refine ⟨h.numbered, fun name owner howner => ?_⟩
    by_cases hname : name = busName
    · rw [hname, owner?, OrderedMap.get?_insert_self] at howner
      cases howner
      exact unique_ne _
    · rw [owner?, OrderedMap.get?_insert_of_ne _ hname] at howner
      exact h.named name owner howner
  exact hset.notify busName _

/-- The loss of an owner keeps a bus in order. -/
theorem Orderly.release (h : bus.Orderly) (busName : String) : (bus.release busName).Orderly := by
  have herased : Orderly { bus with owners := bus.owners.erase busName } := by
    refine ⟨h.numbered, fun name owner howner => ?_⟩
    by_cases hname : name = busName
    · rw [hname, owner?, OrderedMap.get?_erase_self] at howner
      cases howner
    · rw [owner?, OrderedMap.get?_erase_of_ne _ hname] at howner
      exact h.named name owner howner
  unfold Bus.release
  split
  · exact herased.notify busName none
  · exact h

/-- A call keeps a bus in order. -/
theorem Orderly.call (h : bus.Orderly) (c : MethodCall) : (bus.call c).1.Orderly := by
  have hcount : (bus.countCall c.destination).Orderly := ⟨h.numbered, h.named⟩
  rcases bus.call_cases c with hcall | hcall
  · rw [hcall]
    exact hcount
  · rw [hcall]
    exact hcount.setOwner c.destination

/-- Whatever is done with a bus keeps it in order. -/
theorem Orderly.use (h : bus.Orderly) (use : Use) : (use.apply bus).Orderly := by
  cases use with
  | setOwner busName => exact h.setOwner busName
  | release busName => exact h.release busName
  | call c => exact h.call c
  | addService busName service => exact ⟨h.numbered, h.named⟩
  | setReply busName reply =>
    show (bus.setReply busName reply).Orderly
    unfold Bus.setReply
    split
    · exact ⟨h.numbered, h.named⟩
    · exact h
  | failListing error => exact ⟨h.numbered, h.named⟩
  | watch busName =>
    refine ⟨fun w hw => ?_, h.named⟩
    show w.id ≤ (bus.watches ++ [_]).length
    rw [List.length_append]
    rcases List.mem_append.mp hw with hold | hnew
    · exact Nat.le_succ_of_le (h.numbered w hold)
    · rw [List.mem_singleton.mp hnew]
      exact Nat.le_refl _
  | cancelWatch busName id =>
    refine h.modifyWatch fun w hid => ?_
    split <;> exact hid
  | dropWatch id => exact h.modifyWatch fun w hid => hid
  | drainWatch id => exact h.modifyWatch fun w hid => hid

/-- No use of the bus takes a watch away as a whole. -/
theorem length_use (use : Use) :
    bus.watches.length ≤ (use.apply bus).watches.length := by
  have hmap : ∀ (f : Watch → Watch), bus.watches.length ≤ (bus.watches.map f).length := fun f =>
    Nat.le_of_eq (List.length_map f).symm
  cases use with
  | setOwner busName => exact hmap _
  | release busName =>
    show _ ≤ (bus.release busName).watches.length
    unfold Bus.release
    split
    · exact hmap _
    · exact Nat.le_refl _
  | call c =>
    show _ ≤ (bus.call c).1.watches.length
    rcases bus.call_cases c with hcall | hcall
    · rw [hcall]
      exact Nat.le_refl _
    · rw [hcall]
      exact hmap _
  | addService busName service => exact Nat.le_refl _
  | setReply busName reply =>
    show _ ≤ (bus.setReply busName reply).watches.length
    unfold Bus.setReply
    split <;> exact Nat.le_refl _
  | failListing error => exact Nat.le_refl _
  | watch busName =>
    show _ ≤ (bus.watches ++ [_]).length
    rw [List.length_append]
    exact Nat.le_add_right _ _
  | cancelWatch busName id => exact hmap _
  | dropWatch id => exact hmap _
  | drainWatch id => exact hmap _

/-! ## Following the bus -/

open Manager (namesOwner runsAfter runsAfter_concat runsAfter_cons)

/-- A watch follows the bus, where somebody who takes its reports knows whether the name had an owner
before those that nobody took yet. -/
structure Follows (bus : Bus) (busName : String) (running : Bool) (w : Watch) : Prop where
  /-- The watch is on the name. -/
  name : w.busName = busName
  /-- Reports can still be taken out. -/
  held : w.held = true
  /-- The bus tells the watch of changes. -/
  registered : w.registered = true
  /-- Only what was told was taken out. -/
  taken : w.taken ≤ w.told.length
  /-- The reports that nobody took yet lead to what is the case now. -/
  foretold : runsAfter w.queued running = (bus.owner? busName).isSome

variable {busName : String} {running : Bool}

/-- As long as the owner stays, a watch that is told nothing follows the bus. -/
theorem Follows.of_owner {bus' : Bus} (h : Follows bus busName running w)
    (howner : bus'.owner? busName = bus.owner? busName) : Follows bus' busName running w :=
  { h with foretold := by rw [howner]; exact h.foretold }

/-- A watch that is told of the present owner follows the bus. -/
theorem Follows.tell {bus' : Bus} (h : Follows bus busName running w) (owner : Option String)
    (howner : namesOwner owner = (bus'.owner? busName).isSome) :
    Follows bus' busName running (w.tell owner) := by
  have htold : w.tell owner = { w with told := w.told ++ [owner] } := by
    unfold Watch.tell
    rw [if_pos h.registered, if_pos h.held]
  have hqueued : (w.tell owner).queued = w.queued ++ [owner] := by
    rw [htold]
    exact List.drop_append_of_le_length h.taken
  refine ⟨?_, ?_, ?_, ?_, ?_⟩
  · rw [htold]
    exact h.name
  · rw [htold]
    exact h.held
  · rw [htold]
    exact h.registered
  · rw [htold, List.length_append]
    exact Nat.le_succ_of_le h.taken
  · rw [hqueued, runsAfter_concat, howner]

/-- Whoever takes a report and knows what it says is as far behind as before. -/
theorem Follows.take (h : Follows bus busName running w) {report : Option String} {rest : Watch}
    (htake : w.take? = some (report, rest)) :
    rest.id = w.id ∧ Follows bus busName (namesOwner report) rest := by
  unfold Watch.take? at htake
  split at htake
  · cases htake
  · rename_i next others hqueued
    cases htake
    have hlater : w.told.drop (w.taken + 1) = others := by
      rw [← List.tail_drop]
      exact congrArg List.tail hqueued
    have htaken : w.taken < w.told.length := by
      have hlength := congrArg List.length hqueued
      rw [Watch.queued, List.length_drop, List.length_cons] at hlength
      omega
    refine ⟨rfl, h.name, h.held, h.registered, htaken, ?_⟩
    have hforetold := h.foretold
    rw [hqueued, runsAfter_cons] at hforetold
    show runsAfter (w.told.drop (w.taken + 1)) (namesOwner _) = _
    rw [hlater]
    exact hforetold

/-- A new watch is found under its number, and was told of the present owner. -/
theorem watch?_watch_self (h : bus.Orderly) (busName : String) :
    (bus.watch busName).1.watch? (bus.watch busName).2 =
      some { id := bus.watches.length + 1, busName, told := [bus.owner? busName] } := by
  have hnone : bus.watches.find? (fun w => w.id = bus.watches.length + 1) = none := by
    rw [List.find?_eq_none]
    intro w hw hid
    have hle := h.numbered w hw
    have hid' : w.id = bus.watches.length + 1 := of_decide_eq_true hid
    omega
  show (bus.watches ++ [_]).find? (fun w : Watch => w.id = bus.watches.length + 1) = _
  rw [List.find?_append, hnone, Option.none_or]
  simp

/-- A new watch follows the bus, for somebody who takes the name to have no owner. -/
theorem follows_watch (h : bus.Orderly) (busName : String) :
    ∃ w, (bus.watch busName).1.watch? (bus.watch busName).2 = some w ∧
      Follows (bus.watch busName).1 busName false w := by
  refine ⟨_, watch?_watch_self h busName, rfl, rfl, rfl, Nat.zero_le _, ?_⟩
  show namesOwner (bus.owner? busName) = (bus.owner? busName).isSome
  rcases howner : bus.owner? busName with _ | owner
  · rfl
  · unfold namesOwner
    rw [Option.filter_some, if_pos (decide_eq_true (h.named busName owner howner))]

/-- What is found under a number that was given is found there after a watch has begun. -/
theorem watch?_watch (h : bus.watch? id = some w) (name : String) :
    (bus.watch name).1.watch? id = some w := by
  show (bus.watches ++ [_]).find? _ = some w
  rw [List.find?_append, show bus.watches.find? _ = some w from h]
  rfl

/-- If the watches of a name are told its owner, a watch follows the bus that followed it before the
owner changed. -/
theorem Follows.notify (h : Follows bus busName running w) (hw : bus.watch? id = some w)
    (bus' : Bus) (hwatches : bus'.watches = bus.watches) {name : String} {owner : Option String}
    (hother : busName ≠ name → bus'.owner? busName = bus.owner? busName)
    (hnew : namesOwner owner = (bus'.owner? name).isSome) :
    ∃ w', (bus'.notify name owner).watch? id = some w' ∧
      Follows (bus'.notify name owner) busName running w' := by
  have hw' : bus'.watch? id = some w := by
    unfold watch?
    rw [hwatches]
    exact hw
  refine ⟨if w.busName = name then w.tell owner else w, ?_, ?_⟩
  · rw [watch?_notify, hw', Option.map_some]
  · by_cases hname : busName = name
    · rw [if_pos (h.name.trans hname)]
      refine h.tell owner ?_
      rw [hname]
      exact hnew
    · rw [if_neg fun heq => hname (h.name.symm.trans heq)]
      exact h.of_owner (hother hname)

/-- A new owner is told. -/
theorem Follows.setOwner (h : Follows bus busName running w) (hw : bus.watch? id = some w)
    (name : String) : ∃ w', (bus.setOwner name).1.watch? id = some w' ∧
      Follows (bus.setOwner name).1 busName running w' := by
  refine h.notify hw { bus with
      uniqueNames := bus.uniqueNames + 1
      owners := bus.owners.insert name (":1." ++ toString (bus.uniqueNames + 1)) } rfl
    (fun hne => OrderedMap.get?_insert_of_ne _ hne _) ?_
  have hnamed : namesOwner (some (":1." ++ toString (bus.uniqueNames + 1))) = true := by
    unfold namesOwner
    rw [Option.filter_some, if_pos (decide_eq_true (unique_ne _))]
    rfl
  rw [hnamed]
  unfold owner?
  rw [OrderedMap.get?_insert_self]
  rfl

/-- The loss of an owner is told. -/
theorem Follows.release (h : Follows bus busName running w) (hw : bus.watch? id = some w)
    (name : String) : ∃ w', (bus.release name).watch? id = some w' ∧
      Follows (bus.release name) busName running w' := by
  unfold Bus.release
  split
  · refine h.notify hw { bus with owners := bus.owners.erase name } rfl
      (fun hne => OrderedMap.get?_erase_of_ne _ hne) ?_
    unfold owner?
    rw [OrderedMap.get?_erase_self]
    rfl
  · exact ⟨w, hw, h⟩

/-- If a call starts a service, that is told. -/
theorem Follows.call (h : Follows bus busName running w) (hw : bus.watch? id = some w)
    (c : MethodCall) : ∃ w', (bus.call c).1.watch? id = some w' ∧
      Follows (bus.call c).1 busName running w' := by
  have hcount : Follows (bus.countCall c.destination) busName running w := h.of_owner rfl
  have hw' : (bus.countCall c.destination).watch? id = some w := hw
  rcases bus.call_cases c with hcall | hcall
  · rw [hcall]
    exact ⟨w, hw', hcount⟩
  · rw [hcall]
    exact hcount.setOwner hw' c.destination

/-- **Whatever is done with the bus, a watch follows it**, as long as nothing is taken from the watch. -/
theorem Follows.use (h : Follows bus busName running w) (hw : bus.watch? id = some w) (use : Use)
    (hother : use.watch? ≠ some id) : ∃ w', (use.apply bus).watch? id = some w' ∧
      Follows (use.apply bus) busName running w' := by
  have hmodified : ∀ {id' : Nat} {f : Watch → Watch}, id' ≠ id → (∀ w, w.id = id' → (f w).id = id') →
      ∃ w', (bus.modifyWatch id' f).watch? id = some w' ∧
        Follows (bus.modifyWatch id' f) busName running w' :=
    fun hne hf => ⟨w, (watch?_modifyWatch_of_ne hne.symm hf).trans hw, h.of_owner rfl⟩
  cases use with
  | setOwner name => exact h.setOwner hw name
  | release name => exact h.release hw name
  | call c => exact h.call hw c
  | addService name service => exact ⟨w, hw, h.of_owner rfl⟩
  | setReply name reply =>
    show ∃ w', (bus.setReply name reply).watch? id = some w' ∧
      Follows (bus.setReply name reply) busName running w'
    unfold Bus.setReply
    split
    · exact ⟨w, hw, h.of_owner rfl⟩
    · exact ⟨w, hw, h⟩
  | failListing error => exact ⟨w, hw, h.of_owner rfl⟩
  | watch name => exact ⟨w, watch?_watch hw name, h.of_owner rfl⟩
  | cancelWatch name id' =>
    refine hmodified (fun heq => hother (congrArg some heq)) fun w hid => ?_
    split <;> exact hid
  | dropWatch id' => exact hmodified (fun heq => hother (congrArg some heq)) fun w hid => hid
  | drainWatch id' => exact hmodified (fun heq => hother (congrArg some heq)) fun w hid => hid

/-! ## What becomes of watches -/

/-- What a watch may become, whatever is done with the bus: it stays on its name under its number, and
one that has left the bus does not come back. -/
structure Ages (w w' : Watch) : Prop where
  /-- It keeps its number. -/
  id : w'.id = w.id
  /-- It keeps its name. -/
  name : w'.busName = w.busName
  /-- It does not come back. -/
  left : w.registered = false → w'.registered = false

/-- A watch that nothing is done to stays as it is. -/
theorem Ages.refl (w : Watch) : Ages w w := ⟨rfl, rfl, fun h => h⟩

/-- A watch that is told something ages. -/
theorem ages_tell (w : Watch) (owner : Option String) : Ages w (w.tell owner) := by
  unfold Watch.tell
  split
  · split
    · exact ⟨rfl, rfl, fun h => h⟩
    · exact ⟨rfl, rfl, fun _ => rfl⟩
  · exact .refl w

/-- A watch ages where it is told something or not. -/
theorem ages_ite_tell (busName : String) (owner : Option String) (w : Watch) :
    Ages w (if w.busName = busName then w.tell owner else w) := by
  split
  · exact ages_tell w owner
  · exact .refl w

/-- A watch ages where it is changed or not. -/
theorem ages_ite {f : Watch → Watch} (hf : ∀ w, Ages w (f w)) (w : Watch) :
    Ages w (if w.id = id then f w else w) := by
  split
  · exact hf w
  · exact .refl w

/-- **What a use of the bus does to watches**: they age, or one begins. -/
theorem watches_use (bus : Bus) (use : Use) :
    (∃ f : Watch → Watch, (∀ w, Ages w (f w)) ∧
      (use.apply bus).watches = bus.watches.map f) ∨ ∃ busName, use = .watch busName := by
  have hsame : ∀ {bus' : Bus}, bus'.watches = bus.watches →
      ∃ f : Watch → Watch, (∀ w, Ages w (f w)) ∧ bus'.watches = bus.watches.map f :=
    fun h => ⟨fun w => w, .refl, h.trans (List.map_id bus.watches).symm⟩
  have hchanged : ∀ {id : Nat} {g : Watch → Watch}, (∀ w, Ages w (g w)) →
      ∃ f : Watch → Watch, (∀ w, Ages w (f w)) ∧
        (bus.modifyWatch id g).watches = bus.watches.map f :=
    fun hg => ⟨_, ages_ite hg, rfl⟩
  cases use with
  | setOwner busName => exact .inl ⟨_, ages_ite_tell busName _, rfl⟩
  | release busName =>
    left
    show ∃ f : Watch → Watch, _ ∧ (bus.release busName).watches = _
    unfold Bus.release
    split
    · exact ⟨_, ages_ite_tell busName none, rfl⟩
    · exact hsame rfl
  | call c =>
    left
    show ∃ f : Watch → Watch, _ ∧ (bus.call c).1.watches = _
    rcases bus.call_cases c with hcall | hcall
    · rw [hcall]
      exact hsame rfl
    · rw [hcall]
      exact ⟨_, ages_ite_tell c.destination _, rfl⟩
  | addService busName service => exact .inl (hsame rfl)
  | setReply busName reply =>
    left
    refine hsame ?_
    show (bus.setReply busName reply).watches = _
    unfold Bus.setReply
    split <;> rfl
  | failListing error => exact .inl (hsame rfl)
  | watch busName => exact .inr ⟨busName, rfl⟩
  | cancelWatch busName id =>
    refine .inl (hchanged fun w => ?_)
    show Ages w (if w.busName = busName then { w with registered := false } else w)
    split
    · exact ⟨rfl, rfl, fun _ => rfl⟩
    · exact .refl w
  | dropWatch id => exact .inl (hchanged fun w => ⟨rfl, rfl, fun h => h⟩)
  | drainWatch id => exact .inl (hchanged fun w => ⟨rfl, rfl, fun h => h⟩)

/-- Whatever is done with a bus, the watch of a number ages. -/
theorem watch?_use (h : bus.watch? id = some w) (use : Use) :
    ∃ w', (use.apply bus).watch? id = some w' ∧ Ages w w' := by
  rcases watches_use bus use with ⟨f, hf, hwatches⟩ | ⟨busName, rfl⟩
  · refine ⟨f w, ?_, hf w⟩
    have hmap : ({ bus with watches := bus.watches.map f } : Bus).watch? id =
        (bus.watch? id).map f := watch?_map f (fun w => (hf w).id) id
    rw [h, ← hwatches] at hmap
    exact hmap
  · exact ⟨w, watch?_watch h busName, .refl w⟩

/-- The watches of a bus have the numbers in which they began. -/
def Counted (bus : Bus) : Prop := bus.watches.map Watch.id = List.range' 1 bus.watches.length

/-- Where watches age, they are counted as before. -/
theorem Counted.map (h : bus.Counted) {bus' : Bus} {f : Watch → Watch} (hf : ∀ w, Ages w (f w))
    (hwatches : bus'.watches = bus.watches.map f) : bus'.Counted := by
  unfold Counted
  rw [hwatches, List.map_map, List.length_map, ← show _ = _ from h]
  exact List.map_congr_left fun w _ => (hf w).id

/-- Whatever is done with a bus, its watches are counted. -/
theorem Counted.use (h : bus.Counted) (use : Use) : (use.apply bus).Counted := by
  rcases watches_use bus use with ⟨f, hf, hwatches⟩ | ⟨busName, rfl⟩
  · exact h.map hf hwatches
  · show (bus.watches ++ [_]).map Watch.id = List.range' 1 (bus.watches ++ [_]).length
    rw [List.map_append, show bus.watches.map Watch.id = _ from h, List.length_append,
      List.length_singleton, List.range'_concat, Nat.one_mul, Nat.add_comm 1]
    rfl

/-- Watches that are counted have different numbers. -/
theorem Counted.nodup (h : bus.Counted) : (bus.watches.map Watch.id).Nodup := by
  rw [show bus.watches.map Watch.id = _ from h]
  exact List.nodup_range'

/-- Every watch is the one of its number. -/
theorem Counted.watch?_of_mem (h : bus.Counted) (hw : w ∈ bus.watches) :
    bus.watch? w.id = some w := by
  rcases hfound : bus.watch? w.id with _ | v
  · exact absurd (decide_eq_true rfl) (List.find?_eq_none.mp hfound w hw)
  · have hv := List.mem_of_find?_eq_some hfound
    rw [List.inj_on_of_nodup_map h.nodup hv hw (id_of_watch? hfound)]

end Bus

end Roster
