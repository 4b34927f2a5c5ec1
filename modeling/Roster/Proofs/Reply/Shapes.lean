import Mathlib.Data.List.Nodup
import Roster.Manager.Step

/-!
# Which replies are understood

A property map is a record whose properties, those that are there, have the shapes that their names ask
for, or a list of such values in the order in which the properties are named (`PropertyMap`). A reader of
properties gives something exactly for the maps of its shapes: that of a reply, which has two of them
(`isOk_description_iff`), and that of a protocol, which has seven (`isOk_protocol_iff`).

The way there is the same for both. `Takes read shape` says of a reader and a shape that the one is for
the other, and readers one after the other give something if each of them does
(`isOk_orDefault_bind_iff`).
-/

namespace Roster.Reply

/-! ## Shapes -/

/-- A text. -/
def IsText (v : Json) : Prop := ∃ s, v = .str s

/-- A text, or nothing. -/
def IsOptionalText (v : Json) : Prop := v = .null ∨ IsText v

/-- A number of 32 bits. -/
def IsWord (v : Json) : Prop := ∃ n : Nat, n < Nat.pow 2 32 ∧ v = .int n

/-- A record. -/
def IsRecord (v : Json) : Prop := ∃ fields, v = .obj fields

/-- A list whose items have a shape. -/
def IsListOf (shape : Json → Prop) (v : Json) : Prop :=
  ∃ items, v = .arr items ∧ ∀ i ∈ items, shape i

/-- A parameter: its name, its flags, its signature and any value. -/
def IsParam (v : Json) : Prop :=
  ∃ name bits signature default, v = .arr [name, bits, signature, default] ∧
    IsText name ∧ IsWord bits ∧ IsText signature

/-- A map of properties: a record in which those that are there have their shapes, or a list of values
that have the shapes in their order. -/
inductive PropertyMap (shapes : List (String × (Json → Prop))) : Json → Prop where
  /-- A record. -/
  | record {fields : List (String × Json)}
      (hshape : ∀ s ∈ shapes, ∀ v, OrderedMap.lookupEntry s.1 fields = some v → s.2 v) :
      PropertyMap shapes (.obj fields)
  /-- A list. -/
  | list {items : List Json} (hlength : items.length ≤ shapes.length)
      (hshape : ∀ (i : Nat) (s : String × (Json → Prop)) (v : Json),
        shapes[i]? = some s → items[i]? = some v → s.2 v) :
      PropertyMap shapes (.arr items)

/-- The shapes of a manager's properties. -/
def managerShapes : List (String × (Json → Prop)) :=
  [("Interfaces", IsListOf IsText), ("Protocols", IsRecord)]

/-- The shapes of a protocol's properties. -/
def protocolShapes : List (String × (Json → Prop)) :=
  [(full "Parameters", IsListOf IsParam), (full "Interfaces", IsListOf IsText),
    (full "ConnectionInterfaces", IsListOf IsText), (full "AuthenticationTypes", IsListOf IsText),
    (full "VCardField", IsOptionalText), (full "EnglishName", IsOptionalText),
    (full "Icon", IsOptionalText)]

/-! ## Readers -/

/-- A reader gives something. -/
def IsOk {α : Type} (r : Except ReplyFault α) : Prop := ∃ a, r = .ok a

/-- A reader takes exactly the values of a shape. -/
def Takes {α : Type} (read : Json → Except ReplyFault α) (shape : Json → Prop) : Prop :=
  ∀ v, IsOk (read v) ↔ shape v

section readers

variable {α β : Type} {read : Json → Except ReplyFault α} {shape : Json → Prop}

/-- Readers one after the other give something if both do, where what the first gives does not matter to
whether the second does. -/
theorem isOk_bind_iff {r : Except ReplyFault α} {f : α → Except ReplyFault β} {P : Prop}
    (hf : ∀ a, r = .ok a → (IsOk (f a) ↔ P)) : IsOk (r >>= f) ↔ IsOk r ∧ P := by
  cases r with
  | error e => exact ⟨fun ⟨b, hb⟩ => (by cases hb), fun ⟨⟨a, ha⟩, _⟩ => (by cases ha)⟩
  | ok a => exact (hf a rfl).trans ⟨fun hP => ⟨⟨a, rfl⟩, hP⟩, And.right⟩

theorem isOk_map_iff {r : Except ReplyFault α} {f : α → β} : IsOk (r.map f) ↔ IsOk r := by
  cases r with
  | error e => exact ⟨fun ⟨b, hb⟩ => (by cases hb), fun ⟨a, ha⟩ => (by cases ha)⟩
  | ok a => exact ⟨fun _ => ⟨a, rfl⟩, fun _ => ⟨f a, rfl⟩⟩

/-- All items of a list are read exactly if each has the shape. -/
theorem isOk_mapM_iff (h : Takes read shape) (items : List Json) :
    IsOk (items.mapM read) ↔ ∀ i ∈ items, shape i := by
  induction items with
  | nil => simp [IsOk, pure, Except.pure]
  | cons i rest ih =>
    rw [List.mapM_cons, List.forall_mem_cons, ← h i, ← ih]
    exact isOk_bind_iff fun _ _ => isOk_map_iff (r := rest.mapM read)

/-- A property is read if it is not there or has the shape. -/
theorem isOk_orDefault_iff (h : Takes read shape) (default : α) (v : Option Json) :
    IsOk (orDefault read default v) ↔ ∀ w, v = some w → shape w := by
  cases v with
  | none => exact ⟨fun _ w hw => (by cases hw), fun _ => ⟨default, rfl⟩⟩
  | some w => simpa [orDefault] using h w

/-- A property is read, and something after it, exactly if both can be. -/
theorem isOk_orDefault_bind_iff (h : Takes read shape) {default : α} {v : Option Json}
    {f : α → Except ReplyFault β} {P : Prop} (hf : ∀ a, IsOk (f a) ↔ P) :
    IsOk (orDefault read default v >>= f) ↔ (∀ w, v = some w → shape w) ∧ P := by
  rw [isOk_bind_iff fun a _ => hf a, isOk_orDefault_iff h]

end readers

theorem takes_text : Takes text IsText := by
  intro v
  cases v <;> simp [text, IsText, IsOk]

theorem takes_optionalText : Takes optionalText IsOptionalText := by
  intro v
  cases v <;> simp [optionalText, IsOptionalText, IsText, IsOk, text, Except.map]

theorem takes_fields : Takes fields IsRecord := by
  intro v
  cases v <;> simp [fields, IsRecord, IsOk]

theorem takes_texts : Takes texts (IsListOf IsText) := by
  intro v
  cases v with
  | arr items => simpa [texts, IsListOf] using isOk_mapM_iff takes_text items
  | _ => simp [texts, IsListOf, IsOk]

theorem takes_word : Takes word IsWord := by
  intro v
  cases v with
  | int n =>
    unfold word
    dsimp only
    split
    · rename_i hrange
      refine ⟨fun _ => ⟨n.toNat, ?_, ?_⟩, fun _ => ⟨n.toNat, rfl⟩⟩
      · omega
      · rw [Int.toNat_of_nonneg hrange.1]
    · rename_i hrange
      refine ⟨fun ⟨_, h⟩ => (by cases h), fun ⟨k, hk, hn⟩ => absurd ?_ hrange⟩
      cases hn
      omega
  | _ => simp [word, IsWord, IsOk]

theorem takes_param : Takes param IsParam := by
  intro v
  unfold param
  split
  · rename_i name bits signature default
    have hparts : IsOk (param (.arr [name, bits, signature, default])) ↔
        IsOk (text name) ∧ IsOk (word bits) ∧ IsOk (text signature) ∧ True :=
      isOk_bind_iff fun _ _ => isOk_bind_iff fun _ _ =>
        isOk_bind_iff fun _ _ => iff_true_intro ⟨_, rfl⟩
    exact hparts.trans (by simp [takes_text name, takes_word bits, takes_text signature, IsParam])
  · rename_i v hother
    refine ⟨fun ⟨_, h⟩ => (by cases h), ?_⟩
    rintro ⟨name, bits, signature, default, rfl, _⟩
    exact absurd rfl (hother name bits signature default)

theorem takes_params : Takes params (IsListOf IsParam) := by
  intro v
  cases v with
  | arr items => simpa [params, IsListOf] using isOk_mapM_iff takes_param items
  | _ => simp [params, IsListOf, IsOk]

/-! ## Property maps -/

section properties

variable {shapes : List (String × (Json → Prop))}

/-- The place of a property is the place of its name. -/
theorem idxOf_name (hnames : (shapes.map Prod.fst).Nodup) {i : Nat} {s : String × (Json → Prop)}
    (hi : shapes[i]? = some s) : (shapes.map Prod.fst).idxOf s.1 = i := by
  obtain ⟨hlt, rfl⟩ := List.getElem?_eq_some_iff.mp hi
  simpa using List.get_idxOf hnames ⟨i, by simpa using hlt⟩

/-- A list holds no more values than there are properties if nothing is said against it. -/
theorem isOk_noExcess_iff (names : List String) (items : List Json) :
    IsOk (noExcess names (.arr items)) ↔ items.length ≤ names.length := by
  unfold noExcess
  dsimp only
  split
  · exact ⟨fun ⟨_, h⟩ => (by cases h), fun h => by omega⟩
  · exact ⟨fun _ => by omega, fun _ => ⟨(), rfl⟩⟩

/-- **A value is a map of properties** exactly if it can be looked through for them, those that are
there have their shapes, and there are no others in a list. -/
theorem propertyMap_iff (hnames : (shapes.map Prod.fst).Nodup) (noun : String) (v : Json) :
    PropertyMap shapes v ↔
      ∃ get, properties (shapes.map Prod.fst) noun v = .ok get ∧
        (∀ s ∈ shapes, ∀ w, get s.1 = some w → s.2 w) ∧
        IsOk (noExcess (shapes.map Prod.fst) v) := by
  constructor
  · rintro (@⟨fields, hshape⟩ | @⟨items, hlength, hshape⟩)
    · exact ⟨_, rfl, hshape, (), rfl⟩
    · refine ⟨_, rfl, fun s hs w hw => ?_, (isOk_noExcess_iff _ _).mpr (by simpa using hlength)⟩
      obtain ⟨i, hi⟩ := List.mem_iff_getElem?.mp hs
      rw [idxOf_name hnames hi] at hw
      exact hshape i s w hi hw
  · rintro ⟨get, hget, hshape, hshort⟩
    cases v with
    | obj fields =>
      cases hget
      exact .record hshape
    | arr items =>
      cases hget
      refine .list (by simpa using (isOk_noExcess_iff _ _).mp hshort) fun i s w hi hw => ?_
      have hplace : items[(shapes.map Prod.fst).idxOf s.1]? = some w := by
        rwa [idxOf_name hnames hi]
      exact hshape s (List.mem_of_getElem? hi) w hplace
    | _ => cases hget

/-- What reads a value through its properties gives something exactly if the value is a map of them, if
that is what it asks of the properties and of the number of values. -/
theorem isOk_properties_iff {α : Type} (hnames : (shapes.map Prod.fst).Nodup) {noun : String}
    {v : Json} {rest : (String → Option Json) → Except ReplyFault α}
    (hrest : ∀ get, IsOk (rest get) ↔ (∀ s ∈ shapes, ∀ w, get s.1 = some w → s.2 w) ∧
      IsOk (noExcess (shapes.map Prod.fst) v)) :
    IsOk (properties (shapes.map Prod.fst) noun v >>= rest) ↔ PropertyMap shapes v := by
  rw [propertyMap_iff hnames noun v]
  cases h : properties (shapes.map Prod.fst) noun v with
  | error e => exact ⟨fun ⟨_, hok⟩ => (by cases hok), fun ⟨_, hok, _⟩ => (by cases hok)⟩
  | ok get =>
    refine (hrest get).trans ⟨fun hall => ⟨get, rfl, hall⟩, fun ⟨get', hsame, hall⟩ => ?_⟩
    cases hsame
    exact hall

end properties

/-- **The properties of a protocol are understood** exactly if they are a map in which each of the
seven that is there has its shape. -/
theorem isOk_protocol_iff (name : ProtocolName) (v : Json) :
    IsOk (protocol name v) ↔ PropertyMap protocolShapes v := by
  refine isOk_properties_iff (show (protocolShapes.map Prod.fst).Nodup by decide) fun get => ?_
  refine (isOk_orDefault_bind_iff takes_params fun _ =>
    isOk_orDefault_bind_iff takes_texts fun _ =>
    isOk_orDefault_bind_iff takes_texts fun _ =>
    isOk_orDefault_bind_iff takes_texts fun _ =>
    isOk_orDefault_bind_iff takes_optionalText fun _ =>
    isOk_orDefault_bind_iff takes_optionalText fun _ =>
    isOk_orDefault_bind_iff takes_optionalText fun _ =>
    isOk_bind_iff (P := True) fun _ _ => iff_true_intro ⟨_, rfl⟩).trans ?_
  simp only [protocolShapes, List.forall_mem_cons, List.not_mem_nil, false_imp_iff, implies_true,
    and_true, and_assoc]
  rfl

/-- **A reply is understood** exactly if it is a map in which each of the two properties that is there
has its shape. -/
theorem isOk_description_iff (reply : Json) :
    IsOk (description reply) ↔ PropertyMap managerShapes reply := by
  refine isOk_properties_iff (show (managerShapes.map Prod.fst).Nodup by decide) fun get => ?_
  refine (isOk_orDefault_bind_iff takes_texts fun _ =>
    isOk_orDefault_bind_iff takes_fields fun _ =>
    isOk_bind_iff (P := True) fun _ _ => iff_true_intro ⟨_, rfl⟩).trans ?_
  simp only [managerShapes, List.forall_mem_cons, List.not_mem_nil, false_imp_iff, implies_true,
    and_true, and_assoc]
  rfl

end Roster.Reply
