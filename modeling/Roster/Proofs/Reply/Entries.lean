import Roster.Proofs.OrderedMap.Laws
import Roster.Proofs.Reply.Shapes

/-!
# The protocols of a reply, one by one

A reply that is understood as far as its outside goes (`Offers`) gives a description, whatever its map of
protocols holds. What the description says of a protocol depends on what the map has under the name of
the protocol and on nothing else (`get?_protocolsOf_eq_some_iff`): it is there exactly if there is
something under its name that describes a protocol, and then it is what that describes.

So nobody else's entry, be it missing, added or broken, makes a difference to a protocol, and maps
without a name in common can be read together or apart (`protocols_read_apart`).
-/

namespace Roster.Reply

/-- A reply with these entries in its map of protocols, an empty one if it has none, and with a list of
texts for its own interfaces, if it has any. -/
structure Offers (reply entries : OrderedMap String Json) : Prop where
  /-- Its own interfaces are texts. -/
  interfaces : ∀ v, reply.get? "Interfaces" = some v → IsListOf IsText v
  /-- Its protocols are the entries. -/
  protocols : reply.get? "Protocols" = some (.obj entries.entries) ∨
    reply.get? "Protocols" = none ∧ entries = ∅

/-- The protocols that entries describe. -/
def protocolsOf (entries : OrderedMap String Json) : ProtocolSet :=
  OrderedMap.ofList (entries.entries.filterMap fun e => protocolEntry? e.1 e.2)

variable {reply entries : OrderedMap String Json}

/-! ## Entries -/

/-- An entry describes a protocol if it stands under the protocol's name and can be understood. -/
theorem protocolEntry?_eq_some_iff {key : String} {v : Json} {name : ProtocolName} {p : Protocol} :
    protocolEntry? key v = some (name, p) ↔ name.text = key ∧ protocol name v = .ok p := by
  unfold protocolEntry?
  rw [Option.bind_eq_some_iff]
  constructor
  · rintro ⟨name', hname, h⟩
    split at h
    · rename_i p' hp
      cases h
      exact ⟨Name.ofText?_eq_some_iff.mp hname, hp⟩
    · cases h
  · rintro ⟨rfl, hp⟩
    exact ⟨name, Name.ofText?_text name, by rw [hp]⟩

/-- No name is described twice. -/
theorem nodup_names (entries : OrderedMap String Json) :
    ((entries.entries.filterMap fun e => protocolEntry? e.1 e.2).map Prod.fst).Nodup := by
  refine List.pairwise_map.mpr (List.Pairwise.filterMap _ ?_ entries.sorted)
  rintro ⟨key, v⟩ ⟨key', v'⟩ hlt ⟨name, p⟩ hname ⟨name', p'⟩ hname' hsame
  obtain ⟨rfl, _⟩ := protocolEntry?_eq_some_iff.mp hname
  obtain ⟨rfl, _⟩ := protocolEntry?_eq_some_iff.mp hname'
  cases hsame
  exact StrictKeys.lt_irrefl _ hlt

/-- **What is said of a protocol** is what the entry under its name says. -/
theorem get?_protocolsOf_eq_some_iff {name : ProtocolName} {p : Protocol} :
    (protocolsOf entries).get? name = some p ↔
      ∃ v, entries.get? name.text = some v ∧ protocol name v = .ok p := by
  rw [protocolsOf, OrderedMap.get?_ofList_eq_some_iff (nodup_names entries), List.mem_filterMap]
  constructor
  · rintro ⟨⟨key, v⟩, hmem, h⟩
    obtain ⟨rfl, hp⟩ := protocolEntry?_eq_some_iff.mp h
    exact ⟨v, OrderedMap.get?_eq_some_iff.mpr hmem, hp⟩
  · rintro ⟨v, hv, hp⟩
    exact ⟨(name.text, v), OrderedMap.get?_eq_some_iff.mp hv, protocolEntry?_eq_some_iff.mpr ⟨rfl, hp⟩⟩

/-- The same, as an equation. -/
theorem get?_protocolsOf (entries : OrderedMap String Json) (name : ProtocolName) :
    (protocolsOf entries).get? name =
      (entries.get? name.text).bind fun v => (protocol name v).toOption := by
  refine Option.ext fun p => ?_
  rw [get?_protocolsOf_eq_some_iff, Option.bind_eq_some_iff]
  refine exists_congr fun v => and_congr_right fun _ => ?_
  cases protocol name v <;> simp [Except.toOption]

/-- A protocol is there exactly if the entry under its name is a map of a protocol's properties. -/
theorem contains_protocolsOf_iff {name : ProtocolName} :
    (protocolsOf entries).contains name = true ↔
      ∃ v, entries.get? name.text = some v ∧ PropertyMap protocolShapes v := by
  rw [OrderedMap.contains, Option.isSome_iff_exists]
  simp only [get?_protocolsOf_eq_some_iff, ← isOk_protocol_iff name, IsOk]
  constructor
  · rintro ⟨p, v, hv, hp⟩
    exact ⟨v, hv, p, hp⟩
  · rintro ⟨v, hv, p, hp⟩
    exact ⟨p, v, hv, hp⟩

/-- Entries without a name in common describe together what they describe apart. -/
theorem protocolsOf_union {entries entries' : OrderedMap String Json}
    (hapart : ∀ key, entries.get? key = none ∨ entries'.get? key = none) :
    protocolsOf (entries ∪ entries') = protocolsOf entries ∪ protocolsOf entries' := by
  refine OrderedMap.ext_get? fun name => ?_
  rw [OrderedMap.get?_union]
  simp only [get?_protocolsOf, OrderedMap.get?_union]
  rcases hapart name.text with hnone | hnone
  · rw [hnone]
    rfl
  · rw [hnone, Option.or_none]
    exact Option.or_none.symm

/-! ## Replies -/

/-- The reply gives a description, with the protocols that the entries describe. -/
theorem Offers.description (h : Offers reply entries) :
    ∃ d, description (.obj reply.entries) = .ok d ∧ d.protocols = protocolsOf entries := by
  have htexts : IsOk (orDefault texts [] (reply.get? "Interfaces")) :=
    (isOk_orDefault_iff takes_texts _ _).mpr h.interfaces
  obtain ⟨interfaces, hinterfaces⟩ := htexts
  have hfields : orDefault fields [] (reply.get? "Protocols") = .ok entries.entries := by
    rcases h.protocols with hsome | ⟨hnone, rfl⟩
    · rw [hsome]
      rfl
    · rw [hnone]
      rfl
  refine ⟨⟨interfaces, protocolsOf entries⟩, ?_, rfl⟩
  unfold Reply.description
  show (orDefault texts [] (reply.get? "Interfaces") >>= _) = _
  rw [hinterfaces]
  show (orDefault fields [] (reply.get? "Protocols") >>= _) = _
  rw [hfields]
  rfl

/-- **The protocols of a reply are read apart from each other.** Both replies give descriptions; a key
is a protocol of the first exactly if it is a valid name with a map of properties under it, which then
gives the protocol; where the replies have the same under a name, so have the descriptions; and if they
have no name in common, a reply with the entries of both gives the protocols of both. -/
theorem protocols_read_apart {reply reply' entries entries' : OrderedMap String Json}
    (h : Offers reply entries) (h' : Offers reply' entries') :
    ∃ d d', description (.obj reply.entries) = .ok d ∧ description (.obj reply'.entries) = .ok d' ∧
      (∀ key, (∃ name, name.text = key ∧ d.protocols.contains name = true) ↔
        NameKind.protocol.fault? key = none ∧
          ∃ v, entries.get? key = some v ∧ PropertyMap protocolShapes v) ∧
      (∀ name p, d.protocols.get? name = some p ↔
        ∃ v, entries.get? name.text = some v ∧ protocol name v = .ok p) ∧
      (∀ name : ProtocolName, entries.get? name.text = entries'.get? name.text →
        d.protocols.get? name = d'.protocols.get? name) ∧
      ((∀ key, entries.get? key = none ∨ entries'.get? key = none) →
        ∀ both, Offers both (entries ∪ entries') →
          ∃ d'', description (.obj both.entries) = .ok d'' ∧
            d''.protocols = d.protocols ∪ d'.protocols) := by
  obtain ⟨d, hd, hprotocols⟩ := h.description
  obtain ⟨d', hd', hprotocols'⟩ := h'.description
  refine ⟨d, d', hd, hd', ?_⟩
  rw [hprotocols, hprotocols']
  refine ⟨fun key => ?_, fun name p => get?_protocolsOf_eq_some_iff, fun name hsame => ?_,
    fun hapart both hboth => ?_⟩
  · simp only [contains_protocolsOf_iff]
    constructor
    · rintro ⟨name, rfl, hentry⟩
      exact ⟨name.valid, hentry⟩
    · rintro ⟨hvalid, hentry⟩
      exact ⟨⟨key, hvalid⟩, rfl, hentry⟩
  · rw [get?_protocolsOf, get?_protocolsOf, hsame]
  · obtain ⟨d'', hd'', hprotocols''⟩ := hboth.description
    exact ⟨d'', hd'', hprotocols''.trans (protocolsOf_union hapart)⟩

/-- A broken entry is left out, and the one beside it is not. -/
theorem protocols_read_apart_broken :
    let entries : OrderedMap String Json :=
      .ofList [("broken", .obj [(full "Parameters", .str "nope")]), ("irc", .obj [])]
    let entries' : OrderedMap String Json := .ofList [("irc", .obj []), ("jabber", .obj [])]
    let reply : OrderedMap String Json :=
      .ofList [("Interfaces", .arr [.str "a"]), ("Protocols", .obj entries.entries)]
    let reply' : OrderedMap String Json := .ofList [("Protocols", .obj entries'.entries)]
    ∃ d d', description (.obj reply.entries) = .ok d ∧ description (.obj reply'.entries) = .ok d' ∧
      (∃ name, name.text = "irc" ∧ d.protocols.contains name = true) ∧
      (¬ ∃ name, name.text = "broken" ∧ d.protocols.contains name = true) ∧
      d.protocols.get? ⟨"irc", by decide⟩ = d'.protocols.get? ⟨"irc", by decide⟩ := by
  intro entries entries' reply reply'
  have hinterfaces : reply.get? "Interfaces" = some (.arr [.str "a"]) := by decide +kernel
  have hprotocols : reply.get? "Protocols" = some (.obj entries.entries) := by decide +kernel
  have hinterfaces' : reply'.get? "Interfaces" = none := by decide +kernel
  have hprotocols' : reply'.get? "Protocols" = some (.obj entries'.entries) := by decide +kernel
  have hirc : entries.get? "irc" = some (.obj []) := by decide +kernel
  have hbroken : entries.get? "broken" = some (.obj [(full "Parameters", .str "nope")]) := by
    decide +kernel
  have h : Offers reply entries := by
    refine ⟨fun v hv => ?_, .inl hprotocols⟩
    cases hinterfaces.symm.trans hv
    exact ⟨_, rfl, by simp [IsText]⟩
  have h' : Offers reply' entries' := by
    refine ⟨fun v hv => ?_, .inl hprotocols'⟩
    cases hinterfaces'.symm.trans hv
  obtain ⟨d, d', hd, hd', hthere, _, hsame, _⟩ := protocols_read_apart h h'
  refine ⟨d, d', hd, hd', (hthere "irc").mpr ?_, fun hcontains => ?_, hsame ⟨"irc", by decide⟩ ?_⟩
  · exact ⟨by decide, .obj [], hirc, .record fun s _ v hv => by cases hv⟩
  · obtain ⟨_, v, hv, hmap⟩ := (hthere "broken").mp hcontains
    cases hbroken.symm.trans hv
    cases hmap with
    | record hshape =>
      obtain ⟨_, hlist, _⟩ := hshape _ List.mem_cons_self (.str "nope") (by decide)
      cases hlist
  · exact hirc.trans (by decide +kernel)

end Roster.Reply
