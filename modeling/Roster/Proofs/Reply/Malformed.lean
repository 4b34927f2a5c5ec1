import Roster.Proofs.Reply.Entries

/-!
# Which answers are malformed

The answer of a manager is malformed exactly if it is no property map of the shapes that a manager's two
properties have (`isMalformed_iff`). That is not the same as being no record, and it differs in both
directions (`malformed_record_understood_list`).

* A record is malformed by the shape of one of the two, although everything else in it that cannot be
  used is left out.
* A list is understood if its items have the shapes in their order.

On every other answer the two are the same.
-/

namespace Roster.Reply

open Manager (decode)

/-- The answer of a manager cannot be understood. -/
def IsMalformed (reply : Json) : Prop :=
  ∃ fault, decode (.ok reply) = .error (.malformedReply fault)

variable {reply : Json}

/-- A description is read from an answer as it is. -/
theorem decode_eq_ok_iff {d : Description} :
    decode (.ok reply) = .ok d ↔ description reply = .ok d := by
  unfold decode
  dsimp only
  cases description reply <;> simp

/-- An answer is malformed if no description can be read from it. -/
theorem isMalformed_iff_not_isOk : IsMalformed reply ↔ ¬ IsOk (description reply) := by
  unfold IsMalformed decode
  dsimp only
  cases description reply <;> simp [IsOk]

/-- **An answer is malformed exactly if it is no property map of the right shapes**, and it gives a
description exactly if it is one; then, in a record, the protocols that cannot be used are left out. So
being malformed is being no record for exactly those answers for which being such a map is being a
record. -/
theorem isMalformed_iff (reply : Json) :
    (IsMalformed reply ↔ ¬ PropertyMap managerShapes reply) ∧
    ((∃ d, decode (.ok reply) = .ok d) ↔ PropertyMap managerShapes reply) ∧
    ((IsMalformed reply ↔ ¬ IsRecord reply) ↔
      (PropertyMap managerShapes reply ↔ IsRecord reply)) ∧
    ∀ record entries : OrderedMap String Json, reply = .obj record.entries → Offers record entries →
      ∃ d, decode (.ok reply) = .ok d ∧ d.protocols = protocolsOf entries := by
  have hmalformed : IsMalformed reply ↔ ¬ PropertyMap managerShapes reply := by
    rw [isMalformed_iff_not_isOk, isOk_description_iff]
  refine ⟨hmalformed, ?_, ?_, ?_⟩
  · simp only [decode_eq_ok_iff]
    exact isOk_description_iff reply
  · rw [hmalformed]
    exact not_iff_not
  · rintro record entries rfl hoffers
    obtain ⟨d, hd, hprotocols⟩ := hoffers.description
    exact ⟨d, decode_eq_ok_iff.mpr hd, hprotocols⟩

/-- A record that is understood, with one protocol that cannot be used. -/
theorem isMalformed_iff_skipped :
    let entries : OrderedMap String Json := .ofList [("bad name", .obj []), ("irc", .obj [])]
    let record : OrderedMap String Json := .ofList [("Protocols", .obj entries.entries)]
    Offers record entries ∧ ∃ d, decode (.ok (.obj record.entries)) = .ok d ∧
      d.protocols = protocolsOf entries ∧ (protocolsOf entries).keys.map Name.text = ["irc"] := by
  intro entries record
  have hprotocols : record.get? "Protocols" = some (.obj entries.entries) := by decide +kernel
  have hinterfaces : record.get? "Interfaces" = none := by decide +kernel
  have hoffers : Offers record entries := by
    refine ⟨fun v hv => ?_, .inl hprotocols⟩
    cases hinterfaces.symm.trans hv
  obtain ⟨d, hd, hsame⟩ := (isMalformed_iff _).2.2.2 record entries rfl hoffers
  exact ⟨hoffers, d, hd, hsame, by decide +kernel⟩

/-- A record is malformed because its own interfaces are a text and no list, and a list is understood,
which is no record. -/
theorem malformed_record_understood_list :
    let reply := Json.obj [("Interfaces", .str "nope"), ("Protocols", .obj [("irc", .obj [])])]
    (IsRecord reply ∧ IsMalformed reply) ∧
      ¬ IsRecord (.arr []) ∧ ¬ IsMalformed (.arr []) ∧ decode (.ok (.arr [])) = .ok ⟨[], ∅⟩ := by
  refine ⟨⟨⟨_, rfl⟩, .mismatch (.str "nope") "a sequence", rfl⟩, ?_, ?_, rfl⟩
  · rintro ⟨fields, h⟩
    cases h
  · rintro ⟨fault, h⟩
    cases h

end Roster.Reply
