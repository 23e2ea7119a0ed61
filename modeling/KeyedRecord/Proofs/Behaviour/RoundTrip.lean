/-
**Reading what has been written.**

The document of a state is read back as a state that agrees with it on the stored mapped members.
The other stored members have data of their own, whatever the state was. This needs distinct keys,
so that the document can be written, and data of the declared types, so that it can be read.

* `Model.Holds`: what the model makes of data and values of the types of members.
* `Conformance.roundTrip`: the way of a state through its document.
-/

import KeyedRecord.Proofs.Behaviour.Reading
import KeyedRecord.Proofs.Behaviour.Writing
import KeyedRecord.Proofs.Value.Conversion

namespace KeyedRecord

section

variable {D : Type}

/-- The model holds the data of the types of members, among data of other types: it gives them the
values that they have, and makes of a value the datum that the declared type makes of it. -/
structure Model.Holds (model : Model D) (hold : Datum → D) : Prop where
  toValue_hold : ∀ datum, model.toValue (hold datum) = datum.toValue
  convert_hold : ∀ {phrase type}, MemberType.ofPhrase? phrase = some type → ∀ value,
    model.convert phrase value =
      ((Datum.ofValue type value).mapError ConversionError.message).map hold

/-- The model in which types have their own data holds these data. -/
theorem Model.ofBodies_holds (bodies : Bodies) : (Model.ofBodies bodies).Holds id where
  toValue_hold _ := rfl
  convert_hold declared value := by
    show Datum.convert _ value = _
    rw [Datum.convert, declared, Except.map_id]
    rfl

variable {model : Model D} {hold : Datum → D}

/-- A datum of the declared type that stands under the key of a member is read as one that agrees
with it. -/
theorem Model.Holds.read_eq (holds : model.Holds hold) {member : Member} {datum : Datum}
    (declared : MemberType.ofPhrase? member.type.phrase = some datum.type) {fields : Fields}
    (written : Fields.get? fields member.wireKey = some (model.toValue (hold datum))) :
    member.IsReadable model fields ∧
      ∃ decoded, member.readFrom model fields = .ok (hold decoded) ∧ datum.Agree decoded := by
  obtain ⟨decoded, converted, agree⟩ := datum.ofValue_toValue
  have read : model.convert member.type.phrase (model.toValue (hold datum)) =
      .ok (hold decoded) := by
    rw [holds.convert_hold declared, holds.toValue_hold, converted]
    rfl
  refine ⟨⟨_, _, written, read⟩, decoded, ?_, agree⟩
  simp only [Member.readFrom, written, read]
  rfl

/-- **A state comes back from its document.** Let the members of a record have distinct names, the
mapped ones distinct keys, and the stored mapped ones data of their declared types. Then the state
has a document, the document is read, and the state that has been read agrees with the first one on
the stored mapped members; every other stored member has its initial value, or the default of its
type if none is declared. -/
theorem Conformance.roundTrip (holds : model.Holds hold) {record : Record}
    {code : Conformance} (distinct : (record.members.map Member.name).Nodup)
    (emitted : (Expansion.ofRecord record).conformance? = some code)
    (keysDistinct : (record.mapped.map Member.wireKey).Nodup)
    (state : State D) (data : Ident → Datum)
    (typed : ∀ member ∈ record.mappedStored, state member.name = hold (data member.name) ∧
      MemberType.ofPhrase? member.type.phrase = some (data member.name).type) :
    ∃ value decoded, code.toValue model state = .ok value ∧
      code.ofValue model record.structure value = .ok decoded ∧
      (∀ member ∈ record.mappedStored, ∃ datum, decoded member.name = hold datum ∧
        (data member.name).Agree datum) ∧
      ∀ member ∈ record.storedMembers, member ∉ record.mapped →
        decoded member.name =
          match member.initial with
          | some value => model.initial member.name value
          | none => model.typeDefault member.type.phrase := by
  have serves := Conformance.serves_of_emitted emitted
  obtain ⟨fields, isWritten, written⟩ := serves.toValue_of_distinct model state keysDistinct
  have read : ∀ member ∈ record.mappedStored, member.IsReadable model fields ∧
      ∃ decoded, member.readFrom model fields = .ok (hold decoded) ∧
        (data member.name).Agree decoded := by
    intro member mappedStored
    obtain ⟨mapped, stored⟩ := List.mem_filter.mp mappedStored
    obtain ⟨holdsDatum, declared⟩ := typed member mappedStored
    refine holds.read_eq declared ?_
    rw [written member mapped, ← holdsDatum, Member.datum, if_neg (by simpa using stored)]
  rcases serves.ofValue_cases model distinct fields with
    ⟨-, decoded, isRead, same, own⟩ | ⟨before, member, rest, error, split, -, fails, -⟩
  · refine ⟨.struct fields, decoded, isWritten, isRead, fun member mapped => ?_, own⟩
    obtain ⟨datum, datumRead, agree⟩ := (read member mapped).2
    rw [same member mapped] at datumRead
    exact ⟨datum, Except.ok.inj datumRead, agree⟩
  · exact absurd (read member (by simp [split])).1 (fails.not_readable model)

end

/-- A text, a truth value and a number come back from the document of a record with a computed
member and an excluded one. -/
theorem roundTrip_sample :
    let state : State Datum := fun name =>
      if name.name = "name" then Datum.text "Ada"
      else if name.name = "flag" then ⟨.scalar .boolean, true⟩
      else Datum.integer 3
    (Sample.summary.record.members.map Member.name).Nodup ∧
      (Sample.summary.record.mapped.map Member.wireKey).Nodup ∧
      (∀ member ∈ Sample.summary.record.mappedStored,
        MemberType.ofPhrase? member.type.phrase = some (state member.name).type) ∧
      ∃ code, (Expansion.ofRecord Sample.summary.record).conformance? = some code ∧
        ∃ value decoded, code.toValue Sample.summary.model state = .ok value ∧
          code.ofValue Sample.summary.model Sample.summary.record.structure value =
            .ok decoded ∧
          ∀ member ∈ Sample.summary.record.mappedStored,
            (state member.name).Agree (decoded member.name) := by
  intro state
  have distinct : (Sample.summary.record.members.map Member.name).Nodup := by decide +kernel
  have keysDistinct : (Sample.summary.record.mapped.map Member.wireKey).Nodup := by decide +kernel
  have typed : ∀ member ∈ Sample.summary.record.mappedStored,
      MemberType.ofPhrase? member.type.phrase = some (state member.name).type := by
    have all : (Sample.summary.record.mappedStored.all fun member =>
        decide (MemberType.ofPhrase? member.type.phrase = some (state member.name).type)) =
          true := by
      decide +kernel
    exact fun member mapped => of_decide_eq_true (List.all_eq_true.mp all member mapped)
  have emitted : (Expansion.ofRecord Sample.summary.record).conformance?.isSome = true := by
    decide +kernel
  obtain ⟨code, found⟩ := Option.isSome_iff_exists.mp emitted
  obtain ⟨value, decoded, written, read, same, -⟩ :=
    Conformance.roundTrip (Model.ofBodies_holds Sample.summary.bodies) distinct found
      keysDistinct state state fun member mapped => ⟨rfl, typed member mapped⟩
  refine ⟨distinct, keysDistinct, typed, code, found, value, decoded, written, read, ?_⟩
  intro member mapped
  obtain ⟨datum, isDatum, agree⟩ := same member mapped
  rw [isDatum]
  exact agree

end KeyedRecord
