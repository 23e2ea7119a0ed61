/-
**Bytes by way of JSON.**

In the text of a document bytes are an array of numbers, and an array is not read as bytes. So a
record that stores bytes in its document is read from the document itself, but never from the text
of the document: the first mapped member that holds bytes is rejected, however many there are.

* `Model.Holds.convert_array`: an array is rejected as bytes, and in which words.
* `Conformance.bytes_lost_in_json`: what comes of the two ways.
-/

import KeyedRecord.Proofs.Behaviour.Json
import KeyedRecord.Sample.Stored

namespace KeyedRecord

section

variable {D : Type} {model : Model D} {hold : Datum → D}

/-- An array is rejected as bytes. -/
theorem Model.Holds.convert_array (holds : model.Holds hold) {type : Phrase}
    (declared : MemberType.ofPhrase? type = some .bytes) (items : List Value) :
    model.convert type (.array items) = .error "expected binary, got array" := by
  rw [holds.convert_hold declared]
  rfl

/-- A member of bytes under whose key an array stands fails because of the array. -/
theorem Model.Holds.error_of_array (holds : model.Holds hold) {member : Member}
    (declared : MemberType.ofPhrase? member.type.phrase = some .bytes) {fields : Fields}
    {items : List Value} (held : Fields.get? fields member.wireKey = some (.array items))
    {error : DecodeError} (fails : member.FailsWith model fields error) :
    error = .typeMismatch member.wireKey "expected binary, got array" := by
  rcases fails with ⟨missing, -⟩ | ⟨value, words, found, rejected, mismatch⟩
  · rw [held] at missing
    cases missing
  · obtain rfl := Option.some.inj (held.symm.trans found)
    rw [holds.convert_array declared] at rejected
    rw [mismatch, ← Except.error.inj rejected]

/-- Such a member cannot be read. -/
theorem Model.Holds.not_readable_of_array (holds : model.Holds hold) {member : Member}
    (declared : MemberType.ofPhrase? member.type.phrase = some .bytes) {fields : Fields}
    {items : List Value} (held : Fields.get? fields member.wireKey = some (.array items)) :
    ¬ member.IsReadable model fields := by
  rintro ⟨value, datum, found, converted⟩
  obtain rfl := Option.some.inj (held.symm.trans found)
  rw [holds.convert_array declared] at converted
  cases converted

/-- A datum of bytes agrees only with itself. -/
theorem Datum.Agree.eq_of_bytes {first second : Datum} (agree : first.Agree second)
    (bytes : first.type = .bytes) : second = first := by
  cases agree with
  | @intro type first second agree =>
    cases bytes
    have same : second = first := agree
    rw [same]

/-- What unpacked fields hold under a name that is bound. -/
theorem Fields.get?_unpacked_of_eq {fields : Fields} {name : String} {value : Value}
    (held : fields.get? name = some value) :
    Fields.get? (fields.map fun field => (field.1, field.2.unpacked)) name =
      some value.unpacked := by
  rw [Fields.get?_unpacked, held, Option.map_some]

/-- The value of a datum of bytes is unpacked into an array. -/
theorem Datum.unpacked_bytes {datum : Datum} (bytes : datum.type = .bytes) :
    ∃ items, datum.toValue.unpacked = .array items := by
  obtain ⟨type, content⟩ := datum
  cases bytes
  exact ⟨_, rfl⟩

section

variable {record : Record} {code : Conformance} (state : State D) (data : Ident → Datum)
  (typed : ∀ member ∈ record.mapped,
    member.datum model state = hold (data member.name) ∧
    MemberType.ofPhrase? member.type.phrase = some (data member.name).type)

include typed

/-- A stored member has its datum in the state itself. -/
theorem Record.stored_typed : ∀ member ∈ record.mappedStored,
    state member.name = hold (data member.name) ∧
    MemberType.ofPhrase? member.type.phrase = some (data member.name).type := by
  intro member mappedStored
  obtain ⟨mapped, stored⟩ := List.mem_filter.mp mappedStored
  have ownDatum : member.datum model state = state member.name := by
    rw [Member.datum, if_neg (by simpa using stored)]
  exact ⟨ownDatum ▸ (typed member mapped).1, (typed member mapped).2⟩

/-- The document of typed data holds their values under the keys of the members, and if it is
finite each of its texts is read as the document with its bytes as arrays of numbers. -/
theorem Conformance.Serves.document_of_data (holds : model.Holds hold)
    (serves : code.Serves record) (keysDistinct : (record.mapped.map Member.wireKey).Nodup) :
    ∃ fields, code.toValue model state = .ok (.struct fields) ∧
      (∀ member ∈ record.mapped,
        Fields.get? fields member.wireKey = some (data member.name).toValue) ∧
      ((Value.struct fields).IsFinite → ∀ text, Json.IsTextOf (.struct fields) text →
        Json.read text =
          .ok (.struct (fields.map fun field => (field.1, field.2.unpacked)))) := by
  obtain ⟨fields, isWritten, written⟩ := serves.toValue_of_distinct model state keysDistinct
  obtain ⟨ordered, parts⟩ := serves.toValue_parts model state isWritten
  have values : ∀ member ∈ record.mapped,
      model.toValue (member.datum model state) = (data member.name).toValue := by
    intro member mapped
    rw [(typed member mapped).1, holds.toValue_hold]
  refine ⟨fields, isWritten, fun member mapped => ?_,
    fun finite text => Json.read_struct ordered (fun field inside => ?_) finite⟩
  · rw [written member mapped, values member mapped]
  · obtain ⟨member, mapped, value⟩ := parts field inside
    exact ⟨data member.name, value.trans (values member mapped)⟩

/-- Once the document has been unpacked, a stored mapped member is read exactly if it holds no
bytes. -/
theorem Member.isReadable_unpacked_iff (holds : model.Holds hold) {fields : Fields}
    {member : Member} (mapped : member ∈ record.mappedStored)
    (written : Fields.get? fields member.wireKey = some (data member.name).toValue) :
    member.IsReadable model (fields.map fun field => (field.1, field.2.unpacked)) ↔
      (data member.name).type ≠ .bytes := by
  have declared := (Record.stored_typed state data typed member mapped).2
  have held := Fields.get?_unpacked_of_eq written
  refine ⟨fun readable bytes => ?_, fun noBytes => ?_⟩
  · obtain ⟨items, isArray⟩ := Datum.unpacked_bytes bytes
    exact holds.not_readable_of_array (bytes ▸ declared) (isArray ▸ held) readable
  · rw [Datum.unpacked_toValue noBytes, ← holds.toValue_hold] at held
    exact (holds.read_eq declared held).1

/-- **What is read from an unpacked document** with bytes: the first member that holds bytes is
found to be an array. -/
theorem Conformance.Serves.ofValue_unpacked (holds : model.Holds hold)
    (serves : code.Serves record) (distinct : (record.members.map Member.name).Nodup)
    {fields : Fields} (written : ∀ member ∈ record.mapped,
      Fields.get? fields member.wireKey = some (data member.name).toValue)
    (hasBytes : ∃ member ∈ record.mappedStored, (data member.name).type = .bytes) :
    ∃ before member rest, record.mappedStored = before ++ member :: rest ∧
      (∀ earlier ∈ before, (data earlier.name).type ≠ .bytes) ∧
      (data member.name).type = .bytes ∧
      code.ofValue model record.structure
          (.struct (fields.map fun field => (field.1, field.2.unpacked))) =
        .error (.typeMismatch member.wireKey "expected binary, got array") := by
  have readable := fun (member : Member) (mapped : member ∈ record.mappedStored) =>
    Member.isReadable_unpacked_iff state data typed holds mapped
      (written member (List.mem_of_mem_filter mapped))
  rcases serves.ofValue_cases model distinct
      (fields.map fun field => (field.1, field.2.unpacked)) with
    ⟨all, -⟩ | ⟨before, member, rest, error, split, earlier, failed, isError⟩
  · obtain ⟨member, mapped, bytes⟩ := hasBytes
    exact absurd bytes ((readable member mapped).mp (all member mapped))
  · have mapped : member ∈ record.mappedStored := by simp [split]
    have bytes : (data member.name).type = .bytes :=
      not_not.mp (mt (readable member mapped).mpr (failed.not_readable model))
    have declared := (Record.stored_typed state data typed member mapped).2
    have held := Fields.get?_unpacked_of_eq (written member (List.mem_of_mem_filter mapped))
    obtain ⟨items, isArray⟩ := Datum.unpacked_bytes bytes
    rw [holds.error_of_array (bytes ▸ declared) (isArray ▸ held) failed] at isError
    refine ⟨before, member, rest, split, fun other inside => ?_, bytes, isError⟩
    exact (readable other (by simp [split, inside])).mp (earlier other inside)

end

/-- **Bytes are lost in the text of a document.** Let the members of a record have distinct names,
the mapped ones distinct keys and data of their declared types, and let some stored one of them
hold bytes. Then the state has a document, and reading the document gives the bytes back. Every text
of the document, with its fields in whatever order, is read as one structure if every floating-point
number in the document is finite, but no state is read from that: the first stored mapped member
that holds bytes is found to be an array. -/
theorem Conformance.bytes_lost_in_json (holds : model.Holds hold) {record : Record}
    {code : Conformance} (distinct : (record.members.map Member.name).Nodup)
    (emitted : (Expansion.ofRecord record).conformance? = some code)
    (keysDistinct : (record.mapped.map Member.wireKey).Nodup)
    (state : State D) (data : Ident → Datum)
    (typed : ∀ member ∈ record.mapped,
      member.datum model state = hold (data member.name) ∧
      MemberType.ofPhrase? member.type.phrase = some (data member.name).type)
    (hasBytes : ∃ member ∈ record.mappedStored, (data member.name).type = .bytes) :
    ∃ value, code.toValue model state = .ok value ∧
      (∃ decoded, code.ofValue model record.structure value = .ok decoded ∧
        ∀ member ∈ record.mappedStored, (data member.name).type = .bytes →
          decoded member.name = state member.name) ∧
      (value.IsFinite → ∃ fields before member rest,
        (∀ text, Json.IsTextOf value text → Json.read text = .ok (.struct fields)) ∧
        record.mappedStored = before ++ member :: rest ∧
        (∀ earlier ∈ before, (data earlier.name).type ≠ .bytes) ∧
        (data member.name).type = .bytes ∧
        code.ofValue model record.structure (.struct fields) =
          .error (.typeMismatch member.wireKey "expected binary, got array")) := by
  have serves := Conformance.serves_of_emitted emitted
  have storedTyped := Record.stored_typed state data typed
  obtain ⟨fields, isWritten, written, read⟩ :=
    serves.document_of_data state data typed holds keysDistinct
  refine ⟨.struct fields, isWritten, ?_, fun finite => ?_⟩
  · obtain ⟨value, decoded, isWritten', isDecoded, same, -⟩ :=
      Conformance.roundTrip holds distinct emitted keysDistinct state data storedTyped
    rw [isWritten] at isWritten'
    rw [← Except.ok.inj isWritten'] at isDecoded
    refine ⟨decoded, isDecoded, fun member mapped bytes => ?_⟩
    obtain ⟨datum, isDatum, agree⟩ := same member mapped
    rw [isDatum, agree.eq_of_bytes bytes, (storedTyped member mapped).1]
  · obtain ⟨before, member, rest, split, earlier, bytes, isError⟩ :=
      serves.ofValue_unpacked state data typed holds distinct written hasBytes
    exact ⟨_, before, member, rest, read finite, split, earlier, bytes, isError⟩

end

/-- Two bytes beside a number, a text and the negative zero come back from a document, but not from
its text. -/
theorem bytes_lost_in_json_sample :
    let state : State Datum := fun name =>
      if name.name = "payload" then ⟨.bytes, [0, 255]⟩
      else if name.name = "body" then Datum.text "a"
      else if name.name = "score" then ⟨.scalar .double, Binary.zero true⟩
      else Datum.integer 7
    (Sample.message.record.members.map Member.name).Nodup ∧
      (Sample.message.record.mapped.map Member.wireKey).Nodup ∧
      ∃ code, (Expansion.ofRecord Sample.message.record).conformance? = some code ∧
        ∃ value, code.toValue Sample.message.model state = .ok value ∧ value.IsFinite ∧
          (∃ decoded, code.ofValue Sample.message.model Sample.message.record.structure value =
            .ok decoded) ∧
          ∃ fields, Json.read (Json.write value) = .ok (.struct fields) ∧
            code.ofValue Sample.message.model Sample.message.record.structure (.struct fields) =
              .error (.typeMismatch "payload" "expected binary, got array") := by
  intro state
  have distinct : (Sample.message.record.members.map Member.name).Nodup := by decide +kernel
  have keysDistinct : (Sample.message.record.mapped.map Member.wireKey).Nodup := by decide +kernel
  have typed : ∀ member ∈ Sample.message.record.mapped,
      member.datum Sample.message.model state = id (state member.name) ∧
      MemberType.ofPhrase? member.type.phrase = some (state member.name).type := by
    have all : (Sample.message.record.mapped.all fun member => !member.isComputed &&
        decide (MemberType.ofPhrase? member.type.phrase = some (state member.name).type)) =
          true := by
      decide +kernel
    intro member mapped
    have one := List.all_eq_true.mp all member mapped
    rw [Bool.and_eq_true, decide_eq_true_eq] at one
    exact ⟨by rw [Member.datum, if_neg (by simpa using one.1)]; rfl, one.2⟩
  have hasBytes : (Sample.message.record.mappedStored.any fun member =>
      decide ((state member.name).type = .bytes)) = true := by
    decide +kernel
  have single : (Sample.message.record.mappedStored.all fun member =>
      decide ((state member.name).type = .bytes → member.wireKey = "payload")) = true := by
    decide +kernel
  have emitted : (Expansion.ofRecord Sample.message.record).conformance?.isSome = true := by
    decide +kernel
  have allFinite : ((Expansion.ofRecord Sample.message.record).conformance?.all fun code =>
      (code.toValue Sample.message.model state).toOption.all fun value =>
        decide value.IsFinite) = true := by
    decide +kernel
  obtain ⟨code, found⟩ := Option.isSome_iff_exists.mp emitted
  obtain ⟨member, mapped, bytes⟩ := List.any_eq_true.mp hasBytes
  obtain ⟨value, written, ⟨decoded, isDecoded, -⟩, lost⟩ :=
    Conformance.bytes_lost_in_json (Model.ofBodies_holds Sample.message.bodies) distinct found
      keysDistinct state state typed ⟨member, mapped, of_decide_eq_true bytes⟩
  have finite : value.IsFinite := by
    rw [found] at allFinite
    change ((code.toValue Sample.message.model state).toOption.all fun value =>
      decide value.IsFinite) = true at allFinite
    change code.toValue Sample.message.model state = .ok value at written
    rw [written] at allFinite
    exact of_decide_eq_true allFinite
  obtain ⟨fields, before, first, rest, read, split, -, isBytes, isError⟩ := lost finite
  have key : first.wireKey = "payload" :=
    of_decide_eq_true (List.all_eq_true.mp single first (by simp [split])) isBytes
  rw [key] at isError
  exact ⟨distinct, keysDistinct, code, found, value, written, finite, ⟨decoded, isDecoded⟩,
    fields, read _ (Json.isTextOf_write value), isError⟩

end KeyedRecord
