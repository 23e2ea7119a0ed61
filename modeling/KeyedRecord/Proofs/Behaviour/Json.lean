/-
**Records by way of JSON.**

The document of a record is in order and nests at most two deep, so each of its texts is read back
if its floating-point numbers are finite, whatever the order of the fields in it. What comes back is
the document with its bytes as arrays of numbers. Bytes that a getter gives are never read, so as
long as no stored member holds bytes the state that is decoded does not depend on whether the
document has gone through its text.

* `Conformance.Serves.toValue_parts`: the fields of a document.
* `Conformance.Serves.decoded_computed`: computed members are not assigned.
* `Conformance.roundTrip_json`: the way of a state through the text of its document.
-/

import KeyedRecord.Proofs.Behaviour.RoundTrip
import KeyedRecord.Proofs.Json.RoundTrip
import KeyedRecord.Proofs.Value.Datum
import KeyedRecord.Sample.Basic

namespace KeyedRecord

section

variable {D : Type} (model : Model D) (state : State D)

/-! ### The fields of a document -/

/-- What every binding of a step keeps, a run of the steps keeps. -/
theorem WriteStep.runAll_keeps {keys : Keys String} {motive : Fields → Prop}
    {steps : List WriteStep}
    (keep : ∀ step ∈ steps, ∀ fields, motive fields → motive (Fields.insert (keys.key step.variant)
      (model.toValue (step.datum model state)) fields))
    {fields : Fields} (start : motive fields) :
    motive (WriteStep.runAll model keys state steps fields).2 := by
  induction steps generalizing fields with
  | nil => exact start
  | cons step rest ih =>
    rw [WriteStep.runAll]
    by_cases free : Fields.get? fields (keys.key step.variant) = none
    · rw [keys.write_of_free fields _ _ free]
      exact ih (fun other inside => keep other (List.mem_cons_of_mem step inside))
        (keep step List.mem_cons_self fields start)
    · rw [keys.write_of_taken fields _ _ free]
      exact start

namespace Conformance.Serves

variable {code : Conformance} {record : Record}

/-- **The fields of a document** are in order, and each of them holds the value of a mapped member's
datum. -/
theorem toValue_parts (serves : code.Serves record) {fields : Fields}
    (written : code.toValue model state = .ok (.struct fields)) :
    fields.IsOrdered ∧ ∀ field ∈ fields, ∃ member ∈ record.mapped,
      field.2 = model.toValue (member.datum model state) := by
  have after : (WriteStep.runAll model code.keys.keys state
      (record.mapped.map Member.writeStep) []).2 = fields := by
    rw [Conformance.toValue, serves.write_eq model state] at written
    split at written
    · rename_i run
      rw [run]
      injection written with same
      injection same
    · cases written
  rw [← after]
  refine WriteStep.runAll_keeps model state (motive := fun fields => fields.IsOrdered ∧
    ∀ field ∈ fields, ∃ member ∈ record.mapped,
      field.2 = model.toValue (member.datum model state)) ?_ ?_
  · intro step inside fields start
    obtain ⟨member, mapped, rfl⟩ := List.mem_map.mp inside
    refine ⟨start.1.insert _ _, fun field inside => ?_⟩
    rcases Fields.mem_insert inside with rfl | before
    · exact ⟨member, mapped, by rw [member.writeStep_datum]⟩
    · exact start.2 field before
  · exact ⟨.nil, fun _ inside => by cases inside⟩

/-! ### Computed members -/

/-- A computed member is no field, and is filled with what any other name holds. -/
theorem fill_computed (serves : code.Serves record)
    (distinct : (record.members.map Member.name).Nodup) (bindings : List (Ident × D))
    {member : Member} (inside : member ∈ record.members) (computed : member.isComputed = true) :
    code.reading.fill model record.structure bindings member.name = model.typeDefault [] := by
  have absent : code.reading.fields.find? (fun field => field.name == member.name) = none := by
    rw [List.find?_eq_none, serves.fields]
    intro field listed
    obtain ⟨other, stored, rfl⟩ := List.mem_map.mp listed
    obtain ⟨declared, notComputed⟩ := List.mem_filter.mp stored
    rw [beq_iff_eq]
    intro same
    have equal : other = member := List.inj_on_of_nodup_map distinct declared inside same
    rw [equal, computed] at notComputed
    cases notComputed
  unfold Reading.fill
  rw [absent]

/-- **Computed members are not assigned** by reading. -/
theorem decoded_computed (serves : code.Serves record)
    (distinct : (record.members.map Member.name).Nodup) {fields : Fields} {decoded : State D}
    (read : code.ofValue model record.structure (.struct fields) = .ok decoded)
    {member : Member} (inside : member ∈ record.members) (computed : member.isComputed = true) :
    decoded member.name = model.typeDefault [] := by
  have filled : (Member.readAllFrom model fields record.mappedStored).map
      (code.reading.fill model record.structure) = .ok decoded :=
    (serves.read_eq model (Record.isDeclarable_structure distinct) fields).symm.trans read
  cases run : Member.readAllFrom model fields record.mappedStored with
  | error error =>
    rw [run] at filled
    cases filled
  | ok bindings =>
    rw [run] at filled
    rw [← Except.ok.inj filled]
    exact serves.fill_computed model distinct bindings inside computed

end Conformance.Serves

end

/-! ### The way of a state through a text -/

section

variable {D : Type} {model : Model D} {hold : Datum → D}

/-- A structure in order whose fields hold values of data is read back from each of its texts. -/
theorem Json.read_struct {fields : Fields} (ordered : fields.IsOrdered)
    (data : ∀ field ∈ fields, ∃ datum : Datum, field.2 = datum.toValue)
    (finite : (Value.struct fields).IsFinite) {text : String}
    (isText : Json.IsTextOf (.struct fields) text) :
    Json.read text = .ok (.struct (fields.map fun field => (field.1, field.2.unpacked))) := by
  have orderedParts : (Value.struct fields).IsOrdered := by
    refine .struct ordered fun field inside => ?_
    obtain ⟨datum, value⟩ := data field inside
    rw [value]
    exact datum.toValue_isOrdered
  have shallow : (Value.struct fields).nesting ≤ Json.nestingLimit := by
    refine (Value.nesting_struct_le_iff fields 126).mpr fun field inside => ?_
    obtain ⟨datum, value⟩ := data field inside
    rw [value]
    exact datum.nesting_toValue_le.trans (by decide)
  rw [Json.read_of_ordered isText orderedParts finite shallow, Value.unpacked_struct]

/-- The value of a finite datum is read as the datum, bit by bit. -/
theorem Model.Holds.read_of_isFinite (holds : model.Holds hold) {member : Member} {datum : Datum}
    {fields : Fields} (declared : MemberType.ofPhrase? member.type.phrase = some datum.type)
    (held : Fields.get? fields member.wireKey = some datum.toValue)
    (finite : (Value.struct fields).IsFinite) :
    member.IsReadable model fields ∧ member.readFrom model fields = .ok (hold datum) := by
  have holdsDatum : Fields.get? fields member.wireKey = some (model.toValue (hold datum)) := by
    rw [held, holds.toValue_hold]
  obtain ⟨readable, decoded, isRead, agree⟩ := holds.read_eq declared holdsDatum
  have finiteDatum : datum.toValue.IsFinite :=
    (Value.isFinite_struct_iff fields).mp finite _ (mem_of_lookup held)
  rw [agree.eq_of_isFinite finiteDatum] at isRead
  exact ⟨readable, isRead⟩

/-- **A state comes back from the text of its document.** Let the members of a record have distinct
names, the mapped ones distinct keys and data of their declared types, and let no stored one of
them hold bytes. Then the state has a document, and if every floating-point number in it is finite,
every text of the document, with its fields in whatever order, is read as one structure, which is
decoded as the same state as the document itself. In that state every stored mapped member has
exactly the datum that it had at first. Every computed mapped member stands in what has been read,
and is not assigned. -/
theorem Conformance.roundTrip_json (holds : model.Holds hold) {record : Record}
    {code : Conformance} (distinct : (record.members.map Member.name).Nodup)
    (emitted : (Expansion.ofRecord record).conformance? = some code)
    (keysDistinct : (record.mapped.map Member.wireKey).Nodup)
    (state : State D) (data : Ident → Datum)
    (typed : ∀ member ∈ record.mapped,
      member.datum model state = hold (data member.name) ∧
      MemberType.ofPhrase? member.type.phrase = some (data member.name).type)
    (noBytes : ∀ member ∈ record.mappedStored, (data member.name).type ≠ .bytes) :
    ∃ value, code.toValue model state = .ok value ∧
      (value.IsFinite → ∃ fields decoded,
        (∀ text, Json.IsTextOf value text → Json.read text = .ok (.struct fields)) ∧
        code.ofValue model record.structure (.struct fields) = .ok decoded ∧
        code.ofValue model record.structure value = .ok decoded ∧
        (∀ member ∈ record.mappedStored, decoded member.name = state member.name) ∧
        ∀ member ∈ record.mapped, member.isComputed = true →
          Fields.get? fields member.wireKey =
            some (model.toValue (model.call member.name state)).unpacked ∧
          decoded member.name = model.typeDefault []) := by
  have serves := Conformance.serves_of_emitted emitted
  obtain ⟨fields, isWritten, written⟩ := serves.toValue_of_distinct model state keysDistinct
  obtain ⟨ordered, parts⟩ := serves.toValue_parts model state isWritten
  have values : ∀ member ∈ record.mapped,
      model.toValue (member.datum model state) = (data member.name).toValue := by
    intro member mapped
    rw [(typed member mapped).1, holds.toValue_hold]
  refine ⟨.struct fields, isWritten, fun finite => ?_⟩
  have read : ∀ text, Json.IsTextOf (.struct fields) text →
      Json.read text = .ok (.struct (fields.map fun field => (field.1, field.2.unpacked))) := by
    refine fun text => Json.read_struct ordered (fun field inside => ?_) finite
    obtain ⟨member, mapped, value⟩ := parts field inside
    exact ⟨data member.name, value.trans (values member mapped)⟩
  -- Unpacking changes nothing that is read.
  have same : code.ofValue model record.structure
        (.struct (fields.map fun field => (field.1, field.2.unpacked))) =
      code.ofValue model record.structure (.struct fields) := by
    refine serves.ofValue_congr model distinct fun member mapped => ?_
    have isMapped := List.mem_of_mem_filter mapped
    rw [Fields.get?_unpacked, written member isMapped, values member isMapped, Option.map_some,
      Datum.unpacked_toValue (noBytes member mapped)]
  have back : ∀ member ∈ record.mappedStored, member.IsReadable model fields ∧
      member.readFrom model fields = .ok (state member.name) := by
    intro member mappedStored
    obtain ⟨mapped, stored⟩ := List.mem_filter.mp mappedStored
    obtain ⟨held, declared⟩ := typed member mapped
    have ownDatum : member.datum model state = state member.name := by
      rw [Member.datum, if_neg (by simpa using stored)]
    have isHeld : Fields.get? fields member.wireKey = some (data member.name).toValue := by
      rw [written member mapped, values member mapped]
    rw [← ownDatum, held]
    exact holds.read_of_isFinite declared isHeld finite
  rcases serves.ofValue_cases model distinct fields with
    ⟨-, decoded, isDecoded, assigned, -⟩ | ⟨before, member, rest, error, split, -, fails, -⟩
  · refine ⟨_, decoded, read, same.trans isDecoded, isDecoded, fun member mapped => ?_,
      fun member mapped computed => ⟨?_, ?_⟩⟩
    · exact Except.ok.inj ((assigned member mapped).symm.trans (back member mapped).2)
    · rw [Fields.get?_unpacked, written member mapped, Member.datum, if_pos computed]
      rfl
    · exact serves.decoded_computed model distinct isDecoded (List.mem_of_mem_filter mapped)
        computed
  · exact absurd (back member (by simp [split])).1 (fails.not_readable model)

end

/-- A record with numbers of both widths, a text, and bytes that a getter gives. -/
def Sample.gauge : Sample where
  record := declare "Gauge"
    [stored [] "ratio" (named "f64"),
     stored [renamed "span \"w\""] "span" (named "f32"),
     stored [] "label" (named "String"),
     stored [excluded] "hits" (named "u32"),
     computed [renamed "raw"] "raw" (listOf "u8")
       (Phrase.template "self . label . as_bytes" ++ Phrase.parenthesized [])]
  bodies := { call := [(Ident.plain "raw", fun _ => ⟨.bytes, [0, 255]⟩)] }

/-- The negative zero, the least positive number of 32 bits and a text with a quote and a control
come back from the text of their document. -/
theorem roundTrip_json_sample :
    let state : State Datum := fun name =>
      if name.name = "ratio" then ⟨.scalar .double, Binary.zero true⟩
      else if name.name = "span" then ⟨.scalar .single, Binary.ofBits 1⟩
      else Datum.text "a\"\n\u0001"
    (Sample.gauge.record.members.map Member.name).Nodup ∧
      (Sample.gauge.record.mapped.map Member.wireKey).Nodup ∧
      ∃ code, (Expansion.ofRecord Sample.gauge.record).conformance? = some code ∧
        ∃ value, code.toValue Sample.gauge.model state = .ok value ∧ value.IsFinite ∧
          ∃ fields decoded, Json.read (Json.write value) = .ok (.struct fields) ∧
            code.ofValue Sample.gauge.model Sample.gauge.record.structure (.struct fields) =
              .ok decoded ∧
            ∀ member ∈ Sample.gauge.record.mappedStored,
              decoded member.name = state member.name := by
  intro state
  let data : Ident → Datum := fun name =>
    if name = Ident.plain "raw" then Sample.gauge.model.call name state else state name
  have distinct : (Sample.gauge.record.members.map Member.name).Nodup := by decide +kernel
  have keysDistinct : (Sample.gauge.record.mapped.map Member.wireKey).Nodup := by decide +kernel
  have typed : ∀ member ∈ Sample.gauge.record.mapped,
      member.datum Sample.gauge.model state = data member.name ∧
      MemberType.ofPhrase? member.type.phrase = some (data member.name).type := by
    have all : (Sample.gauge.record.mapped.all fun member =>
        member.isComputed == decide (member.name = Ident.plain "raw") &&
        decide (MemberType.ofPhrase? member.type.phrase = some (data member.name).type)) =
          true := by
      decide +kernel
    intro member mapped
    have one := List.all_eq_true.mp all member mapped
    rw [Bool.and_eq_true, beq_iff_eq, decide_eq_true_eq] at one
    refine ⟨?_, one.2⟩
    unfold Member.datum
    rw [one.1]
    simp only [data, decide_eq_true_eq]
  have noBytes : ∀ member ∈ Sample.gauge.record.mappedStored,
      (data member.name).type ≠ .bytes := by
    have all : (Sample.gauge.record.mappedStored.all fun member =>
        decide ((data member.name).type ≠ .bytes)) = true := by
      decide +kernel
    exact fun member mapped => of_decide_eq_true (List.all_eq_true.mp all member mapped)
  have emitted : (Expansion.ofRecord Sample.gauge.record).conformance?.isSome = true := by
    decide +kernel
  have allFinite : ((Expansion.ofRecord Sample.gauge.record).conformance?.all fun code =>
      (code.toValue Sample.gauge.model state).toOption.all fun value =>
        decide value.IsFinite) = true := by
    decide +kernel
  obtain ⟨code, found⟩ := Option.isSome_iff_exists.mp emitted
  obtain ⟨value, written, back⟩ :=
    Conformance.roundTrip_json (Model.ofBodies_holds Sample.gauge.bodies) distinct found
      keysDistinct state data typed noBytes
  have finite : value.IsFinite := by
    rw [found] at allFinite
    change ((code.toValue Sample.gauge.model state).toOption.all fun value =>
      decide value.IsFinite) = true at allFinite
    change code.toValue Sample.gauge.model state = .ok value at written
    rw [written] at allFinite
    exact of_decide_eq_true allFinite
  obtain ⟨fields, decoded, read, isDecoded, -, same, -⟩ := back finite
  exact ⟨distinct, keysDistinct, code, found, value, written, finite, fields, decoded,
    read _ (Json.isTextOf_write value), isDecoded, same⟩

end KeyedRecord
