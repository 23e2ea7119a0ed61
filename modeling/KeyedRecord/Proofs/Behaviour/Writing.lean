/-
**Writing a record.**

Writing goes through the mapped members in order of declaration and stops at the first one whose
key is taken, by what the fields held before or by an earlier member.

* `WriteStep.runAll_cases`: what a run of writing steps comes to, and what it leaves behind.
* `Conformance.Serves.toValue_of_distinct`: what a document holds if the keys are distinct.
* `Conformance.write_until_taken`: writing succeeds exactly if the keys of the mapped members are
  distinct and free, whatever the state; it leaves what was there, with the members that have been
  written beside it.
-/

import KeyedRecord.Proofs.Document.Fields
import KeyedRecord.Proofs.Expansion.Service
import KeyedRecord.Sample.Catalogue

namespace KeyedRecord

/-- The names are distinct, and nothing is bound to any of them. -/
def Fields.AreFree (fields : Fields) (names : List String) : Prop :=
  names.Nodup ∧ ∀ name ∈ names, Fields.get? fields name = none

/-- Names are free together if the first one is and the others are once it is bound. -/
theorem Fields.AreFree.cons {fields : Fields} {name : String} {value : Value} {names : List String}
    (free : Fields.get? fields name = none)
    (rest : Fields.AreFree (Fields.insert name value fields) names) :
    Fields.AreFree fields (name :: names) := by
  have apart : ∀ other ∈ names, other ≠ name ∧ Fields.get? fields other = none := by
    intro other member
    have unbound := rest.2 other member
    rw [Fields.get?_insert] at unbound
    by_cases same : other = name
    · rw [if_pos same] at unbound
      cases unbound
    · rw [if_neg same] at unbound
      exact ⟨same, unbound⟩
  refine ⟨List.nodup_cons.mpr ⟨fun member => (apart name member).1 rfl, rest.1⟩, ?_⟩
  exact List.forall_mem_cons.mpr ⟨free, fun other member => (apart other member).2⟩

/-- Of free names each is free by itself, and none stands among those before it. -/
theorem Fields.AreFree.of_append {fields : Fields} {before rest : List String} {name : String}
    (free : Fields.AreFree fields (before ++ name :: rest)) :
    Fields.get? fields name = none ∧ name ∉ before := by
  refine ⟨free.2 name (by simp), fun repeated => ?_⟩
  exact (List.nodup_append.mp free.1).2.2 name repeated name List.mem_cons_self rfl

section

variable {Datum : Type} (model : Model Datum) (state : State Datum)

/-- The datum of a member in a state: that of its field, or what its getter gives. -/
def Member.datum (member : Member) : Datum :=
  if member.isComputed then model.call member.name state else state member.name

/-- The key of a member, with the value of its datum. -/
def Member.binding (member : Member) : String × Value :=
  (member.wireKey, model.toValue (member.datum model state))

/-- The writing step of a member writes the member's datum. -/
theorem Member.writeStep_datum (member : Member) :
    member.writeStep.datum model state = member.datum model state := by
  unfold WriteStep.datum Member.writeStep Member.datum
  cases member.isComputed with
  | false => rfl
  | true => rfl

theorem Member.map_fst_binding (members : List Member) :
    (members.map (Member.binding model state)).map Prod.fst = members.map Member.wireKey := by
  rw [List.map_map]
  rfl

/-- A run goes on after a member whose key is free, with the member written. -/
theorem WriteStep.runAll_of_free {keys : Keys String} {first : Member} (steps : List WriteStep)
    {fields : Fields} (stands : keys.key first.name.variant = first.wireKey)
    (free : Fields.get? fields first.wireKey = none) :
    WriteStep.runAll model keys state (first.writeStep :: steps) fields =
      WriteStep.runAll model keys state steps
        (Fields.insert first.wireKey (model.toValue (first.datum model state)) fields) := by
  have key : keys.key first.writeStep.variant = first.wireKey := stands
  rw [WriteStep.runAll, keys.write_of_free fields _ _ (by rw [key]; exact free), key,
    first.writeStep_datum]

/-- A run stops at a member whose key is taken. -/
theorem WriteStep.runAll_of_taken {keys : Keys String} {first : Member} (steps : List WriteStep)
    {fields : Fields} (stands : keys.key first.name.variant = first.wireKey)
    (taken : Fields.get? fields first.wireKey ≠ none) :
    WriteStep.runAll model keys state (first.writeStep :: steps) fields =
      (.error (.duplicateKey first.wireKey), fields) := by
  have key : keys.key first.writeStep.variant = first.wireKey := stands
  rw [WriteStep.runAll, keys.write_of_taken fields _ _ (by rw [key]; exact taken), key]

/-- **A run of writing steps** either finds every key free and writes every member, or stops at the
first member whose key is taken and has written those before it. -/
theorem WriteStep.runAll_cases (keys : Keys String) (members : List Member) (fields : Fields)
    (stands : ∀ member ∈ members, keys.key member.name.variant = member.wireKey) :
    (Fields.AreFree fields (members.map Member.wireKey) ∧
      ∃ after, WriteStep.runAll model keys state (members.map Member.writeStep) fields =
          (.ok (), after) ∧
        Fields.IsExtension fields (members.map (Member.binding model state)) after) ∨
    ∃ before member rest, members = before ++ member :: rest ∧
      Fields.AreFree fields (before.map Member.wireKey) ∧
      (Fields.get? fields member.wireKey ≠ none ∨ member.wireKey ∈ before.map Member.wireKey) ∧
      ∃ after, WriteStep.runAll model keys state (members.map Member.writeStep) fields =
          (.error (.duplicateKey member.wireKey), after) ∧
        Fields.IsExtension fields (before.map (Member.binding model state)) after := by
  induction members generalizing fields with
  | nil => exact .inl ⟨⟨.nil, fun _ member => by cases member⟩, fields, rfl, .refl fields⟩
  | cons first rest ih =>
    have standsFirst := stands first List.mem_cons_self
    by_cases free : Fields.get? fields first.wireKey = none
    · -- What is free once the first member is written is free here as well.
      have goesOn := WriteStep.runAll_of_free model state (rest.map Member.writeStep) standsFirst
        free
      rcases ih (Fields.insert first.wireKey (model.toValue (first.datum model state)) fields)
        fun member inside => stands member (List.mem_cons_of_mem first inside) with
        ⟨freeRest, after, run, extension⟩ |
        ⟨before, member, behind, rfl, freeBefore, taken, after, run, extension⟩
      · have freeAll := Fields.AreFree.cons free freeRest
        refine .inl ⟨freeAll, after, goesOn.trans run, extension.cons ?_⟩
        rw [Member.map_fst_binding]
        exact (List.nodup_cons.mp freeAll.1).1
      · have freeAll := Fields.AreFree.cons free freeBefore
        refine .inr ⟨first :: before, member, behind, rfl, freeAll, ?_, after, goesOn.trans run,
          extension.cons ?_⟩
        · rw [Fields.get?_insert] at taken
          rw [List.map_cons, List.mem_cons]
          by_cases same : member.wireKey = first.wireKey
          · exact .inr (.inl same)
          · rw [if_neg same] at taken
            exact taken.imp_right .inr
        · rw [Member.map_fst_binding]
          exact (List.nodup_cons.mp freeAll.1).1
    · exact .inr ⟨[], first, rest, rfl, ⟨.nil, fun _ member => by cases member⟩, .inl free, fields,
        WriteStep.runAll_of_taken model state _ standsFirst free, .refl fields⟩

/-- The code that serves a record writes its mapped members. -/
theorem Conformance.Serves.write_eq {code : Conformance} {record : Record}
    (serves : code.Serves record) (fields : Fields) :
    code.write model state fields =
      WriteStep.runAll model code.keys.keys state (record.mapped.map Member.writeStep) fields := by
  rw [Conformance.write, serves.writes]

/-- If the keys of the mapped members are distinct, the document of a record holds under each of
them the value of the member's datum. -/
theorem Conformance.Serves.toValue_of_distinct {code : Conformance} {record : Record}
    (serves : code.Serves record) (keysDistinct : (record.mapped.map Member.wireKey).Nodup) :
    ∃ fields, code.toValue model state = .ok (.struct fields) ∧
      ∀ member ∈ record.mapped,
        Fields.get? fields member.wireKey = some (model.toValue (member.datum model state)) := by
  rcases WriteStep.runAll_cases model state code.keys.keys record.mapped []
    (fun member mapped => serves.key_eq mapped) with
    ⟨-, fields, run, extension⟩ | ⟨before, member, rest, split, -, taken, -⟩
  · refine ⟨fields, ?_, fun member mapped => ?_⟩
    · rw [Conformance.toValue, serves.write_eq model state, run]
    · have bound : (record.mapped.map (Member.binding model state)).lookup member.wireKey =
          some (model.toValue (member.datum model state)) := by
        refine lookup_of_nodup ?_ (List.mem_map_of_mem (f := Member.binding model state) mapped)
        rw [Member.map_fst_binding]
        exact keysDistinct
      rw [extension member.wireKey, bound, Option.some_or]
  · have free : Fields.AreFree [] (record.mapped.map Member.wireKey) :=
      ⟨keysDistinct, fun _ _ => rfl⟩
    rw [split, List.map_append] at free
    rcases taken with taken | repeated
    · exact absurd free.of_append.1 taken
    · exact absurd repeated free.of_append.2

/-- **Writing stops at the first key that is taken.** It succeeds exactly if the keys of the mapped
members are distinct and free in the given fields, whatever the state; the fields then hold each of
these members beside what they held before, and nothing else. Otherwise the error names the key of
the first member whose key is taken before or used by an earlier member, and exactly the members
before that one have been written. A document is what is written into no fields. -/
theorem Conformance.write_until_taken {record : Record} {code : Conformance}
    (emitted : (Expansion.ofRecord record).conformance? = some code) (fields : Fields) :
    ((code.write model state fields).1 = .ok () ↔
      (record.mapped.map Member.wireKey).Nodup ∧
        ∀ member ∈ record.mapped, Fields.get? fields member.wireKey = none) ∧
    ((code.write model state fields).1 = .ok () →
      Fields.IsExtension fields (record.mapped.map (Member.binding model state))
        (code.write model state fields).2) ∧
    (∀ error, (code.write model state fields).1 = .error error →
      ∃ before member rest, record.mapped = before ++ member :: rest ∧
        error = .duplicateKey member.wireKey ∧
        ((before.map Member.wireKey).Nodup ∧
          ∀ earlier ∈ before, Fields.get? fields earlier.wireKey = none) ∧
        (Fields.get? fields member.wireKey ≠ none ∨ member.wireKey ∈ before.map Member.wireKey) ∧
        Fields.IsExtension fields (before.map (Member.binding model state))
          (code.write model state fields).2) ∧
    code.toValue model state =
      (code.write model state []).1.map fun _ => .struct (code.write model state []).2 := by
  have serves := Conformance.serves_of_emitted emitted
  have document : code.toValue model state =
      (code.write model state []).1.map fun _ => .struct (code.write model state []).2 := by
    unfold Conformance.toValue
    rcases code.write model state [] with ⟨_ | _, _⟩ <;> rfl
  rw [serves.write_eq model state fields]
  rcases WriteStep.runAll_cases model state code.keys.keys record.mapped fields
    (fun member mapped => serves.key_eq mapped) with
    ⟨free, after, run, extension⟩ |
    ⟨before, member, rest, split, free, taken, after, run, extension⟩
  · rw [run]
    rw [Fields.AreFree, List.forall_mem_map] at free
    exact ⟨⟨fun _ => free, fun _ => rfl⟩, fun _ => extension, fun error failed => (by cases failed),
      document⟩
  · rw [run]
    rw [Fields.AreFree, List.forall_mem_map] at free
    refine ⟨⟨fun succeeded => (by cases succeeded), ?_⟩, fun succeeded => (by cases succeeded), ?_,
      document⟩
    · -- The member at which the run stops has a key that is taken or repeated.
      rintro ⟨distinct, allFree⟩
      have free : Fields.AreFree fields (record.mapped.map Member.wireKey) :=
        ⟨distinct, List.forall_mem_map.mpr allFree⟩
      rw [split, List.map_append] at free
      rcases taken with taken | repeated
      · exact absurd free.of_append.1 taken
      · exact absurd repeated free.of_append.2
    · intro error failed
      obtain rfl := Except.error.inj failed
      exact ⟨before, member, rest, split, rfl, free, taken, extension⟩

end

/-- A record with a computed member is written, and one with two members under one key is not. -/
theorem write_until_taken_samples :
    (∃ code, (Expansion.ofRecord Sample.summary.record).conformance? = some code ∧
      (code.write Sample.summary.model (fun _ => Datum.integer 0) []).1 = .ok ()) ∧
    ∃ code, (Expansion.ofRecord Sample.clash.record).conformance? = some code ∧
      (code.write Sample.clash.model (fun _ => Datum.integer 0) []).1 ≠ .ok () := by
  have emittedSummary : (Expansion.ofRecord Sample.summary.record).conformance?.isSome = true := by
    decide +kernel
  have emittedClash : (Expansion.ofRecord Sample.clash.record).conformance?.isSome = true := by
    decide +kernel
  obtain ⟨summary, foundSummary⟩ := Option.isSome_iff_exists.mp emittedSummary
  obtain ⟨clash, foundClash⟩ := Option.isSome_iff_exists.mp emittedClash
  refine ⟨⟨summary, foundSummary, ?_⟩, clash, foundClash, fun succeeded => ?_⟩
  · refine (Conformance.write_until_taken Sample.summary.model (fun _ => Datum.integer 0)
      foundSummary []).1.mpr ⟨?_, fun _ _ => rfl⟩
    decide +kernel
  · have distinct := ((Conformance.write_until_taken Sample.clash.model (fun _ => Datum.integer 0)
      foundClash []).1.mp succeeded).1
    exact absurd distinct (by decide +kernel)

end KeyedRecord
