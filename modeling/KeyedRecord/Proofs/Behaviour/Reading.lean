/-
**Reading a record.**

Reading goes through the stored mapped members in order of declaration and stops at the first one
that the fields do not hold. What it gives depends on the fields by the keys of these members
alone.

* `ReadStep.runAll_eq`: a run of reading steps reads the members one after the other.
* `Member.readAllFrom_cases`: what reading members comes to.
* `Conformance.Serves.fill_bound`, `Conformance.Serves.fill_unbound`: what a state is filled with.
* `Conformance.Serves.ofValue_cases`: what reading a structure comes to.
* `Conformance.read_up_to_failure`: reading succeeds exactly if every stored mapped member can be
  read, and fails with the error of the first one that cannot.
-/

import KeyedRecord.Proofs.Document.Fields
import KeyedRecord.Proofs.Expansion.Service
import KeyedRecord.Sample.Catalogue

namespace KeyedRecord

section

variable {Datum : Type} (model : Model Datum)

/-! ### One member -/

/-- The datum that fields hold for a member, or what is wrong with it. -/
def Member.readFrom (fields : Fields) (member : Member) : Except DecodeError Datum :=
  match Fields.get? fields member.wireKey with
  | none => .error (.missingKey member.wireKey)
  | some value =>
    (model.convert member.type.phrase value).mapError (.typeMismatch member.wireKey)

/-- The key of the member is there, and its type has a datum for what stands under it. -/
def Member.IsReadable (fields : Fields) (member : Member) : Prop :=
  ∃ value datum, Fields.get? fields member.wireKey = some value ∧
    model.convert member.type.phrase value = .ok datum

/-- The key of the member is not there, or its type has no datum for what stands under it. The
error says which, and in what words the type rejects the value. -/
def Member.FailsWith (fields : Fields) (member : Member) (error : DecodeError) : Prop :=
  (Fields.get? fields member.wireKey = none ∧ error = .missingKey member.wireKey) ∨
    ∃ value words, Fields.get? fields member.wireKey = some value ∧
      model.convert member.type.phrase value = .error words ∧
      error = .typeMismatch member.wireKey words

/-- The datum that a member has of its own: its initial value, or the default of its type. -/
def Member.ownDatum (member : Member) : Datum :=
  match member.initial with
  | some value => model.initial member.name value
  | none => model.typeDefault member.type.phrase

/-- A member is read, or it fails with an error. -/
theorem Member.readFrom_cases (fields : Fields) (member : Member) :
    (member.IsReadable model fields ∧ ∃ datum, member.readFrom model fields = .ok datum) ∨
      ∃ error, member.FailsWith model fields error ∧
        member.readFrom model fields = .error error := by
  unfold Member.readFrom Member.IsReadable Member.FailsWith
  cases found : Fields.get? fields member.wireKey with
  | none => exact .inr ⟨_, .inl ⟨rfl, rfl⟩, rfl⟩
  | some value =>
    cases converted : model.convert member.type.phrase value with
    | ok datum => exact .inl ⟨⟨value, datum, rfl, converted⟩, datum, by simp [converted]; rfl⟩
    | error words =>
      exact .inr ⟨_, .inr ⟨value, words, rfl, converted, rfl⟩, by simp [converted]; rfl⟩

/-- A member that fails cannot be read. -/
theorem Member.FailsWith.not_readable {fields : Fields} {member : Member} {error : DecodeError}
    (failed : member.FailsWith model fields error) : ¬ member.IsReadable model fields := by
  rintro ⟨value, datum, found, converted⟩
  rcases failed with ⟨missing, -⟩ | ⟨other, words, found', rejected, -⟩
  · rw [found] at missing
    cases missing
  · obtain rfl := Option.some.inj (found.symm.trans found')
    rw [converted] at rejected
    cases rejected

/-! ### Many members -/

/-- Reads members one after the other, up to the first one that cannot be read. -/
def Member.readAllFrom (fields : Fields) : List Member → Except DecodeError (List (Ident × Datum))
  | [] => .ok []
  | member :: rest => do
    let datum ← member.readFrom model fields
    return (member.name, datum) :: (← readAllFrom fields rest)

/-- **Reading members** either reads every one of them, or fails with the error of the first one
that cannot be read. -/
theorem Member.readAllFrom_cases (fields : Fields) (members : List Member) :
    ((∀ member ∈ members, member.IsReadable model fields) ∧
      ∃ bindings, Member.readAllFrom model fields members = .ok bindings ∧
        bindings.map Prod.fst = members.map Member.name ∧
        ∀ member ∈ members, ∃ datum, (member.name, datum) ∈ bindings ∧
          member.readFrom model fields = .ok datum) ∨
    ∃ before member rest error, members = before ++ member :: rest ∧
      (∀ earlier ∈ before, earlier.IsReadable model fields) ∧
      member.FailsWith model fields error ∧
      Member.readAllFrom model fields members = .error error := by
  induction members with
  | nil =>
    exact .inl ⟨fun _ inside => (by cases inside), [], rfl, rfl, fun _ inside => (by cases inside)⟩
  | cons first rest ih =>
    rw [Member.readAllFrom]
    rcases first.readFrom_cases model fields with
      ⟨readable, datum, isRead⟩ | ⟨error, failed, isRead⟩
    · rcases ih with ⟨all, bindings, run, names, data⟩ |
        ⟨before, member, behind, error, rfl, all, failed, run⟩
      · rw [isRead, run]
        refine .inl ⟨List.forall_mem_cons.mpr ⟨readable, all⟩, (first.name, datum) :: bindings, rfl,
          congrArg (first.name :: ·) names, List.forall_mem_cons.mpr ⟨?_, fun member inside => ?_⟩⟩
        · exact ⟨datum, List.mem_cons_self, isRead⟩
        · obtain ⟨other, bound, isRead⟩ := data member inside
          exact ⟨other, List.mem_cons_of_mem _ bound, isRead⟩
      · rw [isRead, run]
        exact .inr ⟨first :: before, member, behind, error, rfl,
          List.forall_mem_cons.mpr ⟨readable, all⟩, failed, rfl⟩
    · rw [isRead]
      exact .inr ⟨[], first, rest, error, rfl, fun _ inside => (by cases inside), failed, rfl⟩

/-- Fields that hold the same under the keys of the members are read alike. -/
theorem Member.readAllFrom_congr {fields others : Fields} {members : List Member}
    (agree : ∀ member ∈ members,
      Fields.get? fields member.wireKey = Fields.get? others member.wireKey) :
    Member.readAllFrom model fields members = Member.readAllFrom model others members := by
  induction members with
  | nil => rfl
  | cons first rest ih =>
    have same : first.readFrom model fields = first.readFrom model others := by
      rw [Member.readFrom, Member.readFrom, agree first List.mem_cons_self]
    rw [Member.readAllFrom, Member.readAllFrom, same,
      ih fun member inside => agree member (List.mem_cons_of_mem first inside)]

/-- A run of steps that read members reads these members. -/
theorem ReadStep.runAll_eq {declaration : Structure} {keys : Keys String} (fields : Fields)
    {members : List Member} {steps : List ReadStep}
    (read : List.Forall₂ Member.IsReadBy members steps)
    (stands : ∀ member ∈ members, keys.key member.name.variant = member.wireKey)
    (declared : ∀ member ∈ members, ∀ step : ReadStep, member.IsReadBy step →
      step.typePhrase declaration = member.type.phrase) :
    ReadStep.runAll model declaration keys fields steps =
      Member.readAllFrom model fields members := by
  induction read with
  | nil => rfl
  | @cons member step members steps isRead _ ih =>
    have key : keys.key step.variant = member.wireKey := by
      rw [isRead.names]
      exact stands member List.mem_cons_self
    have one : keys.read (model.convert (step.typePhrase declaration)) fields step.variant =
        member.readFrom model fields := by
      rw [keys.read_eq, key, declared member List.mem_cons_self step isRead]
      rfl
    rw [ReadStep.runAll, Member.readAllFrom, one, isRead.binds,
      ih (fun other inside => stands other (List.mem_cons_of_mem member inside))
        fun other inside => declared other (List.mem_cons_of_mem member inside)]

/-! ### Records -/

namespace Conformance.Serves

variable {code : Conformance} {record : Record}

/-- The code that serves a record reads the stored mapped members and fills a state. -/
theorem read_eq (serves : code.Serves record) (declarable : record.structure.IsDeclarable)
    (fields : Fields) : code.read model record.structure fields =
      (Member.readAllFrom model fields record.mappedStored).map
        (code.reading.fill model record.structure) := by
  have run : ReadStep.runAll model record.structure code.keys.keys fields code.reading.steps =
      Member.readAllFrom model fields record.mappedStored := by
    refine ReadStep.runAll_eq model fields serves.steps ?_ ?_
    · exact fun member stored => serves.key_eq (List.mem_of_mem_filter stored)
    · exact fun member stored step isRead =>
        isRead.typePhrase_eq declarable (Record.mem_storedMembers stored)
  rw [Conformance.read, run]
  cases Member.readAllFrom model fields record.mappedStored with
  | ok bindings => rfl
  | error error => rfl

/-- The state of a record is filled by what each of its stored members is filled with. -/
theorem fill_eq (serves : code.Serves record) (distinct : (record.members.map Member.name).Nodup)
    (bindings : List (Ident × Datum)) {member : Member} (stored : member ∈ record.storedMembers) :
    code.reading.fill model record.structure bindings member.name =
      (member.filled (record.mappedStored.map Member.name)).datum model record.structure
        bindings := by
  have fieldNames : (code.reading.fields.map FilledField.name).Nodup := by
    rw [serves.fields, List.map_map]
    exact distinct.sublist (List.filter_sublist.map _)
  have listed : member.filled (record.mappedStored.map Member.name) ∈ code.reading.fields := by
    rw [serves.fields]
    exact List.mem_map_of_mem stored
  have found := find?_of_nodup fieldNames listed
  unfold Reading.fill
  rw [show member.name = (member.filled (record.mappedStored.map Member.name)).name from rfl, found]

/-- A stored mapped member is filled with what has been bound to its name. -/
theorem fill_bound (serves : code.Serves record)
    (distinct : (record.members.map Member.name).Nodup) {bindings : List (Ident × Datum)}
    (names : bindings.map Prod.fst = record.mappedStored.map Member.name)
    {member : Member} (mapped : member ∈ record.mappedStored) {datum : Datum}
    (bound : (member.name, datum) ∈ bindings) :
    code.reading.fill model record.structure bindings member.name = datum := by
  have keysDistinct : (bindings.map Prod.fst).Nodup := by
    rw [names]
    exact distinct.sublist ((List.filter_sublist.trans List.filter_sublist).map _)
  have isBound : (record.mappedStored.map Member.name).contains member.name = true :=
    List.contains_iff_mem.mpr (List.mem_map_of_mem mapped)
  rw [serves.fill_eq model distinct bindings (Record.mem_storedMembers mapped)]
  simp only [Member.filled, isBound, if_true, FilledField.datum]
  rw [lookup_of_nodup keysDistinct bound]
  rfl

/-- Any other stored member is filled with its own datum, whatever has been bound. -/
theorem fill_unbound (serves : code.Serves record)
    (distinct : (record.members.map Member.name).Nodup) (bindings : List (Ident × Datum))
    {member : Member} (stored : member ∈ record.storedMembers)
    (unmapped : member ∉ record.mapped) :
    code.reading.fill model record.structure bindings member.name = member.ownDatum model := by
  have notBound : (record.mappedStored.map Member.name).contains member.name = false := by
    rw [Bool.eq_false_iff, ne_eq, List.contains_iff_mem, List.mem_map]
    rintro ⟨other, mapped, same⟩
    have inside := List.mem_of_mem_filter mapped
    rw [List.inj_on_of_nodup_map distinct (List.mem_of_mem_filter inside)
      (List.mem_of_mem_filter stored) same] at inside
    exact unmapped inside
  rw [serves.fill_eq model distinct bindings stored]
  simp only [Member.filled, notBound, FilledField.datum, Member.ownDatum]
  cases member.initial with
  | some value => rfl
  | none =>
    show model.typeDefault (record.structure.typeOf member.name) = _
    rw [Record.typeOf_eq (Record.isDeclarable_structure distinct) stored]

/-- **Reading a structure** either reads every stored mapped member, and the state that has been
read holds what they are read as and the own data of the other stored members; or it fails with the
error of the first stored mapped member that cannot be read. -/
theorem ofValue_cases (serves : code.Serves record)
    (distinct : (record.members.map Member.name).Nodup) (fields : Fields) :
    ((∀ member ∈ record.mappedStored, member.IsReadable model fields) ∧
      ∃ decoded, code.ofValue model record.structure (.struct fields) = .ok decoded ∧
        (∀ member ∈ record.mappedStored,
          member.readFrom model fields = .ok (decoded member.name)) ∧
        ∀ member ∈ record.storedMembers, member ∉ record.mapped →
          decoded member.name = member.ownDatum model) ∨
    ∃ before member rest error, record.mappedStored = before ++ member :: rest ∧
      (∀ earlier ∈ before, earlier.IsReadable model fields) ∧
      member.FailsWith model fields error ∧
      code.ofValue model record.structure (.struct fields) = .error error := by
  have ofStruct : code.ofValue model record.structure (.struct fields) =
      (Member.readAllFrom model fields record.mappedStored).map
        (code.reading.fill model record.structure) :=
    serves.read_eq model (Record.isDeclarable_structure distinct) fields
  rw [ofStruct]
  rcases Member.readAllFrom_cases model fields record.mappedStored with
    ⟨all, bindings, run, names, data⟩ | ⟨before, member, rest, error, split, all, failed, run⟩
  · rw [run]
    refine .inl ⟨all, code.reading.fill model record.structure bindings, rfl,
      fun member mapped => ?_,
      fun member stored unmapped => serves.fill_unbound model distinct bindings stored unmapped⟩
    obtain ⟨datum, bound, isRead⟩ := data member mapped
    rw [isRead, serves.fill_bound model distinct names mapped bound]
  · rw [run]
    exact .inr ⟨before, member, rest, error, split, all, failed, rfl⟩

/-- Structures that hold the same under the keys of the stored mapped members are read alike. -/
theorem ofValue_congr (serves : code.Serves record)
    (distinct : (record.members.map Member.name).Nodup) {fields others : Fields}
    (agree : ∀ member ∈ record.mappedStored,
      Fields.get? fields member.wireKey = Fields.get? others member.wireKey) :
    code.ofValue model record.structure (.struct fields) =
      code.ofValue model record.structure (.struct others) := by
  show code.read model record.structure fields = code.read model record.structure others
  have declarable := Record.isDeclarable_structure distinct
  rw [serves.read_eq model declarable, serves.read_eq model declarable,
    Member.readAllFrom_congr model agree]

end Conformance.Serves

/-- **Reading stops at the first member that cannot be read.** What is not a structure is rejected
by its kind. A structure is read exactly if, for every stored mapped member, the key is there and
the member's type has a datum for what stands under it; otherwise the error is the one of the first
such member that fails. Structures that hold the same under the keys of these members are read
alike, whatever else they hold. -/
theorem Conformance.read_up_to_failure {record : Record} {code : Conformance}
    (distinct : (record.members.map Member.name).Nodup)
    (emitted : (Expansion.ofRecord record).conformance? = some code) :
    (∀ value : Value, value.kind ≠ .struct →
      code.ofValue model record.structure value = .error (.expectedStruct value.kind)) ∧
    ∀ fields : Fields,
      ((∃ state, code.ofValue model record.structure (.struct fields) = .ok state) ↔
        ∀ member ∈ record.mappedStored, member.IsReadable model fields) ∧
      (∀ error, code.ofValue model record.structure (.struct fields) = .error error →
        ∃ before member rest, record.mappedStored = before ++ member :: rest ∧
          (∀ earlier ∈ before, earlier.IsReadable model fields) ∧
          member.FailsWith model fields error) ∧
      ∀ others : Fields, (∀ member ∈ record.mappedStored,
          Fields.get? fields member.wireKey = Fields.get? others member.wireKey) →
        code.ofValue model record.structure (.struct fields) =
          code.ofValue model record.structure (.struct others) := by
  have serves := Conformance.serves_of_emitted emitted
  refine ⟨fun value kind => ?_, fun fields => ⟨?_, ?_, fun others agree => ?_⟩⟩
  · cases value with
    | struct fields => exact absurd rfl kind
    | _ => rfl
  · rcases serves.ofValue_cases model distinct fields with
      ⟨all, decoded, succeeded, -⟩ | ⟨before, member, rest, cause, split, -, fails, failed⟩
    · exact ⟨fun _ => all, fun _ => ⟨decoded, succeeded⟩⟩
    · rw [failed]
      refine ⟨fun ⟨state, succeeded⟩ => (by cases succeeded), fun all => ?_⟩
      exact absurd (all member (by simp [split])) (fails.not_readable model)
  · intro error failure
    rcases serves.ofValue_cases model distinct fields with
      ⟨-, decoded, succeeded, -⟩ | ⟨before, member, rest, cause, split, all, fails, failed⟩
    · rw [succeeded] at failure
      cases failure
    · rw [failed] at failure
      obtain rfl := Except.error.inj failure
      exact ⟨before, member, rest, split, all, fails⟩
  · exact serves.ofValue_congr model distinct agree

end

/-- Of a record with a computed member, whose list is dropped, the number alone is read. -/
theorem read_up_to_failure_samples :
    (Sample.tagged.record.members.map Member.name).Nodup ∧
      ∃ code, (Expansion.ofRecord Sample.tagged.record).conformance? = some code ∧
        (∃ state, code.ofValue Sample.tagged.model Sample.tagged.record.structure
          (.struct [("number", .integer 4)]) = .ok state) ∧
        code.ofValue Sample.tagged.model Sample.tagged.record.structure (.array []) =
          .error (.expectedStruct .array) := by
  have distinct : (Sample.tagged.record.members.map Member.name).Nodup := by decide +kernel
  have emitted : (Expansion.ofRecord Sample.tagged.record).conformance?.isSome = true := by
    decide +kernel
  have allRead : (Sample.tagged.record.mappedStored.all fun member =>
      (member.readFrom Sample.tagged.model [("number", .integer 4)]).isOk) = true := by
    decide +kernel
  obtain ⟨code, found⟩ := Option.isSome_iff_exists.mp emitted
  have read := Conformance.read_up_to_failure Sample.tagged.model distinct found
  refine ⟨distinct, code, found, (read.2 _).1.mpr fun member mapped => ?_,
    read.1 (.array []) (by decide)⟩
  rcases member.readFrom_cases Sample.tagged.model [("number", .integer 4)] with
    ⟨readable, -⟩ | ⟨error, -, failed⟩
  · exact readable
  · have isRead := List.all_eq_true.mp allRead member mapped
    rw [failed] at isRead
    cases isRead

end KeyedRecord
