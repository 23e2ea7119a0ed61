/-
**What a container says about its fields.**

A container is asked whether the key of a variant is there, which variants have theirs there, and
what stands under a key. All answers come from one look at the fields (`Keys.reads_cases`): either
nothing stands under the key, and every question is answered so, or a value stands there, and both
ways of reading convert it with the same outcome.

* `Keys.present_eq`: the variants whose keys are there, as a part of all variants in order.
* `Keys.reads_congr`: the answers depend on what stands under the keys of the enumeration alone.
* `Keys.reads_agree`: the answers agree with each other.
-/

import KeyedRecord.Proofs.Document.Fields
import KeyedRecord.Proofs.Value.Congruence
import Mathlib.Data.List.TFAE

namespace KeyedRecord

/-- Of equal values a type makes the same datum, or words its failure in the same way. -/
theorem MemberType.convert_of_beq (type : MemberType) {first second : Value}
    (equal : (first == second) = true) : type.convert first = type.convert second := by
  rw [convert, convert, (Value.Indistinct.of_beq equal).datum type]

namespace Keys

section

variable {Variant Datum : Type} (keys : Keys Variant) (convert : Value → Except String Datum)
  (fields : Fields) (variant : Variant)

/-! ### One look at the fields -/

/-- **What asking for a variant comes to.** Where nothing stands under the key, the key is not
there, reading if present gives nothing, and reading misses the key. Where a value stands, the key
is there, and both ways of reading give its datum, or fail with the words for why it has none. -/
theorem reads_cases :
    (Fields.get? fields (keys.key variant) = none ∧ keys.isPresent fields variant = false ∧
      keys.readIfPresent convert fields variant = .ok none ∧
      keys.read convert fields variant = .error (.missingKey (keys.key variant))) ∨
    ∃ value, Fields.get? fields (keys.key variant) = some value ∧
      keys.isPresent fields variant = true ∧
      ((∃ datum, convert value = .ok datum ∧
          keys.readIfPresent convert fields variant = .ok (some datum) ∧
          keys.read convert fields variant = .ok datum) ∨
        ∃ words, convert value = .error words ∧
          keys.readIfPresent convert fields variant =
            .error (.typeMismatch (keys.key variant) words) ∧
          keys.read convert fields variant =
            .error (.typeMismatch (keys.key variant) words)) := by
  rw [isPresent, Fields.contains_eq, read_eq]
  simp only [readIfPresent]
  cases Fields.get? fields (keys.key variant) with
  | none => exact .inl ⟨rfl, rfl, rfl, rfl⟩
  | some value =>
    refine .inr ⟨value, rfl, rfl, ?_⟩
    dsimp only
    cases convert value with
    | ok datum => exact .inl ⟨datum, rfl, rfl, rfl⟩
    | error words => exact .inr ⟨words, rfl, rfl, rfl⟩

theorem isPresent_eq :
    keys.isPresent fields variant = (Fields.get? fields (keys.key variant)).isSome :=
  Fields.contains_eq fields (keys.key variant)

/-- A key is there exactly if reading it if present gives anything but nothing. -/
theorem readIfPresent_ne_none_iff :
    keys.readIfPresent convert fields variant ≠ .ok none ↔
      keys.isPresent fields variant = true := by
  rcases keys.reads_cases convert fields variant with
    ⟨-, absent, nothing, -⟩ | ⟨value, -, present, ⟨datum, -, given, -⟩ | ⟨words, -, failed, -⟩⟩
  · simp [absent, nothing]
  · simp [present, given]
  · simp [present, failed]

/-- A key is there exactly if reading it does not miss it. A value that cannot be converted is not
missing. -/
theorem read_ne_missingKey_iff :
    (∀ key, keys.read convert fields variant ≠ .error (.missingKey key)) ↔
      keys.isPresent fields variant = true := by
  rcases keys.reads_cases convert fields variant with
    ⟨-, absent, -, missed⟩ | ⟨value, -, present, ⟨datum, -, -, given⟩ | ⟨words, -, -, failed⟩⟩
  · simp [absent, missed]
  · simp [present, given]
  · simp [present, failed]

/-! ### The variants that are there -/

theorem mem_present_iff :
    variant ∈ keys.present fields ↔ variant ∈ keys.all ∧ keys.isPresent fields variant = true :=
  List.mem_filter

/-- The variants whose keys are there are the variants under whose keys a value stands. -/
theorem present_eq : keys.present fields =
    keys.all.filter fun variant => (Fields.get? fields (keys.key variant)).isSome :=
  List.filter_congr fun variant _ => keys.isPresent_eq fields variant

end

/-! ### What the answers depend on -/

section

variable {Variant : Type} (keys : Keys Variant)

/-- Fields that hold equal values under a key, or nothing both, give the same answers about it. -/
theorem reads_congr {fields others : Fields} {variant : Variant}
    (agree : (Fields.get? fields (keys.key variant) ==
      Fields.get? others (keys.key variant)) = true) :
    keys.isPresent fields variant = keys.isPresent others variant ∧
      ∀ type : MemberType,
        keys.readIfPresent type.convert fields variant =
            keys.readIfPresent type.convert others variant ∧
          keys.read type.convert fields variant = keys.read type.convert others variant := by
  simp only [isPresent_eq, read_eq, readIfPresent]
  cases found : Fields.get? fields (keys.key variant) <;>
    cases foundOther : Fields.get? others (keys.key variant) <;>
    simp only [found, foundOther, Option.some_beq_some] at agree
  · exact ⟨rfl, fun _ => ⟨rfl, rfl⟩⟩
  · cases agree
  · cases agree
  · refine ⟨rfl, fun type => ?_⟩
    simp only [type.convert_of_beq agree, and_self]

/-- **The answers of a container agree.** For a variant of the enumeration it is the same that it is
among the variants that are there, that its key is there, that reading it if present does not give
nothing, and that reading it does not miss the key; and then both ways of reading give the same
datum, or fail at its key in the same words. The variants that are there are those under whose keys
a value stands, in order of declaration, so with a variant all others of the same key. Structures
that hold equal values under the keys of the enumeration, or nothing both, get the same answers. -/
theorem reads_agree :
    (∀ (fields : Fields), ∀ variant ∈ keys.all, ∀ type : MemberType,
      List.TFAE [variant ∈ keys.present fields, keys.isPresent fields variant = true,
        keys.readIfPresent type.convert fields variant ≠ .ok none,
        ∀ key, keys.read type.convert fields variant ≠ .error (.missingKey key)] ∧
      (variant ∈ keys.present fields →
        (∃ datum, keys.read type.convert fields variant = .ok datum ∧
          keys.readIfPresent type.convert fields variant = .ok (some datum)) ∨
        ∃ words, keys.read type.convert fields variant =
            .error (.typeMismatch (keys.key variant) words) ∧
          keys.readIfPresent type.convert fields variant =
            .error (.typeMismatch (keys.key variant) words))) ∧
    (∀ fields : Fields,
      keys.present fields =
        keys.all.filter (fun variant => (Fields.get? fields (keys.key variant)).isSome) ∧
      ∀ variant ∈ keys.present fields, ∀ other ∈ keys.all, keys.key other = keys.key variant →
        other ∈ keys.present fields) ∧
    ∀ fields others : Fields,
      (∀ variant ∈ keys.all, (Fields.get? fields (keys.key variant) ==
        Fields.get? others (keys.key variant)) = true) →
      keys.present fields = keys.present others ∧
        ∀ variant ∈ keys.all,
          keys.isPresent fields variant = keys.isPresent others variant ∧
            ∀ type : MemberType,
              keys.readIfPresent type.convert fields variant =
                  keys.readIfPresent type.convert others variant ∧
                keys.read type.convert fields variant =
                  keys.read type.convert others variant := by
  refine ⟨fun fields variant listed type => ⟨?_, fun inside => ?_⟩,
    fun fields => ⟨keys.present_eq fields, ?_⟩, fun fields others agree => ⟨?_, ?_⟩⟩
  · -- Each answer is compared with the one whether the key is there.
    refine List.tfae_of_forall (keys.isPresent fields variant = true) _ ?_
    have among : variant ∈ keys.present fields ↔ keys.isPresent fields variant = true :=
      (keys.mem_present_iff fields variant).trans (and_iff_right listed)
    simp only [List.forall_mem_cons, among, readIfPresent_ne_none_iff, read_ne_missingKey_iff,
      List.not_mem_nil, false_implies, implies_true, and_self]
  · have present := ((keys.mem_present_iff fields variant).mp inside).2
    rcases keys.reads_cases type.convert fields variant with
      ⟨-, absent, -, -⟩ | ⟨value, -, -, ⟨datum, -, given, read⟩ | ⟨words, -, failed, read⟩⟩
    · rw [absent] at present
      cases present
    · exact .inl ⟨datum, read, given⟩
    · exact .inr ⟨words, read, failed⟩
  · intro variant inside other listed same
    rw [mem_present_iff, isPresent_eq] at inside ⊢
    exact ⟨listed, same ▸ inside.2⟩
  · exact List.filter_congr fun variant listed => (keys.reads_congr (agree variant listed)).1
  · exact fun variant listed => keys.reads_congr (agree variant listed)

end

/-- Two variants stand for one key: both are there, with or without other fields, and neither is
missed, though the text under it is no integer. -/
theorem reads_agree_sample :
    (Keys.ofList ["id", "id", "name"]).present [("id", .text "x")] =
        [⟨0, by decide⟩, ⟨1, by decide⟩] ∧
      (Keys.ofList ["id", "id", "name"]).present [("more", .array []), ("id", .text "x")] =
        [⟨0, by decide⟩, ⟨1, by decide⟩] ∧
      ∀ key, (Keys.ofList ["id", "id", "name"]).read
        (MemberType.convert (.scalar (.integer .i64))) [("id", .text "x")] ⟨1, by decide⟩ ≠
          .error (.missingKey key) := by
  have agrees := reads_agree (Keys.ofList ["id", "id", "name"])
  have present : (Keys.ofList ["id", "id", "name"]).present [("id", .text "x")] =
      [⟨0, by decide⟩, ⟨1, by decide⟩] := by decide
  have same := (agrees.2.2 [("id", .text "x")] [("more", .array []), ("id", .text "x")]
    (by decide)).1
  have missed := (agrees.1 [("id", .text "x")] ⟨1, by decide⟩ (by decide)
    (.scalar (.integer .i64))).1.out 0 3
  refine ⟨present, same.symm.trans present, missed.mp ?_⟩
  rw [present]
  decide

end Keys

end KeyedRecord
