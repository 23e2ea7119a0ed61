/-
**Looking up a variant by its key.**

The look-up of a key gives the first variant that stands for it. It gives back every variant by its
own key exactly if no two variants stand for the same key (`Keys.inverts_iff`). The enumeration of a
record lists the variants of the mapped members, each once; two of them stand for one key exactly if
two members have the same key, and then the record cannot be written, whatever its state
(`Conformance.Serves.exists_toValue_iff`).

* `Keys.Inverts`: the look-up gives back every variant by its own key.
* `Conformance.Serves.inverts_iff`: the enumeration of a record, by the keys of its members.
* `Keys.lookup_outcome`: enumerations in general, and those of records.
-/

import KeyedRecord.Proofs.Behaviour.Writing
import KeyedRecord.Proofs.Expansion.Emission

namespace KeyedRecord

/-! ### Enumerations in general -/

namespace Keys

variable {Variant : Type} (keys : Keys Variant)

/-- The look-up gives back every variant of the enumeration by its own key. -/
def Inverts : Prop :=
  ∀ variant ∈ keys.all, keys.find? (keys.key variant) = some variant

/-- The look-up of a key gives the first variant that stands for it. -/
theorem find?_eq_some_iff (key : String) (variant : Variant) :
    keys.find? key = some variant ↔
      ∃ before after, keys.all = before ++ variant :: after ∧ keys.key variant = key ∧
        ∀ earlier ∈ before, keys.key earlier ≠ key := by
  rw [find?, List.find?_eq_some_iff_append]
  simp only [beq_iff_eq, Bool.not_eq_true', beq_eq_false_iff_ne]
  constructor
  · rintro ⟨stands, before, after, split, others⟩
    exact ⟨before, after, split, stands, others⟩
  · rintro ⟨before, after, split, stands, others⟩
    exact ⟨stands, before, after, split, others⟩

/-- The look-up of a key gives nothing exactly if no variant stands for it. -/
theorem find?_eq_none_iff (key : String) :
    keys.find? key = none ↔ ∀ variant ∈ keys.all, keys.key variant ≠ key := by
  simp [find?]

/-- What the look-up gives is a variant of the enumeration that stands for the key. -/
theorem mem_of_find? {key : String} {variant : Variant} (found : keys.find? key = some variant) :
    variant ∈ keys.all ∧ keys.key variant = key := by
  obtain ⟨before, after, split, stands, -⟩ := (keys.find?_eq_some_iff key variant).mp found
  exact ⟨split ▸ List.mem_append_right before List.mem_cons_self, stands⟩

/-- **The look-up gives back every variant exactly if different variants have different keys.** -/
theorem inverts_iff : keys.Inverts ↔
    ∀ variant ∈ keys.all, ∀ other ∈ keys.all, keys.key variant = keys.key other →
      variant = other := by
  constructor
  · intro inverts variant listed other listedOther same
    have found := inverts variant listed
    rw [same, inverts other listedOther] at found
    exact (Option.some.inj found).symm
  · intro apart variant listed
    cases found : keys.find? (keys.key variant) with
    | none => exact absurd rfl ((keys.find?_eq_none_iff _).mp found variant listed)
    | some other =>
      obtain ⟨listedOther, same⟩ := keys.mem_of_find? found
      rw [apart other listedOther variant listed same]

/-- Where each variant is listed once, the look-up gives back every one exactly if their keys are
pairwise distinct. -/
theorem inverts_iff_nodup (once : keys.all.Nodup) :
    keys.Inverts ↔ (keys.all.map keys.key).Nodup := by
  rw [inverts_iff, List.nodup_map_iff_inj_on once]

end Keys

/-! ### The enumeration of a record -/

/-- The phrase is the implementation that lists the variants, in the constant of all keys. -/
def Phrase.IsListing (variants : List String) (phrase : Phrase) : Prop :=
  ∃ heading rest, phrase = heading ++ Phrase.braced
    (Phrase.template "const ALL : & 'static" ++ Phrase.bracketed (Phrase.template "Self") ++
      Phrase.template "= &" ++
      Phrase.bracketed (Phrase.commaSeparated (variants.map (ownVariantPhrase variantPhrase))) ++
      rest)

/-- The wording of an enumeration declares the variants that it lists, and no others. -/
theorem KeyEnumeration.phrase_lists (keys : KeyEnumeration) :
    ∃ enumeration codingKey, keys.phrase variantPhrase = enumeration ++ codingKey ∧
      Phrase.IsEnumeration keys.name keys.keys.all enumeration ∧
      Phrase.IsListing keys.keys.all codingKey := by
  refine ⟨_, _, ?worded, ⟨?derived, keys.visibility, rfl⟩,
    ⟨Phrase.template "impl" ++ Phrase.rooted "CodingKey for" ++ keys.name.phrase, ?rest, rfl⟩⟩
  simp only [KeyEnumeration.phrase, KeyEnumeration.keys, List.append_assoc]
  rfl

namespace Conformance.Serves

variable {code : Conformance} {record : Record} (serves : code.Serves record)

include serves

/-- The enumeration lists the variants of the mapped members, in order of declaration. -/
theorem all_eq : code.keys.keys.all = record.mapped.map fun member => member.name.variant := by
  show code.keys.variants.map KeyVariant.name = _
  rw [serves.variants, List.map_map]
  rfl

/-- The variants stand for the keys of the mapped members. -/
theorem map_key_all :
    code.keys.keys.all.map code.keys.keys.key = record.mapped.map Member.wireKey := by
  rw [serves.all_eq, List.map_map]
  exact List.map_congr_left fun member mapped => serves.key_eq mapped

/-- Each variant is listed once. -/
theorem all_nodup : code.keys.keys.all.Nodup := by
  rw [serves.all_eq]
  exact serves.distinct

/-- The look-up gives back every variant exactly if the mapped members have distinct keys. -/
theorem inverts_iff : code.keys.keys.Inverts ↔ (record.mapped.map Member.wireKey).Nodup := by
  rw [Keys.inverts_iff_nodup _ serves.all_nodup, serves.map_key_all]

/-- **A record can be written exactly if its mapped members have distinct keys**, whatever its
state. -/
theorem exists_toValue_iff {Datum : Type} (model : Model Datum) (state : State Datum) :
    (∃ value, code.toValue model state = .ok value) ↔
      (record.mapped.map Member.wireKey).Nodup := by
  constructor
  · rintro ⟨value, written⟩
    rw [Conformance.toValue, serves.write_eq model state] at written
    rcases WriteStep.runAll_cases model state code.keys.keys record.mapped []
      (fun member mapped => serves.key_eq mapped) with
      ⟨free, -⟩ | ⟨before, member, rest, -, -, -, after, run, -⟩
    · exact free.1
    · rw [run] at written
      cases written
  · intro distinct
    obtain ⟨fields, written, -⟩ := serves.toValue_of_distinct model state distinct
    exact ⟨.struct fields, written⟩

end Conformance.Serves

/-- **The look-up of keys.** In every enumeration it gives the first variant that stands for a key,
and nothing exactly if there is none. It gives back every variant by its own key exactly if
different variants have different keys, which are the keys being pairwise distinct where each
variant is listed once. The enumeration of a record lists each of its variants once, in order of
declaration of the members, as its wording does; and its look-up gives back every variant exactly if
the record can be written, in any state. -/
theorem Keys.lookup_outcome :
    (∀ {Variant : Type} (keys : Keys Variant),
      (∀ key variant, keys.find? key = some variant ↔
        ∃ before after, keys.all = before ++ variant :: after ∧ keys.key variant = key ∧
          ∀ earlier ∈ before, keys.key earlier ≠ key) ∧
      (∀ key, keys.find? key = none ↔ ∀ variant ∈ keys.all, keys.key variant ≠ key) ∧
      (keys.Inverts ↔ ∀ variant ∈ keys.all, ∀ other ∈ keys.all,
        keys.key variant = keys.key other → variant = other) ∧
      (keys.all.Nodup → (keys.Inverts ↔ (keys.all.map keys.key).Nodup))) ∧
    ∀ {record : Record} {code : Conformance},
      (Expansion.ofRecord record).conformance? = some code →
      code.keys.keys.all = record.mapped.map (fun member => member.name.variant) ∧
      code.keys.keys.all.Nodup ∧
      (∃ enumeration codingKey, code.keys.phrase variantPhrase = enumeration ++ codingKey ∧
        Phrase.IsEnumeration code.keys.name code.keys.keys.all enumeration ∧
        Phrase.IsListing code.keys.keys.all codingKey) ∧
      ∀ {Datum : Type} (model : Model Datum) (state : State Datum),
        code.keys.keys.Inverts ↔ ∃ value, code.toValue model state = .ok value := by
  constructor
  · intro Variant keys
    exact ⟨keys.find?_eq_some_iff, keys.find?_eq_none_iff, keys.inverts_iff,
      keys.inverts_iff_nodup⟩
  · intro record code emitted
    have serves := Conformance.serves_of_emitted emitted
    exact ⟨serves.all_eq, serves.all_nodup, code.keys.phrase_lists, fun model state =>
      serves.inverts_iff.trans (serves.exists_toValue_iff model state).symm⟩

/-- The look-up gives back every variant of a record with a computed member, but not those of a
record with two members under one key. -/
theorem Keys.lookup_outcome_samples :
    (∃ code, (Expansion.ofRecord Sample.summary.record).conformance? = some code ∧
      code.keys.keys.Inverts) ∧
    ∃ code, (Expansion.ofRecord Sample.clash.record).conformance? = some code ∧
      ¬code.keys.keys.Inverts := by
  have emittedSummary : (Expansion.ofRecord Sample.summary.record).conformance?.isSome = true := by
    decide +kernel
  have emittedClash : (Expansion.ofRecord Sample.clash.record).conformance?.isSome = true := by
    decide +kernel
  obtain ⟨summary, foundSummary⟩ := Option.isSome_iff_exists.mp emittedSummary
  obtain ⟨clash, foundClash⟩ := Option.isSome_iff_exists.mp emittedClash
  have inverts {record : Record} {code : Conformance}
      (found : (Expansion.ofRecord record).conformance? = some code) :
      code.keys.keys.Inverts ↔ (record.mapped.map Member.wireKey).Nodup :=
    ((Keys.lookup_outcome.2 found).2.2.2 Sample.summary.model fun _ => Datum.integer 0).trans
      ((Conformance.serves_of_emitted found).exists_toValue_iff _ _)
  refine ⟨⟨summary, foundSummary, (inverts foundSummary).mpr ?_⟩, clash, foundClash,
    fun holds => ?_⟩
  · decide +kernel
  · exact absurd ((inverts foundClash).mp holds) (by decide +kernel)

/-- Two variants stand for one key: the look-up gives the first of them. -/
example : (Keys.ofList ["id", "name", "id"]).find? "id" = some ⟨0, by decide⟩ := by
  decide

end KeyedRecord
