/-
**Variants of their own.**

The enumeration of keys can be declared exactly if every variant is a plain identifier and no two
entries have the same one. Otherwise the first entry for which this fails is named, and if its
variant is an identifier, the one entry before it that has the same.

* `conflict?_eq_none_iff`: what it means for an entry to have no conflict with those before it.
* `firstConflict?_eq_none_iff`: the same of a list of entries.
* `KeyTable.variants_nodup`: a table without conflict has distinct variants.
* `firstConflict?_eq_some_iff`: the first conflict is that of an entry with those before it.
* `KeyTable.conflict?_outcome`: whether a table has a conflict, and which.
-/

import KeyedRecord.Schema.KeyTable
import KeyedRecord.Proofs.Lookup

namespace KeyedRecord

/-- An entry has no conflict if its variant is an identifier and none of those before. -/
theorem KeyEntry.conflict?_eq_none_iff (before : List KeyEntry) (entry : KeyEntry) :
    entry.conflict? before = none ↔
      Text.isPlainIdentifier entry.variant = true ∧
        ∀ earlier ∈ before, earlier.variant ≠ entry.variant := by
  unfold KeyEntry.conflict?
  cases usable : Text.isPlainIdentifier entry.variant with
  | false => simp
  | true => simp [List.find?_eq_none]

/-- Entries after others have no conflict if their variants are identifiers, distinct from each
other and from those before. -/
theorem KeyEntry.firstConflict?_eq_none_iff (before rest : List KeyEntry) :
    KeyEntry.firstConflict? before rest = none ↔
      (∀ entry ∈ rest, Text.isPlainIdentifier entry.variant = true) ∧
      (rest.map KeyEntry.variant).Nodup ∧
      ∀ entry ∈ rest, ∀ earlier ∈ before, earlier.variant ≠ entry.variant := by
  induction rest generalizing before with
  | nil => simp [KeyEntry.firstConflict?]
  | cons entry rest ih =>
    have split : KeyEntry.firstConflict? before (entry :: rest) = none ↔
        entry.conflict? before = none ∧
          KeyEntry.firstConflict? (before ++ [entry]) rest = none := by
      rw [KeyEntry.firstConflict?]
      cases entry.conflict? before with
      | none => simp
      | some conflict => simp
    rw [split, KeyEntry.conflict?_eq_none_iff, ih, List.map_cons, List.nodup_cons]
    constructor
    · rintro ⟨⟨usable, fresh⟩, usableRest, distinct, freshRest⟩
      refine ⟨List.forall_mem_cons.mpr ⟨usable, usableRest⟩, ⟨fun shared => ?_, distinct⟩,
        List.forall_mem_cons.mpr ⟨fresh, fun other member earlier inside =>
          freshRest other member earlier (List.mem_append_left _ inside)⟩⟩
      obtain ⟨other, member, same⟩ := List.mem_map.mp shared
      exact freshRest other member entry (by simp) same.symm
    · rintro ⟨usable, ⟨single, distinct⟩, fresh⟩
      rw [List.forall_mem_cons] at usable fresh
      refine ⟨⟨usable.1, fresh.1⟩, usable.2, distinct, fun other member earlier inside => ?_⟩
      rcases List.mem_append.mp inside with inside | inside
      · exact fresh.2 other member earlier inside
      · rw [List.mem_singleton.mp inside]
        exact fun same => single (same ▸ List.mem_map_of_mem member)

/-- A table without conflict has distinct variants. -/
theorem KeyTable.variants_nodup {table : KeyTable} (free : table.conflict? = none) :
    table.variants.Nodup :=
  ((KeyEntry.firstConflict?_eq_none_iff [] table.entries).mp free).2.1

/-! ### The first conflict -/

/-- Each of the entries has a usable variant of its own. -/
structure KeyEntry.HaveVariants (entries : List KeyEntry) : Prop where
  usable : ∀ entry ∈ entries, Text.isPlainIdentifier entry.variant = true
  distinct : (entries.map KeyEntry.variant).Nodup

/-- Behind the entries before it, the entry has no variant of its own, for the given cause. That its
variant is no identifier counts before any other entry does. -/
inductive KeyEntry.Lacks (before : List KeyEntry) (entry : KeyEntry) : VariantConflict → Prop
  | unusable : Text.isPlainIdentifier entry.variant = false →
      Lacks before entry (.unusable entry.name.name entry.variant)
  | shared {earlier : KeyEntry} : Text.isPlainIdentifier entry.variant = true →
      earlier ∈ before → earlier.variant = entry.variant →
      (∀ other ∈ before, other.variant = entry.variant → other = earlier) →
      Lacks before entry (.shared earlier.name.name entry.name.name entry.variant)

/-- Entries without conflict are those that have variants. -/
theorem KeyEntry.firstConflict?_nil_iff (entries : List KeyEntry) :
    KeyEntry.firstConflict? [] entries = none ↔ KeyEntry.HaveVariants entries := by
  rw [KeyEntry.firstConflict?_eq_none_iff]
  constructor
  · exact fun ⟨usable, distinct, _⟩ => ⟨usable, distinct⟩
  · exact fun ⟨usable, distinct⟩ =>
      ⟨usable, distinct, fun _ _ _ absent => (List.not_mem_nil absent).elim⟩

/-- The conflict of an entry with entries that have variants. -/
theorem KeyEntry.conflict?_eq_some_iff {before : List KeyEntry}
    (free : KeyEntry.HaveVariants before) (entry : KeyEntry) (cause : VariantConflict) :
    entry.conflict? before = some cause ↔ KeyEntry.Lacks before entry cause := by
  unfold KeyEntry.conflict?
  cases usable : Text.isPlainIdentifier entry.variant with
  | false =>
    rw [Bool.not_false, if_pos rfl, Option.some.injEq]
    constructor
    · rintro rfl
      exact .unusable usable
    · rintro (_ | ⟨isUsable⟩)
      · rfl
      · rw [usable] at isUsable
        cases isUsable
  | true =>
    have finds {other : KeyEntry} (inside : other ∈ before)
        (shares : other.variant = entry.variant) :
        before.find? (fun earlier => earlier.variant == entry.variant) = some other :=
      shares ▸ find?_of_nodup free.distinct inside
    rw [Bool.not_true, if_neg Bool.false_ne_true, Option.map_eq_some_iff]
    constructor
    · rintro ⟨earlier, found, rfl⟩
      have shares : (earlier.variant == entry.variant) = true :=
        List.find?_some (p := fun earlier : KeyEntry => earlier.variant == entry.variant) found
      refine .shared usable (List.mem_of_find?_eq_some found) (beq_iff_eq.mp shares) ?_
      intro other inside otherShares
      exact Option.some.inj ((finds inside otherShares).symm.trans found)
    · rintro (isUnusable | @⟨earlier, -, inside, shares, only⟩)
      · rw [usable] at isUnusable
        cases isUnusable
      · exact ⟨earlier, finds inside shares, rfl⟩

theorem KeyEntry.firstConflict?_of_conflict {before : List KeyEntry} {entry : KeyEntry}
    {cause : VariantConflict} (here : entry.conflict? before = some cause) (rest : List KeyEntry) :
    KeyEntry.firstConflict? before (entry :: rest) = some cause := by
  rw [KeyEntry.firstConflict?, here]
  rfl

theorem KeyEntry.firstConflict?_of_free {before : List KeyEntry} {entry : KeyEntry}
    (here : entry.conflict? before = none) (rest : List KeyEntry) :
    KeyEntry.firstConflict? before (entry :: rest) =
      KeyEntry.firstConflict? (before ++ [entry]) rest := by
  rw [KeyEntry.firstConflict?, here]
  rfl

/-- The first conflict among entries behind others is that of an entry with all that stand before
it, which have none. -/
theorem KeyEntry.firstConflict?_eq_some_iff (before rest : List KeyEntry)
    (cause : VariantConflict) : KeyEntry.firstConflict? before rest = some cause ↔
      ∃ first entry after, rest = first ++ entry :: after ∧
        KeyEntry.firstConflict? before first = none ∧
        entry.conflict? (before ++ first) = some cause := by
  induction rest generalizing before with
  | nil => simp [KeyEntry.firstConflict?]
  | cons head rest ih =>
    cases here : head.conflict? before with
    | some other =>
      rw [KeyEntry.firstConflict?_of_conflict here, Option.some.injEq]
      constructor
      · rintro rfl
        exact ⟨[], head, rest, rfl, rfl, by rw [List.append_nil, here]⟩
      · rintro ⟨_ | ⟨earlier, first⟩, entry, after, split, free, there⟩
        · rw [← (List.cons.inj split).1, List.append_nil, here] at there
          exact Option.some.inj there
        · rw [← (List.cons.inj split).1, KeyEntry.firstConflict?_of_conflict here] at free
          cases free
    | none =>
      rw [KeyEntry.firstConflict?_of_free here, ih]
      constructor
      · rintro ⟨first, entry, after, rfl, free, there⟩
        refine ⟨head :: first, entry, after, rfl, ?_, ?_⟩
        · rw [KeyEntry.firstConflict?_of_free here, free]
        · rw [← there, List.append_assoc, List.singleton_append]
      · rintro ⟨_ | ⟨earlier, first⟩, entry, after, split, free, there⟩
        · rw [← (List.cons.inj split).1, List.append_nil, here] at there
          cases there
        · obtain ⟨rfl, rfl⟩ := List.cons.inj split
          rw [KeyEntry.firstConflict?_of_free here] at free
          refine ⟨first, entry, after, rfl, free, ?_⟩
          rw [← there, List.append_assoc, List.singleton_append]

/-- **Whether the enumeration of keys can be declared.** A table has no conflict exactly if all
variants are identifiers and no two are the same. Its conflict is otherwise that of the first entry
whose variant is no identifier or that of an entry before it: the former is what is said if both
hold, and else the only earlier entry with this variant is named, before the entry itself. -/
theorem KeyTable.conflict?_outcome (table : KeyTable) :
    (table.conflict? = none ↔
      (∀ entry ∈ table.entries, Text.isPlainIdentifier entry.variant = true) ∧
        table.variants.Nodup) ∧
    ∀ cause, table.conflict? = some cause ↔
      ∃ before entry after, table.entries = before ++ entry :: after ∧
        KeyEntry.HaveVariants before ∧ KeyEntry.Lacks before entry cause := by
  constructor
  · refine (KeyEntry.firstConflict?_nil_iff table.entries).trans ?_
    exact ⟨fun free => ⟨free.usable, free.distinct⟩, fun free => ⟨free.1, free.2⟩⟩
  · intro cause
    refine (KeyEntry.firstConflict?_eq_some_iff [] table.entries cause).trans ?_
    simp only [KeyEntry.firstConflict?_nil_iff, List.nil_append]
    constructor
    · rintro ⟨before, entry, after, split, free, found⟩
      exact ⟨before, entry, after, split, free, (KeyEntry.conflict?_eq_some_iff free _ _).mp found⟩
    · rintro ⟨before, entry, after, split, free, lacks⟩
      exact ⟨before, entry, after, split, free, (KeyEntry.conflict?_eq_some_iff free _ _).mpr lacks⟩

/-- Two names whose variants are the same word. -/
example : (KeyTable.mk [⟨Ident.plain "count", none⟩, ⟨Ident.plain "some_name", none⟩,
      ⟨Ident.plain "someName", none⟩] (by decide)).conflict?.map VariantConflict.message =
    some "members `some_name` and `someName` both map to key variant `SomeName`" := by
  decide +kernel

end KeyedRecord
