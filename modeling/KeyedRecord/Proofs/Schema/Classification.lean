/-
**The classification of members.**

Which members stand in the documents of a record, said of the list of its members as a whole. A
member takes part (`MemberFacts.TakesPart`) by a rename with a key, or by being stored and not
excluded. If a computed member takes part (`NeedsTypes`), members are read back by their types,
and a stored member without a bare type name is dropped (`MemberFacts.IsDropped`). The mapped
members are those that take part and are not dropped.

* `roles_included`: the included roles are those of the mapped members.
* `any_included_computed`: a computed member takes part before dropping exactly if one does after.
* `exists_mapped`: dropping never takes the last mapped member.
* `synthesize_classifies`: synthesis gives the classification, in order, and reports a warning
  exactly if no member takes part.
-/

import Mathlib.Data.List.Basic
import Mathlib.Data.List.Forall2
import KeyedRecord.Schema.Basic

namespace KeyedRecord

/-! ### Taking part -/

/-- A member takes part in documents if its directive gives it a key, or if it is stored and its
directive, if any, does not exclude it. -/
def MemberFacts.TakesPart (facts : MemberFacts) : Prop :=
  (∃ key, facts.directive = some (.rename (some key))) ∨
    (facts.isComputed = false ∧ (facts.directive = none ∨ facts.directive = some (.rename none) ∨
      facts.directive = some .other))

/-- The key of a member in documents: the one that its directive gives, or else its name. -/
def MemberFacts.wireKey (facts : MemberFacts) : String :=
  match facts.directive with
  | some (.rename (some key)) => key
  | _ => facts.name.name

/-- Resolving the directive decides whether the member takes part. -/
theorem MemberFacts.isIncluded_iff (facts : MemberFacts) :
    facts.participation.isIncluded = true ↔ facts.TakesPart := by
  obtain ⟨name, declaredType, isComputed, directive⟩ := facts
  rcases directive with _ | ((_ | key) | _ | _) <;>
    simp [MemberFacts.participation, MemberFacts.TakesPart]

instance MemberFacts.decidableTakesPart (facts : MemberFacts) : Decidable facts.TakesPart :=
  decidable_of_iff _ facts.isIncluded_iff

/-- A rename is kept exactly if it gives a key other than the name. -/
theorem MemberFacts.rename_eq_some_iff (facts : MemberFacts) (key : String) :
    facts.participation.rename = some key ↔
      facts.directive = some (.rename (some key)) ∧ key ≠ facts.name.name := by
  obtain ⟨name, declaredType, isComputed, directive⟩ := facts
  rcases directive with _ | ((_ | given) | _ | _) <;> simp only [MemberFacts.participation]
  case some.rename.some =>
    by_cases same : given = name.name
    · simp [same]
      exact fun renamed => renamed.symm
    · simp [same]
      rintro rfl
      exact same
  all_goals simp

/-- The key of a role is the key of the member in documents. -/
theorem MemberFacts.role_key (facts : MemberFacts) : facts.role.key = facts.wireKey := by
  obtain ⟨name, declaredType, isComputed, directive⟩ := facts
  rcases directive with _ | ((_ | key) | _ | _) <;>
    simp only [MemberFacts.role, MemberFacts.participation, MemberFacts.wireKey, Option.getD_none]
  by_cases same : key = name.name
  · simp [same]
  · simp [same]

/-! ### Dropping -/

/-- Some computed member takes part, so that stored members are read back by their types. -/
def NeedsTypes (members : List MemberFacts) : Prop :=
  ∃ facts ∈ members, facts.TakesPart ∧ facts.isComputed = true

/-- A stored member without a bare type name is dropped where types are needed. -/
def MemberFacts.IsDropped (members : List MemberFacts) (facts : MemberFacts) : Prop :=
  NeedsTypes members ∧ facts.isComputed = false ∧ facts.declaredType = none

/-- A mapped member takes part and is not dropped. -/
def MemberFacts.IsMapped (members : List MemberFacts) (facts : MemberFacts) : Prop :=
  facts.TakesPart ∧ ¬ facts.IsDropped members

instance decidableNeedsTypes (members : List MemberFacts) : Decidable (NeedsTypes members) :=
  inferInstanceAs (Decidable (∃ facts ∈ members, facts.TakesPart ∧ facts.isComputed = true))

instance MemberFacts.decidableIsDropped (members : List MemberFacts) (facts : MemberFacts) :
    Decidable (facts.IsDropped members) :=
  inferInstanceAs (Decidable (_ ∧ _ ∧ _))

instance MemberFacts.decidableIsMapped (members : List MemberFacts) (facts : MemberFacts) :
    Decidable (facts.IsMapped members) :=
  inferInstanceAs (Decidable (_ ∧ ¬ _))

/-- The mapped members, in order of declaration. -/
def MemberFacts.mapped (members : List MemberFacts) : List MemberFacts :=
  members.filter fun facts => facts.IsMapped members

/-- The look-ahead over all members decides whether types are needed. -/
theorem any_isIncludedComputed (members : List MemberFacts) :
    members.any MemberFacts.isIncludedComputed = decide (NeedsTypes members) := by
  rw [Bool.eq_iff_iff, List.any_eq_true, decide_eq_true_eq]
  simp only [MemberFacts.isIncludedComputed, Bool.and_eq_true, MemberFacts.isIncluded_iff,
    NeedsTypes]

/-- A member is typed unless it is stored and has no bare type name. -/
theorem MemberFacts.isTyped_iff (facts : MemberFacts) :
    facts.isTyped = true ↔ ¬ (facts.isComputed = false ∧ facts.declaredType = none) := by
  rw [MemberFacts.isTyped, Bool.or_eq_true, Option.isSome_iff_ne_none, Decidable.not_and_iff_or_not,
    Bool.not_eq_false]

/-- The roles are those of the members that are not dropped. -/
theorem roles_eq (members : List MemberFacts) :
    MemberRole.ofFacts members =
      (members.filter fun facts => ¬ facts.IsDropped members).map MemberFacts.role := by
  unfold MemberRole.ofFacts
  rw [any_isIncludedComputed]
  refine congrArg _ (List.filter_congr fun facts _ => ?_)
  rw [Bool.eq_iff_iff, Bool.or_eq_true, facts.isTyped_iff, decide_eq_true_eq,
    MemberFacts.IsDropped]
  by_cases needed : NeedsTypes members
  · simp [needed]
  · simp [needed]

/-- **The included roles are those of the mapped members**, in order. -/
theorem roles_included (members : List MemberFacts) :
    (MemberRole.ofFacts members).filter MemberRole.isIncluded =
      (MemberFacts.mapped members).map MemberFacts.role := by
  rw [roles_eq, List.filter_map, List.filter_filter, MemberFacts.mapped]
  refine congrArg _ (List.filter_congr fun facts _ => ?_)
  rw [Bool.eq_iff_iff, Bool.and_eq_true, decide_eq_true_eq, decide_eq_true_eq]
  exact and_congr_left' facts.isIncluded_iff

/-- A computed member is never dropped. -/
theorem MemberFacts.not_isDropped {members : List MemberFacts} {facts : MemberFacts}
    (computed : facts.isComputed = true) : ¬ facts.IsDropped members := by
  rintro ⟨_, stored, _⟩
  rw [computed] at stored
  cases stored

/-- **The two computations agree**: among the roles, which are left after dropping, a computed one
is included exactly if one was before. -/
theorem any_included_computed (members : List MemberFacts) :
    ((MemberRole.ofFacts members).any fun role => role.isIncluded && role.isComputed) = true ↔
      NeedsTypes members := by
  rw [List.any_eq_true, roles_eq]
  constructor
  · rintro ⟨role, inRoles, included⟩
    obtain ⟨facts, kept, rfl⟩ := List.mem_map.mp inRoles
    rw [Bool.and_eq_true] at included
    exact ⟨facts, List.mem_of_mem_filter kept, facts.isIncluded_iff.mp included.1, included.2⟩
  · rintro ⟨facts, member, takesPart, computed⟩
    refine ⟨facts.role, List.mem_map_of_mem (List.mem_filter.mpr ⟨member, ?_⟩), ?_⟩
    · exact decide_eq_true (MemberFacts.not_isDropped computed)
    · exact Bool.and_eq_true_iff.mpr ⟨facts.isIncluded_iff.mpr takesPart, computed⟩

/-- **Dropping never empties the mapping**: if types are needed, the computed member that needs
them is mapped itself, and otherwise nothing is dropped. -/
theorem exists_mapped {members : List MemberFacts} :
    MemberFacts.mapped members ≠ [] ↔ ∃ facts ∈ members, facts.TakesPart := by
  rw [MemberFacts.mapped, ne_eq, List.filter_eq_nil_iff]
  push Not
  simp only [decide_eq_true_eq]
  constructor
  · rintro ⟨facts, member, takesPart, _⟩
    exact ⟨facts, member, takesPart⟩
  · rintro ⟨facts, member, takesPart⟩
    by_cases needed : NeedsTypes members
    · obtain ⟨other, inside, other_takesPart, computed⟩ := needed
      exact ⟨other, inside, other_takesPart, MemberFacts.not_isDropped computed⟩
    · exact ⟨facts, member, takesPart, fun dropped => needed dropped.1⟩

/-! ### Entries and typed members -/

/-- The entry of a mapped member has its name, and a key of its own exactly if the directive gives
one that is not the name. -/
def MemberFacts.Declares (facts : MemberFacts) (entry : KeyEntry) : Prop :=
  entry.name = facts.name ∧ ∀ key, entry.explicitKey = some key ↔
    facts.directive = some (.rename (some key)) ∧ key ≠ facts.name.name

/-- A stored member is read back under its name, by its declared type. -/
def MemberFacts.IsReadAs (facts : MemberFacts) (typed : TypedMember) : Prop :=
  typed.name = facts.name ∧ facts.declaredType = some typed.type

/-- What the role of a member says about it. -/
structure MemberFacts.Plays (facts : MemberFacts) (role : MemberRole) : Prop where
  name : role.name = facts.name
  key : role.key = facts.wireKey
  isIncluded : role.isIncluded = true ↔ facts.TakesPart
  isComputed : role.isComputed = facts.isComputed
  declaredType : role.declaredType = facts.declaredType

theorem MemberFacts.plays_role (facts : MemberFacts) : facts.Plays facts.role :=
  ⟨rfl, facts.role_key, facts.isIncluded_iff, rfl, rfl⟩

/-- The key of an entry is the key of the member in documents. -/
theorem MemberFacts.role_entry_key (facts : MemberFacts) :
    facts.role.entry.key = facts.wireKey := by
  rw [← facts.role_key]
  by_cases same : facts.role.key = facts.role.name.name
  · simp [KeyEntry.key, MemberRole.entry, same]
  · simp [KeyEntry.key, MemberRole.entry, same]

theorem MemberFacts.declares_entry (facts : MemberFacts) : facts.Declares facts.role.entry := by
  refine ⟨rfl, fun key => ?_⟩
  rw [← facts.rename_eq_some_iff]
  cases renamed : facts.participation.rename with
  | none => simp [MemberRole.entry, MemberFacts.role, renamed]
  | some given =>
    have other : given ≠ facts.name.name := ((facts.rename_eq_some_iff given).mp renamed).2
    simp [MemberRole.entry, MemberFacts.role, renamed, other]

/-- A role wants its member read back if the member takes part and is stored, by the type it has. -/
theorem MemberFacts.typedMember?_eq (facts : MemberFacts) :
    facts.role.typedMember? =
      if facts.TakesPart ∧ facts.isComputed = false then
        facts.declaredType.map fun type => ⟨facts.name, type⟩
      else none := by
  unfold MemberRole.typedMember?
  refine if_congr ?_ rfl rfl
  rw [Bool.and_eq_true, Bool.not_eq_true']
  exact and_congr_left' facts.isIncluded_iff

/-- A selection and a partial map that gives something exactly for what is selected go through a
list side by side. -/
theorem forall₂_filter_filterMap {α β : Type} {selected : α → Bool} {part : α → Option β}
    {related : α → β → Prop} (list : List α)
    (inside : ∀ a ∈ list, selected a = true → ∃ b, part a = some b ∧ related a b)
    (outside : ∀ a ∈ list, selected a = false → part a = none) :
    List.Forall₂ related (list.filter selected) (list.filterMap part) := by
  induction list with
  | nil => exact .nil
  | cons a rest ih =>
    have tail := ih (fun b member => inside b (List.mem_cons_of_mem a member))
      (fun b member => outside b (List.mem_cons_of_mem a member))
    cases choice : selected a with
    | false =>
      rw [List.filter_cons_of_neg (by simp [choice]),
        List.filterMap_cons_none (outside a List.mem_cons_self choice)]
      exact tail
    | true =>
      obtain ⟨b, found, holds⟩ := inside a List.mem_cons_self choice
      rw [List.filter_cons_of_pos choice, List.filterMap_cons_some found]
      exact .cons holds tail

/-- Without need of types there are no typed members. -/
theorem typedMembers?_eq_none {members : List MemberFacts} (free : ¬ NeedsTypes members) :
    typedMembers? (MemberRole.ofFacts members) = none :=
  if_neg fun any => free ((any_included_computed members).mp any)

/-- **The typed members are the stored mapped ones**, each with its declared type: none of them
lacks a bare type name, since those without one have been dropped. -/
theorem typedMembers?_eq {members : List MemberFacts} (needed : NeedsTypes members) :
    ∃ typed, typedMembers? (MemberRole.ofFacts members) = some typed ∧
      List.Forall₂ MemberFacts.IsReadAs
        ((MemberFacts.mapped members).filter fun facts => !facts.isComputed) typed := by
  refine ⟨_, if_pos ((any_included_computed members).mpr needed), ?_⟩
  rw [roles_eq, List.filterMap_map, MemberFacts.mapped]
  have stored : (members.filter fun facts => facts.IsMapped members).filter
        (fun facts => !facts.isComputed) =
      (members.filter fun facts => ¬ facts.IsDropped members).filter
        fun facts => facts.TakesPart ∧ facts.isComputed = false := by
    rw [List.filter_filter, List.filter_filter]
    refine List.filter_congr fun facts _ => ?_
    rw [Bool.eq_iff_iff]
    simp only [Bool.and_eq_true, Bool.not_eq_true', decide_eq_true_eq]
    unfold MemberFacts.IsMapped
    tauto
  rw [stored]
  refine forall₂_filter_filterMap _ (fun facts member chosen => ?_) fun facts member chosen => ?_
  · have kept : ¬ facts.IsDropped members := of_decide_eq_true (List.mem_filter.mp member).2
    have choice := of_decide_eq_true chosen
    obtain ⟨type, declared⟩ : ∃ type, facts.declaredType = some type :=
      Option.ne_none_iff_exists'.mp fun none => kept ⟨needed, choice.2, none⟩
    refine ⟨⟨facts.name, type⟩, ?_, rfl, declared⟩
    rw [Function.comp_apply, facts.typedMember?_eq, if_pos choice, declared, Option.map_some]
  · rw [Function.comp_apply, facts.typedMember?_eq, if_neg (of_decide_eq_false chosen)]

/-! ### Synthesis -/

/-- The entries of the table are those of the mapped members. -/
theorem tableEntries_eq (members : List MemberFacts) :
    ((MemberRole.ofFacts members).filter MemberRole.isIncluded).map MemberRole.entry =
      (MemberFacts.mapped members).map fun facts => facts.role.entry := by
  rw [roles_included, List.map_map]
  rfl

/-- Without a member that takes part there is no schema, and a warning. -/
theorem synthesize_of_none {members : List MemberFacts} (reported : List Warning)
    (noPart : ∀ facts ∈ members, ¬ facts.TakesPart) :
    Schema.synthesize members reported = (none, reported ++ [.empty]) := by
  have noEntries : ((MemberRole.ofFacts members).filter MemberRole.isIncluded).map
      MemberRole.entry = [] := by
    rw [tableEntries_eq, List.map_eq_nil_iff]
    by_contra mapped
    obtain ⟨facts, member, takesPart⟩ := exists_mapped.mp mapped
    exact noPart facts member takesPart
  simp only [Schema.synthesize, KeyTable.synthesize, noEntries, ne_eq, not_true_eq_false,
    dif_neg, not_false_eq_true]

/-- With a member that takes part there is a schema, and no warning. -/
theorem synthesize_of_some {members : List MemberFacts} (reported : List Warning)
    (part : ∃ facts ∈ members, facts.TakesPart) :
    ∃ schema, Schema.synthesize members reported = (some schema, reported) ∧
      schema.roles = MemberRole.ofFacts members ∧
      schema.keys.entries = (MemberFacts.mapped members).map (fun facts => facts.role.entry) ∧
      schema.typed = typedMembers? (MemberRole.ofFacts members) := by
  have entries : ((MemberRole.ofFacts members).filter MemberRole.isIncluded).map
      MemberRole.entry ≠ [] := by
    rw [tableEntries_eq, ne_eq, List.map_eq_nil_iff]
    exact exists_mapped.mpr part
  refine ⟨⟨MemberRole.ofFacts members, ⟨_, entries⟩, typedMembers? (MemberRole.ofFacts members)⟩,
    ?_, rfl, tableEntries_eq members, rfl⟩
  simp only [Schema.synthesize, KeyTable.synthesize, dif_pos entries]

/-- A schema consists of the roles, the entries of the mapped members, and the typed members. -/
theorem schema_parts {members : List MemberFacts} {schema : Schema}
    (found : Schema.ofFacts members = some schema) :
    schema.roles = MemberRole.ofFacts members ∧
      schema.keys.entries = (MemberFacts.mapped members).map (fun facts => facts.role.entry) ∧
      schema.typed = typedMembers? (MemberRole.ofFacts members) := by
  unfold Schema.ofFacts at found
  by_cases part : ∃ facts ∈ members, facts.TakesPart
  · obtain ⟨other, synthesized, parts⟩ := synthesize_of_some [] part
    rw [synthesized] at found
    obtain rfl := Option.some.inj found
    exact parts
  · have noPart : ∀ facts ∈ members, ¬ facts.TakesPart :=
      fun facts member takesPart => part ⟨facts, member, takesPart⟩
    rw [synthesize_of_none [] noPart] at found
    cases found

/-- **Synthesis is the classification.** Without a member that takes part it gives nothing and
reports one warning. Otherwise it reports nothing; its roles are those of the members that are not
dropped; its entries are those of the mapped members; and it has typed members exactly if types are
needed, namely the stored mapped members with their declared types. All are in order of
declaration. -/
theorem synthesize_classifies (members : List MemberFacts) (reported : List Warning) :
    ((∀ facts ∈ members, ¬ facts.TakesPart) →
      Schema.synthesize members reported = (none, reported ++ [.empty])) ∧
    ((∃ facts ∈ members, facts.TakesPart) →
      ∃ schema, Schema.synthesize members reported = (some schema, reported) ∧
        List.Forall₂ MemberFacts.Plays
          (members.filter fun facts => ¬ facts.IsDropped members) schema.roles ∧
        List.Forall₂ MemberFacts.Declares
          (members.filter fun facts => facts.IsMapped members) schema.keys.entries ∧
        (¬ NeedsTypes members → schema.typed = none) ∧
        (NeedsTypes members → ∃ typed, schema.typed = some typed ∧
          List.Forall₂ MemberFacts.IsReadAs
            ((members.filter fun facts => facts.IsMapped members).filter
              fun facts => !facts.isComputed) typed)) := by
  refine ⟨synthesize_of_none reported, fun part => ?_⟩
  obtain ⟨schema, synthesized, roles, entries, typed⟩ := synthesize_of_some reported part
  refine ⟨schema, synthesized, ?_, ?_, fun free => ?_, fun needed => ?_⟩
  · rw [roles, roles_eq, List.forall₂_map_right_iff, List.forall₂_same]
    exact fun facts _ => facts.plays_role
  · rw [entries, List.forall₂_map_right_iff, MemberFacts.mapped, List.forall₂_same]
    exact fun facts _ => facts.declares_entry
  · rw [typed]
    exact typedMembers?_eq_none free
  · rw [typed]
    exact typedMembers?_eq needed

end KeyedRecord
