/-
**What equal values have in common.**

Every question about a value has the same answer for its canonical form, up to the form of the parts
that it gives: its kind and its texts, what stands in it at a place (`part?_canonical`), and the
datum that a type makes of it (`MemberType.ofValue_canonical`). Since values are equal exactly if
their canonical forms are, equal values cannot be told apart (`Indistinct.of_beq`). Fields in order
are determined by what they bind (`Fields.IsOrdered.ext`), so structures are equal exactly if they
bind the same (`struct_beq_iff`).

* `Value.part?`: what stands in a value at the end of a path.
* `Value.Indistinct`: values that answer every question in the same way.
* `Value.equality_is_congruence`: equality of values, of structures and of what is built from
  bindings.
-/

import Mathlib.Data.List.Forall2
import KeyedRecord.Json.Writer
import KeyedRecord.Proofs.Value.Equality
import KeyedRecord.Proofs.Value.Order
import KeyedRecord.Value.Conversion
import KeyedRecord.Value.Display

namespace KeyedRecord

namespace Value

theorem kind_canonical (value : Value) : value.canonical.kind = value.kind := by
  cases value <;> rfl

/-! ### Places in values -/

/-- A step from a value to one of its parts. -/
inductive Step
  /-- What a structure holds under a name. -/
  | field (name : String)
  /-- The item of an array at a place. -/
  | item (place : Nat)

/-- The part that a step leads to, if there is one. -/
def Step.part? (step : Step) (value : Value) : Option Value :=
  match step, value with
  | .field name, value => value.field? name
  | .item place, .array items => items[place]?
  | .item _, _ => none

/-- What stands in a value at the end of a path. -/
def part? (value : Value) : List Step → Option Value
  | [] => some value
  | step :: path => (step.part? value).bind fun part => part.part? path

/-- A step into a canonical value leads to the canonical form of the part. -/
theorem Step.part?_canonical (step : Step) (value : Value) :
    step.part? value.canonical = (step.part? value).map canonical := by
  cases step with
  | field name =>
    cases value with
    | struct fields => exact get?_canonicalFields fields name
    | _ => rfl
  | item place =>
    cases value with
    | array items =>
      rw [canonical_array]
      exact List.getElem?_map
    | _ => rfl

/-- At the end of a path into a canonical value stands the canonical form of the part. -/
theorem part?_canonical (value : Value) (path : List Step) :
    value.canonical.part? path = (value.part? path).map canonical := by
  induction path generalizing value with
  | nil => rfl
  | cons step path ih =>
    rw [part?, part?, step.part?_canonical]
    cases step.part? value with
    | none => rfl
    | some part => exact ih part

end Value

/-! ### Data of canonical forms -/

/-- A type without parts makes the same datum of the canonical form. -/
theorem ScalarType.ofValue_canonical (type : ScalarType) (value : Value) :
    type.ofValue value.canonical = type.ofValue value := by
  cases value <;> cases type <;> rfl

theorem ScalarType.ofItems_canonical (type : ScalarType) (items : List Value) :
    type.ofItems (items.map Value.canonical) = type.ofItems items := by
  induction items with
  | nil => rfl
  | cons item rest ih => rw [List.map_cons, ofItems, ofItems, type.ofValue_canonical, ih]

/-- **A type makes the same datum of the canonical form**, or fails for the same cause. -/
theorem MemberType.ofValue_canonical (type : MemberType) (value : Value) :
    type.ofValue value.canonical = type.ofValue value := by
  cases type with
  | scalar type => exact type.ofValue_canonical value
  | bytes => cases value <;> rfl
  | list element =>
    cases value with
    | array items =>
      rw [Value.canonical_array]
      exact element.ofItems_canonical items
    | _ => rfl

/-! ### Equality -/

namespace Value

/-- Nothing on both sides, or equal values, is the same canonical form or the lack of one. -/
theorem option_beq_iff (first second : Option Value) :
    (first == second) = true ↔ first.map canonical = second.map canonical := by
  cases first <;> cases second <;> simp [beq_iff]

/-- Equality of values is an equivalence relation: it compares canonical forms. -/
theorem beq_equivalence : Equivalence fun a b : Value => (a == b) = true where
  refl a := (beq_iff a a).mpr rfl
  symm same := (beq_iff _ _).mpr ((beq_iff _ _).mp same).symm
  trans same next := (beq_iff _ _).mpr (((beq_iff _ _).mp same).trans ((beq_iff _ _).mp next))

/-- **Structures are equal exactly if they bind the same**: under each name, nothing in both or
equal values. -/
theorem struct_beq_iff (fields others : Fields) :
    (struct fields == struct others) = true ↔
      ∀ name, (fields.get? name == others.get? name) = true := by
  rw [beq_iff, canonical, canonical, struct.injEq]
  simp only [option_beq_iff, ← get?_canonicalFields]
  exact ⟨fun same name => by rw [same], fun same =>
    (isOrdered_canonicalFields fields).ext (isOrdered_canonicalFields others) same⟩

/-- Arrays are equal exactly if they are item by item. -/
theorem array_beq_iff (items others : List Value) :
    (array items == array others) = true ↔
      List.Forall₂ (fun a b => (a == b) = true) items others := by
  rw [beq_iff, canonical_array, canonical_array, array.injEq, ← List.forall₂_eq_eq_eq,
    List.forall₂_map_left_iff, List.forall₂_map_right_iff]
  simp only [beq_iff]

/-- Structures of bindings are equal exactly if the last bindings of each name are. -/
theorem ofFields_beq_iff (bindings others : List (String × Value)) :
    (ofFields bindings == ofFields others) = true ↔
      ∀ name, (bindings.reverse.lookup name == others.reverse.lookup name) = true := by
  rw [ofFields, ofFields, struct_beq_iff]
  simp only [Fields.get?_ofList]

/-- Rearranging bindings of distinct names does not change the structure. -/
theorem ofFields_eq_of_perm {bindings others : List (String × Value)}
    (rearranged : bindings.Perm others) (distinct : (bindings.map Prod.fst).Nodup) :
    ofFields bindings = ofFields others := by
  refine congrArg struct ((Fields.isOrdered_ofList bindings).ext (Fields.isOrdered_ofList others)
    fun name => ?_)
  rw [Fields.get?_ofList, Fields.get?_ofList]
  refine lookup_eq_of_perm ?_ ?_ name
  · exact (List.reverse_perm bindings).trans (rearranged.trans (List.reverse_perm others).symm)
  · rw [List.map_reverse]
    exact List.nodup_reverse.mpr distinct

/-- What is asked of two values has the same answer for both: the name of their kind, their texts,
what they hold under a name, and what each type of members makes of them. -/
structure Indistinct (first second : Value) : Prop where
  kind : first.kind.name = second.kind.name
  display : first.display = second.display
  json : Json.write first = Json.write second
  field : ∀ name, (first.field? name == second.field? name) = true
  datum : ∀ type : MemberType, type.ofValue first = type.ofValue second

/-- Equal values cannot be told apart. -/
theorem Indistinct.of_beq {first second : Value} (equal : (first == second) = true) :
    Indistinct first second := by
  have forms : first.canonical = second.canonical := (beq_iff first second).mp equal
  refine ⟨?_, ?_, ?_, fun name => ?_, fun type => ?_⟩
  · rw [← first.kind_canonical, forms, second.kind_canonical]
  · rw [Value.display, Value.display, forms]
  · rw [Json.write, Json.write, forms]
  · have holds := Step.part?_canonical (.field name)
    rw [option_beq_iff]
    exact (holds first).symm.trans (forms ▸ holds second)
  · rw [← type.ofValue_canonical, forms, type.ofValue_canonical]

/-- At each place of equal values there is nothing in both, or there are equal values, which cannot
be told apart. -/
theorem part?_of_beq {first second : Value} (equal : (first == second) = true)
    (path : List Step) :
    Option.Rel (fun a b => (a == b) = true ∧ Indistinct a b)
      (first.part? path) (second.part? path) := by
  have forms : (first.part? path).map canonical = (second.part? path).map canonical := by
    rw [← part?_canonical, ← part?_canonical, (beq_iff first second).mp equal]
  cases found : first.part? path <;> cases foundOther : second.part? path <;>
    simp only [found, foundOther, Option.map_none, Option.map_some, reduceCtorEq,
      Option.some.injEq] at forms
  · exact .none
  · have same := (beq_iff _ _).mpr forms
    exact .some ⟨same, Indistinct.of_beq same⟩

/-- **Equality of values is an equivalence and a congruence.** At each place of equal values,
however deep, there is nothing in both or there are equal values that cannot be told apart. Arrays
are equal exactly if their items are, and structures exactly if they bind the same. So what is built
from bindings is decided by the last binding of each name, and rearranging bindings of distinct
names changes neither what it is equal to nor its texts. -/
theorem equality_is_congruence :
    Equivalence (fun a b : Value => (a == b) = true) ∧
    (∀ first second : Value, (first == second) = true → ∀ path,
      Option.Rel (fun a b => (a == b) = true ∧ Indistinct a b)
        (first.part? path) (second.part? path)) ∧
    (∀ items others : List Value, (array items == array others) = true ↔
      List.Forall₂ (fun a b => (a == b) = true) items others) ∧
    (∀ fields others : Fields, (struct fields == struct others) = true ↔
      ∀ name, (fields.get? name == others.get? name) = true) ∧
    (∀ bindings others : List (String × Value), (ofFields bindings == ofFields others) = true ↔
      ∀ name, (bindings.reverse.lookup name == others.reverse.lookup name) = true) ∧
    (∀ bindings others : List (String × Value), bindings.Perm others →
      (bindings.map Prod.fst).Nodup →
        (∀ value, (ofFields bindings == value) = (ofFields others == value)) ∧
          (ofFields bindings).display = (ofFields others).display ∧
          Json.write (ofFields bindings) = Json.write (ofFields others)) := by
  refine ⟨beq_equivalence, fun first second equal => part?_of_beq equal, array_beq_iff,
    struct_beq_iff, ofFields_beq_iff, fun bindings others rearranged distinct => ?_⟩
  rw [ofFields_eq_of_perm rearranged distinct]
  exact ⟨fun _ => rfl, rfl, rfl⟩

/-- Two orders of the fields of a structure in an array, one of which is no number. -/
theorem equality_is_congruence_sample :
    [("count", integer 1), ("ratio", double (.ofPayload false 0))].Perm
        [("ratio", double (.ofPayload false 0)), ("count", integer 1)] ∧
      ["count", "ratio"].Nodup ∧
      (array [ofFields [("count", integer 1), ("ratio", double (.ofPayload false 0))]] ==
        array [ofFields [("ratio", double (.ofPayload false 0)), ("count", integer 1)]]) = true ∧
      Indistinct (array [ofFields [("count", integer 1), ("ratio", double (.ofPayload false 0))]])
        (array [ofFields [("ratio", double (.ofPayload false 0)), ("count", integer 1)]]) := by
  obtain ⟨equivalence, places, arrays, -, -, arranged⟩ := equality_is_congruence
  have rearranged : [("count", integer 1), ("ratio", double (.ofPayload false 0))].Perm
      [("ratio", double (.ofPayload false 0)), ("count", integer 1)] := .swap _ _ []
  have distinct : ["count", "ratio"].Nodup := by decide
  have equal := (arrays [_] [_]).mpr (.cons (((arranged _ _ rearranged distinct).1 _).trans
    (equivalence.refl _)) .nil)
  refine ⟨rearranged, distinct, equal, ?_⟩
  cases places _ _ equal [] with
  | some both => exact both.2

end Value

end KeyedRecord
