/-
**What a JSON text says.**

A tree is a JSON text without its blanks, its marks and its choices of spelling. It keeps all
members of an object, those with a repeated name too, and each number as the digits it is written
with. Some leaves stand for no value (`Tree.offence?`). A tree without such a leaf means a value
(`Tree.Means`), in which the last member of a name counts.

* `Tree.offences`: the leaves of a tree that stand for no value, in order.
* `Tree.Means`: the value of a tree.
-/

import Mathlib.Algebra.Ring.Int.Defs
import Mathlib.Data.List.Forall2
import KeyedRecord.Json.Reader
import KeyedRecord.Proofs.Value.Order

namespace KeyedRecord

namespace Json

/-! ### Numbers -/

namespace Numeral

variable (numeral : Numeral)

/-- The number is written without a fraction and an exponent. -/
def IsInteger : Prop :=
  numeral.fraction = none ∧ numeral.exponent = none

/-- The integer that the digits before the point write, with the sign. -/
def integer : Int :=
  if numeral.isNegative then -(Text.decimalValue numeral.whole : Int)
  else Text.decimalValue numeral.whole

/-- The number is an integer of 64 bits with a sign, and not the zero with a sign. -/
def IsShort : Prop :=
  numeral.IsInteger ∧ -2 ^ 63 ≤ numeral.integer ∧ numeral.integer < 2 ^ 63 ∧
    ¬(numeral.isNegative = true ∧ numeral.integer = 0)

/-- The floating-point number nearest to the number. That a reader of numbers rounds correctly, for
every number of digits, is assumed of how numbers are handed over. -/
def double : Double :=
  numeral.decimal.toBinary numeral.isNegative

/-- The number is not too large for a floating-point number. -/
def FitsDouble : Prop :=
  numeral.double.isFinite = true

instance : Decidable numeral.IsInteger :=
  inferInstanceAs (Decidable (_ ∧ _))

instance : Decidable numeral.FitsDouble :=
  inferInstanceAs (Decidable (_ = true))

end Numeral

/-! ### Trees -/

/-- What a JSON text says. -/
inductive Tree
  | null
  | boolean (value : Bool)
  | number (numeral : Numeral)
  | text (content : String)
  | array (items : List Tree)
  | object (members : List (String × Tree))

/-- A leaf that no value stands for. -/
inductive Offence
  | null
  /-- An integer of 64 bits without a sign that needs all of them. -/
  | tooLarge (value : Nat)
deriving DecidableEq, Repr

/-- The words for an offence. -/
def Offence.message : Offence → String
  | .null =>
    "invalid type: null, expected an integer, boolean, double, string, bytes, sequence or map"
  | .tooLarge value => "integer " ++ toString value ++ " out of range"

namespace Tree

/-- How deep arrays and objects nest in the tree. -/
def nesting : Tree → Nat
  | .array items => 1 + nestingOfItems items
  | .object members => 1 + nestingOfMembers members
  | _ => 0
where
  /-- The deepest nesting among the items. -/
  nestingOfItems : List Tree → Nat
    | [] => 0
    | item :: rest => max item.nesting (nestingOfItems rest)
  /-- The deepest nesting among the members. -/
  nestingOfMembers : List (String × Tree) → Nat
    | [] => 0
    | (_, tree) :: rest => max tree.nesting (nestingOfMembers rest)

/-- The leaves of the tree in order, those of members with a repeated name too. -/
def leaves : Tree → List Tree
  | .array items => leavesOfItems items
  | .object members => leavesOfMembers members
  | leaf => [leaf]
where
  /-- The leaves of the items. -/
  leavesOfItems : List Tree → List Tree
    | [] => []
    | item :: rest => item.leaves ++ leavesOfItems rest
  /-- The leaves of the members. -/
  leavesOfMembers : List (String × Tree) → List Tree
    | [] => []
    | (_, tree) :: rest => tree.leaves ++ leavesOfMembers rest

theorem nesting_array_le_iff (items : List Tree) (depth : Nat) :
    (array items).nesting ≤ depth + 1 ↔ ∀ item ∈ items, item.nesting ≤ depth := by
  rw [nesting, Nat.add_comm, Nat.add_le_add_iff_right]
  induction items with
  | nil => simp [nesting.nestingOfItems]
  | cons item rest ih => rw [nesting.nestingOfItems, Nat.max_le, ih, List.forall_mem_cons]

theorem nesting_object_le_iff (members : List (String × Tree)) (depth : Nat) :
    (object members).nesting ≤ depth + 1 ↔ ∀ member ∈ members, member.2.nesting ≤ depth := by
  rw [nesting, Nat.add_comm, Nat.add_le_add_iff_right]
  induction members with
  | nil => simp [nesting.nestingOfMembers]
  | cons member rest ih => rw [nesting.nestingOfMembers, Nat.max_le, ih, List.forall_mem_cons]

theorem leaves_array (items : List Tree) : (array items).leaves = items.flatMap leaves := by
  rw [leaves]
  induction items with
  | nil => rfl
  | cons item rest ih => rw [leaves.leavesOfItems, ih, List.flatMap_cons]

theorem leaves_object (members : List (String × Tree)) :
    (object members).leaves = members.flatMap fun member => member.2.leaves := by
  rw [leaves]
  induction members with
  | nil => rfl
  | cons member rest ih => rw [leaves.leavesOfMembers, ih, List.flatMap_cons]

/-! ### Offences -/

/-- The offence of a leaf: it is `null`, or an integer from 2^63 up that fits 64 bits. -/
def offence? : Tree → Option Offence
  | .null => some .null
  | .number numeral =>
    if numeral.IsInteger ∧ 2 ^ 63 ≤ numeral.integer ∧ numeral.integer < 2 ^ 64 then
      some (.tooLarge numeral.integer.toNat)
    else none
  | _ => none

/-- The offences in a tree, in order. -/
def offences (tree : Tree) : List Offence :=
  tree.leaves.filterMap offence?

def numeral? : Tree → Option Numeral
  | .number numeral => some numeral
  | _ => none

/-- No number in the tree is too large for a floating-point number. -/
def FitsDoubles (tree : Tree) : Prop :=
  ∀ numeral ∈ tree.leaves.filterMap numeral?, numeral.FitsDouble

instance (tree : Tree) : Decidable tree.FitsDoubles :=
  inferInstanceAs (Decidable (∀ numeral ∈ tree.leaves.filterMap numeral?, numeral.FitsDouble))

theorem offences_array (items : List Tree) :
    (array items).offences = items.flatMap offences := by
  rw [offences, leaves_array, List.filterMap_flatMap]
  rfl

theorem offences_object (members : List (String × Tree)) :
    (object members).offences = members.flatMap fun member => member.2.offences := by
  rw [offences, leaves_object, List.filterMap_flatMap]
  rfl

theorem FitsDoubles.item {items : List Tree} (fits : (array items).FitsDoubles) {item : Tree}
    (inside : item ∈ items) : item.FitsDoubles := by
  intro numeral leaf
  refine fits numeral ?_
  rw [leaves_array, List.filterMap_flatMap]
  exact List.mem_flatMap_of_mem inside leaf

theorem FitsDoubles.member {members : List (String × Tree)}
    (fits : (object members).FitsDoubles) {member : String × Tree} (inside : member ∈ members) :
    member.2.FitsDoubles := by
  intro numeral leaf
  refine fits numeral ?_
  rw [leaves_object, List.filterMap_flatMap]
  exact List.mem_flatMap_of_mem inside leaf

/-! ### Values -/

/-- **The value that a tree means.** An integer of 64 bits means itself, and any other number means
the floating-point number nearest to it. The items of an array mean its items in order. Under the
name of a member stands what the last member of that name means. -/
inductive Means : Tree → Value → Prop
  | boolean (value : Bool) : Means (.boolean value) (.boolean value)
  | text (content : String) : Means (.text content) (.text content)
  | integer {numeral : Numeral} {value : Int64} :
      numeral.IsShort → value.toInt = numeral.integer → Means (.number numeral) (.integer value)
  | double {numeral : Numeral} :
      ¬numeral.IsShort → Means (.number numeral) (.double numeral.double)
  | array {items : List Tree} {values : List Value} :
      List.Forall₂ Means items values → Means (.array items) (.array values)
  | object {members : List (String × Tree)} {bindings : List (String × Value)} {fields : Fields} :
      bindings.map Prod.fst = members.map Prod.fst →
      List.Forall₂ Means (members.map Prod.snd) (bindings.map Prod.snd) → fields.IsOrdered →
      (∀ name, fields.get? name = bindings.reverse.lookup name) →
      Means (.object members) (.struct fields)

end Tree

end Json

end KeyedRecord
