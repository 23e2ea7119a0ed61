/-
**Equality of values.**

Two values are equal if they are the same up to the order of fields. Floating-point numbers are
compared bit by bit, so that what is no number equals itself. Equality is decided on canonical
forms (`Value.sameForm`).
-/

import KeyedRecord.Value.Basic

namespace KeyedRecord

/-- Whether two values have the same form, fields in the same order. -/
def Value.sameForm : Value → Value → Bool
  | .integer a, .integer b => a == b
  | .boolean a, .boolean b => a == b
  | .text a, .text b => a == b
  | .binary a, .binary b => a == b
  | .double a, .double b => a == b
  | .struct a, .struct b => sameFields a b
  | .array a, .array b => sameItems a b
  | _, _ => false
where
  /-- Whether two lists of fields have the same form. -/
  sameFields : List (String × Value) → List (String × Value) → Bool
    | [], [] => true
    | (name, a) :: more, (other, b) :: rest => name == other && a.sameForm b && sameFields more rest
    | _, _ => false
  /-- Whether two lists of items have the same form. -/
  sameItems : List Value → List Value → Bool
    | [], [] => true
    | a :: more, b :: rest => a.sameForm b && sameItems more rest
    | _, _ => false

/-- Values are equal if their canonical forms are the same. -/
instance : BEq Value where
  beq a b := a.canonical.sameForm b.canonical

end KeyedRecord
