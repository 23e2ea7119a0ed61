/-
**Data of the types of members.**

A datum is a type of members with one of its data. Types are known by the words that declare them,
and values are read as their data.

* `MemberType.ofPhrase?`: the type that a phrase declares.
* `Model.ofBodies`: the model in which types have their own data, with the given bodies.
-/

import KeyedRecord.Behaviour.Basic
import KeyedRecord.Value.Conversion

namespace KeyedRecord

/-- A type with one of its data. -/
structure Datum where
  type : MemberType
  value : type.Carrier

/-- The type that a phrase declares. -/
def MemberType.ofPhrase? (phrase : Phrase) : Option MemberType :=
  MemberType.ofName? (String.ofList (phrase.render.toList.filter fun c => c != ' '))

namespace Datum

/-- The value of a datum. -/
def toValue (datum : Datum) : Value :=
  datum.type.toValue datum.value

/-- The datum that a type makes of a value. -/
def ofValue (type : MemberType) (value : Value) : Except ConversionError Datum :=
  (type.ofValue value).map fun datum => ⟨type, datum⟩

/-- The default of a type. -/
def default (type : MemberType) : Datum :=
  ⟨type, type.default⟩

/-- An integer of 64 bits, whose higher bits are dropped. -/
def integer (value : Int) : Datum where
  type := .scalar (.integer .i64)
  value := ⟨value.bmod 18446744073709551616, by
    have lower := @Int.le_bmod value 18446744073709551616 (by decide)
    have upper := @Int.bmod_lt value 18446744073709551616 (by decide)
    simp only [IntegerType.least, IntegerType.greatest]
    omega⟩

/-- A text. -/
def text (value : String) : Datum :=
  ⟨.scalar .text, value⟩

/-- The integer of a datum, or zero. -/
def toInt (datum : Datum) : Int :=
  match datum with
  | ⟨.scalar (.integer _), value⟩ => value.val
  | _ => 0

/-- The text of a datum, or the empty one. -/
def toText (datum : Datum) : String :=
  match datum with
  | ⟨.scalar .text, value⟩ => value
  | _ => ""

/-- A list with one more item at its end, if the item is of the list's type. -/
def push (list item : Datum) : Datum :=
  match list, item with
  | ⟨.list element, items⟩, ⟨.scalar type, value⟩ =>
    if same : type = element then ⟨.list element, List.append items [same ▸ value]⟩
    else ⟨.list element, items⟩
  | list, _ => list

end Datum

/-- What the bodies of a record compute, by the members they belong to. -/
structure Bodies where
  initial : List (Ident × Datum) := []
  call : List (Ident × (State Datum → Datum)) := []
  willSet : List (Ident × (Datum → State Datum → State Datum)) := []
  didSet : List (Ident × (Datum → State Datum → State Datum)) := []

/-- The datum that a declared type makes of a value. -/
def Datum.convert (type : Phrase) (value : Value) : Except String Datum :=
  match MemberType.ofPhrase? type with
  | some type => (Datum.ofValue type value).mapError ConversionError.message
  | none => .error "unknown type"

/-- The default of a declared type. -/
def Datum.typeDefault (type : Phrase) : Datum :=
  Datum.default ((MemberType.ofPhrase? type).getD .bytes)

/-- The model in which types have their own data. A member without a body has the bodies that do
nothing. -/
def Model.ofBodies (bodies : Bodies) : Model Datum where
  toValue := Datum.toValue
  convert := Datum.convert
  typeDefault := Datum.typeDefault
  initial name _ := (bodies.initial.lookup name).getD (Datum.integer 0)
  call name state :=
    match bodies.call.lookup name with
    | some body => body state
    | none => Datum.integer 0
  willSet name datum state :=
    match bodies.willSet.lookup name with
    | some body => body datum state
    | none => state
  didSet name datum state :=
    match bodies.didSet.lookup name with
    | some body => body datum state
    | none => state

end KeyedRecord
