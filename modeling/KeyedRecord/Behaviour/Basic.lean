/-
**Running the expansion of a record.**

A state gives every field of a record its datum. The code of an expansion is run step by step:
writing a state into the fields of a document, reading a state from them, and setting an observed
member. What the bodies of a record compute, and what the types of its members make of values, is
given by a model.

* `Expansion.write`: the fields with the record's members, or the error of the first step that
  fails, and the fields as that step found them.
* `Expansion.read`: the state that the fields of a document hold.
* `Setter.run`: the state after an observed member has been set.
-/

import KeyedRecord.Document.Container
import KeyedRecord.Expansion.Basic

namespace KeyedRecord

/-- The data of the fields of a record. -/
abbrev State (Datum : Type) := Ident → Datum

/-- The state in which one field holds another datum. -/
def State.set {Datum : Type} (state : State Datum) (name : Ident) (datum : Datum) : State Datum :=
  fun other => if other = name then datum else state other

/-- What the bodies and the types of a record mean. -/
structure Model (Datum : Type) where
  /-- The value of a datum. -/
  toValue : Datum → Value
  /-- The datum that a type makes of a value, or the words for why it makes none. -/
  convert : Phrase → Value → Except String Datum
  /-- The default of a type. -/
  typeDefault : Phrase → Datum
  /-- What the initial value of a member is. It is assumed to be closed: it refers to nothing but
  what stands around the record, so it is the same wherever it is evaluated. In particular it does
  not see the names that the steps of reading have bound before it. -/
  initial : Ident → Phrase → Datum
  /-- What the body of a computed member or of a method gives. -/
  call : Ident → State Datum → Datum
  /-- What the block before a change of a member does. It sees the new datum. -/
  willSet : Ident → Datum → State Datum → State Datum
  /-- What the block after a change of a member does. It sees the old datum. -/
  didSet : Ident → Datum → State Datum → State Datum

/-- The names of the variants, with the keys they stand for. -/
def KeyEnumeration.keys (enumeration : KeyEnumeration) : Keys String where
  all := enumeration.variants.map KeyVariant.name
  key name :=
    match enumeration.variants.find? fun variant => variant.name == name with
    | some variant => variant.key
    | none => ""

/-- The type of a field. -/
def Structure.typeOf (declaration : Structure) (name : Ident) : Phrase :=
  match declaration.fields.find? fun field => field.name == name with
  | some field => field.type
  | none => []

section

variable {Datum : Type} (model : Model Datum)

/-- The datum that a step writes. -/
def WriteStep.datum (step : WriteStep) (state : State Datum) : Datum :=
  match step.source with
  | .field => state step.member
  | .getter => model.call step.member state

/-- Runs the steps that write a record up to the first one that fails. -/
def WriteStep.runAll (keys : Keys String) (state : State Datum) :
    List WriteStep → Fields → Except EncodeError Unit × Fields
  | [], fields => (.ok (), fields)
  | step :: rest, fields =>
    match keys.write fields step.variant (model.toValue (step.datum model state)) with
    | .ok fields => runAll keys state rest fields
    | .error error => (.error error, fields)

/-- Writes the members of a record into fields. -/
def Conformance.write (code : Conformance) (state : State Datum) (fields : Fields) :
    Except EncodeError Unit × Fields :=
  WriteStep.runAll model code.keys.keys state code.writes fields

/-- The document of a record. -/
def Conformance.toValue (code : Conformance) (state : State Datum) : Except EncodeError Value :=
  match code.write model state [] with
  | (.ok (), fields) => .ok (.struct fields)
  | (.error error, _) => .error error

/-- The type that a step reads: its own, or that of the field of the same name. -/
def ReadStep.typePhrase (declaration : Structure) (step : ReadStep) : Phrase :=
  match step.type with
  | some type => type.phrase
  | none => declaration.typeOf step.member

/-- Runs the steps that read a record, and gives what they bind. -/
def ReadStep.runAll (declaration : Structure) (keys : Keys String) (fields : Fields) :
    List ReadStep → Except DecodeError (List (Ident × Datum))
  | [] => .ok []
  | step :: rest => do
    let type := step.typePhrase declaration
    let datum ← keys.read (model.convert type) fields step.variant
    return (step.member, datum) :: (← runAll declaration keys fields rest)

/-- The datum of a field that is filled. Initial values are assumed to be closed
(`Model.initial`), so they are not handed what the steps have bound. -/
def FilledField.datum (declaration : Structure) (bindings : List (Ident × Datum))
    (field : FilledField) : Datum :=
  match field.source with
  | .bound => (bindings.lookup field.name).getD (model.typeDefault [])
  | .initial value => model.initial field.name value
  | .typeDefault => model.typeDefault (declaration.typeOf field.name)

/-- The state that fields fill. A name that is no field holds the default of no type. -/
def Reading.fill (reading : Reading) (declaration : Structure)
    (bindings : List (Ident × Datum)) : State Datum := fun name =>
  match reading.fields.find? fun field => field.name == name with
  | some field => field.datum model declaration bindings
  | none => model.typeDefault []

/-- Reads a record from the fields of a document. -/
def Conformance.read (code : Conformance) (declaration : Structure) (fields : Fields) :
    Except DecodeError (State Datum) := do
  let bindings ← ReadStep.runAll model declaration code.keys.keys fields code.reading.steps
  return code.reading.fill model declaration bindings

/-- The state that a document holds. -/
def Conformance.ofValue (code : Conformance) (declaration : Structure) (value : Value) :
    Except DecodeError (State Datum) := do
  code.read model declaration (← value.fields?)

/-- Sets an observed member: the first block runs, the old datum is kept while the new one takes
its place, and the second block runs. -/
def Setter.run (setter : Setter) (datum : Datum) (state : State Datum) : State Datum :=
  let before :=
    if setter.observers.willSet.isSome then model.willSet setter.member datum state else state
  let after := before.set setter.member datum
  if setter.observers.didSet.isSome then model.didSet setter.member (before setter.member) after
  else after

end

/-- The setter of a member. -/
def Expansion.setter? (expansion : Expansion) (member : Ident) : Option Setter :=
  expansion.inherentItems.findSome? fun item =>
    match item with
    | .setter setter => if setter.member = member then some setter else none
    | _ => none

/-- The code for documents, if the expansion has it. -/
def Expansion.conformance? (expansion : Expansion) : Option Conformance :=
  match expansion.documentCode with
  | .conformance code => some code
  | _ => none

end KeyedRecord
