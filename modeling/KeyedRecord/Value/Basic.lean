/-
**Values.**

What stands in a document: integers of 64 bits, truth values, texts, bytes, floating-point numbers
of 64 bits, arrays, and structures of named fields. The fields of a structure are kept as a list of
which the first binding of a name counts. Values built here bind each name once, in the order of
the names (`Fields.insert`); `Value.canonical` brings any value into that form.

* `Value.ofFields`: a structure of bindings, of which the last one of a name counts.
* `Value.field?`: what a structure holds under a name.
-/

import KeyedRecord.Number.Binary

namespace KeyedRecord

/-- A value of a document. -/
inductive Value
  | integer (value : Int64)
  | boolean (value : Bool)
  | text (value : String)
  | binary (bytes : List UInt8)
  | double (value : Double)
  | struct (fields : List (String × Value))
  | array (items : List Value)
deriving Inhabited

/-- The kinds of values. -/
inductive Kind
  | integer
  | boolean
  | text
  | binary
  | double
  | struct
  | array
deriving DecidableEq, Repr

/-- The name of a kind. -/
def Kind.name : Kind → String
  | .integer => "integer"
  | .boolean => "boolean"
  | .text => "string"
  | .binary => "binary"
  | .double => "double"
  | .struct => "struct"
  | .array => "array"

/-- The kind of a value. -/
def Value.kind : Value → Kind
  | .integer _ => .integer
  | .boolean _ => .boolean
  | .text _ => .text
  | .binary _ => .binary
  | .double _ => .double
  | .struct _ => .struct
  | .array _ => .array

/-- Bindings of names to values. -/
abbrev Fields := List (String × Value)

namespace Fields

/-- The value that is bound to a name, by its first binding. -/
def get? (fields : Fields) (name : String) : Option Value :=
  fields.lookup name

/-- Whether a value is bound to a name. -/
def contains (fields : Fields) (name : String) : Bool :=
  fields.any fun field => field.1 == name

/-- The names in order. -/
def names (fields : Fields) : List String :=
  fields.map Prod.fst

/-- Binds a name in a list that is ordered by its names, in the place of an earlier binding. -/
def insert (name : String) (value : Value) : Fields → Fields
  | [] => [(name, value)]
  | field :: rest =>
    if name < field.1 then (name, value) :: field :: rest
    else if name == field.1 then (name, value) :: rest
    else field :: insert name value rest

/-- The bindings in the order of their names, of which the last one of a name is kept. -/
def ofList (bindings : List (String × Value)) : Fields :=
  bindings.foldl (fun fields field => insert field.1 field.2 fields) []

end Fields

/-- A structure of bindings, of which the last one of a name counts. -/
def Value.ofFields (bindings : List (String × Value)) : Value :=
  .struct (Fields.ofList bindings)

/-- What a structure holds under a name. Other values hold nothing. -/
def Value.field? (value : Value) (name : String) : Option Value :=
  match value with
  | .struct fields => Fields.get? fields name
  | _ => none

/-- The value with the fields of every structure in the order of their names, each name once. -/
def Value.canonical : Value → Value
  | .struct fields => .struct (canonicalFields fields)
  | .array items => .array (canonicalItems items)
  | value => value
where
  /-- The fields in the order of their names, of which the first one of a name is kept. -/
  canonicalFields : List (String × Value) → Fields
    | [] => []
    | (name, value) :: rest => Fields.insert name value.canonical (canonicalFields rest)
  /-- The items in canonical form. -/
  canonicalItems : List Value → List Value
    | [] => []
    | item :: rest => item.canonical :: canonicalItems rest

/-- How deep arrays, structures and bytes nest in a value. -/
def Value.nesting : Value → Nat
  | .struct fields => 1 + nestingOfFields fields
  | .array items => 1 + nestingOfItems items
  | .binary _ => 1
  | _ => 0
where
  /-- The deepest nesting among the fields. -/
  nestingOfFields : List (String × Value) → Nat
    | [] => 0
    | (_, value) :: rest => max value.nesting (nestingOfFields rest)
  /-- The deepest nesting among the items. -/
  nestingOfItems : List Value → Nat
    | [] => 0
    | item :: rest => max item.nesting (nestingOfItems rest)

end KeyedRecord
