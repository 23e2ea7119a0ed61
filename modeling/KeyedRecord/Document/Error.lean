/-
**Errors of writing and reading documents.**

Each error names its cause. `message` words it for readers, and `inspect` shows the cause with its
parts, texts in quotes.
-/

import KeyedRecord.Text.Quoted
import KeyedRecord.Value.Basic

namespace KeyedRecord

/-- Why a document cannot be written. -/
inductive EncodeError
  /-- The key has been written before. -/
  | duplicateKey (key : String)
  /-- A cause in other words. -/
  | other (words : String)
deriving DecidableEq, Repr

/-- The words for the cause. -/
def EncodeError.message : EncodeError → String
  | .duplicateKey key => "duplicate key '" ++ key ++ "' in keyed container"
  | .other words => "encode error: " ++ words

/-- The cause and its parts. -/
def EncodeError.inspect : EncodeError → String
  | .duplicateKey key => "DuplicateKey(" ++ Text.quote key ++ ")"
  | .other words => "Other(" ++ Text.quote words ++ ")"

/-- Why a document cannot be read. -/
inductive DecodeError
  /-- The document is not a structure. -/
  | expectedStruct (actual : Kind)
  /-- The document has no such key. -/
  | missingKey (key : String)
  /-- What stands under the key is not of the type that is read. -/
  | typeMismatch (key message : String)
  /-- A cause in other words. -/
  | other (words : String)
deriving DecidableEq, Repr

/-- The words for the cause. -/
def DecodeError.message : DecodeError → String
  | .expectedStruct actual => "expected struct, got " ++ actual.name
  | .missingKey key => "missing required key '" ++ key ++ "'"
  | .typeMismatch key message => "type mismatch for key '" ++ key ++ "': " ++ message
  | .other words => "decode error: " ++ words

/-- The cause and its parts. -/
def DecodeError.inspect : DecodeError → String
  | .expectedStruct actual =>
    "ExpectedStruct \x7b actual: " ++ Text.quote actual.name ++ " \x7d"
  | .missingKey key => "MissingKey \x7b key: " ++ Text.quote key ++ " \x7d"
  | .typeMismatch key message =>
    "TypeMismatch \x7b key: " ++ Text.quote key ++ ", message: " ++ Text.quote message ++ " \x7d"
  | .other words => "Other(" ++ Text.quote words ++ ")"

end KeyedRecord
