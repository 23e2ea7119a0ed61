/-
**Encoders.**

An encoder collects the fields of a document. Its steps write values under the keys of variants, or
open a container again, which shows the same fields. A step that fails leaves the fields as they
are, and the steps after it are taken all the same.

* `EncoderStep.run`: what one step comes to, and the fields after it.
* `EncoderStep.runAll`: what each step of a sequence comes to, and the fields after the last one.
-/

import KeyedRecord.Document.Container

namespace KeyedRecord

/-- A step of an encoder. -/
inductive EncoderStep (Variant : Type)
  /-- A value is written under the key of a variant. -/
  | encode (variant : Variant) (value : Value)
  /-- A value is written if there is one. -/
  | encodeIfPresent (variant : Variant) (value : Option Value)
  /-- A container is opened again. -/
  | reopen

namespace EncoderStep

variable {Variant : Type} (keys : Keys Variant)

/-- The fields that a step makes of the fields before it. -/
def apply (fields : Fields) : EncoderStep Variant → Except EncodeError Fields
  | .encode variant value => keys.write fields variant value
  | .encodeIfPresent variant value => keys.writeIfPresent fields variant value
  | .reopen => .ok fields

/-- What a step comes to, and the fields after it. -/
def run (fields : Fields) (step : EncoderStep Variant) : Except EncodeError Unit × Fields :=
  match step.apply keys fields with
  | .ok after => (.ok (), after)
  | .error error => (.error error, fields)

/-- What each step comes to, and the fields after the last one. -/
def runAll (fields : Fields) :
    List (EncoderStep Variant) → List (Except EncodeError Unit) × Fields
  | [] => ([], fields)
  | step :: rest =>
    let first := step.run keys fields
    let others := runAll first.2 rest
    (first.1 :: others.1, others.2)

/-- The document that an encoder has collected when it has taken the steps from the start. -/
def document (steps : List (EncoderStep Variant)) : Value :=
  .struct (runAll keys [] steps).2

end EncoderStep

end KeyedRecord
