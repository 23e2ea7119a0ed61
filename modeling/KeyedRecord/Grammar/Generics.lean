/-
**Parameters of items, and the conditions on them.**

Parameters stand in angle brackets: lifetimes, types and constants, written in this order. Empty
brackets are not written, and neither is a condition clause without conditions.
-/

import KeyedRecord.Grammar.Attribute

namespace KeyedRecord.Grammar

/-- Where a list of bounds ends inside angle brackets. -/
def endsParameterBounds (phrase : Phrase) : Bool :=
  startsWithOperator "," phrase || startsWithOperator ">" phrase || startsWithOperator "=" phrase

/-- Where a list of conditions or of their bounds ends. -/
def endsConditions (phrase : Phrase) : Bool :=
  phrase.isEmpty || startsWithGroup .brace phrase || startsWithOperator "," phrase ||
    startsWithOperator ";" phrase ||
    (startsWithOperator ":" phrase && !startsWithColons phrase) || startsWithOperator "=" phrase

/-- A colon and bounds, written only if there are bounds. -/
def writtenBounds (colon bounds : Phrase) : Phrase :=
  if bounds.isEmpty then [] else colon ++ bounds

section

variable (rules : Rules)

/-- Reads one parameter, and says whether it is a lifetime. -/
def parameter : Reader (Bool × Phrase) := do
  let attributes ← attributesPhrase rules
  if ← peek startsWithLifetime then
    let identifier ← lifetime
    let colon ← operator? ":"
    let bounds ← if colon.isEmpty then pure [] else
      plusList (fun phrase => phrase.isEmpty || startsWithOperator "," phrase ||
        startsWithOperator ">" phrase) lifetime
    return (true, attributes ++ identifier ++ writtenBounds colon bounds)
  if ← peek (startsWithWord "const") then
    let keyword ← word "const"
    let identifier ← name
    let colon ← operator ":"
    let type ← rules.type true true
    let default ← optional (startsWithOperator "=") do
      let equals ← operator "="
      return equals ++ (← constantArgument rules)
    return (false, attributes ++ keyword ++ identifier.phrase ++ colon ++ type.phrase ++ default)
  if ← peek (startsWithWord "_") then
    return (false, attributes ++ (← anyIdent).phrase)
  let identifier ← name
  let colon ← operator? ":"
  let bounds ← if colon.isEmpty then pure [] else
    plusList endsParameterBounds do return (← bound rules false true).phrase
  let default ← optional (startsWithOperator "=") do
    let equals ← operator "="
    return equals ++ (← rules.type true true).phrase
  return (false, attributes ++ identifier.phrase ++ writtenBounds colon bounds ++ default)

/-- Reads the parameters of an item, if it has any: whether brackets stand there, and what is
written. -/
def parameters : Reader (Bool × Phrase) := do
  if ← peek (startsWithOperator "<") then
    let less ← operator "<"
    let elements ← commaElements (startsWithOperator ">") (parameter rules)
    let greater ← operator ">"
    if elements.isEmpty then return (true, [])
    else return (true, less ++ lifetimesFirst elements ++ greater)
  else return (false, [])

/-- Reads one condition on parameters. -/
def condition : Reader Phrase := do
  if (← peek startsWithLifetime) && (← peekSecond (startsWithOperator ":")) then
    let identifier ← lifetime
    let colon ← operator ":"
    return identifier ++ colon ++ (← plusList endsConditions lifetime)
  else
    let lifetimes ← boundLifetimes?
    let type ← rules.type true true
    let colon ← operator ":"
    let bounds ← plusList endsConditions do return (← bound rules false true).phrase
    return lifetimes ++ type.phrase ++ colon ++ bounds

/-- Reads the conditions on the parameters of an item, if there are any: whether the clause stands
there, and what is written. -/
def conditions : Reader (Bool × Phrase) := do
  if ← peek (startsWithWord "where") then
    let keyword ← word "where"
    let elements ← elementsAtMost endsConditions (startsWithOperator ",") (operator ",")
      (condition rules) ((← ahead).length + 1)
    if elements.isEmpty then return (true, [])
    else return (true, keyword ++ Element.phrases elements)
  else return (false, [])

end

end KeyedRecord.Grammar
