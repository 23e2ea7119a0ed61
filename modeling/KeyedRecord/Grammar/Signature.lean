/-
**Functions, and the items of an implementation.**

A function has a signature and a body. Inside an implementation stand functions, constants and
types; a function without a body or a constant without a value is read too, and kept as it was
written.

* `implItem`: one item of an implementation.
-/

import KeyedRecord.Grammar.Expr

namespace KeyedRecord.Grammar

section

variable (rules : Rules)

/-- Reads the receiver of a method. -/
def receiver : Reader Phrase := do
  let sign ← operator? "&"
  let region ← if sign.isEmpty then pure [] else optional startsWithLifetime lifetime
  let mutable ← word? "mut"
  let self ← word "self"
  let type ← if sign.isEmpty then
    optional (startsWithOperator ":") do
      let colon ← operator ":"
      return colon ++ (← rules.type true true).phrase
  else pure []
  return sign ++ region ++ mutable ++ self ++ type

/-- What an input of a function is. -/
inductive InputForm
  | receiver
  | typed
  | variadic
deriving DecidableEq

/-- Reads one input of a function. -/
def functionParameter : Reader (InputForm × Phrase) := do
  let attributes ← attributesPhrase rules
  if ← peek (startsWithOperator "...") then
    return (.variadic, attributes ++ (← operator "..."))
  match ← attempt (receiver rules) with
  | some (phrase, cursor) =>
    set cursor
    return (.receiver, attributes ++ phrase)
  | none => pure ()
  if (← peek startsWithName) && (← peekSecond (startsWithOperator "<")) then
    let type ← rules.type true true
    return (.typed, attributes ++ Phrase.ofWords ["_", ":"] ++ type.phrase)
  let binding ← rules.pattern
  let colon ← operator ":"
  if ← peek (startsWithOperator "...") then
    return (.variadic, attributes ++ binding.phrase ++ colon ++ (← operator "..."))
  return (.typed, attributes ++ binding.phrase ++ colon ++ (← rules.type true true).phrase)

/-- Reads the inputs of a function. Only the first may be the receiver, and only the last may stand
for further inputs. -/
def functionParameters (isFirst : Bool) : Nat → Reader Phrase
  | 0 => fail
  | steps + 1 => do
    if ← atEnd then return []
    let (form, phrase) ← functionParameter rules
    if form == .receiver && !isFirst then fail
    if ← atEnd then return phrase
    let comma ← operator ","
    if form == .variadic then return phrase ++ comma
    else return phrase ++ comma ++ (← functionParameters false steps)

/-- Whether the signature of a function follows, from its first word on. -/
def startsSignature (phrase : Phrase) : Bool :=
  let drop (keyword : String) (phrase : Phrase) : Phrase :=
    if startsWithWord keyword phrase then phrase.drop 1 else phrase
  let afterWords := drop "unsafe" (drop "async" (drop "const" phrase))
  let afterConvention :=
    if startsWithWord "extern" afterWords then
      let rest := afterWords.drop 1
      if startsWithText rest then rest.drop 1 else rest
    else afterWords
  startsWithWord "fn" afterConvention

/-- Reads the signature of a function. -/
def signature : Reader Phrase := do
  let constant ← word? "const"
  let delayed ← word? "async"
  let safety ← word? "unsafe"
  let convention ← optional (startsWithWord "extern") externConvention
  let keyword ← word "fn"
  let identifier ← name
  let (_, generics) ← parameters rules
  let inputs ← grouped .parenthesis do functionParameters rules true ((← ahead).length + 1)
  let result ← wideResult rules
  let (_, clause) ← conditions rules
  return constant ++ delayed ++ safety ++ convention ++ keyword ++ identifier.phrase ++
    generics ++ inputs ++ result ++ clause

/-- Reads a constant from its keyword on, and says whether it is complete: it has a value, and no
parameters or conditions. -/
def constantItem : Reader (Bool × Phrase) := do
  let keyword ← word "const"
  let identifier ← if ← peek (startsWithWord "_") then anyIdent else name
  let (hasParameters, _) ← parameters rules
  let colon ← operator ":"
  let type ← rules.type true true
  let value ← optional (startsWithOperator "=") do
    let equals ← operator "="
    return equals ++ (← anyExpr rules)
  let (hasConditions, _) ← conditions rules
  let mark ← operator ";"
  return (!value.isEmpty && !hasParameters && !hasConditions,
    keyword ++ identifier.phrase ++ colon ++ type.phrase ++ value ++ mark)

/-- What an item of an implementation is. -/
inductive ImplItemForm
  | function
  | constant
  | other
deriving DecidableEq, Repr

/-- An item of an implementation. -/
structure ImplItem where
  form : ImplItemForm
  phrase : Phrase

/-- A type alias as it was read: whether it has bounds and a type, and its phrase. -/
structure TypeAlias where
  hasBounds : Bool
  hasType : Bool
  phrase : Phrase

/-- Where the bounds of a type alias end. -/
def endsAliasBounds (phrase : Phrase) : Bool :=
  startsWithWord "where" phrase || startsWithOperator "=" phrase || startsWithOperator ";" phrase

/-- Reads a type alias from its keyword on. The flags say whether conditions may stand before the
type and behind it. -/
def typeAlias (allowBefore allowBehind : Bool) : Reader TypeAlias := do
  let keyword ← word "type"
  let identifier ← name
  let (_, generics) ← parameters rules
  let colon ← operator? ":"
  let bounds ← if colon.isEmpty then pure [] else do
    pure (Element.phrases (← elementsAtMost endsAliasBounds (fun phrase => !endsAliasBounds phrase)
      (operator "+") (do return (← bound rules false true).phrase) ((← ahead).length + 1)))
  let (hasBefore, before) ← if allowBefore then conditions rules else pure (false, [])
  let type ← optional (startsWithOperator "=") do
    let equals ← operator "="
    return equals ++ (← rules.type true true).phrase
  let (_, behind) ← if allowBehind && !hasBefore then conditions rules else pure (false, [])
  let mark ← operator ";"
  return ⟨!colon.isEmpty, !type.isEmpty, keyword ++ identifier.phrase ++ generics ++
    writtenBounds colon bounds ++ before ++ type ++ behind ++ mark⟩

/-- Reads an item of an implementation. -/
def implItem : Reader ImplItem := do
  let start ← ahead
  let attributes ← attributesPhrase rules
  let visible ← visibility
  let isDefault := (← peek (startsWithWord "default")) &&
    !(← peekSecond (startsWithOperator "!"))
  let default ← if isDefault then word "default" else pure []
  let head := attributes ++ visible ++ default
  let trees ← ahead
  if startsSignature trees then
    let sig ← signature rules
    if ← peek (startsWithOperator ";") then
      let _ ← operator ";"
      return ⟨.other, ← since start⟩
    else return ⟨.function, head ++ sig ++ (← attributedBlock rules)⟩
  else if startsWithWord "const" trees then
    let (complete, phrase) ← constantItem rules
    if complete then return ⟨.constant, head ++ phrase⟩
    else return ⟨.other, ← since start⟩
  else if startsWithWord "type" trees then
    let declared ← typeAlias rules false true
    if declared.hasType && !declared.hasBounds then return ⟨.other, head ++ declared.phrase⟩
    else return ⟨.other, ← since start⟩
  else if visible.isEmpty && !isDefault && (startsPathSegment trees || startsWithColons trees)
  then
    let path ← plainPath
    let bang ← operator "!"
    let input ← anyGroup
    let mark ← match input with
      | .group .brace _ => operator? ";"
      | _ => operator ";"
    return ⟨.other, head ++ path.phrase ++ bang ++ [input] ++ mark⟩
  else fail

end

end KeyedRecord.Grammar
