/-
**Types.**

A type is a path, a reference or pointer, a tuple, an array or slice, a function type, a sum of
bounds, a macro call, or one of the words that stand for a type. A reference to a reference is
written with two separate signs, and nested angle brackets close one by one.
-/

import KeyedRecord.Grammar.Generics

namespace KeyedRecord.Grammar

/-- What may follow a plus sign in a sum of bounds. -/
def startsBound (phrase : Phrase) : Bool :=
  startsWithIdent phrase || startsWithColons phrase || startsWithOperator "?" phrase ||
    startsWithLifetime phrase || startsWithGroup .parenthesis phrase

section

variable (rules : Rules)

/-- The bounds after the first one of a sum. -/
def moreBounds (allowCapture allowConst : Bool) : Nat → Reader (List Bound)
  | 0 => fail
  | steps + 1 => do
    if ← peek (startsWithOperator "+") then
      let plus ← operator "+"
      let trees ← ahead
      let constant := allowConst &&
        (startsWithGroup .bracket trees || startsWithWord "const" trees)
      if startsBound trees || constant then
        let next ← bound rules allowCapture allowConst
        return { next with phrase := plus ++ next.phrase } ::
          (← moreBounds allowCapture allowConst steps)
      else return [⟨false, plus⟩]
    else return []

/-- Reads a sum of bounds of which one at least must be a trait. -/
def traitSum (allowPlus allowCapture allowConst : Bool) : Reader (List Bound) := do
  let first ← bound rules allowCapture allowConst
  let more ← if allowPlus then
    moreBounds rules allowCapture allowConst ((← ahead).length + 1)
  else pure []
  let bounds := first :: more
  if bounds.any Bound.isTrait then return bounds else fail

/-- The phrase of a sum of bounds. -/
def Bound.phrases (bounds : List Bound) : Phrase :=
  bounds.flatMap Bound.phrase

/-- The type that a sum of bounds is. -/
def TypeExpr.ofBounds (bounds : List Bound) : TypeExpr :=
  if bounds.length == 1 then .bound (Bound.phrases bounds) else .other (Bound.phrases bounds)

/-- Bounds that a plus sign each precedes. -/
def plusBounds : Reader Phrase := do
  repeated do
    if ← peek (startsWithOperator "+") then
      let plus ← operator "+"
      return some (plus ++ (← bound rules false false).phrase)
    else return none

/-- Reads the type of a captured identifier and what may go on after it. -/
def capturedType (allowArguments : Bool) : Reader TypeExpr := do
  let identifier ← anyIdent
  let isPath := identifier.isName || pathWords.contains identifier.name
  if !isPath && identifier.name != "_" then fail
  let trees ← ahead
  let colons := startsWithColons trees
  if colons && startsWithIdent (trees.drop 2) then
    if isPath then
      let whole ← pathRest rules false (Path.ofIdent identifier)
      return .path whole
    else
      return .other (identifier.phrase ++ (← rules.path false).phrase)
  if isPath && ((startsWithOperator "<" trees && allowArguments) ||
      (colons && startsWithOperator "<" (trees.drop 2))) then
    let arguments ← angleArguments rules
    let whole ← pathRest rules false ⟨false, [⟨identifier, arguments⟩]⟩
    return .path whole
  return if isPath then .captured identifier else .other identifier.phrase

/-- Reads the types after the first one of a tuple, in front of its comma. -/
def moreOfTuple : Reader Phrase := do
  let comma ← operator ","
  return comma ++ (← commaListToEnd do return (← rules.type true true).phrase)

/-- Reads a type in round brackets. -/
def roundType (allowPlus : Bool) : Reader TypeExpr := do
  let inside : Reader (Phrase × (Phrase → TypeExpr) × Bool) := do
    if ← atEnd then return ([], TypeExpr.other, false)
    if ← peek startsWithLifetime then
      return (Bound.phrases (← traitSum rules true false false), TypeExpr.parenthesized,
        false)
    if ← peek (startsWithOperator "?") then
      return ((← bound rules false false).phrase, TypeExpr.other, true)
    let first ← rules.type true true
    if ← peek (startsWithOperator ",") then
      return (first.phrase ++ (← moreOfTuple rules), TypeExpr.other, false)
    let addable := match first with
      | .path _ => true
      | .bound _ => true
      | _ => false
    return (first.phrase, TypeExpr.parenthesized, addable && allowPlus)
  let (content, type, addable) ← within .parenthesis inside
  let phrase := Phrase.parenthesized content
  if addable && (startsWithOperator "?" content || (← peek (startsWithOperator "+"))) then
    return .other (phrase ++ (← plusBounds rules))
  else return type phrase

/-- Reads one input of a function type. The flag says whether it is the first. -/
def functionInput (isFirst : Bool) : Reader Phrase := do
  let attributes ← attributesPhrase rules
  let start ← ahead
  let mutableSelf := isFirst && startsWithWord "mut" start && startsWithWord "self" (start.drop 1)
  if mutableSelf then
    let _ ← word "mut"
  let trees ← ahead
  let self := isFirst && startsWithWord "self" trees
  let named := (startsWithName trees || startsWithWord "_" trees || self) &&
    startsWithOperator ":" (trees.drop 1) && !startsWithColons (trees.drop 1)
  let label ← if named then do
      let identifier ← anyIdent
      let colon ← operator ":"
      pure (identifier.phrase ++ colon)
    else pure []
  if mutableSelf && !named then
    let _ ← word "self"
    return attributes ++ (← since start)
  let trees ← ahead
  if isFirst && !(self && named) && startsWithWord "mut" trees &&
      startsWithWord "self" (trees.drop 1) then
    moveTo (trees.drop 2)
    return attributes ++ (← since start)
  let type ← rules.type true true
  if mutableSelf then return attributes ++ (← since start)
  else return attributes ++ label ++ type.phrase

/-- Reads the inputs of a function type, from the given one on. Dots for further inputs may stand
last. -/
def functionInputs (isFirst : Bool) : Nat → Reader Phrase
  | 0 => fail
  | steps + 1 => do
    if ← atEnd then return []
    match ← attempt (attributesPhrase rules) with
    | some (attributes, cursor) =>
      let trees := cursor.trees
      let labelled := (startsWithName trees || startsWithWord "_" trees) &&
        startsWithOperator ":" (trees.drop 1) && startsWithOperator "..." (trees.drop 2)
      if labelled || startsWithOperator "..." trees then
        set cursor
        let label ← if labelled then do
            let identifier ← anyIdent
            let colon ← operator ":"
            pure (identifier.phrase ++ colon)
          else pure []
        let dots ← operator "..."
        return attributes ++ label ++ dots ++ (← operator? ",")
    | none => fail
    let input ← functionInput rules isFirst
    if ← atEnd then return input
    let comma ← operator ","
    return input ++ comma ++ (← functionInputs false steps)

/-- Reads the words and the calling convention in front of a function. -/
def externConvention : Reader Phrase := do
  let keyword ← word "extern"
  return keyword ++ (← optional startsWithText literal)

/-- Reads a function type after its lifetimes. -/
def functionType : Reader Phrase := do
  let safety ← word? "unsafe"
  let convention ← optional (startsWithWord "extern") externConvention
  let keyword ← word "fn"
  let inputs ← grouped .parenthesis do
    functionInputs rules true ((← ahead).length + 1)
  let (_, result) ← narrowResult rules
  return safety ++ convention ++ keyword ++ inputs ++ result

/-- Reads a type that begins with a path, after its lifetimes. -/
def pathType (lifetimes : Phrase) (allowPlus : Bool) : Reader TypeExpr := do
  let qualified ← qualifiedPath rules false
  let extended ← do
    let rec extend : Nat → Path → Reader Path
      | 0, _ => fail
      | steps + 1, base => do
        if lastIsEmpty base.segments && (← peek startsRoundArguments) then
          let _ ← operator? "::"
          let (mayGoOn, arguments) ← roundArguments rules
          let base := { base with segments := withLastArguments base.segments arguments }
          extend steps (← if mayGoOn then pathRest rules false base else pure base)
        else return base
    extend ((← ahead).length + 1) qualified.path
  if qualified.isQualified then
    return .other (qualified.qualifier ++ extended.phrase)
  let trees ← ahead
  if startsWithOperator "!" trees && !startsWithOperator "!=" trees && extended.isPlain then
    let bang ← operator "!"
    return .other (extended.phrase ++ bang ++ [← anyGroup])
  if !lifetimes.isEmpty || (allowPlus && startsWithOperator "+" trees) then
    let more ← if allowPlus then moreBounds rules false false (trees.length + 1) else pure []
    return TypeExpr.ofBounds (⟨true, lifetimes ++ extended.phrase⟩ :: more)
  return .path extended

/-- Reads a type. The flags say whether a sum of bounds may stand here, and whether arguments may
follow a captured name. -/
def type (allowPlus allowArguments : Bool) : Reader TypeExpr := do
  if ← peek startsWithCapture then
    return ← capturedType rules allowArguments
  let lifetimes ← boundLifetimes?
  let trees ← ahead
  let startsFunction := startsWithAnyWord ["fn", "unsafe", "extern"] trees
  let startsPath := startsPathSegment trees
  if !lifetimes.isEmpty && !(startsFunction || startsPath) then fail
  if startsWithGroup .parenthesis trees then
    roundType rules allowPlus
  else if startsFunction then
    return .other (lifetimes ++ (← functionType rules))
  else if startsPath || startsWithColons trees || startsWithOperator "<" trees then
    pathType rules lifetimes allowPlus
  else if startsWithWord "dyn" trees then
    let keyword ← word "dyn"
    let star ← operator? "*"
    let bounds ← traitSum rules allowPlus false false
    if star.isEmpty then return .other (keyword ++ Bound.phrases bounds)
    else return .other (← since trees)
  else if startsWithGroup .bracket trees then
    let phrase ← grouped .bracket do
      let element ← rules.type true true
      let length ← optional (startsWithOperator ";") do
        let mark ← operator ";"
        return mark ++ (← rules.expr true).phrase
      return element.phrase ++ length
    return .other phrase
  else if startsWithOperator "*" trees then
    let star ← operator "*"
    let kind ← if ← peek (startsWithWord "const") then word "const" else word "mut"
    return .other (star ++ kind ++ (← rules.type false true).phrase)
  else if startsWithOperator "&" trees then
    let sign ← operator "&"
    let region ← optional startsWithLifetime lifetime
    let kind ← word? "mut"
    return .other (sign ++ region ++ kind ++ (← rules.type false true).phrase)
  else if startsWithOperator "!" trees && !startsWithOperator "=" trees then
    return .other (← operator "!")
  else if startsWithWord "impl" trees then
    let keyword ← word "impl"
    return .other (keyword ++ Bound.phrases (← traitSum rules allowPlus true true))
  else if startsWithWord "_" trees then
    return .other (← word "_")
  else if startsWithLifetime trees then
    return TypeExpr.ofBounds (← traitSum rules allowPlus false false)
  else fail

/-- Reads the result of a function, in which a sum of bounds may stand. -/
def wideResult : Reader Phrase := do
  optional (startsWithOperator "->") do
    let arrow ← operator "->"
    return arrow ++ (← rules.type true true).phrase

end

end KeyedRecord.Grammar
