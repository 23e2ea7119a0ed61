/-
**Items.**

An item declares something: a function, a constant or static, a type, a trait, an implementation,
a module, an import. Items stand in modules and among the statements of a block. Forms that the
grammar admits but nobody uses, such as a function without a body, are kept as they were written.

* `item`: an item after its attributes.
-/

import KeyedRecord.Grammar.Signature

namespace KeyedRecord.Grammar

section

variable (rules : Rules)

/-! ## Imports -/

/-- Reads a tree of names in an import. -/
def importTree : Reader Phrase := do
  if ← peek (startsWithOperator "*") then operator "*"
  else if ← peek (startsWithGroup .brace) then
    grouped .brace (commaListToEnd do
      let root ← operator? "::"
      return root ++ (← rules.importTree))
  else if (← peek startsPathSegment) || (← peek (startsWithWord "try")) then
    let identifier ← anyIdent
    if ← peek startsWithColons then
      let colons ← operator "::"
      return identifier.phrase ++ colons ++ (← rules.importTree)
    else if ← peek (startsWithWord "as") then
      let keyword ← word "as"
      let substitute ← if ← peek (startsWithWord "_") then anyIdent else name
      return identifier.phrase ++ keyword ++ substitute.phrase
    else return identifier.phrase
  else fail

/-- Reads an import. -/
def importItem : Reader Phrase := do
  let keyword ← word "use"
  let root ← operator? "::"
  let tree ← rules.importTree
  return keyword ++ root ++ tree ++ (← operator ";")

/-! ## Data types -/

/-- Reads a field with a name. -/
def namedField : Reader Phrase := do
  let attributes ← attributesPhrase rules
  let visible ← visibility
  let identifier ← if ← peek (startsWithWord "_") then anyIdent else name
  let colon ← operator ":"
  return attributes ++ visible ++ identifier.phrase ++ colon ++ (← rules.type true true).phrase

/-- Reads a field without a name. -/
def placedField : Reader Phrase := do
  let attributes ← attributesPhrase rules
  let visible ← visibility
  return attributes ++ visible ++ (← rules.type true true).phrase

/-- Reads fields in curly brackets. -/
def namedFields : Reader Phrase :=
  grouped .brace (commaListToEnd (namedField rules))

/-- Reads fields in round brackets. -/
def placedFields : Reader Phrase :=
  grouped .parenthesis (commaListToEnd (placedField rules))

/-- Reads a record type from its keyword on. Conditions stand before curly brackets and after
round ones. -/
def recordItem : Reader Phrase := do
  let keyword ← word "struct"
  let identifier ← name
  let (_, generics) ← parameters rules
  let (hasConditions, clause) ← conditions rules
  let head := keyword ++ identifier.phrase ++ generics
  if ← peek (startsWithGroup .brace) then return head ++ clause ++ (← namedFields rules)
  else if !hasConditions && (← peek (startsWithGroup .parenthesis)) then
    let fields ← placedFields rules
    let (_, clause) ← conditions rules
    return head ++ fields ++ clause ++ (← operator ";")
  else return head ++ clause ++ (← operator ";")

/-- Reads one variant of an enumeration. -/
def variant : Reader Phrase := do
  let attributes ← attributesPhrase rules
  let visible ← visibility
  let identifier ← name
  let fields ← if ← peek (startsWithGroup .brace) then namedFields rules
    else if ← peek (startsWithGroup .parenthesis) then placedFields rules
    else pure []
  let value ← optional (startsWithOperator "=") do
    let equals ← operator "="
    return equals ++ (← anyExpr rules)
  return attributes ++ visible ++ identifier.phrase ++ fields ++ value

/-- Reads an enumeration from its keyword on. -/
def enumerationItem : Reader Phrase := do
  let keyword ← word "enum"
  let identifier ← name
  let (_, generics) ← parameters rules
  let (_, clause) ← conditions rules
  let variants ← grouped .brace (commaListToEnd (variant rules))
  return keyword ++ identifier.phrase ++ generics ++ clause ++ variants

/-- Reads a union from its keyword on. -/
def unionItem : Reader Phrase := do
  let keyword ← word "union"
  let identifier ← name
  let (_, generics) ← parameters rules
  let (_, clause) ← conditions rules
  return keyword ++ identifier.phrase ++ generics ++ clause ++ (← namedFields rules)

/-! ## Containers of items -/

/-- Reads the items in the curly brackets of a container, each by the given reader. -/
def itemsInBraces (reader : Reader Phrase) : Reader Phrase :=
  grouped .brace do
    let inner ← innerAttributes rules
    let items ← repeated do
      if ← atEnd then return none else return some (← reader)
    return inner ++ items

/-- Reads an item with its attributes. -/
def attributedItem : Reader Phrase := do
  let start ← ahead
  let attributes ← attributesPhrase rules
  rules.item start attributes

/-- Reads a module from its keyword on. -/
def moduleItem : Reader Phrase := do
  let safety ← word? "unsafe"
  let keyword ← word "mod"
  let identifier ← if ← peek (startsWithWord "try") then anyIdent else name
  if ← peek (startsWithOperator ";") then
    return safety ++ keyword ++ identifier.phrase ++ (← operator ";")
  else
    return safety ++ keyword ++ identifier.phrase ++ (← itemsInBraces rules (attributedItem rules))

/-- Reads a function among the items of a trait or of foreign code, whose body may be missing. -/
def declaredFunction : Reader Phrase := do
  let sig ← signature rules
  if ← peek (startsWithOperator ";") then return sig ++ (← operator ";")
  else return sig ++ (← attributedBlock rules)

/-- Reads an item of a trait. -/
def traitMember : Reader Phrase := do
  let start ← ahead
  let attributes ← attributesPhrase rules
  let visible ← visibility
  let default ← word? "default"
  let plain := visible.isEmpty && default.isEmpty
  let trees ← ahead
  let written ←
    if startsSignature trees then declaredFunction rules
    else if startsWithWord "const" trees then do
      return (← constantItem rules).2
    else if startsWithWord "type" trees then do
      return (← typeAlias rules false true).phrase
    else do
      let path ← plainPath
      let bang ← operator "!"
      let input ← anyGroup
      let mark ← match input with
        | .group .brace _ => operator? ";"
        | _ => operator ";"
      return path.phrase ++ bang ++ [input] ++ mark
  if plain then return attributes ++ written else since start

/-- Reads a trait from its keywords on. -/
def traitItem : Reader Phrase := do
  let safety ← word? "unsafe"
  let automatic ← word? "auto"
  let keyword ← word "trait"
  let identifier ← name
  let (_, generics) ← parameters rules
  let head := safety ++ automatic ++ keyword ++ identifier.phrase ++ generics
  if (← peek (startsWithOperator "=")) then
    let equals ← operator "="
    let bounds ← plusList endsConditions do return (← bound rules false true).phrase
    let (_, clause) ← conditions rules
    return head ++ equals ++ bounds ++ clause ++ (← operator ";")
  let colon ← operator? ":"
  let bounds ← if colon.isEmpty then pure [] else
    plusList (fun phrase => startsWithWord "where" phrase || startsWithGroup .brace phrase)
      do return (← bound rules false true).phrase
  let (_, clause) ← conditions rules
  return head ++ writtenBounds colon bounds ++ clause ++ (← itemsInBraces rules (traitMember rules))

/-- Reads an implementation from its keywords on, and says whether it is in common form: it is not
constant, and its trait, if any, is a path. -/
def implementation : Reader (Bool × Phrase) := do
  let default ← word? "default"
  let safety ← word? "unsafe"
  let keyword ← word "impl"
  let second := (← ahead).drop 1
  let third := (← ahead).drop 2
  let generic := (← peek (startsWithOperator "<")) &&
    (startsWithOperator ">" second || startsWithOperator "#" second ||
      ((startsWithName second || startsWithLifetime second) &&
        (startsWithOperator ":" third || startsWithOperator "," third ||
          startsWithOperator ">" third || startsWithOperator "=" third)) ||
      startsWithWord "const" second)
  let (_, generics) ← if generic then parameters rules else pure (false, [])
  let constant ← word? "const"
  let negative ← operator? "!"
  let first ← rules.type true true
  let target ← optional (startsWithWord "for") do
    let middle ← word "for"
    return middle ++ (← rules.type true true).phrase
  let (_, clause) ← conditions rules
  let members ← itemsInBraces rules do return (← implItem rules).phrase
  return (constant.isEmpty && (target.isEmpty || first.isUnqualifiedPath),
    default ++ safety ++ keyword ++ generics ++ constant ++ negative ++ first.phrase ++
      target ++ clause ++ members)

/-- Reads a static among the items of foreign code. With a value or a word for its safety it is kept
as it was written. -/
def foreignStatic (start head : Phrase) : Reader Phrase := do
  let unsafety ← word? "unsafe"
  let safety ← if unsafety.isEmpty then word? "safe" else pure []
  let keyword ← word "static"
  let mutable ← word? "mut"
  let identifier ← name
  let colon ← operator ":"
  let type ← rules.type true true
  let value ← optional (startsWithOperator "=") do
    let equals ← operator "="
    return equals ++ (← anyExpr rules)
  let mark ← operator ";"
  if unsafety.isEmpty && safety.isEmpty && value.isEmpty then
    return head ++ keyword ++ mutable ++ identifier.phrase ++ colon ++ type.phrase ++ mark
  else since start

/-- Reads a function among the items of foreign code. With a body or called safe it is kept as it
was written. -/
def foreignFunction (start head : Phrase) : Reader Phrase := do
  let safety ← word? "safe"
  let sig ← signature rules
  if ← peek (startsWithGroup .brace) then
    let _ ← attributedBlock rules
    since start
  else
    let mark ← operator ";"
    if safety.isEmpty then return head ++ sig ++ mark else since start

/-- Reads an item of foreign code. -/
def foreignMember : Reader Phrase := do
  let start ← ahead
  let attributes ← attributesPhrase rules
  let visible ← visibility
  let head := attributes ++ visible
  let trees ← ahead
  let second := trees.drop 1
  if startsSignature trees || (startsWithWord "safe" trees && startsSignature second) then
    foreignFunction rules start head
  else if startsWithWord "static" trees ||
      (startsWithAnyWord ["unsafe", "safe"] trees && startsWithWord "static" second) then
    foreignStatic rules start head
  else if startsWithWord "type" trees then
    let declared ← typeAlias rules true true
    if declared.hasType || declared.hasBounds then since start else return head ++ declared.phrase
  else if visible.isEmpty && (startsPathSegment trees || startsWithColons trees) then
    let path ← plainPath
    let bang ← operator "!"
    let input ← anyGroup
    let mark ← match input with
      | .group .brace _ => operator? ";"
      | _ => operator ";"
    return head ++ path.phrase ++ bang ++ [input] ++ mark
  else fail

/-- Reads foreign code, from its keyword on. -/
def foreignItem : Reader Phrase := do
  let safety ← word? "unsafe"
  let convention ← externConvention
  return safety ++ convention ++ (← itemsInBraces rules (foreignMember rules))

/-! ## The rest -/

/-- Reads the link to another library, from its keyword on. -/
def libraryItem : Reader Phrase := do
  let keyword ← word "extern"
  let kind ← word "crate"
  let identifier ← if ← peek (startsWithWord "self") then anyIdent else name
  let localName ← optional (startsWithWord "as") do
    let middle ← word "as"
    let substitute ← if ← peek (startsWithWord "_") then anyIdent else name
    return middle ++ substitute.phrase
  return keyword ++ kind ++ identifier.phrase ++ localName ++ (← operator ";")

/-- Reads a static from its keyword on, and says whether it has a type and a value. -/
def staticItem : Reader (Bool × Phrase) := do
  let keyword ← word "static"
  let mutable ← word? "mut"
  let identifier ← name
  let type ← optional (fun phrase => !startsWithOperator "=" phrase) do
    let colon ← operator ":"
    return colon ++ (← rules.type true true).phrase
  let value ← optional (startsWithOperator "=") do
    let equals ← operator "="
    return equals ++ (← anyExpr rules)
  let mark ← operator ";"
  return (!type.isEmpty && !value.isEmpty,
    keyword ++ mutable ++ identifier.phrase ++ type ++ value ++ mark)

/-- Reads a macro call as an item. A name may stand before its input. -/
def macroItem : Reader Phrase := do
  let path ← plainPath
  let bang ← operator "!"
  let label ← if (← peek startsWithName) || (← peek (startsWithWord "try")) then
    pure (← anyIdent).phrase
  else pure []
  let input ← anyGroup
  let mark ← match input with
    | .group .brace _ => pure []
    | _ => operator ";"
  return path.phrase ++ bang ++ label ++ [input] ++ mark

/-- Passes over the definition of a macro, from its keyword on. -/
def macroDefinition : Reader Unit := do
  let _ ← word "macro"
  let _ ← name
  if ← peek (startsWithGroup .parenthesis) then
    let _ ← anyGroup
  if ← peek (startsWithGroup .brace) then
    let _ ← anyGroup
  else fail

/-- Reads an item after its attributes, which began at the given place. -/
def item (start attributes : Phrase) : Reader Phrase := do
  let visible ← visibility
  let head := attributes ++ visible
  let trees ← ahead
  let second := trees.drop 1
  if startsSignature trees then
    let sig ← signature rules
    if ← peek (startsWithOperator ";") then
      let _ ← operator ";"
      since start
    else return head ++ sig ++ (← attributedBlock rules)
  else if startsWithWord "extern" trees then
    if startsWithWord "crate" second then return head ++ (← libraryItem)
    else return head ++ (← foreignItem rules)
  else if startsWithWord "use" trees then return head ++ (← importItem rules)
  else if startsWithWord "static" trees then
    let (complete, phrase) ← staticItem rules
    if complete then return head ++ phrase else since start
  else if startsWithWord "const" trees then
    let (complete, phrase) ← constantItem rules
    if complete then return head ++ phrase else since start
  else if startsWithWord "unsafe" trees then
    if startsWithWord "trait" second ||
        (startsWithWord "auto" second && startsWithWord "trait" (trees.drop 2)) then
      return head ++ (← traitItem rules)
    else if startsWithWord "impl" second then
      let (common, phrase) ← implementation rules
      if common && visible.isEmpty then return attributes ++ phrase else since start
    else if startsWithWord "extern" second then return head ++ (← foreignItem rules)
    else return head ++ (← moduleItem rules)
  else if startsWithWord "mod" trees then return head ++ (← moduleItem rules)
  else if startsWithWord "type" trees then
    let declared ← typeAlias rules true false
    if declared.hasType && !declared.hasBounds then return head ++ declared.phrase else since start
  else if startsWithWord "struct" trees then return head ++ (← recordItem rules)
  else if startsWithWord "enum" trees then return head ++ (← enumerationItem rules)
  else if startsWithWord "union" trees && startsWithName second then
    return head ++ (← unionItem rules)
  else if startsWithWord "trait" trees ||
      (startsWithWord "auto" trees && startsWithWord "trait" second) then
    return head ++ (← traitItem rules)
  else if startsWithWord "impl" trees ||
      (startsWithWord "default" trees && !startsWithOperator "!" second) then
    let (common, phrase) ← implementation rules
    if common && visible.isEmpty then return attributes ++ phrase else since start
  else if startsWithWord "macro" trees then
    macroDefinition
    since start
  else if visible.isEmpty && (startsPathSegment trees || startsWithColons trees) then
    return head ++ (← macroItem)
  else fail

end

end KeyedRecord.Grammar
