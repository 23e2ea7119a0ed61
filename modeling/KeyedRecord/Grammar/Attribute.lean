/-
**Attributes and visibility.**

An attribute is a path with nothing, a group or a value after it. What stands in the group is kept
as it was written; a value is an expression.
-/

import KeyedRecord.Grammar.Path

namespace KeyedRecord.Grammar

section

variable (rules : Rules)

/-- Reads the path of an attribute. One reserved word may stand for it. -/
def attributePath : Reader Path := do
  if ← peek (startsWithWord "unsafe") then
    return Path.ofIdent (← anyIdent)
  else plainPath

/-- Reads the value of an attribute, which has no attributes itself. -/
def attributeValue : Reader Phrase := do
  match ← attempt literal with
  | some (phrase, cursor) =>
    if cursor.trees.isEmpty then
      set cursor
      return phrase
  | none => pure ()
  if ← peek (startsWithOperator "#") then fail
  return (← rules.expr true).phrase

/-- Reads what stands in the square brackets of an attribute. -/
def attributeContent : Reader Attribute := do
  let path ← attributePath
  match ← ahead with
  | .group delimiter content :: rest =>
    moveTo rest
    return ⟨path, .list delimiter content⟩
  | _ =>
    if ← peek (startsWithOperator "=") then
      let _ ← operator "="
      return ⟨path, .value (← attributeValue rules)⟩
    else return ⟨path, .none⟩

/-- Reads the attributes on what follows. The argument bounds their number. -/
def attributesAtMost : Nat → Reader (List Attribute)
  | 0 => fail
  | steps + 1 => do
    if ← peek (startsWithOperator "#") then
      let _ ← operator "#"
      let attr ← within .bracket (attributeContent rules)
      return attr :: (← attributesAtMost steps)
    else return []

/-- Reads the attributes on what follows. -/
def attributes : Reader (List Attribute) := do
  attributesAtMost rules ((← ahead).length + 1)

/-- Reads the attributes on what follows, as a phrase. -/
def attributesPhrase : Reader Phrase := do
  return (← attributes rules).flatMap Attribute.phrase

/-- Reads the attributes on what holds them, as a phrase. -/
def innerAttributes : Reader Phrase := do
  repeated do
    if (← peek (startsWithOperator "#")) && (← peekSecond (startsWithOperator "!")) then
      let _ ← operator "#"
      let _ ← operator "!"
      return some (← within .bracket (attributeContent rules)).innerPhrase
    else return none

end

/-- Reads a visibility. A group after `pub` belongs to it if it limits it to a module. -/
def visibility : Reader Phrase := do
  if ← peek (startsWithWord "pub") then
    let keyword ← word "pub"
    match ← ahead with
    | .group .parenthesis content :: rest =>
      if startsWithAnyWord ["crate", "self", "super"] content then
        if content.length == 1 then
          moveTo rest
          return keyword ++ Phrase.parenthesized content
        else return keyword
      else if startsWithWord "in" content then
        moveTo rest
        let limit ← on content do
          let opening ← word "in"
          return opening ++ (← plainPath).phrase
        return keyword ++ Phrase.parenthesized limit
      else return keyword
    | _ => return keyword
  else return []

end KeyedRecord.Grammar
