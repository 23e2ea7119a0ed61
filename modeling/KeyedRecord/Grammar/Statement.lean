/-
**Statements.**

A block is a sequence of bindings, items, macro calls and expressions. An expression that is no
block needs a semicolon when another statement follows. Semicolons that stand alone are kept.
-/

import KeyedRecord.Grammar.Item

namespace KeyedRecord.Grammar

/-- A statement, and whether a semicolon had to come before another one. -/
structure Statement where
  phrase : Phrase
  needsSemicolon : Bool

section

variable (rules : Rules)

/-- Reads a binding from its keyword on, after its attributes. -/
def binding : Reader Phrase := do
  let keyword ← word "let"
  let pattern ← rules.pattern
  let type ← optional (startsWithOperator ":") do
    let colon ← operator ":"
    return colon ++ (← rules.type true true).phrase
  let value ← optional (startsWithOperator "=") do
    let equals ← operator "="
    let expr ← rules.expr true
    let otherwise ← if !expr.endsWithBrace && (← peek (startsWithWord "else")) then do
        let other ← word "else"
        pure (other ++ (← block rules))
      else pure []
    return equals ++ expr.phrase ++ otherwise
  return keyword ++ pattern.phrase ++ type ++ value ++ (← operator ";")

/-- Whether an item follows rather than an expression. -/
def startsItem (trees : Phrase) : Bool :=
  let second := trees.drop 1
  let third := trees.drop 2
  startsWithAnyWord ["pub", "extern", "use", "mod", "type", "struct", "enum", "trait", "impl",
      "fn", "macro"] trees ||
    (startsWithWord "crate" trees && !startsWithColons second) ||
    (startsWithWord "static" trees &&
      (startsWithWord "mut" second ||
        (startsWithName second && !(startsWithWord "async" second &&
          (startsWithWord "move" third || startsWithOperator "|" third))))) ||
    (startsWithWord "const" trees &&
      !(startsWithGroup .brace second || startsWithWord "static" second ||
        (startsWithWord "async" second &&
          !startsWithAnyWord ["unsafe", "extern", "fn"] third) ||
        startsWithWord "move" second || startsWithOperator "|" second)) ||
    (startsWithWord "unsafe" trees && !startsWithGroup .brace second) ||
    (startsWithWord "union" trees && startsWithName second) ||
    (startsWithWord "auto" trees && startsWithWord "trait" second) ||
    (startsWithWord "default" trees && startsWithAnyWord ["unsafe", "impl"] second) ||
    (startsWithWord "async" trees && startsWithAnyWord ["unsafe", "extern", "fn"] second)

/-- The place after the path of a macro call that stands as a statement or item of its own: the
path, what follows it, and whether a name follows the sign. -/
def macroCall? (cursor : Cursor) : Option (Path × Cursor × Bool) :=
  match plainPath.run cursor with
  | .ok (path, after) =>
    let trees := after.trees
    let second := trees.drop 1
    let third := trees.drop 2
    if startsWithOperator "!" trees then
      if startsWithName second || startsWithWord "try" second then some (path, after, true)
      else if startsWithGroup .brace second &&
          !((startsWithOperator "." third && !startsWithOperator ".." third) ||
            startsWithOperator "?" third) then
        some (path, after, false)
      else none
    else none
  | .error _ => none

/-- Reads a statement. -/
def statement : Reader Statement := do
  let start ← ahead
  let attributes ← attributesPhrase rules
  let call := macroCall? (← get)
  if let some (path, after, false) := call then
    set after
    let bang ← operator "!"
    let input ← anyGroup
    let mark ← operator? ";"
    return ⟨attributes ++ path.phrase ++ bang ++ [input] ++ mark, false⟩
  let trees ← ahead
  if startsWithWord "let" trees && !startsWithCapture trees then
    return ⟨attributes ++ (← binding rules), false⟩
  else if startsItem trees || call.isSome then
    return ⟨← rules.item start attributes, false⟩
  else
    let expr ← rules.statementExpr
    let mark ← operator? ";"
    return ⟨attributes ++ expr.phrase ++ mark, mark.isEmpty && expr.needsSemicolon⟩

/-- Reads statements to the end. The argument bounds their number. -/
def statementsAtMost : Nat → Reader Phrase
  | 0 => fail
  | steps + 1 => do
    if ← peek (startsWithOperator ";") then
      let mark ← operator ";"
      return mark ++ (← statementsAtMost steps)
    if ← atEnd then return []
    let first ← statement rules
    if ← atEnd then return first.phrase
    if first.needsSemicolon then fail
    return first.phrase ++ (← statementsAtMost steps)

/-- Reads the statements of a block. -/
def statements : Reader Phrase := do
  statementsAtMost rules ((← ahead).length + 1)

end

end KeyedRecord.Grammar
