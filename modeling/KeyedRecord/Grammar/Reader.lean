/-
**Readers of phrases.**

A reader takes trees from the front of a phrase and gives what it has read, written in the normal
form of the grammar. A group is read by a reader of its own (`within`). Trees that such a reader
leaves over spoil the whole reading, but only once the rest has been read: `Cursor.leftover`
keeps the fact until then.

Operators are matched character by character, so `>` matches the first half of `>>`. A captured
identifier matches like any other, except where a reader asks for captures.

* `Reader.complete`: reads a whole phrase.
* `separated`, `commaList`: lists with separators, trailing ones kept.
-/

import KeyedRecord.Token.Basic
import KeyedRecord.Token.Literal

namespace KeyedRecord.Grammar

/-- Why a phrase cannot be read. -/
inductive GrammarError
  | malformed
deriving DecidableEq, Repr

/-- What is still to be read, and whether some group was left before its end. -/
structure Cursor where
  trees : Phrase
  leftover : Bool

/-- A reader of phrases. -/
abbrev Reader (α : Type) := StateT Cursor (Except GrammarError) α

/-! ## Looking at the front of a phrase -/

/-- Whether the phrase opens with the characters of an operator, joint but for the last. -/
def startsWithChars : List Char → Phrase → Bool
  | [], _ => true
  | [c], .punct d _ :: _ => c == d
  | c :: more, .punct d .joint :: rest => c == d && startsWithChars more rest
  | _, _ => false

/-- Whether the phrase opens with the operator. -/
def startsWithOperator (operator : String) (phrase : Phrase) : Bool :=
  startsWithChars operator.toList phrase

/-- Whether the phrase opens with the word. -/
def startsWithWord (word : String) : Phrase → Bool
  | .ident identifier _ :: _ => !identifier.raw && identifier.name == word
  | _ => false

/-- Whether the phrase opens with one of the words. -/
def startsWithAnyWord (words : List String) (phrase : Phrase) : Bool :=
  words.any fun word => startsWithWord word phrase

/-- Whether the phrase opens with an identifier that can name something. -/
def startsWithName : Phrase → Bool
  | .ident identifier _ :: _ => identifier.isName
  | _ => false

/-- Whether the phrase opens with an identifier, reserved or not. -/
def startsWithIdent : Phrase → Bool
  | .ident _ _ :: _ => true
  | _ => false

/-- Whether the phrase opens with a captured identifier. -/
def startsWithCapture : Phrase → Bool
  | .ident _ captured :: _ => captured
  | _ => false

/-- Whether the phrase opens with a lifetime. -/
def startsWithLifetime : Phrase → Bool
  | .lifetime _ :: _ => true
  | _ => false

/-- Whether the phrase opens with a group of the delimiter. -/
def startsWithGroup (delimiter : Delimiter) : Phrase → Bool
  | .group opening _ :: _ => opening == delimiter
  | _ => false

/-- The literal at the front of the phrase and what follows it. A minus may stand before a number,
and `true` and `false` are literals. -/
def takeLiteral? : Phrase → Option (Phrase × Phrase)
  | .literal text :: rest => some ([.literal text], rest)
  | .punct '-' _ :: .literal text :: rest =>
    if text.toList.head?.any Char.isDigit then
      some ([.punct '-' .alone, .literal text], rest)
    else none
  | .ident identifier _ :: rest =>
    if !identifier.raw && (identifier.name == "true" || identifier.name == "false") then
      some (identifier.phrase, rest)
    else none
  | _ => none

/-- Whether the phrase opens with a literal. -/
def startsWithLiteral (phrase : Phrase) : Bool :=
  (takeLiteral? phrase).isSome

/-- Whether the phrase opens with a text literal. -/
def startsWithText : Phrase → Bool
  | .literal text :: _ => (Literal.content? text).isSome
  | _ => false

/-- Whether a path can go on with a double colon. -/
def startsWithColons (phrase : Phrase) : Bool :=
  startsWithOperator "::" phrase

/-! ## Readers -/

/-- Gives up. -/
def fail {α : Type} : Reader α :=
  throw .malformed

/-- What is still to be read. -/
def ahead : Reader Phrase :=
  return (← get).trees

/-- Goes on from another place. -/
def moveTo (trees : Phrase) : Reader Unit :=
  modify fun cursor => { cursor with trees }

/-- Whether nothing is left. -/
def atEnd : Reader Bool :=
  return (← ahead).isEmpty

/-- A test of what is still to be read. -/
def peek (test : Phrase → Bool) : Reader Bool :=
  return test (← ahead)

/-- A test of what follows the next tree. -/
def peekSecond (test : Phrase → Bool) : Reader Bool :=
  return test ((← ahead).drop 1)

/-- Reads an operator. -/
def operator (text : String) : Reader Phrase := do
  let trees ← ahead
  if startsWithOperator text trees then
    moveTo (trees.drop text.length)
    return Phrase.ofOperator text.toList
  else fail

/-- Reads a word. -/
def word (text : String) : Reader Phrase := do
  let trees ← ahead
  if startsWithWord text trees then
    moveTo (trees.drop 1)
    return (Ident.plain text).phrase
  else fail

/-- Reads an identifier, reserved or not. -/
def anyIdent : Reader Ident := do
  match ← ahead with
  | .ident identifier _ :: rest =>
    moveTo rest
    return identifier
  | _ => fail

/-- Reads an identifier that can name something. -/
def name : Reader Ident := do
  if ← peek startsWithName then anyIdent else fail

/-- Reads a lifetime. -/
def lifetime : Reader Phrase := do
  match ← ahead with
  | .lifetime identifier :: rest =>
    moveTo rest
    return [.lifetime identifier]
  | _ => fail

/-- Reads a literal. -/
def literal : Reader Phrase := do
  match takeLiteral? (← ahead) with
  | some (phrase, rest) =>
    moveTo rest
    return phrase
  | none => fail

/-- Reads an operator that need not be there. -/
def operator? (text : String) : Reader Phrase := do
  if ← peek (startsWithOperator text) then operator text else return []

/-- Reads a word that need not be there. -/
def word? (text : String) : Reader Phrase := do
  if ← peek (startsWithWord text) then word text else return []

/-- Reads a phrase that need not be there, by the test that it is. -/
def optional (test : Phrase → Bool) (reader : Reader Phrase) : Reader Phrase := do
  if ← peek test then reader else return []

/-- Runs a reader on trees of its own. What it leaves over is noted. -/
def on {α : Type} (trees : Phrase) (reader : Reader α) : Reader α := do
  let outside ← get
  set { outside with trees }
  let result ← reader
  let inside ← get
  set { trees := outside.trees, leftover := inside.leftover || !inside.trees.isEmpty : Cursor }
  return result

/-- Reads a group of the delimiter by a reader of its content. -/
def within {α : Type} (delimiter : Delimiter) (reader : Reader α) : Reader α := do
  match ← ahead with
  | .group opening content :: rest =>
    if opening == delimiter then
      moveTo rest
      on content reader
    else fail
  | _ => fail

/-- Reads a phrase in the delimiters. -/
def grouped (delimiter : Delimiter) (reader : Reader Phrase) : Reader Phrase := do
  return [.group delimiter (← within delimiter reader)]

/-- Reads a group of any delimiter as it stands. -/
def anyGroup : Reader TokenTree := do
  match ← ahead with
  | .group delimiter content :: rest =>
    moveTo rest
    return .group delimiter content
  | _ => fail

/-- The result of a reader that is tried without moving. -/
def attempt {α : Type} (reader : Reader α) : Reader (Option (α × Cursor)) := do
  match reader.run (← get) with
  | .ok result => return some result
  | .error _ => return none

/-- The trees read since the given place, as they stand in the source. -/
def since (start : Phrase) : Reader Phrase := do
  return start.take (start.length - (← ahead).length)

/-! ## Repetition -/

/-- Repeats a step until it has nothing to add. The first argument bounds the number of steps. -/
def repeatAtMost (step : Reader (Option Phrase)) : Nat → Reader Phrase
  | 0 => fail
  | steps + 1 => do
    match ← step with
    | none => return []
    | some phrase => return phrase ++ (← repeatAtMost step steps)

/-- Repeats a step that takes a tree whenever it adds something. -/
def repeated (step : Reader (Option Phrase)) : Reader Phrase := do
  repeatAtMost step ((← ahead).length + 1)

/-- One element of a list, and the separator after it, if any. -/
structure Element (α : Type) where
  item : α
  separator : Phrase

/-- Reads elements until the first test holds where one could begin, or the second one fails where
one has ended. The last argument bounds the number of elements. -/
def elementsAtMost {α : Type} (stop : Phrase → Bool) (goesOn : Phrase → Bool)
    (readSeparator : Reader Phrase) (item : Reader α) : Nat → Reader (List (Element α))
  | 0 => fail
  | steps + 1 => do
    if ← peek stop then return []
    let first ← item
    if ← peek goesOn then
      let mark ← readSeparator
      return ⟨first, mark⟩ :: (← elementsAtMost stop goesOn readSeparator item steps)
    else return [⟨first, []⟩]

/-- Elements with commas between them, up to the test. After an element comes a comma or the
end. -/
def commaElements {α : Type} (stop : Phrase → Bool) (item : Reader α) :
    Reader (List (Element α)) := do
  elementsAtMost stop (fun phrase => !stop phrase) (operator ",") item ((← ahead).length + 1)

/-- The elements of a list as one phrase. -/
def Element.phrases (elements : List (Element Phrase)) : Phrase :=
  elements.flatMap fun element => element.item ++ element.separator

/-- Phrases with commas between them, up to the test. -/
def commaList (stop : Phrase → Bool) (item : Reader Phrase) : Reader Phrase := do
  return Element.phrases (← commaElements stop item)

/-- Phrases with commas between them, up to the end. -/
def commaListToEnd (item : Reader Phrase) : Reader Phrase :=
  commaList List.isEmpty item

/-- Phrases joined by plus signs, up to the test. A trailing plus is kept. -/
def plusList (stop : Phrase → Bool) (item : Reader Phrase) : Reader Phrase := do
  return Element.phrases (← elementsAtMost stop (startsWithOperator "+") (operator "+") item
    ((← ahead).length + 1))

/-- Elements in writing order, lifetimes first. A comma comes in where the order asks for one. -/
def lifetimesFirst (elements : List (Element (Bool × Phrase))) : Phrase :=
  let lifetimes := elements.filter fun element => element.item.1
  let others := elements.filter fun element => !element.item.1
  let write (needed : Phrase × Bool) (element : Element (Bool × Phrase)) : Phrase × Bool :=
    (needed.1 ++ (if needed.2 then [.punct ',' .alone] else []) ++ element.item.2 ++
      element.separator, element.separator.isEmpty)
  let leading := lifetimes.foldl (fun written element =>
    (written.1 ++ element.item.2 ++ element.separator, element.separator.isEmpty)) ([], false)
  (others.foldl write leading).1

/-- Reads the whole phrase. -/
def Reader.complete {α : Type} (reader : Reader α) (phrase : Phrase) : Except GrammarError α :=
  match reader.run ⟨phrase, false⟩ with
  | .ok (result, cursor) =>
    if cursor.trees.isEmpty && !cursor.leftover then .ok result else .error .malformed
  | .error error => .error error

end KeyedRecord.Grammar
