/-
**Upper and lower case of texts.**

Case maps a character to one or more characters (`upper`, `lower`). The lower case of a text is
that of its characters, but for one rule: a capital sigma that ends a word becomes the final sigma
(`lowerText`).
-/

import KeyedRecord.Text.Property.Cased
import KeyedRecord.Text.Property.Lowercase
import KeyedRecord.Text.Property.Uppercase

namespace KeyedRecord.Text

/-- The case map given by runs and by expansions; a character that neither holds maps to itself. -/
def mapCase (runs : List CaseRun) (expansions : List (Nat × List Nat)) (c : Char) : List Char :=
  match expansions.find? fun entry => entry.1 == c.toNat with
  | some entry => entry.2.map Char.ofNat
  | none => [(runs.findSome? fun run => run.map? c).getD c]

/-- The upper case of a character. -/
def upper (c : Char) : List Char :=
  if c.toNat < 0x80 then [c.toUpper] else mapCase uppercaseRuns uppercaseExpansions c

/-- The lower case of a character that stands alone. -/
def lower (c : Char) : List Char :=
  if c.toNat < 0x80 then [c.toLower] else mapCase lowercaseRuns lowercaseExpansions c

/-- Whether the first character that case does not ignore has a case. -/
def meetsCased (text : List Char) : Bool :=
  match text.dropWhile caseIgnorableRanges.contains with
  | [] => false
  | c :: _ => casedRanges.contains c

/-- The lower case of a text that follows the characters `before`, nearest first. -/
def lowerAfter (before : List Char) : List Char → List Char
  | [] => []
  | c :: rest =>
    let image :=
      if c == 'Σ' then
        if meetsCased before && !meetsCased rest then ['ς'] else ['σ']
      else
        lower c
    image ++ lowerAfter (c :: before) rest

/-- The lower case of a text. -/
def lowerText (text : List Char) : List Char :=
  lowerAfter [] text

/-- The upper case of a text. -/
def upperText (text : List Char) : List Char :=
  text.flatMap upper

end KeyedRecord.Text
