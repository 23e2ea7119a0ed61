/-
**Pascal case.**

A name is cut into words at its underscores and where its letters change kind: between a small
letter and a capital, between letters and digits, and before the last of several capitals when a
small letter follows (`HTTPServer` is `HTTP` and `Server`). Each word then gets a capital first
letter and small letters after it, and the words are joined (`pascalCase`).

Kinds are those of graphemes: a letter and the marks on it are of one kind.
-/

import KeyedRecord.Text.LetterCase
import KeyedRecord.Text.Property.GraphemeExtend
import KeyedRecord.Text.Property.SpacingMark

namespace KeyedRecord.Text

/-- Whether the second of two neighbouring characters belongs to the grapheme of the first. -/
def joinsGrapheme (first second : Char) : Bool :=
  0x80 ≤ second.toNat &&
      (graphemeExtendRanges.contains second || spacingMarkRanges.contains second) ||
    0x80 ≤ first.toNat && prependRanges.contains first

/-- The text cut into letters with their marks. -/
def graphemes : List Char → List (List Char)
  | [] => []
  | c :: rest =>
    match rest, graphemes rest with
    | next :: _, cluster :: clusters =>
      if joinsGrapheme c next then (c :: cluster) :: clusters else [c] :: cluster :: clusters
    | _, _ => [[c]]

/-- A capital: its own upper case, with another lower case. -/
def isUpper (grapheme : List Char) : Bool :=
  upperText grapheme == grapheme && lowerText grapheme != grapheme

/-- A small letter: its own lower case, with another upper case. -/
def isLower (grapheme : List Char) : Bool :=
  lowerText grapheme == grapheme && upperText grapheme != grapheme

/-- A decimal digit of ASCII. -/
def isDigits (grapheme : List Char) : Bool :=
  grapheme.all Char.isDigit

/-- Whether a word ends after the grapheme that stands before `rest`. -/
def endsWord (grapheme : List Char) (rest : List (List Char)) : Bool :=
  match rest with
  | [] => false
  | next :: more =>
    isLower grapheme && (isUpper next || isDigits next) ||
      isUpper grapheme && isDigits next ||
      isDigits grapheme && (isLower next || isUpper next) ||
      isUpper grapheme && isUpper next && more.head?.any isLower

/-- The pieces between the cuts, in order; a piece may be empty. -/
def wordPieces : List (List Char) → List (List Char)
  | [] => [[]]
  | grapheme :: rest =>
    match wordPieces rest with
    | [] => [grapheme]
    | piece :: pieces =>
      if grapheme == ['_'] then [] :: piece :: pieces
      else if endsWord grapheme rest then grapheme :: piece :: pieces
      else (grapheme ++ piece) :: pieces

/-- The words of a name. -/
def caseWords (name : List Char) : List (List Char) :=
  (wordPieces (graphemes name)).filter fun word => !word.isEmpty

/-- A word with a capital first letter and small letters after it. -/
def capitalized : List Char → List Char
  | [] => []
  | first :: rest => upper first ++ lowerText rest

/-- The name in Pascal case. -/
def pascalCase (name : String) : String :=
  String.ofList ((caseWords name.toList).flatMap capitalized)

end KeyedRecord.Text
