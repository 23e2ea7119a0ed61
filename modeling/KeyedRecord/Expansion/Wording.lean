/-
**The wording of an expansion.**

Each part of an expansion as a phrase. Fixed words are written as in a template, with one space
between two words.

* `Expansion.phrase`: the whole expansion.
-/

import KeyedRecord.Expansion.Basic
import KeyedRecord.Text.Quoted

namespace KeyedRecord

/-- The phrase of words with one space between them. -/
def Phrase.template (words : String) : Phrase :=
  Phrase.ofWords (words.splitOn " ")

/-- A text literal. -/
def Phrase.ofText (text : String) : Phrase :=
  [.literal (Text.quoteSource text)]

/-- An attribute with arguments. -/
def Phrase.attributed (name : String) (arguments : Phrase) : Phrase :=
  Phrase.template "#" ++ Phrase.bracketed (Phrase.template name ++ Phrase.parenthesized arguments)

/-- Words at the root of all names. -/
def Phrase.rooted (words : String) : Phrase :=
  Phrase.template (":: codable :: " ++ words)

/-- The result type of the two sides of a document. -/
def Phrase.resultOf (value : Phrase) (error : String) : Phrase :=
  Phrase.template "-> :: std :: result :: Result <" ++ value ++ Phrase.template "," ++
    Phrase.rooted error ++ Phrase.template ">"

/-- The mark that unused names are allowed. -/
def Phrase.allowUnused : Phrase :=
  Phrase.attributed "allow" (Phrase.template "unused_variables")

/-- A field of a structure. -/
def Field.phrase (field : Field) : Phrase :=
  field.attributes.flatMap Grammar.Attribute.phrase ++ field.visibility ++ field.name.phrase ++
    Phrase.template ":" ++ field.type

/-- A structure. -/
def Structure.phrase (declaration : Structure) : Phrase :=
  declaration.attributes.flatMap Grammar.Attribute.phrase ++ declaration.visibility ++
    Phrase.template "struct" ++ declaration.name.phrase ++
    Phrase.braced (Phrase.commaSeparated (declaration.fields.map Field.phrase))

/-- A getter. -/
def Getter.phrase (getter : Getter) : Phrase :=
  getter.attributes.flatMap Grammar.Attribute.phrase ++ getter.visibility ++
    Phrase.template "fn" ++ getter.name.phrase ++
    Phrase.parenthesized (Phrase.template "& self") ++ Phrase.template "->" ++ getter.type ++
    Phrase.braced getter.body

/-- A setter: between its observers it keeps the old value and puts the new one in its place. -/
def Setter.phrase (setter : Setter) : Phrase :=
  Phrase.allowUnused ++ setter.visibility ++ Phrase.template "fn" ++ setter.name.phrase ++
    Phrase.parenthesized (Phrase.template "& mut self , new_value :" ++ setter.type) ++
    Phrase.braced
      (setter.observers.willSet.getD [] ++
        Phrase.template "let old_value = :: core :: mem :: replace" ++
        Phrase.parenthesized
          (Phrase.template "& mut self ." ++ setter.member.phrase ++
            Phrase.template ", new_value") ++
        Phrase.template ";" ++ setter.observers.didSet.getD [])

/-- An item of a record's own implementation. -/
def InherentItem.phrase : InherentItem → Phrase
  | .getter function => function.phrase
  | .setter function => function.phrase
  | .declared item => item.phrase

/-- A record's own implementation, which is left out if it holds nothing. -/
def inherentPhrase (record : Ident) (items : List InherentItem) : Phrase :=
  if items.isEmpty then []
  else
    Phrase.template "impl" ++ record.phrase ++ Phrase.braced (items.flatMap InherentItem.phrase)

/-- The name of a variant, as the identifier that it is. -/
def variantPhrase (variant : String) : Phrase :=
  (Ident.plain variant).phrase

section

-- The wording up to the names of variants, which are written by a function of their own.
variable (write : String → Phrase)

/-- A variant of the enumeration that is being implemented. -/
def ownVariantPhrase (variant : String) : Phrase :=
  Phrase.template "Self ::" ++ write variant

/-- A variant of the named enumeration. -/
def variantOf (enumeration : Ident) (variant : String) : Phrase :=
  enumeration.phrase ++ Phrase.template "::" ++ write variant

/-- An enumeration of keys. -/
def KeyEnumeration.phrase (keys : KeyEnumeration) : Phrase :=
  let names := keys.variants.map KeyVariant.name
  Phrase.attributed "derive" (Phrase.template "Clone , Copy , Debug , PartialEq , Eq , Hash") ++
    keys.visibility ++ Phrase.template "enum" ++ keys.name.phrase ++
    Phrase.braced (Phrase.commaSeparated (names.map write)) ++
    Phrase.template "impl" ++ Phrase.rooted "CodingKey for" ++ keys.name.phrase ++
    Phrase.braced
      (Phrase.template "const ALL : & 'static" ++ Phrase.bracketed (Phrase.template "Self") ++
        Phrase.template "= &" ++
        Phrase.bracketed (Phrase.commaSeparated (names.map (ownVariantPhrase write))) ++
        Phrase.template "; fn string_value" ++
        Phrase.parenthesized (Phrase.template "& self") ++
        Phrase.template "-> & 'static str" ++
        Phrase.braced
          (Phrase.template "match self" ++
            Phrase.braced
              (keys.variants.flatMap fun variant =>
                ownVariantPhrase write variant.name ++ Phrase.template "=>" ++
                  Phrase.ofText variant.key ++ Phrase.template ",")))

/-- A step that writes a member. -/
def WriteStep.phrase (keys : Ident) (step : WriteStep) : Phrase :=
  let value :=
    match step.source with
    | .getter => Phrase.template "self ." ++ step.member.phrase ++ Phrase.parenthesized []
    | .field =>
      Phrase.template ":: core :: clone :: Clone :: clone" ++
        Phrase.parenthesized (Phrase.template "& self ." ++ step.member.phrase)
  Phrase.template "values . encode" ++
    Phrase.parenthesized (value ++ Phrase.template "," ++ variantOf write keys step.variant) ++
    Phrase.template "? ;"

/-- The code that writes a record. -/
def writingPhrase (record keys : Ident) (steps : List WriteStep) : Phrase :=
  Phrase.template "impl" ++ Phrase.rooted "Encodable for" ++ record.phrase ++
    Phrase.braced
      (Phrase.template "fn encode" ++
        Phrase.parenthesized
          (Phrase.template "& self , encoder : & mut" ++ Phrase.rooted "Encoder") ++
        Phrase.resultOf (Phrase.parenthesized []) "EncodeError" ++
        Phrase.braced
          (Phrase.template "let mut values = encoder . container :: <" ++ keys.phrase ++
            Phrase.template ">" ++ Phrase.parenthesized [] ++ Phrase.template ";" ++
            steps.flatMap (WriteStep.phrase write keys) ++
            Phrase.template "Ok" ++ Phrase.parenthesized (Phrase.parenthesized [])))

/-- A step that reads a member. -/
def ReadStep.phrase (keys : Ident) (step : ReadStep) : Phrase :=
  Phrase.template "let" ++ step.member.phrase ++ Phrase.template "= values . decode" ++
    (match step.type with
      | some type => Phrase.template ":: <" ++ type.phrase ++ Phrase.template ">"
      | none => []) ++
    Phrase.parenthesized (variantOf write keys step.variant) ++ Phrase.template "? ;"

/-- A field that is filled. -/
def FilledField.phrase (field : FilledField) : Phrase :=
  match field.source with
  | .bound => field.name.phrase
  | .initial value => field.name.phrase ++ Phrase.template ":" ++ value
  | .typeDefault => field.name.phrase ++ Phrase.template ":" ++ defaultValue

/-- The code that reads a record. -/
def Reading.phrase (record keys : Ident) (reading : Reading) : Phrase :=
  Phrase.template "impl" ++ Phrase.rooted "Decodable for" ++ record.phrase ++
    Phrase.braced
      ((if reading.isTyped then Phrase.allowUnused else []) ++
        Phrase.template "fn decode" ++
        Phrase.parenthesized
          (Phrase.template "decoder : &" ++ Phrase.rooted "Decoder < '_ >") ++
        Phrase.resultOf (Phrase.template "Self") "DecodeError" ++
        Phrase.braced
          (Phrase.template "let values = decoder . container :: <" ++ keys.phrase ++
            Phrase.template ">" ++ Phrase.parenthesized [] ++ Phrase.template "? ;" ++
            reading.steps.flatMap (ReadStep.phrase write keys) ++
            Phrase.template "Ok" ++
            Phrase.parenthesized
              (Phrase.template "Self" ++
                Phrase.braced
                  (Phrase.commaSeparated (reading.fields.map FilledField.phrase)))))

/-- The code for the documents of a record. -/
def Conformance.phrase (conformance : Conformance) : Phrase :=
  conformance.keys.phrase write ++
    Phrase.template "impl" ++ Phrase.rooted "Codable for" ++ conformance.record.phrase ++
    Phrase.braced
      (Phrase.template "type CodingKeys =" ++ conformance.keys.name.phrase ++
        Phrase.template ";") ++
    writingPhrase write conformance.record conformance.keys.name conformance.writes ++
    conformance.reading.phrase write conformance.record conformance.keys.name

/-- What a record gets for its documents. -/
def DocumentCode.phrase : DocumentCode → Phrase
  | .nothing => []
  | .conflict cause =>
    Phrase.template ":: core :: compile_error !" ++
      Phrase.braced (Phrase.ofText cause.message)
  | .conformance code => code.phrase write

end

/-- A warning, as the use of a constant that is deprecated with the words of the warning. -/
def Warning.phrase (warning : Warning) : Phrase :=
  let marker := (Ident.plain ("codable_block_" ++ warning.id)).phrase
  Phrase.template "const _ :" ++ Phrase.parenthesized [] ++ Phrase.template "=" ++
    Phrase.braced
      (Phrase.attributed "deprecated"
          (Phrase.template "note =" ++ Phrase.ofText warning.message) ++
        Phrase.attributed "allow" (Phrase.template "non_upper_case_globals") ++
        Phrase.template "const" ++ marker ++ Phrase.template ":" ++ Phrase.parenthesized [] ++
        Phrase.template "=" ++ Phrase.parenthesized [] ++ Phrase.template "; let _ =" ++ marker ++
        Phrase.template ";") ++
    Phrase.template ";"

/-- The whole expansion, with the names of variants written in a given way. -/
def Expansion.phraseBy (write : String → Phrase) (expansion : Expansion) : Phrase :=
  expansion.declaration.phrase ++
    inherentPhrase expansion.declaration.name expansion.inherentItems ++
    expansion.documentCode.phrase write ++ expansion.warnings.flatMap Warning.phrase

/-- The whole expansion. -/
def Expansion.phrase (expansion : Expansion) : Phrase :=
  expansion.phraseBy variantPhrase

end KeyedRecord
