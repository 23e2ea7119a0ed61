import KeyedRecord.Text.Identifier
import KeyedRecord.Text.PascalCase
import KeyedRecord.Text.Quoted
import KeyedRecord.Token.Basic
import KeyedRecord.Token.Lexer
import KeyedRecord.Grammar.Path
import KeyedRecord.Grammar.Attribute
import KeyedRecord.Grammar.Generics
import KeyedRecord.Grammar.Type
import KeyedRecord.Grammar.Pattern
import KeyedRecord.Grammar.Expr
import KeyedRecord.Grammar.Item
import KeyedRecord.Grammar.Language
import KeyedRecord.Record.Basic
import KeyedRecord.Record.Reader
import KeyedRecord.Schema.Basic
import KeyedRecord.Expansion.Basic
import KeyedRecord.Expansion.Wording
import KeyedRecord.Number.Binary
import KeyedRecord.Number.Decimal
import KeyedRecord.Value.Basic
import KeyedRecord.Value.Conversion
import KeyedRecord.Value.Display
import KeyedRecord.Value.Equality
import KeyedRecord.Json.Reader
import KeyedRecord.Json.Writer
import KeyedRecord.Document.Container
import KeyedRecord.Document.Encoder
import KeyedRecord.Behaviour.Basic
import KeyedRecord.Behaviour.Datum
import KeyedRecord.Sample.Basic
import KeyedRecord.Sample.Catalogue
import KeyedRecord.Proofs.Lookup
import KeyedRecord.Proofs.Schema.Classification
import KeyedRecord.Proofs.Schema.Variants
import KeyedRecord.Proofs.Document.Fields
import KeyedRecord.Proofs.Number.Exact
import KeyedRecord.Proofs.Number.Digits
import KeyedRecord.Proofs.Number.Rounding
import KeyedRecord.Proofs.Number.Shortest
import KeyedRecord.Proofs.Number.Rational
import KeyedRecord.Proofs.Number.Nearest
import KeyedRecord.Proofs.Number.Faithful
import KeyedRecord.Proofs.Value.Parts
import KeyedRecord.Proofs.Value.Order
import KeyedRecord.Proofs.Value.Arrangement
import KeyedRecord.Proofs.Value.Unpacked
import KeyedRecord.Proofs.Value.Conversion
import KeyedRecord.Proofs.Value.Datum
import KeyedRecord.Proofs.Document.Encoder
import KeyedRecord.Proofs.Json.Number
import KeyedRecord.Proofs.Json.Text
import KeyedRecord.Proofs.Json.Parts
import KeyedRecord.Proofs.Json.RoundTrip
import KeyedRecord.Proofs.Expansion.Service
import KeyedRecord.Proofs.Expansion.Closure
import KeyedRecord.Proofs.Expansion.Bodies
import KeyedRecord.Proofs.Expansion.Emission
import KeyedRecord.Proofs.Expansion.Declaration
import KeyedRecord.Proofs.Behaviour.Writing
import KeyedRecord.Proofs.Behaviour.Reading
import KeyedRecord.Proofs.Behaviour.RoundTrip
import KeyedRecord.Proofs.Behaviour.Json
import KeyedRecord.Proofs.Behaviour.Extension
import KeyedRecord.Proofs.Json.Grammar
import KeyedRecord.Proofs.Json.Reading
import KeyedRecord.Proofs.Value.Equality
import KeyedRecord.Proofs.Value.Recovery
import KeyedRecord.Proofs.Json.Image
import KeyedRecord.Proofs.Behaviour.Bytes
import KeyedRecord.Proofs.Grammar.Heading
import KeyedRecord.Proofs.Grammar.Outline.Item
import KeyedRecord.Proofs.Record.Spelling
import KeyedRecord.Proofs.Record.Completeness
import KeyedRecord.Proofs.Record.Exchange
import KeyedRecord.Proofs.Value.Outcome
import KeyedRecord.Proofs.Value.Floating
import KeyedRecord.Proofs.Expansion.Attention
import KeyedRecord.Proofs.Record.Soundness
import KeyedRecord.Proofs.Document.Container
import KeyedRecord.Proofs.Behaviour.KeyLookup
import KeyedRecord.Proofs.Behaviour.Observers
