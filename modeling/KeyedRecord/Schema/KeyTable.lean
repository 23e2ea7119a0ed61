/-
**The keys of a record.**

Each included member has an entry: its key in documents, which is the member's name unless a
rename gives another one, and its variant in the enumeration of keys, which is the name in Pascal
case. The enumeration can be declared if every variant is an identifier and no two are the same.

* `KeyTable.synthesize`: the entries of the included members; that there are none is reported.
* `KeyTable.conflict?`: the first entry that keeps the enumeration from being declared.
-/

import KeyedRecord.Schema.Role
import KeyedRecord.Text.PascalCase

namespace KeyedRecord

/-- The entry of an included member, with its key in documents if that is not the name. -/
structure KeyEntry where
  name : Ident
  explicitKey : Option String
deriving DecidableEq, Repr

/-- The key of the member in documents. -/
def KeyEntry.key (entry : KeyEntry) : String :=
  entry.explicitKey.getD entry.name.name

/-- The name of a member's variant in the enumeration of keys. -/
def Ident.variant (identifier : Ident) : String :=
  Text.pascalCase identifier.name

/-- The name of the entry's variant in the enumeration of keys. -/
def KeyEntry.variant (entry : KeyEntry) : String :=
  entry.name.variant

/-- The entry of an included member. -/
def MemberRole.entry (role : MemberRole) : KeyEntry where
  name := role.name
  explicitKey := if role.key == role.name.name then none else some role.key

/-- The entries of the included members, at least one, in order of declaration. -/
structure KeyTable where
  entries : List KeyEntry
  nonempty : entries ≠ []

/-- Something to say about a record that is no error. -/
inductive Warning
  /-- No member stands in the record's documents. -/
  | empty
deriving DecidableEq, Repr

/-- The short name of a warning. -/
def Warning.id : Warning → String
  | .empty => "empty"

/-- The words of a warning. -/
def Warning.message : Warning → String
  | .empty => "no codable members found"

/-- The table of the included members, if there are any, and the warnings after those reported
before. -/
def KeyTable.synthesize (roles : List MemberRole) (reported : List Warning) :
    Option KeyTable × List Warning :=
  let entries := (roles.filter MemberRole.isIncluded).map MemberRole.entry
  if nonempty : entries ≠ [] then (some ⟨entries, nonempty⟩, reported)
  else (none, reported ++ [.empty])

/-- The variants of the entries, in order. -/
def KeyTable.variants (table : KeyTable) : List String :=
  table.entries.map KeyEntry.variant

/-- What keeps an entry from having a variant of its own. -/
inductive VariantConflict
  /-- The variant of a member is not a plain identifier. -/
  | unusable (member variant : String)
  /-- Two members have the same variant. -/
  | shared (first second variant : String)
deriving DecidableEq, Repr

/-- The words for a conflict. -/
def VariantConflict.message : VariantConflict → String
  | .unusable member variant =>
    "member `" ++ member ++ "` has no usable key variant name (`" ++ variant ++ "`)"
  | .shared first second variant =>
    "members `" ++ first ++ "` and `" ++ second ++ "` both map to key variant `" ++ variant ++ "`"

/-- The conflict of an entry with the entries before it, or with the rules of identifiers. -/
def KeyEntry.conflict? (before : List KeyEntry) (entry : KeyEntry) : Option VariantConflict :=
  if !Text.isPlainIdentifier entry.variant then
    some (.unusable entry.name.name entry.variant)
  else
    (before.find? fun earlier => earlier.variant == entry.variant).map fun earlier =>
      .shared earlier.name.name entry.name.name entry.variant

/-- The first conflict among entries that stand after others. -/
def KeyEntry.firstConflict? (before : List KeyEntry) : List KeyEntry → Option VariantConflict
  | [] => none
  | entry :: rest => entry.conflict? before <|> firstConflict? (before ++ [entry]) rest

/-- The first conflict among the entries of the table. -/
def KeyTable.conflict? (table : KeyTable) : Option VariantConflict :=
  KeyEntry.firstConflict? [] table.entries

end KeyedRecord
