/-
**Enumerations of keys.**

The variants of an enumeration stand for keys of documents. They are listed in order of
declaration, and several of them may stand for the same key.

* `Keys.find?`: the first variant that stands for a key.
-/

namespace KeyedRecord

/-- An enumeration of keys. -/
structure Keys (Variant : Type) where
  /-- The variants in order of declaration. -/
  all : List Variant
  /-- The key that a variant stands for. -/
  key : Variant → String

/-- The first variant that stands for the key. -/
def Keys.find? {Variant : Type} (keys : Keys Variant) (key : String) : Option Variant :=
  keys.all.find? fun variant => keys.key variant == key

/-- The enumeration of the places in a list of keys. -/
def Keys.ofList (list : List String) : Keys (Fin list.length) where
  all := List.finRange list.length
  key := list.get

end KeyedRecord
