/-
**Sample records with computed members.**

Some computed members are included by a rename and some are not; one shares its key with a stored
member, and one record has no other member in its documents.
-/

import KeyedRecord.Sample.Basic

namespace KeyedRecord.Sample

/-- A text that is computed from two stored members, and an excluded member with an initial
value. -/
def summary : Sample where
  record := declare "A"
    [stored [renamed "name"] "name" (named "String"),
     stored [renamed "myFavouriteBool"] "flag" (named "bool"),
     stored [] "number" (named "i64"),
     initialized [excluded] "number_of_shows" (named "i64") "5",
     computed [renamed "computeStr"] "compute_str" (named "String")
       (formatted "\x7b\x7d:\x7b\x7d" ["name", "number"])]
  bodies :=
    { initial := [(Ident.plain "number_of_shows", Datum.integer 5)]
      call := [(Ident.plain "compute_str", fun state =>
        Datum.text (textOf state "name" ++ ":" ++ toString (integerOf state "number")))] }

/-- Renames that give no key, so that the computed members stay out. -/
def malformed : Sample where
  record := declare "Malformed"
    [stored [] "number" (named "i64"),
     computed [mark renameWord] "bare" (named "i64") (Phrase.template "self . number + 1"),
     computed [markWith renameWord (Phrase.template "42")] "numeric" (named "String")
       (Phrase.template "self . number . to_string" ++ Phrase.parenthesized [])]
  bodies :=
    { call :=
        [(Ident.plain "bare", fun state => Datum.integer (integerOf state "number" + 1)),
         (Ident.plain "numeric", fun state =>
           Datum.text (toString (integerOf state "number")))] }

/-- A list that is dropped because a computed member is included. -/
def tagged : Sample where
  record := declare "Tagged"
    [stored [] "tags" (listOf "String"),
     stored [] "number" (named "i64"),
     computed [renamed "total"] "total" (named "i64") (Phrase.template "self . number * 2")]
  bodies :=
    { call := [(Ident.plain "total", fun state =>
        Datum.integer (integerOf state "number" * 2))] }

/-- A computed member that is included, and one that is kept out. -/
def counter : Sample where
  record := declare "Counter"
    [initialized [] "hits" (named "i64") "0",
     computed [renamed "double"] "double" (named "i64") (Phrase.template "self . hits * 2"),
     computed [excluded] "label" (named "String") (formatted "\x7b\x7d hits" ["hits"])]
  bodies :=
    { initial := [(Ident.plain "hits", Datum.integer 0)]
      call :=
        [(Ident.plain "double", fun state => Datum.integer (integerOf state "hits" * 2)),
         (Ident.plain "label", fun state =>
           Datum.text (toString (integerOf state "hits") ++ " hits"))] }

/-- Members named like the bindings of the code around them, and unusual keys. -/
def shadow : Sample where
  record := declare "Shadow"
    [stored [] "values" (named "i64"),
     stored [] "decoder" (named "String"),
     stored [] "encoder" (named "bool"),
     stored [renamed ""] "empty" (named "i64"),
     stored [renamed "ключ \"q\""] "unicode" (named "String"),
     computed [renamed "sum"] "sum" (named "i64")
       (Phrase.template "self . values . wrapping_add" ++
         Phrase.parenthesized (Phrase.template "self . empty"))]
  bodies :=
    { call := [(Ident.plain "sum", fun state =>
        Datum.integer (integerOf state "values" + integerOf state "empty"))] }

/-- A computed member that shares a stored member's key. -/
def overlap : Sample where
  record := declare "Overlap"
    [initialized [] "size" (named "i64") "7",
     computed [renamed "size"] "len" (named "i64") (Phrase.template "self . size + 1")]
  bodies :=
    { initial := [(Ident.plain "size", Datum.integer 7)]
      call := [(Ident.plain "len", fun state => Datum.integer (integerOf state "size" + 1))] }

/-- A record of which only a computed member is included. -/
def onlyComputed : Sample where
  record := declare "OnlyComputed"
    [initialized [excluded] "base" (named "i64") "Self :: BASE",
     computed [renamed "twice"] "twice" (named "i64")
       (Phrase.template "self . base . wrapping_mul" ++ Phrase.parenthesized (Phrase.template "2")),
     .item ⟨.constant, Phrase.template "pub const BASE : i64 = 21 ;"⟩]
  bodies :=
    { initial := [(Ident.plain "base", Datum.integer 21)]
      call := [(Ident.plain "twice", fun state => Datum.integer (integerOf state "base" * 2))] }

end KeyedRecord.Sample
