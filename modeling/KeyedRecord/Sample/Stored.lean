/-
**Sample records whose members are all stored.**

Renamed and excluded members, raw names, lists, every width of number, and two members that share a
key.
-/

import KeyedRecord.Sample.Basic

namespace KeyedRecord.Sample

/-- One number. -/
def entity : Sample where
  record := declare "Entity" [stored [] "number" (named "i64")]
  bodies := {}

/-- One member under another key, and one under its own name. -/
def renamedMembers : Sample where
  record := declare "Renamed"
    [stored [renamed "some_name"] "some_name_value" (named "String"),
     stored [renamed "number"] "number" (named "i64")]
  bodies := {}

/-- One member that is kept out. -/
def withExcluded : Sample where
  record := declare "WithExcluded"
    [stored [] "number" (named "i64"),
     stored [markWith excludeWord []] "count" (named "i64")]
  bodies := {}

/-- Members whose names are reserved words. -/
def token : Sample where
  record := declare "Token"
    [stored [] "r#type" (named "String"),
     stored [renamed "kind"] "r#match" (named "i64")]
  bodies := {}

/-- A list beside a number. -/
def listed : Sample where
  record := declare "Listed"
    [stored [] "tags" (listOf "String"),
     stored [] "number" (named "i64")]
  bodies := {}

/-- Bytes, a floating-point number, and a member that is kept out. -/
def message : Sample where
  record := declare "Message"
    [stored [renamed "msg_id"] "id" (named "i64"),
     stored [] "body" (named "String"),
     stored [] "payload" (listOf "u8"),
     stored [] "score" (named "f64"),
     stored [excluded] "retries" (named "u32")]
  bodies := {}

/-- Two members of one key. -/
def clash : Sample where
  record := declare "Clash"
    [stored [renamed "id"] "first" (named "i64"),
     stored [renamed "id"] "second" (named "i64"),
     stored [] "third" (named "bool")]
  bodies := {}

/-- Numbers of every width. -/
def widths : Sample where
  record := declare "Widths"
    [stored [] "a" (named "i8"), stored [] "b" (named "i16"), stored [] "c" (named "i32"),
     stored [] "d" (named "u8"), stored [] "e" (named "u16"), stored [] "f" (named "u32"),
     stored [] "g" (named "f32"), stored [] "h" (named "bool")]
  bodies := {}

/-- Lists of every kind. -/
def vectors : Sample where
  record := declare "Vectors"
    [stored [] "ints" (listOf "i64"), stored [] "doubles" (listOf "f64"),
     stored [] "bools" (listOf "bool"), stored [] "strings" (listOf "String"),
     stored [] "bytes" (listOf "u8")]
  bodies := {}

end KeyedRecord.Sample
