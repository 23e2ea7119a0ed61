/-
**Sample records with observed members.**

One record counts and logs the changes of a member; the other clamps a name that ends with its
block, and sets a second member whenever the first one changes.
-/

import KeyedRecord.Sample.Basic

namespace KeyedRecord.Sample

/-- The member whose changes are counted and logged. -/
def fullText : Ident := Ident.plain "ttt"

/-- The number of changes. -/
def fullCount : Ident := Ident.plain "count"

/-- The values that changes have replaced. -/
def fullLog : Ident := Ident.plain "log"

/-- Counts a change. -/
def countChange (_ : Datum) (state : State Datum) : State Datum :=
  state.set fullCount (Datum.integer ((state fullCount).toInt + 1))

/-- Logs the value that a change has replaced. -/
def logChange (old : Datum) (state : State Datum) : State Datum :=
  state.set fullLog ((state fullLog).push old)

/-- Every form of member, and a method. -/
def full : Sample where
  record := declare "Full"
    [stored [renamed "some_name"] "some_name_value" (named "String"),
     stored [] "number" (named "i64"),
     stored [markWith excludeWord []] "count" (named "i64"),
     computed [] "tt" (named "String")
       (Phrase.template "String :: from" ++ Phrase.parenthesized (Phrase.ofText "computed")),
     member [] "ttt" (named "String")
       (.observed (some (Phrase.template "String :: new" ++ Phrase.parenthesized []))
         ⟨some (block (Phrase.template "self . count += 1 ;")),
          some (block (Phrase.template "self . log . push" ++
            Phrase.parenthesized (Phrase.template "old_value") ++ Phrase.template ";"))⟩),
     stored [excluded] "log" (listOf "String"),
     .item ⟨.function, Phrase.template "pub fn describe" ++
       Phrase.parenthesized (Phrase.template "& self") ++ Phrase.template "-> String" ++
       block (formatted "\x7b\x7d #\x7b\x7d" ["some_name_value", "number"])⟩]
  bodies :=
    { initial := [(fullText, Datum.text "")]
      call :=
        [(Ident.plain "tt", fun _ => Datum.text "computed"),
         (Ident.plain "describe", fun state =>
           Datum.text (textOf state "some_name_value" ++ " #" ++
             toString (integerOf state "number")))]
      willSet := [(fullText, countChange)]
      didSet := [(fullText, logChange)] }

/-- The member that is watched. -/
def watchedLevel : Ident := Ident.plain "level"

/-- The number of changes that made a difference. -/
def watchedChanges : Ident := Ident.plain "changes"

/-- The number of changes before the last one. -/
def watchedLast : Ident := Ident.plain "last"

/-- The values that have been offered. -/
def watchedSeen : Ident := Ident.plain "seen"

/-- The setter of the number of changes. -/
def changesSetter : Setter :=
  ⟨Phrase.template "pub", watchedChanges, (named "i64").phrase,
    ⟨none, some (block (Phrase.template "self . last = old_value ;"))⟩⟩

/-- Keeps the number of changes that is replaced. -/
def keepLast (old : Datum) (state : State Datum) : State Datum :=
  state.set watchedLast old

/-- Notes the value that is offered. -/
def noteOffer (offered : Datum) (state : State Datum) : State Datum :=
  state.set watchedSeen ((state watchedSeen).push offered)

/-- Sets the number of changes, and nothing else. -/
def changesBodies : Bodies :=
  { didSet := [(watchedChanges, keepLast)] }

/-- Counts a change that made a difference, by the setter of the count. -/
def countDifference (old : Datum) (state : State Datum) : State Datum :=
  if old.toInt = (state watchedLevel).toInt then state
  else
    changesSetter.run (Model.ofBodies changesBodies)
      (Datum.integer ((state watchedChanges).toInt + 1)) state

/-- Observers that note, count, and set another observed member. -/
def observed : Sample where
  record := declare "Observed"
    [member [] "level" (named "i64") (.observed none
       ⟨some (block (Phrase.template "self . seen . push" ++
          Phrase.parenthesized (Phrase.template "new_value") ++
          Phrase.template "; let new_value = new_value . clamp" ++
          Phrase.parenthesized
            (Phrase.template "- 10 , 10") ++
          Phrase.template ";")),
        some (block (Phrase.template "if old_value != self . level" ++
          block (Phrase.template "self . set_changes" ++
            Phrase.parenthesized (Phrase.template "self . changes + 1") ++
            Phrase.template ";")))⟩),
     member [] "changes" (named "i64") (.observed none changesSetter.observers),
     initialized [excluded] "last" (named "i64") "- 1",
     stored [markWith "allow" (Phrase.template "dead_code"), excluded] "seen" (listOf "i64")]
  bodies :=
    { initial := [(watchedLast, Datum.integer (-1))]
      willSet := [(watchedLevel, noteOffer)]
      didSet := [(watchedLevel, countDifference), (watchedChanges, keepLast)] }

end KeyedRecord.Sample
