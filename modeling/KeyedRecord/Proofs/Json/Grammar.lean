/-
**The grammar of JSON.**

Which characters spell a tree, as rules that do not say how to read them. Blanks may stand around
every part and inside empty brackets. What spells a number and what spells the content of a text is
said beside the reading of them (`SpellsNumeral`, `SpellsContent`).

* `Spells`: the characters spell a tree.
* `Spells.opens`: what spells a tree is never taken for a closing bracket.
-/

import KeyedRecord.Proofs.Json.Parts
import KeyedRecord.Proofs.Json.Tree

namespace KeyedRecord.Json

def IsBlanks (text : List Char) : Prop :=
  ∀ c ∈ text, c = ' ' ∨ c = '\t' ∨ c = '\n' ∨ c = '\r'

/-- The characters spell the name of a member, in quotes and with blanks around it. -/
def SpellsName (text : List Char) (name : String) : Prop :=
  ∃ before body after, IsBlanks before ∧ IsBlanks after ∧ SpellsContent body name.toList ∧
    text = before ++ '"' :: body ++ '"' :: after

/-- A member of an object, with its name and its tree as they are spelled. -/
structure MemberSpelling where
  nameText : List Char
  name : String
  text : List Char
  tree : Tree

namespace MemberSpelling

def written (member : MemberSpelling) : List Char :=
  member.nameText ++ ':' :: member.text

def member (member : MemberSpelling) : String × Tree :=
  (member.name, member.tree)

end MemberSpelling

/-- **The characters spell a tree.** -/
inductive Spells : List Char → Tree → Prop
  | blanks {before text after : List Char} {tree : Tree} :
      IsBlanks before → IsBlanks after → Spells text tree → Spells (before ++ text ++ after) tree
  | null : Spells ['n', 'u', 'l', 'l'] .null
  | true : Spells ['t', 'r', 'u', 'e'] (.boolean true)
  | false : Spells ['f', 'a', 'l', 's', 'e'] (.boolean false)
  | number {text : List Char} {numeral : Numeral} :
      SpellsNumeral text numeral → Spells text (.number numeral)
  | text {body content : List Char} :
      SpellsContent body content → Spells ('"' :: (body ++ ['"'])) (.text (String.ofList content))
  | emptyArray {blanks : List Char} :
      IsBlanks blanks → Spells ('[' :: (blanks ++ [']'])) (.array [])
  | array {items : List (List Char × Tree)} :
      items ≠ [] → (∀ item ∈ items, Spells item.1 item.2) →
      Spells ('[' :: (commaSeparated (items.map Prod.fst) ++ [']'])) (.array (items.map Prod.snd))
  | emptyObject {blanks : List Char} :
      IsBlanks blanks → Spells ('\x7b' :: (blanks ++ ['\x7d'])) (.object [])
  | object {members : List MemberSpelling} :
      members ≠ [] → (∀ member ∈ members, SpellsName member.nameText member.name) →
      (∀ member ∈ members, Spells member.text member.tree) →
      Spells ('\x7b' :: (commaSeparated (members.map MemberSpelling.written) ++ ['\x7d']))
        (.object (members.map MemberSpelling.member))

/-! ### Blanks -/

theorem IsBlanks.isBlank {blanks : List Char} (areBlanks : IsBlanks blanks) :
    ∀ c ∈ blanks, isBlank c = true := by
  intro c inside
  rcases areBlanks c inside with rfl | rfl | rfl | rfl <;> decide

theorem IsBlanks.skipBlanks_append {blanks : List Char} (areBlanks : IsBlanks blanks)
    (text : List Char) : skipBlanks (blanks ++ text) = skipBlanks text :=
  List.dropWhile_append_of_pos areBlanks.isBlank

/-- Blanks end a number as what follows them does. -/
theorem IsBlanks.endsNumber {blanks rest : List Char} (areBlanks : IsBlanks blanks)
    (ends : EndsNumber rest) : EndsNumber (blanks ++ rest) := by
  cases blanks with
  | nil => exact ends
  | cons c others =>
    refine .cons ?_ _
    rcases areBlanks c List.mem_cons_self with rfl | rfl | rfl | rfl <;> decide

/-! ### The first character -/

theorem StartsPart.cons {c : Char} (proper : isBlank c = false ∧ c ≠ ']' ∧ c ≠ '\x7d')
    (rest : List Char) : StartsPart (c :: rest) :=
  ⟨c, rest, rfl, proper⟩

theorem StartsPart.opens {text : List Char} (starts : StartsPart text) (rest : List Char) :
    StartsPart (Json.skipBlanks (text ++ rest)) := by
  rw [(starts.append rest).skipBlanks]
  exact starts.append rest

/-- **What spells a tree is never taken for a closing bracket**, whatever follows it. -/
theorem Spells.opens {text : List Char} {tree : Tree} (spelled : Spells text tree)
    (rest : List Char) : StartsPart (skipBlanks (text ++ rest)) := by
  induction spelled generalizing rest with
  | blanks before after _ ih =>
    rw [List.append_assoc, List.append_assoc, before.skipBlanks_append]
    exact ih _
  | number spelled => exact (startsNumber_spelled spelled).startsPart.opens rest
  | null | true | false | text | emptyArray | array | emptyObject | object =>
    exact StartsPart.opens (.cons (by decide) _) rest

theorem SpellsName.opens {text : List Char} {name : String} (spelled : SpellsName text name)
    (rest : List Char) : StartsPart (skipBlanks (text ++ rest)) := by
  obtain ⟨before, body, after, areBlanks, -, -, rfl⟩ := spelled
  rw [List.append_assoc, List.append_assoc, areBlanks.skipBlanks_append]
  exact StartsPart.opens (.cons (by decide) body) _

end KeyedRecord.Json
