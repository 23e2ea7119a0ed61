/-
**Arrays and objects in JSON are read back.**

Reading the text of a value ends in one of three ways: with a result, at the `null` of a number that
is not finite, or at a bracket that stands too deep (`Outcome`). Each of the last two is there only
if there is such a number or such a bracket. One attempt after the other ends as the first one that
fails (`Outcome.bind`), so what comes of a list of parts follows from what comes of each part.

* `readArray_commaSeparated`: what comes of the text of an array.
* `readObject_commaSeparated`: what comes of the text of an object.
-/

import KeyedRecord.Proofs.Json.Number
import KeyedRecord.Proofs.Json.Text
import KeyedRecord.Proofs.Value.Arrangement

namespace KeyedRecord.Json

/-! ### The three ways in which reading ends -/

/-- How reading ends that can fail at a number which is not finite or at a bracket which stands too
deep, and otherwise gives the result. -/
inductive Outcome {α : Type} (finite shallow : Prop) (result : α) : Except ReadError α → Prop
  | ok (isFinite : finite) (isShallow : shallow) : Outcome finite shallow result (.ok result)
  | null (notFinite : ¬finite) :
      Outcome finite shallow result (.error (.rejected (.invalidValue .null)))
  | tooDeep (notShallow : ¬shallow) : Outcome finite shallow result (.error .malformed)

namespace Outcome

variable {α β : Type} {finite shallow finite' shallow' : Prop} {result : α}
  {attempt : Except ReadError α}

/-- The conditions may be put in other words. -/
theorem congr (outcome : Outcome finite shallow result attempt) (sameFinite : finite ↔ finite')
    (sameShallow : shallow ↔ shallow') : Outcome finite' shallow' result attempt := by
  cases outcome with
  | ok isFinite isShallow => exact .ok (sameFinite.mp isFinite) (sameShallow.mp isShallow)
  | null notFinite => exact .null fun isFinite => notFinite (sameFinite.mpr isFinite)
  | tooDeep notShallow => exact .tooDeep fun isShallow => notShallow (sameShallow.mpr isShallow)

/-- One attempt after the other fails as the first one that fails. -/
theorem bind {next : α → Except ReadError β} {result' : β}
    (first : Outcome finite shallow result attempt)
    (second : Outcome finite' shallow' result' (next result)) :
    Outcome (finite ∧ finite') (shallow ∧ shallow') result' (attempt >>= next) := by
  cases first with
  | ok isFinite isShallow =>
    show Outcome _ _ _ (next result)
    cases second' : next result with
    | ok value =>
      rw [second'] at second
      cases second with
      | ok isFinite' isShallow' => exact .ok ⟨isFinite, isFinite'⟩ ⟨isShallow, isShallow'⟩
    | error cause =>
      rw [second'] at second
      cases second with
      | null notFinite => exact .null fun both => notFinite both.2
      | tooDeep notShallow => exact .tooDeep fun both => notShallow both.2
  | null notFinite => exact .null fun both => notFinite both.1
  | tooDeep notShallow => exact .tooDeep fun both => notShallow both.1

/-- What cannot fail. -/
theorem of_ok (result : α) : Outcome True True result (.ok result) :=
  .ok trivial trivial

/-- There is a result exactly if neither failure occurs. -/
theorem eq_ok_iff (outcome : Outcome finite shallow result attempt) (value : α) :
    attempt = .ok value ↔ finite ∧ shallow ∧ value = result := by
  cases outcome with
  | ok isFinite isShallow =>
    rw [Except.ok.injEq]
    exact ⟨fun same => ⟨isFinite, isShallow, same.symm⟩, fun both => both.2.2.symm⟩
  | null notFinite =>
    refine ⟨fun same => ?_, fun both => absurd both.1 notFinite⟩
    cases same
  | tooDeep notShallow =>
    refine ⟨fun same => ?_, fun both => absurd both.2.1 notShallow⟩
    cases same

/-- The failure at a number that is not finite, if nothing stands too deep. -/
theorem eq_null (outcome : Outcome finite shallow result attempt) (isShallow : shallow)
    (notFinite : ¬finite) : attempt = .error (.rejected (.invalidValue .null)) := by
  cases outcome with
  | ok isFinite _ => exact absurd isFinite notFinite
  | null _ => rfl
  | tooDeep notShallow => exact absurd isShallow notShallow

/-- The failure at a bracket that stands too deep, if all numbers are finite. -/
theorem eq_malformed (outcome : Outcome finite shallow result attempt) (isFinite : finite)
    (notShallow : ¬shallow) : attempt = .error .malformed := by
  cases outcome with
  | ok _ isShallow => exact absurd isShallow notShallow
  | null notFinite => exact absurd isFinite notFinite
  | tooDeep _ => rfl

end Outcome

/-- How reading a value ends: at a number that is not finite, at a bracket that is too deep, or
with the value as a format without bytes gives it back. -/
abbrev ValueOutcome (depth : Nat) (value : Value) (rest : List Char) :
    Except ReadError (Value × List Char) → Prop :=
  Outcome value.IsFinite (value.nesting ≤ depth) (value.reread, rest)

/-! ### Brackets and commas -/

/-- A comma or a closing bracket ends a number. -/
theorem EndsNumber.cons {c : Char}
    (proper : c.isDigit = false ∧ c ≠ '.' ∧ c ≠ 'e' ∧ c ≠ 'E') (rest : List Char) :
    EndsNumber (c :: rest) := by
  intro d head
  cases head
  exact proper

theorem EndsNumber.nil : EndsNumber [] := by
  intro d head
  cases head

/-- There is a comma between any two texts. -/
theorem length_le_commaSeparated (texts : List (List Char)) :
    texts.length ≤ (commaSeparated texts).length + 1 := by
  induction texts with
  | nil => exact Nat.zero_le _
  | cons text rest ih =>
    cases rest with
    | nil => exact Nat.le_add_left 1 _
    | cons second rest =>
      rw [commaSeparated, List.length_cons, List.length_append, @List.length_cons _ ',']
      · omega
      · exact List.cons_ne_nil _ _

/-- A bracketed list of texts is at least as long as the list. -/
theorem length_le_closed (texts : List (List Char)) (c : Char) (rest : List Char) :
    texts.length ≤ (commaSeparated texts ++ c :: rest).length := by
  have commas := length_le_commaSeparated texts
  rw [List.length_append, List.length_cons]
  omega

section Parts

variable {α : Type} {item : TextReader Value} {text : α → List Char} {value : α → Value}
  {finite shallow : α → Prop}

/-- **What comes of the items of an array** follows from what comes of each of them. -/
theorem readItems_commaSeparated {parts : List α} (rest : List Char)
    (each : ∀ part ∈ parts, ∀ rest, EndsNumber rest →
      Outcome (finite part) (shallow part) (value part, rest) (item (text part ++ rest)))
    (present : parts ≠ []) {bound : Nat} (enough : parts.length ≤ bound) :
    Outcome (∀ part ∈ parts, finite part) (∀ part ∈ parts, shallow part)
      (parts.map value, rest)
      (readItems item bound (commaSeparated (parts.map text) ++ ']' :: rest)) := by
  induction parts generalizing bound with
  | nil => exact absurd rfl present
  | cons first others ih =>
    obtain ⟨bound, rfl⟩ : ∃ less, bound = less + 1 :=
      ⟨bound - 1, by rw [List.length_cons] at enough; omega⟩
    obtain ⟨head, tail⟩ := List.forall_mem_cons.mp each
    rw [readItems]
    cases others with
    | nil =>
      have last := head (']' :: rest) (.cons (by decide) rest)
      exact (last.bind (.of_ok ([value first], rest))).congr
        (by rw [List.forall_mem_singleton, and_true])
        (by rw [List.forall_mem_singleton, and_true])
    | cons second others =>
      have fewer : (second :: others).length ≤ bound := Nat.le_of_succ_le_succ enough
      have arranged : commaSeparated ((first :: second :: others).map text) ++ ']' :: rest =
          text first ++ ',' :: (commaSeparated ((second :: others).map text) ++ ']' :: rest) :=
        List.append_assoc _ _ _
      have following := ih tail (List.cons_ne_nil _ _) fewer
      rw [arranged]
      exact ((head _ (.cons (by decide) _)).bind
        (following.bind (.of_ok ((first :: second :: others).map value, rest)))).congr
        (by rw [@List.forall_mem_cons _ _ first, and_true])
        (by rw [@List.forall_mem_cons _ _ first, and_true])

end Parts

/-! ### The first character -/

/-- The text starts with a character that is neither a blank nor a closing bracket. -/
def StartsPart (text : List Char) : Prop :=
  ∃ c tail, text = c :: tail ∧ isBlank c = false ∧ c ≠ ']' ∧ c ≠ '\x7d'

/-- No blank is skipped before a part. -/
theorem skipBlanks_cons {c : Char} (noBlank : isBlank c = false) (rest : List Char) :
    skipBlanks (c :: rest) = c :: rest :=
  List.dropWhile_cons_of_neg (by rw [noBlank]; exact Bool.false_ne_true)

theorem StartsPart.skipBlanks {text : List Char} (starts : StartsPart text) :
    Json.skipBlanks text = text := by
  obtain ⟨c, tail, rfl, noBlank, -, -⟩ := starts
  exact skipBlanks_cons noBlank tail

theorem StartsPart.append {text : List Char} (starts : StartsPart text) (rest : List Char) :
    StartsPart (text ++ rest) := by
  obtain ⟨c, tail, rfl, proper⟩ := starts
  exact ⟨c, tail ++ rest, rfl, proper⟩

theorem StartsPart.commaSeparated {text : List Char} (starts : StartsPart text)
    (texts : List (List Char)) : StartsPart (commaSeparated (text :: texts)) := by
  cases texts with
  | nil => exact starts
  | cons second texts => exact starts.append _

/-- A number starts a part. -/
theorem StartsNumber.startsPart {text : List Char} (starts : StartsNumber text) :
    StartsPart text := by
  obtain ⟨c, tail, rfl, sign | isDigit⟩ := starts
  · subst sign
    exact ⟨'-', tail, rfl, by decide, by decide, by decide⟩
  · have other : ∀ d : Char, d.isDigit = false → c ≠ d := by
      rintro d noDigit rfl
      rw [isDigit] at noDigit
      cases noDigit
    refine ⟨c, tail, rfl, ?_, other ']' (by decide), other '\x7d' (by decide)⟩
    unfold isBlank
    rw [beq_false_of_ne (other ' ' (by decide)), beq_false_of_ne (other '\t' (by decide)),
      beq_false_of_ne (other '\n' (by decide)), beq_false_of_ne (other '\r' (by decide))]
    rfl

theorem StartsNumber.append {text : List Char} (starts : StartsNumber text) (rest : List Char) :
    StartsNumber (text ++ rest) := by
  obtain ⟨c, tail, rfl, start⟩ := starts
  exact ⟨c, tail ++ rest, rfl, start⟩

/-- What starts like a number is read as one. -/
theorem readValueOver_number (part : Option (TextReader Value)) {text : List Char}
    (starts : StartsNumber text) : readValueOver part text = readNumber text := by
  have kept := starts.startsPart.skipBlanks
  obtain ⟨c, tail, rfl, start⟩ := starts
  have other : ∀ d : Char, d ≠ '-' → d.isDigit = false → ∀ rest, c :: tail ≠ d :: rest := by
    rintro d noSign noDigit rest same
    obtain rfl := (List.cons.inj same).1
    rcases start with sign | isDigit
    · exact noSign sign
    · rw [isDigit] at noDigit
      cases noDigit
  unfold readValueOver
  rw [kept]
  split
  · rename_i same
    exact absurd same (other 'n' (by decide) (by decide) _)
  · rename_i same
    exact absurd same (other 't' (by decide) (by decide) _)
  · rename_i same
    exact absurd same (other 'f' (by decide) (by decide) _)
  · rename_i same
    exact absurd same (other '"' (by decide) (by decide) _)
  · rename_i same
    exact absurd same (other '[' (by decide) (by decide) _)
  · rename_i same
    exact absurd same (other '\x7b' (by decide) (by decide) _)
  · rfl

/-! ### Arrays -/

/-- What starts a part is not taken for the bracket that closes an empty array. -/
theorem readArray_of_starts {text : List Char} (starts : StartsPart (skipBlanks text))
    (item : TextReader Value) :
    readArray item text = do
      let (values, rest) ← readItems item text.length text
      return (.array values, rest) := by
  unfold readArray
  split
  · rename_i bracket
    obtain ⟨c, tail, same, -, noBracket, -⟩ := starts
    rw [same] at bracket
    exact absurd (List.cons.inj bracket).1 noBracket
  · rfl

/-- **What comes of an array** follows from what comes of each of its items. -/
theorem readArray_commaSeparated {α : Type} {item : TextReader Value} {text : α → List Char}
    {value : α → Value} {finite shallow : α → Prop} {parts : List α} (rest : List Char)
    (starts : ∀ part ∈ parts, StartsPart (text part))
    (each : ∀ part ∈ parts, ∀ rest, EndsNumber rest →
      Outcome (finite part) (shallow part) (value part, rest) (item (text part ++ rest))) :
    Outcome (∀ part ∈ parts, finite part) (∀ part ∈ parts, shallow part)
      (Value.array (parts.map value), rest)
      (readArray item (commaSeparated (parts.map text) ++ ']' :: rest)) := by
  cases parts with
  | nil =>
    exact (Outcome.of_ok _).congr (by simp) (by simp)
  | cons first others =>
    have startsText : StartsPart (commaSeparated ((first :: others).map text) ++ ']' :: rest) :=
      ((starts first List.mem_cons_self).commaSeparated _).append _
    have enough : (first :: others).length ≤
        (commaSeparated ((first :: others).map text) ++ ']' :: rest).length :=
      (List.length_map text).symm.trans_le (length_le_closed _ _ _)
    have items := readItems_commaSeparated rest each (List.cons_ne_nil _ _) enough
    rw [readArray_of_starts (startsText.skipBlanks.symm ▸ startsText)]
    exact (items.bind (.of_ok (Value.array ((first :: others).map value), rest))).congr
      (by rw [and_true]) (by rw [and_true])

/-! ### Objects -/

/-- What starts a part is not taken for the bracket that closes an empty object. -/
theorem readObject_of_starts {text : List Char} (starts : StartsPart (skipBlanks text))
    (item : TextReader Value) :
    readObject item text = do
      let (fields, rest) ← readFields item text.length text
      return (Value.ofFields fields, rest) := by
  unfold readObject
  split
  · rename_i brace
    obtain ⟨c, tail, same, -, -, noBrace⟩ := starts
    rw [same] at brace
    exact absurd (List.cons.inj brace).1 noBrace
  · rfl

def fieldText (field : String × Value) : List Char :=
  writeText field.1 ++ ':' :: writeForm field.2

/-- The name of a field is read back. -/
theorem readName_fieldText (field : String × Value) (rest : List Char) :
    readName (fieldText field ++ rest) = .ok (field.1, writeForm field.2 ++ rest) := by
  have content := readText?_escapes field.1.toList (':' :: (writeForm field.2 ++ rest))
  have quote : isBlank '"' = false := by decide
  have colon : isBlank ':' = false := by decide
  rw [fieldText, List.append_assoc, List.cons_append, writeText_append]
  unfold readName
  simp only [skipBlanks_cons quote, content, skipBlanks_cons colon, String.ofList_toList]

theorem startsPart_fieldText (field : String × Value) : StartsPart (fieldText field) :=
  ⟨'"', _, rfl, by decide, by decide, by decide⟩

section Fields

variable {item : TextReader Value} {depth : Nat}

/-- **What comes of the fields of an object** follows from what comes of each of them. -/
theorem readFields_commaSeparated {fields : Fields} (rest : List Char)
    (each : ∀ field ∈ fields, ∀ rest, EndsNumber rest →
      ValueOutcome depth field.2 rest (item (writeForm field.2 ++ rest)))
    (present : fields ≠ []) {bound : Nat} (enough : fields.length ≤ bound) :
    Outcome (∀ field ∈ fields, field.2.IsFinite) (∀ field ∈ fields, field.2.nesting ≤ depth)
      (fields.map fun field => (field.1, field.2.reread), rest)
      (readFields item bound (commaSeparated (fields.map fieldText) ++ '\x7d' :: rest)) := by
  induction fields generalizing bound with
  | nil => exact absurd rfl present
  | cons first others ih =>
    obtain ⟨bound, rfl⟩ : ∃ less, bound = less + 1 :=
      ⟨bound - 1, by rw [List.length_cons] at enough; omega⟩
    obtain ⟨head, tail⟩ := List.forall_mem_cons.mp each
    rw [readFields]
    cases others with
    | nil =>
      have last := head ('\x7d' :: rest) (.cons (by decide) rest)
      have alone : commaSeparated ([first].map fieldText) = fieldText first := rfl
      rw [alone, readName_fieldText]
      exact (last.bind (.of_ok ([(first.1, first.2.reread)], rest))).congr
        (by rw [List.forall_mem_singleton, and_true])
        (by rw [List.forall_mem_singleton, and_true])
    | cons second others =>
      have fewer : (second :: others).length ≤ bound := Nat.le_of_succ_le_succ enough
      have arranged : commaSeparated ((first :: second :: others).map fieldText) ++ '\x7d' :: rest =
          fieldText first ++
            ',' :: (commaSeparated ((second :: others).map fieldText) ++ '\x7d' :: rest) :=
        List.append_assoc _ _ _
      have following := ih tail (List.cons_ne_nil _ _) fewer
      rw [arranged, readName_fieldText]
      exact ((head _ (.cons (by decide) _)).bind (following.bind (.of_ok
        ((first :: second :: others).map fun field => (field.1, field.2.reread), rest)))).congr
        (by rw [@List.forall_mem_cons _ _ first, and_true])
        (by rw [@List.forall_mem_cons _ _ first, and_true])

/-- **What comes of an object** follows from what comes of each of its fields. -/
theorem readObject_commaSeparated {fields : Fields} (rest : List Char)
    (each : ∀ field ∈ fields, ∀ rest, EndsNumber rest →
      ValueOutcome depth field.2 rest (item (writeForm field.2 ++ rest))) :
    Outcome (∀ field ∈ fields, field.2.IsFinite) (∀ field ∈ fields, field.2.nesting ≤ depth)
      (Value.ofFields (fields.map fun field => (field.1, field.2.reread)), rest)
      (readObject item (commaSeparated (fields.map fieldText) ++ '\x7d' :: rest)) := by
  cases fields with
  | nil =>
    exact (Outcome.of_ok _).congr (by simp) (by simp)
  | cons first others =>
    have startsText :
        StartsPart (commaSeparated ((first :: others).map fieldText) ++ '\x7d' :: rest) :=
      ((startsPart_fieldText first).commaSeparated _).append _
    have enough : (first :: others).length ≤
        (commaSeparated ((first :: others).map fieldText) ++ '\x7d' :: rest).length :=
      (List.length_map fieldText).symm.trans_le (length_le_closed _ _ _)
    have all := readFields_commaSeparated rest each (List.cons_ne_nil _ _) enough
    rw [readObject_of_starts (startsText.skipBlanks.symm ▸ startsText)]
    exact (all.bind (.of_ok (Value.ofFields
      ((first :: others).map fun field => (field.1, field.2.reread)), rest))).congr
      (by rw [and_true]) (by rw [and_true])

end Fields

end KeyedRecord.Json
