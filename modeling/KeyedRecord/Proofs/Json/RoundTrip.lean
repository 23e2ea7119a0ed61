/-
**Values in JSON are read back.**

The fields of a structure may be written in any order, so a value has several texts (`IsTextOf`).
What comes of them follows by induction on the parts of the value (`readValue_writeForm`): each is
read as the value with its bytes as arrays of numbers, unless a number in it is not finite or it
nests too deep.

* `IsTextOf`: the texts of a value, of which `write` gives the one with its fields in order.
* `read_write`: when a text of a value is read back, as what, and how reading fails otherwise.
-/

import KeyedRecord.Proofs.Json.Parts

namespace KeyedRecord.Json

/-! ### The texts of values -/

theorem writeFields_eq_map (fields : Fields) :
    writeForm.writeFields fields = fields.map fieldText := by
  induction fields with
  | nil => rfl
  | cons field rest ih =>
    rw [writeForm.writeFields, ih]
    rfl

theorem writeItems_eq_map (items : List Value) :
    writeForm.writeItems items = items.map writeForm := by
  induction items with
  | nil => rfl
  | cons item rest ih => rw [writeForm.writeItems, ih, List.map_cons]

theorem writeForm_binary_append (bytes : List UInt8) (rest : List Char) :
    writeForm (.binary bytes) ++ rest =
      '[' :: (commaSeparated (bytes.map fun byte => decimalDigits byte.toNat) ++ ']' :: rest) := by
  rw [writeForm]
  exact List.append_assoc _ _ _

theorem writeForm_struct_append (fields : Fields) (rest : List Char) :
    writeForm (.struct fields) ++ rest =
      '\x7b' :: (commaSeparated (fields.map fieldText) ++ '\x7d' :: rest) := by
  rw [writeForm, writeFields_eq_map]
  exact List.append_assoc _ _ _

theorem writeForm_array_append (items : List Value) (rest : List Char) :
    writeForm (.array items) ++ rest =
      '[' :: (commaSeparated (items.map writeForm) ++ ']' :: rest) := by
  rw [writeForm, writeItems_eq_map]
  exact List.append_assoc _ _ _

/-- The text of a value starts a part. -/
theorem startsPart_writeForm (value : Value) : StartsPart (writeForm value) := by
  cases value with
  | integer value =>
    rw [writeForm]
    exact (startsNumber_writeInteger _).startsPart
  | boolean value =>
    rw [writeForm]
    cases value
    · exact ⟨'f', _, rfl, by decide, by decide, by decide⟩
    · exact ⟨'t', _, rfl, by decide, by decide, by decide⟩
  | text value =>
    rw [writeForm]
    exact ⟨'"', _, rfl, by decide, by decide, by decide⟩
  | binary bytes =>
    rw [writeForm]
    exact ⟨'[', _, rfl, by decide, by decide, by decide⟩
  | double number =>
    rw [writeForm]
    unfold writeDouble
    split
    · rename_i finite
      exact (startsNumber_numberText finite).startsPart
    · exact ⟨'n', _, rfl, by decide, by decide, by decide⟩
  | struct fields =>
    rw [writeForm]
    exact ⟨'\x7b', _, rfl, by decide, by decide, by decide⟩
  | array items =>
    rw [writeForm]
    exact ⟨'[', _, rfl, by decide, by decide, by decide⟩

/-- The reader of the parts of a value, if it may have any. -/
def partReader : Nat → Option (TextReader Value)
  | 0 => none
  | depth + 1 => some (readValue depth)

theorem readValue_eq (depth : Nat) : readValue depth = readValueOver (partReader depth) := by
  cases depth <;> rfl

/-- What starts like a number is read as one, however deep it stands. -/
theorem readValue_number (depth : Nat) {text : List Char} (starts : StartsNumber text)
    (rest : List Char) : readValue depth (text ++ rest) = readNumber (text ++ rest) := by
  rw [readValue_eq]
  exact readValueOver_number _ (starts.append rest)

/-- The text of a byte is read as a number. -/
theorem readValue_byte (depth : Nat) (byte : UInt8) {rest : List Char} (ends : EndsNumber rest) :
    readValue depth (decimalDigits byte.toNat ++ rest) = .ok (Value.ofByte byte, rest) := by
  have bounded : byte.toNat < 9223372036854775808 :=
    Nat.lt_trans (UInt8.toNat_lt byte) (by decide)
  rw [readValue_number depth (startsNumber_digits _), readNumber_digits bounded ends]
  rfl

/-- A written text is read as itself, however deep it stands. -/
theorem readValue_text (depth : Nat) (value : String) (rest : List Char) :
    readValue depth (writeText value ++ rest) = .ok (.text value, rest) := by
  have quote : isBlank '"' = false := by decide
  rw [writeText_append, readValue_eq]
  unfold readValueOver
  simp only [skipBlanks_cons quote, readText?_escapes, String.ofList_toList]
  rfl

/-! ### What comes of them -/

/-- What comes of the text of a value without parts. -/
theorem readValue_scalar {depth : Nat} {value : Value} {rest : List Char}
    (read : readValue depth (writeForm value ++ rest) = .ok (value, rest))
    (finite : value.IsFinite) (flat : value.nesting = 0) (plain : value.reread = value) :
    ValueOutcome depth value rest (readValue depth (writeForm value ++ rest)) := by
  rw [read, ValueOutcome, plain]
  exact .ok finite (flat ▸ Nat.zero_le depth)

/-- What comes of the text of a floating-point number. -/
theorem readValue_double (number : Double) (depth : Nat) {rest : List Char}
    (ends : EndsNumber rest) : ValueOutcome depth (.double number) rest
      (readValue depth (writeForm (.double number) ++ rest)) := by
  rw [writeForm]
  unfold writeDouble
  by_cases finite : number.isFinite = true
  · have read : readValue depth ((numberLayout.text number).toList ++ rest) =
        .ok (.double number, rest) := by
      rw [readValue_number depth (startsNumber_numberText finite),
        readNumber_numberText finite ends]
    rw [if_pos finite, read]
    exact .ok ((Value.isFinite_double_iff number).mpr finite) (Nat.zero_le depth)
  · rw [if_neg finite, readValue_eq]
    exact .null fun isFinite => finite ((Value.isFinite_double_iff number).mp isFinite)

/-- What comes of the text of bytes, which are an array as deep as any. -/
theorem readValue_binary (bytes : List UInt8) (depth : Nat) (rest : List Char) :
    ValueOutcome depth (.binary bytes) rest
      (readValue depth (writeForm (.binary bytes) ++ rest)) := by
  rw [writeForm_binary_append]
  cases depth with
  | zero => exact .tooDeep (by simp [Value.nesting])
  | succ depth =>
    have each : ∀ byte ∈ bytes, ∀ rest, EndsNumber rest → Outcome True True
        (Value.ofByte byte, rest) (readValue depth (decimalDigits byte.toNat ++ rest)) := by
      intro byte _ rest ends
      rw [readValue_byte depth byte ends]
      exact .of_ok _
    rw [ValueOutcome, Value.reread_binary]
    exact (readArray_commaSeparated rest
        (fun byte _ => (startsNumber_digits byte.toNat).startsPart) each).congr
      (by simp [Value.IsFinite, Value.doubles]) (by simp [Value.nesting])

/-- **What comes of the text of a value**, in whatever order its fields stand, however deep it
stands and whatever follows it. -/
theorem readValue_writeForm {value : Value} (once : value.BindsOnce) (depth : Nat)
    {rest : List Char} (ends : EndsNumber rest) :
    ValueOutcome depth value rest (readValue depth (writeForm value ++ rest)) := by
  induction once generalizing depth rest with
  | integer value =>
    refine readValue_scalar ?_ (by simp [Value.IsFinite, Value.doubles]) rfl rfl
    rw [writeForm, readValue_number depth (startsNumber_writeInteger _),
      readNumber_writeInteger value ends]
  | boolean value =>
    refine readValue_scalar ?_ (by simp [Value.IsFinite, Value.doubles]) rfl rfl
    rw [writeForm, readValue_eq]
    cases value <;> rfl
  | text value =>
    refine readValue_scalar ?_ (by simp [Value.IsFinite, Value.doubles]) rfl rfl
    rw [writeForm]
    exact readValue_text depth value rest
  | binary bytes => exact readValue_binary bytes depth rest
  | double number => exact readValue_double number depth ends
  | struct once parts ih =>
    rename_i fields
    rw [writeForm_struct_append]
    cases depth with
    | zero => exact .tooDeep (by simp [Value.nesting])
    | succ depth =>
      have each : ∀ field ∈ fields, ∀ rest, EndsNumber rest → ValueOutcome depth field.2 rest
          (readValue depth (writeForm field.2 ++ rest)) :=
        fun field inside rest => ih field inside depth
      rw [ValueOutcome, Value.reread_struct once]
      exact (readObject_commaSeparated rest each).congr
        (Value.isFinite_struct_iff fields).symm (Value.nesting_struct_le_iff fields depth).symm
  | array parts ih =>
    rename_i items
    rw [writeForm_array_append]
    cases depth with
    | zero => exact .tooDeep (by simp [Value.nesting])
    | succ depth =>
      rw [ValueOutcome, Value.reread_array]
      exact (readArray_commaSeparated rest (fun item _ => startsPart_writeForm item)
          fun item inside _ => ih item inside depth).congr
        (Value.isFinite_array_iff items).symm (Value.nesting_array_le_iff items depth).symm

/-- **The text is one of the value**: it has the fields of every structure in some order, and each
name once. -/
def IsTextOf (value : Value) (text : String) : Prop :=
  ∃ arranged, value.canonical.Rearranged arranged ∧ text = String.ofList (writeForm arranged)

/-- One of the texts is that with the fields in the order of their names. -/
theorem isTextOf_write (value : Value) : IsTextOf value (write value) :=
  ⟨value.canonical, .refl _, rfl⟩

/-- **The texts of a value** are those of the equal values that bind each name once, with their
fields as they stand. -/
theorem isTextOf_iff (value : Value) (text : String) : IsTextOf value text ↔
    ∃ arranged, arranged.BindsOnce ∧ (value == arranged) = true ∧
      text = String.ofList (writeForm arranged) := by
  have once := value.canonical_isOrdered.bindsOnce
  have canonical := Value.canonical_of_ordered value.canonical_isOrdered
  refine exists_congr fun arranged => ?_
  rw [← and_assoc]
  refine and_congr_left fun _ => ⟨fun rearranged => ?_, fun both => ?_⟩
  · refine ⟨rearranged.bindsOnce_iff.mp once, ?_⟩
    rw [Value.beq_iff, ← rearranged.canonical_eq once, canonical]
  · rw [Value.rearranged_iff_beq once both.1, Value.beq_iff, canonical]
    exact (Value.beq_iff _ _).mp both.2

/-- What comes of a text of a whole value. -/
theorem read_outcome {value : Value} {text : String} (isText : IsTextOf value text) :
    Outcome value.canonical.IsFinite (value.canonical.nesting ≤ nestingLimit)
      value.canonical.unpacked (read text) := by
  obtain ⟨arranged, rearranged, rfl⟩ := isText
  have once : arranged.BindsOnce :=
    rearranged.bindsOnce_iff.mp value.canonical_isOrdered.bindsOnce
  have outcome := readValue_writeForm once nestingLimit .nil
  rw [List.append_nil, ValueOutcome, rearranged.reread_eq, ← rearranged.nesting_eq] at outcome
  unfold read
  rw [String.toList_ofList]
  exact (outcome.bind (.of_ok value.canonical.unpacked)).congr
    (by rw [and_true, rearranged.isFinite_iff]) (by rw [and_true])

/-- Any text of a finite value in order that does not nest too deep is read as the unpacked
value. -/
theorem read_of_ordered {value : Value} {text : String} (isText : IsTextOf value text)
    (ordered : value.IsOrdered) (finite : value.IsFinite)
    (shallow : value.nesting ≤ nestingLimit) : read text = .ok value.unpacked := by
  have outcome := read_outcome isText
  rw [Value.canonical_of_ordered ordered] at outcome
  exact (outcome.eq_ok_iff _).mpr ⟨finite, shallow, rfl⟩

/-- **When a text of a value is read back, and as what.** A value has a text for every order of the
fields of the structures in it. From each of them there is a result exactly if every floating-point
number in the value is finite and it nests at most 127 deep, and the result is the value with its
bytes as arrays of numbers. If only a number is not finite, the `null` that stands for it is why
there is none; if the value only nests too deep, the text is malformed. A value whose fields are in
order is its own canonical form (`Value.canonical_of_ordered`). -/
theorem read_write (value : Value) :
    IsTextOf value (write value) ∧ ∀ text, IsTextOf value text →
      (∀ result, read text = .ok result ↔
        value.canonical.IsFinite ∧ value.canonical.nesting ≤ 127 ∧
          result = value.canonical.unpacked) ∧
      (value.canonical.nesting ≤ 127 → ¬value.canonical.IsFinite →
        read text = .error (.rejected (.invalidValue .null))) ∧
      (value.canonical.IsFinite → 128 ≤ value.canonical.nesting →
        read text = .error .malformed) := by
  refine ⟨isTextOf_write value, fun text isText => ?_⟩
  have outcome := read_outcome isText
  refine ⟨fun result => outcome.eq_ok_iff result, fun shallow notFinite => ?_,
    fun isFinite deep => ?_⟩
  · exact outcome.eq_null shallow notFinite
  · exact outcome.eq_malformed isFinite (Nat.not_le_of_lt deep)

/-- Arrays in one another. -/
def nested : Nat → Value
  | 0 => .array []
  | depth + 1 => .array [nested depth]

/-- Each of the three cases occurs, the first one for both orders of two fields. -/
theorem read_write_samples :
    read (write (.struct [("zero", .double (Binary.zero true)),
        ("bytes", .binary [0, 255])])) =
      .ok (.struct [("bytes", .array [.integer 0, .integer 255]),
        ("zero", .double (Binary.zero true))]) ∧
    read "\x7b\"zero\":-0.0,\"bytes\":[0,255]\x7d" =
      .ok (.struct [("bytes", .array [.integer 0, .integer 255]),
        ("zero", .double (Binary.zero true))]) ∧
    read (write (.array [.integer 1, .double (Binary.infinite false)])) =
      .error (.rejected (.invalidValue .null)) ∧
    read (write (nested 127)) = .error .malformed := by
  have backwards : IsTextOf
      (.struct [("zero", .double (Binary.zero true)), ("bytes", .binary [0, 255])])
      "\x7b\"zero\":-0.0,\"bytes\":[0,255]\x7d" := by
    refine (isTextOf_iff _ _).mpr
      ⟨.struct [("zero", .double (Binary.zero true)), ("bytes", .binary [0, 255])], ?_,
        by decide, rfl⟩
    exact .struct (by decide) (by simp [Value.BindsOnce.double, Value.BindsOnce.binary])
  refine ⟨?_, ?_, ?_, ?_⟩
  · exact (((read_write _).2 _ (isTextOf_write _)).1 _).mpr ⟨by decide, by decide, by rfl⟩
  · exact (((read_write _).2 _ backwards).1 _).mpr ⟨by decide, by decide, by rfl⟩
  · exact ((read_write _).2 _ (isTextOf_write _)).2.1 (by decide) (by decide)
  · exact ((read_write _).2 _ (isTextOf_write _)).2.2 (by decide +kernel) (by decide +kernel)

end KeyedRecord.Json
