/-
**Texts in JSON are read back.**

A character between the quotes of a text stands for itself, or is spelled by one of several escapes
(`SpellsContent`). Whatever spells a text is read as that text, up to the closing quote
(`readText?_spelled`), and so is the written form of a text (`readText?_escapes`).
-/

import KeyedRecord.Json.Text

namespace KeyedRecord.Json

/-! ### The spelling of a text -/

/-- The letters of short escapes, and the characters that they stand for. -/
def escapeLetters : List (Char × Char) :=
  [('"', '"'), ('\\', '\\'), ('/', '/'), ('b', '\x08'), ('f', '\x0c'), ('n', '\n'), ('r', '\r'),
    ('t', '\t')]

/-- The characters between two quotes spell the content of a text. A surrogate that stands alone
spells no character. -/
inductive SpellsContent : List Char → List Char → Prop
  | nil : SpellsContent [] []
  | plain {c : Char} {text content : List Char} :
      c ≠ '"' → c ≠ '\\' → 0x20 ≤ c.toNat → SpellsContent text content →
      SpellsContent (c :: text) (c :: content)
  | short {letter c : Char} {text content : List Char} :
      (letter, c) ∈ escapeLetters → SpellsContent text content →
      SpellsContent ('\\' :: letter :: text) (c :: content)
  | code {c₁ c₂ c₃ c₄ c : Char} {text content : List Char} :
      Text.hexValue? [c₁, c₂, c₃, c₄] = some c.toNat → SpellsContent text content →
      SpellsContent ('\\' :: 'u' :: c₁ :: c₂ :: c₃ :: c₄ :: text) (c :: content)
  | surrogates {c₁ c₂ c₃ c₄ d₁ d₂ d₃ d₄ c : Char} {high low : Nat} {text content : List Char} :
      Text.hexValue? [c₁, c₂, c₃, c₄] = some (0xD800 + high) → high < 0x400 →
      Text.hexValue? [d₁, d₂, d₃, d₄] = some (0xDC00 + low) → low < 0x400 →
      c.toNat = 0x10000 + high * 0x400 + low → SpellsContent text content →
      SpellsContent
        ('\\' :: 'u' :: c₁ :: c₂ :: c₃ :: c₄ :: '\\' :: 'u' :: d₁ :: d₂ :: d₃ :: d₄ :: text)
        (c :: content)

/-! ### Reading it -/

/-- The four digits of an escaped control stand for its code. -/
theorem hexValue?_control : ∀ code < 0x20,
    Text.hexValue? ['0', '0', Nat.digitChar (code / 16), Nat.digitChar (code % 16)] =
      some code := by
  decide

/-- The code of a character stands for it. -/
theorem character?_toNat (c : Char) : character? c.toNat = some c := by
  have valid : c.toNat.isValidChar := c.valid
  unfold character?
  rw [dif_pos valid]
  rfl

/-- A character in front of what is read of a text. -/
def prepend (c : Char) (result : Option (List Char × List Char)) :
    Option (List Char × List Char) :=
  result.map fun (text, after) => (c :: text, after)

/-- A character that is written as it is, is read as it is. -/
theorem readText?_plain {c : Char} (noQuote : c ≠ '"') (noBackslash : c ≠ '\\')
    (noControl : ¬c.toNat < 0x20) (rest : List Char) :
    readText? (c :: rest) = prepend c (readText? rest) := by
  have plain : ¬(c == '\\' || decide (c.toNat < 0x20)) = true := by
    rw [Bool.or_eq_true, beq_iff_eq, decide_eq_true_eq]
    exact fun either => either.elim noBackslash noControl
  rw [readText?]
  · rw [if_neg plain]
    cases readText? rest <;> rfl
  · exact noQuote
  · exact fun _ _ _ _ _ same _ => noBackslash same
  · exact fun _ _ same _ => noBackslash same

/-- A short escape is read as the character that its letter stands for. -/
theorem readText?_short {letter c : Char} (noCode : letter ≠ 'u')
    (short : shortEscape? letter = some c) (rest : List Char) :
    readText? ('\\' :: letter :: rest) = prepend c (readText? rest) := by
  rw [readText?]
  · rw [short]
    cases readText? rest <;> rfl
  · exact fun _ _ _ _ _ same _ => noCode same

/-- The escape of a code is read as the character of the code. -/
theorem readText?_code {c₁ c₂ c₃ c₄ c : Char}
    (code : Text.hexValue? [c₁, c₂, c₃, c₄] = some c.toNat) (rest : List Char) :
    readText? ('\\' :: 'u' :: c₁ :: c₂ :: c₃ :: c₄ :: rest) = prepend c (readText? rest) := by
  rw [readText?, code, Option.bind_eq_bind, Option.bind_some, character?_toNat]
  cases readText? rest <;> rfl

/-- The escapes of two surrogates are read as one character. -/
theorem readText?_surrogates {c₁ c₂ c₃ c₄ d₁ d₂ d₃ d₄ c : Char} {high low : Nat}
    (first : Text.hexValue? [c₁, c₂, c₃, c₄] = some (0xD800 + high)) (highBound : high < 0x400)
    (second : Text.hexValue? [d₁, d₂, d₃, d₄] = some (0xDC00 + low)) (lowBound : low < 0x400)
    (code : c.toNat = 0x10000 + high * 0x400 + low) (rest : List Char) :
    readText?
        ('\\' :: 'u' :: c₁ :: c₂ :: c₃ :: c₄ :: '\\' :: 'u' :: d₁ :: d₂ :: d₃ :: d₄ :: rest) =
      prepend c (readText? rest) := by
  have surrogate : character? (0xD800 + high) = none := by
    have invalid : ¬(0xD800 + high).isValidChar := by
      rintro (below | ⟨above, -⟩)
      · omega
      · omega
    exact dif_neg invalid
  have joined : joinSurrogates? (0xD800 + high) (0xDC00 + low) = some c := by
    have bounds : (0xD800 ≤ 0xD800 + high && 0xD800 + high < 0xDC00 && 0xDC00 ≤ 0xDC00 + low &&
        0xDC00 + low < 0xE000) = true := by
      simp only [Bool.and_eq_true, decide_eq_true_eq]
      omega
    rw [joinSurrogates?, if_pos bounds, Nat.add_sub_cancel_left, Nat.add_sub_cancel_left, ← code]
    exact character?_toNat c
  rw [readText?, first, Option.bind_eq_bind, Option.bind_some, surrogate]
  simp only [second, Option.bind_eq_bind, Option.bind_some, joined]
  cases readText? rest <;> rfl

/-- The letter of a short escape is read as what it stands for, and none is that of a code. -/
theorem shortEscape?_of_mem : ∀ escape ∈ escapeLetters,
    escape.1 ≠ 'u' ∧ shortEscape? escape.1 = some escape.2 := by
  decide

/-- **Whatever spells a text is read as the text**, up to its closing quote. -/
theorem readText?_spelled {text content : List Char} (spelled : SpellsContent text content)
    (rest : List Char) : readText? (text ++ '"' :: rest) = some (content, rest) := by
  induction spelled with
  | nil => rw [List.nil_append, readText?]
  | plain noQuote noBackslash noControl _ ih =>
    rw [List.cons_append, readText?_plain noQuote noBackslash (Nat.not_lt_of_le noControl), ih]
    rfl
  | short listed _ ih =>
    obtain ⟨noCode, short⟩ := shortEscape?_of_mem _ listed
    rw [List.cons_append, List.cons_append, readText?_short noCode short, ih]
    rfl
  | code code _ ih =>
    simp only [List.cons_append]
    rw [readText?_code code, ih]
    rfl
  | surrogates first highBound second lowBound code _ ih =>
    simp only [List.cons_append]
    rw [readText?_surrogates first highBound second lowBound code, ih]
    rfl

/-! ### The written form -/

/-- What is written for a character spells it. -/
theorem SpellsContent.escape {text content : List Char} (spelled : SpellsContent text content)
    (c : Char) : SpellsContent (Json.escape c ++ text) (c :: content) := by
  unfold Json.escape
  split
  · exact .short (by decide) spelled
  · exact .short (by decide) spelled
  · exact .short (by decide) spelled
  · exact .short (by decide) spelled
  · exact .short (by decide) spelled
  · exact .short (by decide) spelled
  · exact .short (by decide) spelled
  · rename_i noQuote noBackslash _ _ _ _ _
    split
    · rename_i control
      exact .code (hexValue?_control c.toNat control) spelled
    · rename_i noControl
      exact .plain noQuote noBackslash (Nat.le_of_not_lt noControl) spelled

theorem spellsContent_escapes (content : List Char) :
    SpellsContent (content.flatMap escape) content := by
  induction content with
  | nil => exact .nil
  | cons c content ih =>
    rw [List.flatMap_cons]
    exact ih.escape c

/-- **A written text is read as itself**, up to its closing quote. -/
theorem readText?_escapes (content rest : List Char) :
    readText? (content.flatMap escape ++ '"' :: rest) = some (content, rest) :=
  readText?_spelled (spellsContent_escapes content) rest

/-- A written text is its escapes between two quotes. -/
theorem writeText_append (text : String) (rest : List Char) :
    writeText text ++ rest = '"' :: (text.toList.flatMap escape ++ '"' :: rest) := by
  unfold writeText
  simp only [List.cons_append, List.nil_append, List.append_assoc]

end KeyedRecord.Json
