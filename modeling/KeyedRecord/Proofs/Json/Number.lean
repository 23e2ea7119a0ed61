/-
**Numbers in JSON.**

A numeral is its digits before and after the point and its exponent, which can be spelled in several
ways (`SpellsNumeral`). Whatever spells a numeral is read as that numeral, if nothing that could
belong to a number follows (`readNumeral_spelled`). The text of an integer is that of a numeral with
neither a fraction nor an exponent. The text of a floating-point
number is that of a numeral that has one of them and stands for the same decimal, wherever the
layout puts the point (`exists_numeral`); so the two are told apart.

* `readNumber_writeInteger`: the text of an integer of 64 bits is read as that integer.
* `readNumber_numberText`: the text of a finite floating-point number is read as that number.
-/

import KeyedRecord.Json.Reader
import KeyedRecord.Json.Writer
import KeyedRecord.Proofs.Number.Shortest

namespace KeyedRecord.Json

open Text (decimalValue)

/-! ### The text of a numeral -/

namespace Numeral

def fractionText : Option (List Char) → List Char
  | some digits => '.' :: digits
  | none => []

/-- The text of an exponent, which always has a sign. -/
def exponentText : Option Int → List Char
  | some exponent =>
    'e' :: (if exponent < 0 then '-' else '+') :: decimalDigits exponent.natAbs
  | none => []

/-- The text of the digits and the exponent. -/
def magnitudeText (numeral : Numeral) : List Char :=
  numeral.whole ++ fractionText numeral.fraction ++ exponentText numeral.exponent

def text (numeral : Numeral) : List Char :=
  if numeral.isNegative then '-' :: numeral.magnitudeText else numeral.magnitudeText

/-- The digits are digits, some stand before the point and behind it, and a zero before it stands
alone. -/
structure IsProper (numeral : Numeral) : Prop where
  whole : numeral.whole ≠ []
  wholeDigits : ∀ c ∈ numeral.whole, c.isDigit = true
  leading : numeral.whole.length = 1 ∨ numeral.whole.head? ≠ some '0'
  fraction : ∀ digits, numeral.fraction = some digits →
    digits ≠ [] ∧ ∀ c ∈ digits, c.isDigit = true

end Numeral

def IsDigits (digits : List Char) : Prop :=
  digits ≠ [] ∧ ∀ c ∈ digits, c.isDigit = true

/-- The characters spell an exponent, or none. -/
inductive SpellsExponent : List Char → Option Int → Prop
  | none : SpellsExponent [] none
  | plain {mark : Char} {digits : List Char} : mark = 'e' ∨ mark = 'E' → IsDigits digits →
      SpellsExponent (mark :: digits) (some (decimalValue digits))
  | plus {mark : Char} {digits : List Char} : mark = 'e' ∨ mark = 'E' → IsDigits digits →
      SpellsExponent (mark :: '+' :: digits) (some (decimalValue digits))
  | minus {mark : Char} {digits : List Char} : mark = 'e' ∨ mark = 'E' → IsDigits digits →
      SpellsExponent (mark :: '-' :: digits) (some (-(decimalValue digits : Int)))

/-- The characters spell a number: a sign, the digits before the point, the point and the digits
behind it, and an exponent. Only the digits before the point have to be there. -/
def SpellsNumeral (text : List Char) (numeral : Numeral) : Prop :=
  numeral.IsProper ∧ ∃ exponent, SpellsExponent exponent numeral.exponent ∧
    text = (if numeral.isNegative then ['-'] else []) ++
      (numeral.whole ++ Numeral.fractionText numeral.fraction ++ exponent)

theorem isDigits_digits (n : Nat) : IsDigits (decimalDigits n) :=
  ⟨digits_ne_nil n, fun _ => isDigit_of_mem_digits⟩

theorem spellsExponent_text (exponent : Option Int) :
    SpellsExponent (Numeral.exponentText exponent) exponent := by
  cases exponent with
  | none => exact .none
  | some exponent =>
    have spelled := isDigits_digits exponent.natAbs
    rcases lt_or_ge exponent 0 with negative | positive
    · have value : exponent = -(decimalValue (decimalDigits exponent.natAbs) : Int) := by
        rw [decimalValue_digits]
        omega
      have minus := SpellsExponent.minus (.inl rfl) spelled
      rw [← value] at minus
      rw [Numeral.exponentText, if_pos negative]
      exact minus
    · have value : exponent = (decimalValue (decimalDigits exponent.natAbs) : Int) := by
        rw [decimalValue_digits]
        omega
      have plus := SpellsExponent.plus (.inl rfl) spelled
      rw [← value] at plus
      rw [Numeral.exponentText, if_neg (Int.not_lt_of_ge positive)]
      exact plus

/-- The text of a numeral spells it. -/
theorem spellsNumeral_text {numeral : Numeral} (proper : numeral.IsProper) :
    SpellsNumeral numeral.text numeral := by
  refine ⟨proper, Numeral.exponentText numeral.exponent, spellsExponent_text _, ?_⟩
  unfold Numeral.text
  split
  · rfl
  · rfl

/-- What follows a number: nothing that could belong to it. -/
def EndsNumber (rest : List Char) : Prop :=
  ∀ c, rest.head? = some c → c.isDigit = false ∧ c ≠ '.' ∧ c ≠ 'e' ∧ c ≠ 'E'

/-- What a number starts with: its sign or a digit. -/
def StartsNumber (text : List Char) : Prop :=
  ∃ c tail, text = c :: tail ∧ (c = '-' ∨ c.isDigit = true)

theorem startsNumber_digits (n : Nat) : StartsNumber (decimalDigits n) := by
  obtain ⟨c, tail, digits⟩ := List.exists_cons_of_ne_nil (digits_ne_nil n)
  refine ⟨c, tail, digits, .inr (isDigit_of_mem_digits (n := n) ?_)⟩
  rw [digits]
  exact List.mem_cons_self

/-- What spells a number starts with its sign or a digit. -/
theorem startsNumber_spelled {text : List Char} {numeral : Numeral}
    (spelled : SpellsNumeral text numeral) : StartsNumber text := by
  obtain ⟨proper, exponent, -, rfl⟩ := spelled
  obtain ⟨c, digits, whole⟩ := List.exists_cons_of_ne_nil proper.whole
  have isDigit : c.isDigit = true := by
    refine proper.wholeDigits c ?_
    rw [whole]
    exact List.mem_cons_self
  rw [whole]
  cases numeral.isNegative with
  | true => exact ⟨'-', _, rfl, .inl rfl⟩
  | false => exact ⟨c, _, rfl, .inr isDigit⟩

/-! ### Reading it back -/

/-- Digits are read up to what is none. -/
theorem readDigits_append {digits rest : List Char} (present : digits ≠ [])
    (proper : ∀ c ∈ digits, c.isDigit = true)
    (ends : ∀ c, rest.head? = some c → c.isDigit = false) :
    readDigits (digits ++ rest) = .ok (digits, rest) := by
  have stops : rest.takeWhile Char.isDigit = [] ∧ rest.dropWhile Char.isDigit = rest := by
    cases rest with
    | nil => exact ⟨rfl, rfl⟩
    | cons c rest =>
      have noDigit := ends c rfl
      exact ⟨List.takeWhile_cons_of_neg (by simp [noDigit]),
        List.dropWhile_cons_of_neg (by simp [noDigit])⟩
  have taken : (digits ++ rest).takeWhile Char.isDigit = digits := by
    rw [List.takeWhile_append_of_pos proper, stops.1, List.append_nil]
  have dropped : (digits ++ rest).dropWhile Char.isDigit = rest := by
    rw [List.dropWhile_append_of_pos proper, stops.2]
  unfold readDigits
  rw [taken, dropped]
  split
  · exact absurd rfl present
  · rfl

/-- Digits before the point are read if a zero among them stands alone. -/
theorem readWhole_append {digits rest : List Char} (present : digits ≠ [])
    (proper : ∀ c ∈ digits, c.isDigit = true)
    (leading : digits.length = 1 ∨ digits.head? ≠ some '0')
    (ends : ∀ c, rest.head? = some c → c.isDigit = false) :
    readWhole (digits ++ rest) = .ok (digits, rest) := by
  have allowed : ¬(digits.length != 1 && digits.head? == some '0') = true := by
    rw [Bool.and_eq_true, bne_iff_ne, beq_iff_eq]
    rintro ⟨more, zero⟩
    exact leading.elim more fun nonzero => nonzero zero
  unfold readWhole
  rw [readDigits_append present proper ends]
  show (if _ then _ else _) = _
  rw [if_neg allowed]

theorem readExponent_spelled {text : List Char} {exponent : Option Int}
    (spelled : SpellsExponent text exponent) {rest : List Char} (ends : EndsNumber rest) :
    readExponent (text ++ rest) = .ok (exponent, rest) := by
  have read : ∀ {digits : List Char}, IsDigits digits →
      readDigits (digits ++ rest) = .ok (digits, rest) := fun spelled =>
    readDigits_append spelled.1 spelled.2 fun c head => (ends c head).1
  have isMark : ∀ {mark : Char}, mark = 'e' ∨ mark = 'E' → (mark == 'e' || mark == 'E') = true :=
    fun either => by simpa using either
  cases spelled with
  | none =>
    cases rest with
    | nil => rfl
    | cons c rest =>
      obtain ⟨-, -, lower, upper⟩ := ends c rfl
      exact if_neg (by simp [lower, upper])
  | plain mark digits =>
    -- The first digit is taken for no sign.
    obtain ⟨c, more, rfl⟩ := List.exists_cons_of_ne_nil digits.1
    have isDigit := digits.2 c List.mem_cons_self
    simp only [List.cons_append, readExponent, isMark mark, if_true]
    split
    · rename_i same
      obtain rfl := (List.cons.inj same).1
      exact absurd isDigit (by decide)
    · rename_i same
      obtain rfl := (List.cons.inj same).1
      exact absurd isDigit (by decide)
    · rw [← List.cons_append, read digits]
      rfl
  | plus mark digits =>
    simp only [List.cons_append, readExponent, isMark mark, if_true, read digits]
    rfl
  | minus mark digits =>
    simp only [List.cons_append, readExponent, isMark mark, if_true, read digits]
    rfl

theorem readFraction_append {fraction : Option (List Char)}
    (proper : ∀ digits, fraction = some digits → digits ≠ [] ∧ ∀ c ∈ digits, c.isDigit = true)
    {rest : List Char} (ends : ∀ c, rest.head? = some c → c.isDigit = false ∧ c ≠ '.') :
    readFraction (Numeral.fractionText fraction ++ rest) = .ok (fraction, rest) := by
  cases fraction with
  | none =>
    show readFraction rest = _
    unfold readFraction
    split
    · exact absurd rfl (ends '.' rfl).2
    · rfl
  | some digits =>
    obtain ⟨present, allDigits⟩ := proper digits rfl
    show (readDigits (digits ++ rest) >>= _) = _
    rw [readDigits_append present allDigits fun c head => (ends c head).1]
    rfl

/-- An exponent is taken neither for a digit nor for a point. -/
theorem SpellsExponent.ends {text : List Char} {exponent : Option Int}
    (spelled : SpellsExponent text exponent) {rest : List Char} (ends : EndsNumber rest) :
    ∀ c, (text ++ rest).head? = some c → c.isDigit = false ∧ c ≠ '.' := by
  have mark : ∀ {mark : Char}, mark = 'e' ∨ mark = 'E' → mark.isDigit = false ∧ mark ≠ '.' := by
    rintro mark (rfl | rfl)
    · exact ⟨by decide, by decide⟩
    · exact ⟨by decide, by decide⟩
  intro c head
  cases spelled with
  | none => exact ⟨(ends c head).1, (ends c head).2.1⟩
  | plain isMark _ | plus isMark _ | minus isMark _ =>
    cases head
    exact mark isMark

/-- The digits and the exponent of a numeral are read. -/
theorem readMagnitude_spelled {numeral : Numeral} (proper : numeral.IsProper)
    {exponent : List Char} (spelled : SpellsExponent exponent numeral.exponent)
    {rest : List Char} (ends : EndsNumber rest) :
    (do
      let (whole, text) ← readWhole
        (numeral.whole ++ Numeral.fractionText numeral.fraction ++ exponent ++ rest)
      let (fraction, text) ← readFraction text
      let (exponent, text) ← readExponent text
      return ((⟨numeral.isNegative, whole, fraction, exponent⟩ : Numeral), text)) =
      Except.ok (ε := ReadError) (numeral, rest) := by
  have exponentEnds := spelled.ends ends
  -- Neither a point nor an exponent is taken for a digit.
  have fractionEnds : ∀ c, (Numeral.fractionText numeral.fraction ++
      (exponent ++ rest)).head? = some c → c.isDigit = false := by
    intro c head
    cases written : numeral.fraction with
    | none =>
      rw [written] at head
      exact (exponentEnds c head).1
    | some digits =>
      rw [written] at head
      cases head
      decide
  rw [List.append_assoc, List.append_assoc,
    readWhole_append proper.whole proper.wholeDigits proper.leading fractionEnds]
  show (readFraction _ >>= _) = _
  rw [readFraction_append proper.fraction exponentEnds]
  show (readExponent _ >>= _) = _
  rw [readExponent_spelled spelled ends]
  rfl

/-- **Whatever spells a numeral is read as the numeral.** -/
theorem readNumeral_spelled {text : List Char} {numeral : Numeral}
    (spelled : SpellsNumeral text numeral) {rest : List Char} (ends : EndsNumber rest) :
    readNumeral (text ++ rest) = .ok (numeral, rest) := by
  obtain ⟨proper, exponent, spelledExponent, rfl⟩ := spelled
  have magnitude := readMagnitude_spelled proper spelledExponent ends
  unfold readNumeral
  cases sign : numeral.isNegative with
  | true =>
    rw [sign] at magnitude
    exact magnitude
  | false =>
    rw [sign] at magnitude
    obtain ⟨c, digits, whole⟩ := List.exists_cons_of_ne_nil proper.whole
    have noSign : c ≠ '-' := by
      rintro rfl
      refine absurd (proper.wholeDigits '-' ?_) (by decide)
      rw [whole]
      exact List.mem_cons_self
    rw [if_neg Bool.false_ne_true, List.nil_append]
    rw [whole] at magnitude ⊢
    split
    rename_i signed
    split at signed
    · rename_i same
      exact absurd (List.cons.inj same).1 noSign
    · cases signed
      exact magnitude

/-- What comes of a numeral when it has been read. -/
def acceptNumeral (numeral : Numeral) (rest : List Char) : Except ReadError (Value × List Char) :=
  match numeral.source? with
  | some source => accept source rest
  | none => .error .malformed

theorem acceptNumeral_eq {numeral : Numeral} {source : Source}
    (found : numeral.source? = some source) (rest : List Char) :
    acceptNumeral numeral rest = accept source rest := by
  rw [acceptNumeral, found]

/-- What comes of a number is decided by the numeral alone. -/
theorem readNumber_spelled {text : List Char} {numeral : Numeral}
    (spelled : SpellsNumeral text numeral) {rest : List Char} (ends : EndsNumber rest) :
    readNumber (text ++ rest) = acceptNumeral numeral rest := by
  unfold readNumber
  rw [readNumeral_spelled spelled ends]
  rfl

/-! ### Integers -/

namespace Numeral

def ofNat (isNegative : Bool) (n : Nat) : Numeral :=
  ⟨isNegative, decimalDigits n, none, none⟩

theorem ofNat_isProper (isNegative : Bool) (n : Nat) : (ofNat isNegative n).IsProper where
  whole := digits_ne_nil n
  wholeDigits := fun _ => isDigit_of_mem_digits
  leading := digits_leading n
  fraction := fun _ absent => by cases absent

theorem ofNat_text (isNegative : Bool) (n : Nat) :
    (ofNat isNegative n).text = if isNegative then '-' :: decimalDigits n else decimalDigits n := by
  have magnitude : (ofNat isNegative n).magnitudeText = decimalDigits n := by
    unfold magnitudeText
    exact (List.append_nil _).trans (List.append_nil _)
  unfold text
  rw [magnitude]
  rfl

end Numeral

/-- The digits of a number without a sign are read as an integer, up to the greatest one. -/
theorem readNumber_digits {n : Nat} (bounded : n < 9223372036854775808) {rest : List Char}
    (ends : EndsNumber rest) :
    readNumber (decimalDigits n ++ rest) = .ok (.integer (Int64.ofNat n), rest) := by
  have source : (Numeral.ofNat false n).source? = some (.unsigned (UInt64.ofNat n)) := by
    have fits : n < 18446744073709551616 := by omega
    simp only [Numeral.source?, Numeral.integer?, Numeral.ofNat, decimalValue_digits,
      Bool.false_eq_true, if_false, if_pos fits, Option.some_or]
  have value : Value.ofUnsigned (UInt64.ofNat n) = .ok (.integer (Int64.ofNat n)) := by
    have same : (UInt64.ofNat n).toNat = n := UInt64.toNat_ofNat_of_lt (bounded.trans (by decide))
    simp only [Value.ofUnsigned, same, if_pos bounded]
  have read := readNumber_spelled (spellsNumeral_text (Numeral.ofNat_isProper false n)) ends
  rw [Numeral.ofNat_text, if_neg Bool.false_ne_true, acceptNumeral_eq source] at read
  simp only [accept, Value.ofSource, value] at read
  exact read

/-- Digits after a sign are read as an integer, down to the least one. -/
theorem readNumber_negative {n : Nat} (positive : 0 < n) (bounded : n ≤ 9223372036854775808)
    {rest : List Char} (ends : EndsNumber rest) :
    readNumber ('-' :: decimalDigits n ++ rest) = .ok (.integer (Int64.ofInt (-n)), rest) := by
  have source : (Numeral.ofNat true n).source? = some (.signed (Int64.ofInt (-n))) := by
    simp only [Numeral.source?, Numeral.integer?, Numeral.ofNat, decimalValue_digits, if_true,
      positive, bounded, decide_true, Bool.and_true, Option.some_or]
  have read := readNumber_spelled (spellsNumeral_text (Numeral.ofNat_isProper true n)) ends
  rw [Numeral.ofNat_text, if_pos rfl, acceptNumeral_eq source] at read
  exact read

/-- **The text of an integer of 64 bits is read as that integer.** -/
theorem readNumber_writeInteger (value : Int64) {rest : List Char} (ends : EndsNumber rest) :
    readNumber (writeInteger value.toInt ++ rest) = .ok (.integer value, rest) := by
  have lower : -9223372036854775808 ≤ value.toInt := Int64.le_toInt value
  have upper : value.toInt < 9223372036854775808 := Int64.toInt_lt value
  unfold writeInteger
  rcases lt_or_ge value.toInt 0 with negative | positive
  · have magnitude : -(value.toInt.natAbs : Int) = value.toInt := by omega
    rw [if_pos negative, readNumber_negative (by omega) (by omega) ends, magnitude,
      Int64.ofInt_toInt]
  · have magnitude : Int64.ofNat value.toInt.natAbs = value := by
      rw [← Int64.ofInt_eq_ofNat, Int.natAbs_of_nonneg positive, Int64.ofInt_toInt]
    rw [if_neg (Int.not_lt_of_ge positive), readNumber_digits (by omega) ends, magnitude]

theorem startsNumber_writeInteger (value : Int) : StartsNumber (writeInteger value) := by
  unfold writeInteger
  split
  · exact ⟨'-', _, rfl, .inl rfl⟩
  · exact startsNumber_digits _

/-! ### Floating-point numbers -/

/-- The numeral is written with a fraction or an exponent. -/
def Numeral.ShowsPoint (numeral : Numeral) : Prop :=
  numeral.fraction ≠ none ∨ numeral.exponent ≠ none

/-- What is written with a fraction or an exponent is no integer. -/
theorem Numeral.ShowsPoint.source? {numeral : Numeral} (shows : numeral.ShowsPoint) :
    numeral.source? = numeral.double?.map Source.double := by
  have noInteger : numeral.integer? = none := by
    unfold Numeral.integer?
    split
    · rename_i fraction exponent
      exact (shows.elim (fun present => present fraction) fun present => present exponent).elim
    · rfl
  unfold Numeral.source?
  rw [noInteger, Option.none_or]

/-- The text is that of a numeral with the sign, with a fraction or an exponent, that stands for
the decimal. -/
def Writes (text : List Char) (isNegative : Bool) (decimal : Decimal) : Prop :=
  ∃ numeral : Numeral, numeral.isNegative = isNegative ∧ numeral.IsProper ∧ numeral.ShowsPoint ∧
    numeral.magnitudeText = text ∧ decimal.Same numeral.decimal

variable {layout : DecimalLayout} {decimal : Decimal} (isNegative : Bool)

/-- A decimal below one, with zeros behind the point. -/
theorem writes_below_one (zeros : Nat)
    (places : decimal.exponent + (decimalDigits decimal.coefficient).length = -zeros) :
    Writes ('0' :: '.' :: (List.replicate zeros '0' ++ decimalDigits decimal.coefficient))
      isNegative decimal := by
  refine ⟨⟨isNegative, ['0'], some (List.replicate zeros '0' ++
    decimalDigits decimal.coefficient), none⟩, rfl, ⟨?_, ?_, .inl rfl, ?_⟩, .inl ?_, ?_,
    .of_eq ?_ ?_⟩
  · exact List.cons_ne_nil _ _
  · intro c member
    rw [List.mem_singleton.mp member]
    decide
  · intro digits present
    cases present
    refine ⟨List.append_ne_nil_of_right_ne_nil _ (digits_ne_nil _), fun c member => ?_⟩
    rcases List.mem_append.mp member with zero | digit
    · rw [List.eq_of_mem_replicate zero]
      decide
    · exact isDigit_of_mem_digits digit
  · exact Option.some_ne_none _
  · exact List.append_nil _
  · show decimal.coefficient =
      decimalValue (List.replicate (zeros + 1) '0' ++ decimalDigits decimal.coefficient)
    rw [decimalValue_zeros_append, decimalValue_digits]
  · show decimal.exponent =
      0 - ((List.replicate zeros '0' ++ decimalDigits decimal.coefficient).length : Int)
    rw [List.length_append, List.length_replicate]
    omega

/-- A decimal with its point between its digits. -/
theorem writes_between {places : Nat} (positive : 0 < places)
    (less : places < (decimalDigits decimal.coefficient).length)
    (exponent : decimal.exponent + (decimalDigits decimal.coefficient).length = places) :
    Writes ((decimalDigits decimal.coefficient).take places ++
      '.' :: (decimalDigits decimal.coefficient).drop places) isNegative decimal := by
  refine ⟨⟨isNegative, (decimalDigits decimal.coefficient).take places,
    some ((decimalDigits decimal.coefficient).drop places), none⟩, rfl, ⟨?_, ?_, ?_, ?_⟩,
    .inl ?_, ?_, .of_eq ?_ ?_⟩
  · rw [Ne, List.take_eq_nil_iff]
    exact fun either => either.elim positive.ne' (digits_ne_nil _)
  · exact fun c member => isDigit_of_mem_digits (List.mem_of_mem_take member)
  · right
    rw [List.head?_take, if_neg positive.ne']
    exact (digits_leading _).resolve_left (by omega)
  · intro digits present
    cases present
    refine ⟨?_, fun c member => isDigit_of_mem_digits (List.mem_of_mem_drop member)⟩
    rw [Ne, List.drop_eq_nil_iff]
    omega
  · exact Option.some_ne_none _
  · exact List.append_nil _
  · show decimal.coefficient = decimalValue ((decimalDigits decimal.coefficient).take places ++
      (decimalDigits decimal.coefficient).drop places)
    rw [List.take_append_drop, decimalValue_digits]
  · show decimal.exponent =
      0 - (((decimalDigits decimal.coefficient).drop places).length : Int)
    rw [List.length_drop]
    omega

/-- A whole decimal, with zeros before the point and one behind it. -/
theorem writes_whole (nonzero : decimal.coefficient = 0 → decimal.exponent = 0) {zeros : Nat}
    (exponent : decimal.exponent = zeros) :
    Writes (decimalDigits decimal.coefficient ++ List.replicate zeros '0' ++ ['.', '0'])
      isNegative decimal := by
  refine ⟨⟨isNegative, decimalDigits decimal.coefficient ++ List.replicate zeros '0',
    some ['0'], none⟩, rfl, ⟨?_, ?_, ?_, ?_⟩, .inl ?_, ?_,
    @Decimal.Same.of_scaled _ _ (zeros + 1) ?_ ?_⟩
  · exact List.append_ne_nil_of_left_ne_nil (digits_ne_nil _) _
  · intro c member
    rcases List.mem_append.mp member with digit | zero
    · exact isDigit_of_mem_digits digit
    · rw [List.eq_of_mem_replicate zero]
      decide
  · rcases Nat.eq_zero_or_pos decimal.coefficient with zero | positive
    · have none : zeros = 0 := by
        have := nonzero zero
        omega
      left
      rw [zero, none]
      rfl
    · right
      have head := digits_head_ne_zero positive
      obtain ⟨c, rest, digits⟩ := List.exists_cons_of_ne_nil (digits_ne_nil decimal.coefficient)
      rw [digits] at head ⊢
      exact head
  · intro digits present
    cases present
    refine ⟨List.cons_ne_nil _ _, fun c member => ?_⟩
    rw [List.mem_singleton.mp member]
    decide
  · exact Option.some_ne_none _
  · exact List.append_nil _
  · show decimalValue (decimalDigits decimal.coefficient ++ List.replicate zeros '0' ++
      List.replicate 1 '0') = _
    rw [List.append_assoc, List.replicate_append_replicate, decimalValue_append_zeros,
      decimalValue_digits]
  · show decimal.exponent = 0 - ((1 : Nat) : Int) + (zeros + 1 : Nat)
    omega

/-- A decimal with an exponent. -/
theorem writes_withExponent {power : Int}
    (exponent : power = decimal.exponent + (decimalDigits decimal.coefficient).length - 1) :
    Writes (DecimalLayout.withExponent (decimalDigits decimal.coefficient) power)
      isNegative decimal := by
  have positive := length_digits_pos decimal.coefficient
  have first : ((decimalDigits decimal.coefficient).take 1).length = 1 := by
    rw [List.length_take]
    omega
  have whole : ∀ c ∈ (decimalDigits decimal.coefficient).take 1, c.isDigit = true :=
    fun c member => isDigit_of_mem_digits (List.mem_of_mem_take member)
  have present : (decimalDigits decimal.coefficient).take 1 ≠ [] :=
    List.ne_nil_of_length_pos (by omega)
  have shows : ∀ fraction : Option (List Char), Numeral.ShowsPoint ⟨isNegative,
      (decimalDigits decimal.coefficient).take 1, fraction, some power⟩ :=
    fun _ => .inr (Option.some_ne_none power)
  unfold DecimalLayout.withExponent
  by_cases single : (decimalDigits decimal.coefficient).length ≤ 1
  · refine ⟨⟨isNegative, (decimalDigits decimal.coefficient).take 1, none, some power⟩, rfl,
      ⟨present, whole, .inl first, fun _ absent => by cases absent⟩, shows none, ?_,
      .of_eq ?_ ?_⟩
    · rw [if_pos single]
      rfl
    · show decimal.coefficient =
        decimalValue ((decimalDigits decimal.coefficient).take 1 ++ [])
      rw [List.append_nil, List.take_of_length_le single, decimalValue_digits]
    · show decimal.exponent = power - ((0 : Nat) : Int)
      omega
  · refine ⟨⟨isNegative, (decimalDigits decimal.coefficient).take 1,
      some ((decimalDigits decimal.coefficient).drop 1), some power⟩, rfl,
      ⟨present, whole, .inl first, fun digits present => ?_⟩, shows _, ?_, .of_eq ?_ ?_⟩
    · cases present
      refine ⟨?_, fun c member => isDigit_of_mem_digits (List.mem_of_mem_drop member)⟩
      rw [Ne, List.drop_eq_nil_iff]
      exact single
    · rw [if_neg single]
      rfl
    · show decimal.coefficient = decimalValue ((decimalDigits decimal.coefficient).take 1 ++
        (decimalDigits decimal.coefficient).drop 1)
      rw [List.take_append_drop, decimalValue_digits]
    · show decimal.exponent =
        power - (((decimalDigits decimal.coefficient).drop 1).length : Int)
      rw [List.length_drop]
      omega

/-- **A layout that shows the point writes a numeral that stands for the decimal.** -/
theorem writes_ofDecimal (showsPoint : layout.showsPoint = true)
    (nonzero : decimal.coefficient = 0 → decimal.exponent = 0) :
    Writes (layout.ofDecimal decimal) isNegative decimal := by
  have positive := length_digits_pos decimal.coefficient
  have positional : Writes (layout.withoutExponent (decimalDigits decimal.coefficient)
      (decimal.exponent + (decimalDigits decimal.coefficient).length - 1)) isNegative decimal := by
    unfold DecimalLayout.withoutExponent
    split
    · exact writes_below_one isNegative _ (by omega)
    rename_i above
    generalize count :
      (decimal.exponent + (decimalDigits decimal.coefficient).length - 1).toNat + 1 = places
    show Writes ((decimalDigits decimal.coefficient).take places ++
      List.replicate (places - (decimalDigits decimal.coefficient).length) '0' ++
      layout.fraction ((decimalDigits decimal.coefficient).drop places)) isNegative decimal
    unfold DecimalLayout.fraction
    rcases lt_or_ge decimal.exponent 0 with negative | whole
    · have more : ((decimalDigits decimal.coefficient).drop places).isEmpty = false := by
        rw [List.isEmpty_eq_false_iff, Ne, List.drop_eq_nil_iff]
        omega
      have noZeros : places - (decimalDigits decimal.coefficient).length = 0 := by omega
      rw [more, noZeros, List.replicate_zero, List.append_nil, if_neg Bool.false_ne_true]
      exact writes_between isNegative (by omega) (by omega) (by omega)
    · have none : (decimalDigits decimal.coefficient).drop places = [] :=
        List.drop_eq_nil_of_le (by omega)
      rw [none, List.isEmpty_nil, if_pos rfl, if_pos showsPoint,
        List.take_of_length_le (by omega)]
      exact writes_whole isNegative nonzero (by omega)
  exact iteInduction (motive := fun text => Writes text isNegative decimal)
    (fun _ => positional) fun _ => writes_withExponent isNegative rfl

/-- The text of a finite floating-point number is that of a numeral that stands for the number. -/
theorem exists_numeral {number : Double} (finite : number.isFinite = true) :
    ∃ numeral : Numeral, numeral.IsProper ∧ numeral.source? = some (.double number) ∧
      (numberLayout.text number).toList = numeral.text := by
  obtain ⟨numeral, sign, proper, shows, text, same⟩ :=
    @writes_ofDecimal numberLayout (binary64.shortest numberLayout.tie number.magnitude)
      number.isNegative rfl Decimal.shortest_exponent
  refine ⟨numeral, proper, ?_, ?_⟩
  · have magnitude : numeral.decimal.magnitude binary64 = number.magnitude :=
      Decimal.magnitude_of_same_shortest (of_decide_eq_true finite) same
    have back : numeral.decimal.toBinary numeral.isNegative = number := by
      obtain ⟨isNegative, _, _⟩ := number
      simp only [Decimal.toBinary, Binary.mk.injEq]
      exact ⟨sign, magnitude⟩
    rw [shows.source?]
    unfold Numeral.double?
    rw [back, if_pos finite]
    rfl
  · unfold DecimalLayout.text Numeral.text
    rw [String.toList_ofList, sign, text]

/-- **The text of a finite floating-point number is read as that number**, with its sign and all
its bits. -/
theorem readNumber_numberText {number : Double} (finite : number.isFinite = true)
    {rest : List Char} (ends : EndsNumber rest) :
    readNumber ((numberLayout.text number).toList ++ rest) = .ok (.double number, rest) := by
  obtain ⟨numeral, proper, source, text⟩ := exists_numeral finite
  rw [text, readNumber_spelled (spellsNumeral_text proper) ends, acceptNumeral_eq source]
  rfl

theorem startsNumber_numberText {number : Double} (finite : number.isFinite = true) :
    StartsNumber (numberLayout.text number).toList := by
  obtain ⟨numeral, proper, -, text⟩ := exists_numeral finite
  rw [text]
  exact startsNumber_spelled (spellsNumeral_text proper)

end KeyedRecord.Json
