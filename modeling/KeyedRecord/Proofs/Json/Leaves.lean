/-
**The leaves of JSON are read as what they say.**

Reading a tree fails at its first offence, and otherwise gives the value that the tree means
(`Reads`). One attempt after the other fails at the first offence of the first one that has any
(`Reads.bind`). For a number the integer that it writes decides what comes of it: whether it is
small enough, an offence, or a floating-point number.

* `Reads`: how reading ends.
* `readNumber_reads`: what comes of a number.
-/

import KeyedRecord.Proofs.Json.Grammar

namespace KeyedRecord.Json

/-! ### Up to the first offence -/

/-- How reading ends that fails at the first offence, and otherwise has a result for which
something holds. -/
inductive Reads {α : Type} (offences : List Offence) (Holds : α → Prop) : Except ReadError α → Prop
  | ok {result : α} : offences = [] → Holds result → Reads offences Holds (.ok result)
  | rejected {offence : Offence} {others : List Offence} {cause : Rejection} :
      offences = offence :: others → cause.message = offence.message →
      Reads offences Holds (.error (.rejected cause))

namespace Reads

variable {α β : Type} {offences following : List Offence} {Holds : α → Prop} {Then : β → Prop}
  {attempt : Except ReadError α}

/-- One attempt after the other fails at the first offence of the first one that has any. -/
theorem bind {next : α → Except ReadError β} (first : Reads offences Holds attempt)
    (second : ∀ result, Holds result → Reads following Then (next result)) :
    Reads (offences ++ following) Then (attempt >>= next) := by
  cases first with
  | ok none holds =>
    rw [none]
    exact second _ holds
  | rejected found message =>
    rw [found]
    exact .rejected List.cons_append message

theorem imp {Weaker : α → Prop} (reads : Reads offences Holds attempt)
    (weaken : ∀ result, Holds result → Weaker result) : Reads offences Weaker attempt := by
  cases reads with
  | ok none holds => exact .ok none (weaken _ holds)
  | rejected found message => exact .rejected found message

/-- A last step that cannot fail. -/
theorem map {next : α → β} (first : Reads offences Holds attempt)
    (second : ∀ result, Holds result → Then (next result)) :
    Reads offences Then (attempt >>= fun result => .ok (next result)) := by
  have both : Reads (offences ++ []) Then (attempt >>= fun result => .ok (next result)) :=
    first.bind fun result holds => .ok rfl (second result holds)
  rwa [List.append_nil] at both

end Reads

/-- A tree has been read: the value is what it means, and of what follows at most blanks. -/
def IsReadAs (tree : Tree) (rest : List Char) (result : Value × List Char) : Prop :=
  tree.Means result.1 ∧ skipBlanks result.2 = skipBlanks rest

/-- A reader of trees reads the tree up to its first offence, whatever follows. -/
def ReadsTree (item : TextReader Value) (text : List Char) (tree : Tree) : Prop :=
  ∀ rest, EndsNumber rest → Reads tree.offences (IsReadAs tree rest) (item (text ++ rest))

/-! ### Leaves -/

/-- What comes of a leaf without an offence. -/
theorem Reads.leaf {tree : Tree} {value : Value} (rest : List Char) (leaf : tree.leaves = [tree])
    (none : tree.offence? = none) (means : tree.Means value) :
    Reads tree.offences (IsReadAs tree rest) (.ok (value, rest)) := by
  refine .ok ?_ ⟨means, rfl⟩
  simp [Tree.offences, leaf, none]

/-- What comes of a leaf that is an offence. -/
theorem Reads.offending {tree : Tree} {offence : Offence} {cause : Rejection} (rest : List Char)
    (leaf : tree.leaves = [tree]) (found : tree.offence? = some offence)
    (message : cause.message = offence.message) :
    Reads tree.offences (IsReadAs tree rest) (.error (.rejected cause)) := by
  refine @Reads.rejected _ _ _ offence [] cause ?_ message
  simp [Tree.offences, leaf, found]

/-! ### Numbers -/

namespace Numeral

variable {numeral : Numeral}

/-- A number that is no integer of 64 bits is a floating-point number. -/
theorem source?_of_double (fits : numeral.FitsDouble) (none : numeral.integer? = none) :
    numeral.source? = some (.double numeral.double) := by
  have double : numeral.double? = some numeral.double := if_pos fits
  rw [source?, none, double]
  rfl

theorem integer?_of_fraction (fraction : ¬numeral.IsInteger) : numeral.integer? = none := by
  unfold integer?
  split
  · rename_i noFraction noExponent
    exact absurd ⟨noFraction, noExponent⟩ fraction
  · rfl

theorem integer?_of_integer (whole : numeral.IsInteger) : numeral.integer? =
    if numeral.isNegative then
      if 0 < Text.decimalValue numeral.whole ∧
          Text.decimalValue numeral.whole ≤ 9223372036854775808 then
        some (.signed (Int64.ofInt (-Text.decimalValue numeral.whole)))
      else none
    else if Text.decimalValue numeral.whole < 18446744073709551616 then
      some (.unsigned (UInt64.ofNat (Text.decimalValue numeral.whole)))
    else none := by
  unfold integer?
  rw [whole.1, whole.2]
  simp only [Bool.and_eq_true, decide_eq_true_eq]

end Numeral

/-- A number is accepted as what its tree says. -/
def AcceptsNumeral (numeral : Numeral) (rest : List Char) : Prop :=
  Reads (Tree.number numeral).offences (IsReadAs (.number numeral) rest)
    (acceptNumeral numeral rest)

section

variable {numeral : Numeral} (fits : numeral.FitsDouble) (whole : numeral.IsInteger)
  (rest : List Char)

include fits in
theorem acceptsNumeral_double (noInteger : numeral.integer? = none) (long : ¬numeral.IsShort)
    (allowed : ¬(numeral.IsInteger ∧ 2 ^ 63 ≤ numeral.integer ∧ numeral.integer < 2 ^ 64)) :
    AcceptsNumeral numeral rest := by
  rw [AcceptsNumeral, acceptNumeral_eq (Numeral.source?_of_double fits noInteger)]
  exact .leaf rest rfl (if_neg allowed) (.double long)

include fits whole in
/-- With a sign, an integer of 64 bits is one, unless it is zero. -/
theorem acceptsNumeral_negative (sign : numeral.isNegative = true) :
    AcceptsNumeral numeral rest := by
  have found := Numeral.integer?_of_integer whole
  have integer : numeral.integer = -Text.decimalValue numeral.whole := by
    rw [Numeral.integer, if_pos sign]
  rw [if_pos sign] at found
  generalize Text.decimalValue numeral.whole = value at found integer
  by_cases bounded : 0 < value ∧ value ≤ 9223372036854775808
  · rw [if_pos bounded] at found
    have source : numeral.source? = some (.signed (Int64.ofInt (-value))) := by
      rw [Numeral.source?, found, Option.some_or]
    have exact : (Int64.ofInt (-value)).toInt = numeral.integer := by
      rw [integer]
      exact Int64.toInt_ofInt_of_le (by omega) (by omega)
    have short : numeral.IsShort :=
      ⟨whole, by omega, by omega, fun zero => by have := zero.2; omega⟩
    rw [AcceptsNumeral, acceptNumeral_eq source]
    exact .leaf rest rfl (if_neg (by omega)) (.integer short exact)
  · rw [if_neg bounded] at found
    refine acceptsNumeral_double fits rest found (fun short => ?_) (by omega)
    obtain ⟨-, lower, -, nonzero⟩ := short
    have zero : numeral.integer = 0 := by omega
    exact nonzero ⟨sign, zero⟩

include fits whole in
/-- Without a sign, an integer of 64 bits is one if it is small enough, and an offence if not. -/
theorem acceptsNumeral_unsigned (sign : numeral.isNegative = false) :
    AcceptsNumeral numeral rest := by
  have found := Numeral.integer?_of_integer whole
  have integer : numeral.integer = Text.decimalValue numeral.whole := by
    rw [Numeral.integer, sign]
    rfl
  rw [sign, if_neg Bool.false_ne_true] at found
  generalize Text.decimalValue numeral.whole = value at found integer
  by_cases bounded : value < 18446744073709551616
  · rw [if_pos bounded] at found
    have source : numeral.source? = some (.unsigned (UInt64.ofNat value)) := by
      rw [Numeral.source?, found, Option.some_or]
    have same : (UInt64.ofNat value).toNat = value := UInt64.toNat_ofNat_of_lt bounded
    rw [AcceptsNumeral, acceptNumeral_eq source]
    simp only [accept, Value.ofSource, Value.ofUnsigned, same]
    by_cases small : value < 9223372036854775808
    · have exact : (Int64.ofNat value).toInt = numeral.integer := by
        rw [integer]
        exact Int64.toInt_ofNat_of_lt small
      have short : numeral.IsShort := ⟨whole, by omega, by omega, by simp [sign]⟩
      rw [if_pos small]
      exact .leaf rest rfl (if_neg (by omega)) (.integer short exact)
    · have magnitude : numeral.integer.toNat = value := by omega
      have message : (Rejection.outOfRange (UInt64.ofNat value)).message =
          (Offence.tooLarge numeral.integer.toNat).message := by
        show "integer " ++ toString (UInt64.ofNat value).toNat ++ " out of range" =
          "integer " ++ toString numeral.integer.toNat ++ " out of range"
        rw [same, magnitude]
      rw [if_neg small]
      exact .offending rest rfl (if_pos ⟨whole, by omega, by omega⟩) message
  · rw [if_neg bounded] at found
    refine acceptsNumeral_double fits rest found (fun short => ?_) (by omega)
    have upper := short.2.2.1
    omega

end

/-- **What comes of a number** follows from the integer that it writes, if it writes one. -/
theorem readNumber_reads {text : List Char} {numeral : Numeral}
    (spelled : SpellsNumeral text numeral) (fits : numeral.FitsDouble) :
    ReadsTree readNumber text (.number numeral) := by
  intro rest ends
  rw [readNumber_spelled spelled ends]
  by_cases whole : numeral.IsInteger
  · cases sign : numeral.isNegative with
    | true => exact acceptsNumeral_negative fits whole rest sign
    | false => exact acceptsNumeral_unsigned fits whole rest sign
  · exact acceptsNumeral_double fits rest (Numeral.integer?_of_fraction whole)
      (fun short => whole short.1) fun large => whole large.1

end KeyedRecord.Json
