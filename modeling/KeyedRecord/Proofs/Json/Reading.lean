/-
**Well-formed JSON is read as what it says.**

For a leaf it is known what comes of it. For an array or an object this follows from what comes of
each part, since reading goes through the parts in order and stops at the first one that fails. So
it is the first offence in a text that keeps it from having a value.

* `readArray_spelled`, `readObject_spelled`: what comes of arrays and objects.
* `readValue_spelled`: what comes of a tree.
* `read_spelled`: when a well-formed text has a value, which one, and why it has none otherwise.
-/

import KeyedRecord.Proofs.Json.Leaves
import KeyedRecord.Proofs.Json.RoundTrip

namespace KeyedRecord.Json

/-! ### Arrays -/

theorem commaSeparated_cons (text : List Char) (texts : List (List Char)) :
    ∃ more, commaSeparated (text :: texts) = text ++ more := by
  cases texts with
  | nil => exact ⟨[], (List.append_nil text).symm⟩
  | cons second texts => exact ⟨_, rfl⟩

section Parts

variable {item : TextReader Value}

/-- **What comes of the items of an array** follows from what comes of each of them. -/
theorem readItems_spelled {items : List (List Char × Tree)} (rest : List Char)
    (each : ∀ part ∈ items, ReadsTree item part.1 part.2) (present : items ≠ []) {bound : Nat}
    (enough : items.length ≤ bound) :
    Reads (items.flatMap fun part => part.2.offences)
      (fun result => List.Forall₂ Tree.Means (items.map Prod.snd) result.1 ∧ result.2 = rest)
      (readItems item bound (commaSeparated (items.map Prod.fst) ++ ']' :: rest)) := by
  induction items generalizing bound with
  | nil => exact absurd rfl present
  | cons first others ih =>
    obtain ⟨bound, rfl⟩ : ∃ less, bound = less + 1 :=
      ⟨bound - 1, by rw [List.length_cons] at enough; omega⟩
    obtain ⟨head, tail⟩ := List.forall_mem_cons.mp each
    rw [readItems, List.flatMap_cons]
    cases others with
    | nil =>
      refine (head (']' :: rest) (.cons (by decide) rest)).bind fun result holds => ?_
      obtain ⟨value, left⟩ := result
      obtain ⟨means, stops⟩ := holds
      have bracket : skipBlanks left = ']' :: rest := stops.trans (skipBlanks_cons (by decide) rest)
      simp only [bracket]
      exact .ok rfl ⟨.cons means .nil, rfl⟩
    | cons second others =>
      have fewer : (second :: others).length ≤ bound := Nat.le_of_succ_le_succ enough
      have following := ih tail (List.cons_ne_nil _ _) fewer
      have arranged : commaSeparated ((first :: second :: others).map Prod.fst) ++ ']' :: rest =
          first.1 ++ ',' :: (commaSeparated ((second :: others).map Prod.fst) ++ ']' :: rest) :=
        List.append_assoc _ _ _
      rw [arranged]
      refine (head _ (.cons (by decide) _)).bind fun result holds => ?_
      obtain ⟨value, left⟩ := result
      obtain ⟨means, stops⟩ := holds
      have comma := stops.trans (skipBlanks_cons (by decide) _)
      simp only [comma]
      exact following.map fun result holds => ⟨.cons means holds.1, holds.2⟩

/-- **What comes of an array** that is not empty. -/
theorem readArray_spelled {items : List (List Char × Tree)} (rest : List Char)
    (each : ∀ part ∈ items, ReadsTree item part.1 part.2) (present : items ≠ [])
    (spelled : ∀ part ∈ items, Spells part.1 part.2) :
    Reads (Tree.array (items.map Prod.snd)).offences
      (IsReadAs (.array (items.map Prod.snd)) rest)
      (readArray item (commaSeparated (items.map Prod.fst) ++ ']' :: rest)) := by
  have opens : StartsPart
      (skipBlanks (commaSeparated (items.map Prod.fst) ++ ']' :: rest)) := by
    obtain ⟨first, others, rfl⟩ := List.exists_cons_of_ne_nil present
    obtain ⟨more, separated⟩ := commaSeparated_cons first.1 (others.map Prod.fst)
    rw [List.map_cons, separated, List.append_assoc]
    exact (spelled first List.mem_cons_self).opens _
  have enough : items.length ≤ (commaSeparated (items.map Prod.fst) ++ ']' :: rest).length :=
    (List.length_map Prod.fst).symm.trans_le (length_le_closed _ _ _)
  have all := readItems_spelled rest each present enough
  rw [Tree.offences_array, List.flatMap_map, readArray_of_starts opens]
  exact all.map fun result holds => ⟨.array holds.1, by rw [holds.2]⟩

/-! ### Objects -/

/-- The name of a member is read, with the colon after it. -/
theorem readName_spelled {text : List Char} {name : String} (spelled : SpellsName text name)
    (rest : List Char) : readName (text ++ ':' :: rest) = .ok (name, rest) := by
  obtain ⟨before, body, after, areBlanks, areBlanks', content, rfl⟩ := spelled
  have arranged : before ++ '"' :: body ++ '"' :: after ++ ':' :: rest =
      before ++ '"' :: (body ++ '"' :: (after ++ ':' :: rest)) := by simp
  have quote : isBlank '"' = false := by decide
  have colon : isBlank ':' = false := by decide
  rw [arranged]
  unfold readName
  simp only [areBlanks.skipBlanks_append, skipBlanks_cons quote, readText?_spelled content,
    areBlanks'.skipBlanks_append, skipBlanks_cons colon, String.ofList_toList]

/-- **What comes of the members of an object** follows from what comes of each of them. -/
theorem readFields_spelled {members : List MemberSpelling} (rest : List Char)
    (names : ∀ member ∈ members, SpellsName member.nameText member.name)
    (each : ∀ member ∈ members, ReadsTree item member.text member.tree) (present : members ≠ [])
    {bound : Nat} (enough : members.length ≤ bound) :
    Reads (members.flatMap fun member => member.tree.offences)
      (fun result => (result.1.map Prod.fst = members.map MemberSpelling.name ∧
        List.Forall₂ Tree.Means (members.map MemberSpelling.tree) (result.1.map Prod.snd)) ∧
          result.2 = rest)
      (readFields item bound
        (commaSeparated (members.map MemberSpelling.written) ++ '\x7d' :: rest)) := by
  induction members generalizing bound with
  | nil => exact absurd rfl present
  | cons first others ih =>
    obtain ⟨bound, rfl⟩ : ∃ less, bound = less + 1 :=
      ⟨bound - 1, by rw [List.length_cons] at enough; omega⟩
    obtain ⟨head, tail⟩ := List.forall_mem_cons.mp each
    obtain ⟨name, namesTail⟩ := List.forall_mem_cons.mp names
    rw [readFields, List.flatMap_cons]
    cases others with
    | nil =>
      have arranged : commaSeparated ([first].map MemberSpelling.written) ++ '\x7d' :: rest =
          first.nameText ++ ':' :: (first.text ++ '\x7d' :: rest) :=
        List.append_assoc _ _ _
      rw [arranged, readName_spelled name]
      refine (head ('\x7d' :: rest) (.cons (by decide) rest)).bind fun result holds => ?_
      obtain ⟨value, left⟩ := result
      obtain ⟨means, stops⟩ := holds
      have brace : skipBlanks left = '\x7d' :: rest :=
        stops.trans (skipBlanks_cons (by decide) rest)
      simp only [brace]
      exact .ok rfl ⟨⟨rfl, .cons means .nil⟩, rfl⟩
    | cons second others =>
      have fewer : (second :: others).length ≤ bound := Nat.le_of_succ_le_succ enough
      have following := ih namesTail tail (List.cons_ne_nil _ _) fewer
      have arranged : commaSeparated ((first :: second :: others).map MemberSpelling.written) ++
            '\x7d' :: rest =
          first.nameText ++ ':' :: (first.text ++ ',' ::
            (commaSeparated ((second :: others).map MemberSpelling.written) ++ '\x7d' :: rest)) := by
        simp [commaSeparated, MemberSpelling.written]
      rw [arranged, readName_spelled name]
      refine (head _ (.cons (by decide) _)).bind fun result holds => ?_
      obtain ⟨value, left⟩ := result
      obtain ⟨means, stops⟩ := holds
      have comma := stops.trans (skipBlanks_cons (by decide) _)
      simp only [comma]
      refine following.map fun result holds => ⟨⟨?_, .cons means holds.1.2⟩, holds.2⟩
      rw [List.map_cons, holds.1.1]
      rfl

/-- **What comes of an object** that is not empty. -/
theorem readObject_spelled {members : List MemberSpelling} (rest : List Char)
    (names : ∀ member ∈ members, SpellsName member.nameText member.name)
    (each : ∀ member ∈ members, ReadsTree item member.text member.tree)
    (present : members ≠ []) :
    Reads (Tree.object (members.map MemberSpelling.member)).offences
      (IsReadAs (.object (members.map MemberSpelling.member)) rest)
      (readObject item
        (commaSeparated (members.map MemberSpelling.written) ++ '\x7d' :: rest)) := by
  have opens : StartsPart
      (skipBlanks (commaSeparated (members.map MemberSpelling.written) ++ '\x7d' :: rest)) := by
    obtain ⟨first, others, rfl⟩ := List.exists_cons_of_ne_nil present
    obtain ⟨more, separated⟩ :=
      commaSeparated_cons first.written (others.map MemberSpelling.written)
    rw [List.map_cons, separated, List.append_assoc, MemberSpelling.written, List.append_assoc]
    exact (names first List.mem_cons_self).opens _
  have enough : members.length ≤
      (commaSeparated (members.map MemberSpelling.written) ++ '\x7d' :: rest).length :=
    (List.length_map MemberSpelling.written).symm.trans_le (length_le_closed _ _ _)
  have all := readFields_spelled rest names each present enough
  rw [Tree.offences_object, List.flatMap_map, readObject_of_starts opens]
  refine all.map fun result holds => ⟨.object ?_ ?_ (Fields.isOrdered_ofList _)
    (Fields.get?_ofList result.1), by rw [holds.2]⟩
  · rw [holds.1.1, List.map_map]
    rfl
  · rw [List.map_map]
    exact holds.1.2

end Parts

/-! ### Trees -/

/-- Blanks before a value are skipped. -/
theorem readValue_blanks {blanks : List Char} (areBlanks : IsBlanks blanks) (depth : Nat)
    (text : List Char) : readValue depth (blanks ++ text) = readValue depth text := by
  rw [readValue_eq]
  unfold readValueOver
  rw [areBlanks.skipBlanks_append]

/-- A bracket is read as that of an array whose items nest one less deep. -/
theorem readValue_bracket (depth : Nat) (text : List Char) :
    readValue (depth + 1) ('[' :: text) = readArray (readValue depth) text := by
  rw [readValue, readValueOver, skipBlanks_cons (by decide)]
  rfl

theorem readValue_brace (depth : Nat) (text : List Char) :
    readValue (depth + 1) ('\x7b' :: text) = readObject (readValue depth) text := by
  rw [readValue, readValueOver, skipBlanks_cons (by decide)]
  rfl

/-- What nests has a depth to nest in. -/
theorem exists_depth {nesting depth : Nat} (shallow : 1 + nesting ≤ depth) :
    ∃ less, depth = less + 1 :=
  ⟨depth - 1, by omega⟩

/-- **Whatever spells a tree is read as the tree says**, however deep it stands. -/
theorem readValue_spelled {text : List Char} {tree : Tree} (spelled : Spells text tree)
    {depth : Nat} (shallow : tree.nesting ≤ depth) (fits : tree.FitsDoubles) :
    ReadsTree (readValue depth) text tree := by
  -- By induction on the rules of the grammar; a bracket leaves one less deep for the parts.
  induction spelled generalizing depth with
  | blanks before after _ ih =>
    intro rest ends
    rw [List.append_assoc, List.append_assoc, readValue_blanks before]
    -- The blanks behind the value are left to what reads on, which skips them.
    refine (ih shallow fits _ (after.endsNumber ends)).imp fun result holds => ?_
    exact ⟨holds.1, holds.2.trans (after.skipBlanks_append rest)⟩
  | null =>
    intro rest _
    rw [readValue_eq]
    exact .offending rest rfl rfl rfl
  | true =>
    intro rest _
    rw [readValue_eq]
    exact .leaf rest rfl rfl (.boolean true)
  | false =>
    intro rest _
    rw [readValue_eq]
    exact .leaf rest rfl rfl (.boolean false)
  | number spelled =>
    intro rest ends
    rw [readValue_number depth (startsNumber_spelled spelled)]
    exact readNumber_reads spelled (fits _ (List.mem_singleton_self _)) rest ends
  | text spelled =>
    intro rest _
    have quote : isBlank '"' = false := by decide
    rw [readValue_eq]
    unfold readValueOver
    simp only [List.cons_append, List.append_assoc, List.nil_append, skipBlanks_cons quote,
      readText?_spelled spelled]
    exact .leaf rest rfl rfl (.text _)
  | emptyArray areBlanks =>
    intro rest _
    obtain ⟨depth, rfl⟩ := exists_depth shallow
    rw [List.cons_append, readValue_bracket]
    unfold readArray
    simp only [List.append_assoc, areBlanks.skipBlanks_append, List.cons_append, List.nil_append,
      skipBlanks_cons (show isBlank ']' = false by decide)]
    exact .ok rfl ⟨.array .nil, rfl⟩
  | array present spelled ih =>
    intro rest _
    obtain ⟨depth, rfl⟩ := exists_depth shallow
    rw [Tree.nesting_array_le_iff, List.forall_mem_map] at shallow
    rw [List.cons_append, readValue_bracket, List.append_assoc]
    exact readArray_spelled rest (fun part inside => ih part inside (shallow part inside)
      (fits.item (List.mem_map_of_mem inside))) present spelled
  | emptyObject areBlanks =>
    intro rest _
    obtain ⟨depth, rfl⟩ := exists_depth shallow
    rw [List.cons_append, readValue_brace]
    unfold readObject
    simp only [List.append_assoc, areBlanks.skipBlanks_append, List.cons_append, List.nil_append,
      skipBlanks_cons (show isBlank '\x7d' = false by decide)]
    exact .ok rfl ⟨@Tree.Means.object [] [] [] rfl .nil .nil fun _ => rfl, rfl⟩
  | object present names spelled ih =>
    intro rest _
    obtain ⟨depth, rfl⟩ := exists_depth shallow
    rw [Tree.nesting_object_le_iff, List.forall_mem_map] at shallow
    rw [List.cons_append, readValue_brace, List.append_assoc]
    exact readObject_spelled rest names (fun member inside => ih member inside
      (shallow member inside) (fits.member (List.mem_map_of_mem inside))) present

/-! ### Two texts -/

namespace Sample

/-- Digits without a sign, a fraction and an exponent. -/
def whole (digits : List Char) : Numeral :=
  ⟨false, digits, none, none⟩

theorem spellsNumeral_whole {digits : List Char} (spelled : IsDigits digits)
    (leading : digits.length = 1 ∨ digits.head? ≠ some '0') :
    SpellsNumeral digits (whole digits) := by
  refine ⟨⟨spelled.1, spelled.2, leading, fun _ absent => by cases absent⟩, [], .none, ?_⟩
  simp [whole, Numeral.fractionText]

theorem isDigits_replicate {c : Char} (digit : c.isDigit = true) (more : Nat) :
    IsDigits (List.replicate (more + 1) c) := by
  refine ⟨List.cons_ne_nil _ _, fun d inside => ?_⟩
  rw [List.eq_of_mem_replicate inside]
  exact digit

theorem isDigits_singleton {c : Char} (digit : c.isDigit = true) : IsDigits [c] :=
  isDigits_replicate digit 0

def nines : List Char :=
  List.replicate 19 '9'

def repeatedMembers : List MemberSpelling :=
  [⟨['"', 'a', '"', ' '], "a", [' ', 'n', 'u', 'l', 'l'], .null⟩,
    ⟨['"', '\\', 'u', '0', '0', '6', '1', '"'], "a", '[' :: (nines ++ [']']),
      .array [.number (whole nines)]⟩,
    ⟨['"', 'a', '"'], "a", ['1'], .number (whole ['1'])⟩]

/-- An object with one name three times, once as an escape: `null`, an array of one integer that is
too large, and a one. -/
def repeatedText : String :=
  String.ofList
    ('\x7b' :: (commaSeparated (repeatedMembers.map MemberSpelling.written) ++ ['\x7d']))

def repeatedTree : Tree :=
  .object (repeatedMembers.map MemberSpelling.member)

theorem isBlanks_space : IsBlanks [' '] := by
  simp [IsBlanks]

theorem isBlanks_nil : IsBlanks [] := by
  simp [IsBlanks]

theorem spells_repeated : Spells repeatedText.toList repeatedTree := by
  have plain : SpellsContent ['a'] ['a'] := .plain (by decide) (by decide) (by decide) .nil
  have coded : SpellsContent ['\\', 'u', '0', '0', '6', '1'] ['a'] := .code (by decide) .nil
  have large : SpellsNumeral nines (whole nines) :=
    spellsNumeral_whole (isDigits_replicate (by decide) 18) (by decide)
  have one : SpellsNumeral ['1'] (whole ['1']) :=
    spellsNumeral_whole (isDigits_singleton (by decide)) (by decide)
  rw [repeatedText, String.toList_ofList]
  refine .object (List.cons_ne_nil _ _) ?_ ?_
  · simp only [repeatedMembers, List.forall_mem_cons, List.not_mem_nil, false_implies,
      implies_true, and_true]
    exact ⟨⟨[], ['a'], [' '], isBlanks_nil, isBlanks_space, plain, rfl⟩,
      ⟨[], _, [], isBlanks_nil, isBlanks_nil, coded, rfl⟩,
      [], ['a'], [], isBlanks_nil, isBlanks_nil, plain, rfl⟩
  · simp only [repeatedMembers, List.forall_mem_cons, List.not_mem_nil, false_implies,
      implies_true, and_true]
    refine ⟨.blanks isBlanks_space isBlanks_nil .null, ?_, .number one⟩
    exact @Spells.array [(nines, .number (whole nines))] (List.cons_ne_nil _ _)
      (by simpa using .number large)

def numberItems : List (List Char × Tree) :=
  [(['-', '0', ' '], .number ⟨true, ['0'], none, none⟩),
    (['1', 'E', '+', '2'], .number ⟨false, ['1'], none, some 2⟩)]

/-- A zero with a sign, and an integer with an exponent. -/
def numbersText : String :=
  String.ofList ('[' :: (commaSeparated (numberItems.map Prod.fst) ++ [']']))

def numbersTree : Tree :=
  .array (numberItems.map Prod.snd)

theorem spells_numbers : Spells numbersText.toList numbersTree := by
  have zero : SpellsNumeral ['-', '0'] ⟨true, ['0'], none, none⟩ :=
    ⟨⟨by decide, (isDigits_singleton (by decide)).2, by decide, by simp⟩, [], .none, rfl⟩
  have power : SpellsNumeral ['1', 'E', '+', '2'] ⟨false, ['1'], none, some 2⟩ :=
    ⟨⟨by decide, (isDigits_singleton (by decide)).2, by decide, by simp⟩, _,
      .plus (.inr rfl) (isDigits_singleton (by decide)), rfl⟩
  rw [numbersText, String.toList_ofList]
  refine .array (List.cons_ne_nil _ _) ?_
  simp only [numberItems, List.forall_mem_cons, List.not_mem_nil, false_implies, implies_true,
    and_true]
  exact ⟨.blanks isBlanks_nil isBlanks_space (.number zero), .number power⟩

end Sample

/-! ### Whole texts -/

/-- What comes of a whole text. -/
theorem read_reads {text : String} {tree : Tree} (spelled : Spells text.toList tree)
    (shallow : tree.nesting ≤ nestingLimit) (fits : tree.FitsDoubles) :
    Reads tree.offences tree.Means (read text) := by
  have reads := readValue_spelled spelled shallow fits [] .nil
  rw [List.append_nil] at reads
  unfold read
  rw [← List.append_nil tree.offences]
  refine reads.bind fun result holds => ?_
  obtain ⟨value, left⟩ := result
  obtain ⟨means, stops⟩ := holds
  have nothing : skipBlanks left = [] := stops
  simp only [nothing]
  exact .ok rfl means

/-- **When a well-formed text has a value, which one, and why it has none otherwise.** The text
spells a tree that nests at most 127 deep and has no number too large for a floating-point number.
It has a value exactly if no leaf is an offence, under a name that is repeated later as anywhere
else, and the value is what the tree means. Otherwise it is the first offence that keeps it from
having one. -/
theorem read_spelled {text : String} {tree : Tree} (spelled : Spells text.toList tree)
    (shallow : tree.nesting ≤ 127) (fits : tree.FitsDoubles) :
    ((∃ value, read text = .ok value) ↔ tree.offences = []) ∧
    (∀ value, read text = .ok value → tree.Means value) ∧
    ∀ offence others, tree.offences = offence :: others →
      ∃ cause, read text = .error (.rejected cause) ∧ cause.message = offence.message := by
  have reads := read_reads spelled shallow fits
  generalize read text = attempt at reads
  cases reads with
  | ok none means =>
    refine ⟨iff_of_true ⟨_, rfl⟩ none, fun value same => ?_, fun offence others found => ?_⟩
    · obtain rfl := Except.ok.inj same
      exact means
    · simp [none] at found
  | rejected found message =>
    refine ⟨?_, fun value same => ?_, fun offence others first => ?_⟩
    · simp [found]
    · cases same
    · obtain ⟨rfl, -⟩ := List.cons.inj (found.symm.trans first)
      exact ⟨_, rfl, message⟩

/-- The first of two offences under a name that is repeated, and two numbers that are no integers of
64 bits. -/
theorem read_spelled_samples :
    (∃ cause, read Sample.repeatedText = .error (.rejected cause) ∧ cause.message =
      "invalid type: null, expected an integer, boolean, double, string, bytes, sequence or map") ∧
    (∃ value, read Sample.numbersText = .ok value ∧ Sample.numbersTree.Means value) := by
  have offences : Sample.repeatedTree.offences = [.null, .tooLarge 9999999999999999999] := by
    decide +kernel
  have first := (read_spelled Sample.spells_repeated (by decide +kernel) (by decide +kernel)).2.2
  have second := read_spelled Sample.spells_numbers (by decide +kernel) (by decide +kernel)
  obtain ⟨value, read⟩ := second.1.mpr (by decide +kernel)
  exact ⟨first _ _ offences, value, read, second.2.1 value read⟩

end KeyedRecord.Json
