/-
**What a record's documents take no notice of.**

Of the attributes of a member the code for documents reads one: the first that is not
documentation. Further, a rename without a key asks for nothing, no more than an attribute of
another kind or none. And of the items of a body it reads the members alone. Two records that
differ in nothing else get the same code, the same error or the same warning.

All that the code reads of a record is gathered in `Record.outline`. One difference leaves the
outline as it is, and so does any number of them.

* `Attributes.Differ.demand_eq`: attributes that differ in this way ask for the same.
* `Record.Differ.outline_eq`: records that differ in this way have the same outline.
* `Expansion.ignores_differences`: their expansions differ in the records' own code alone.
* `Expansion.heeds_uncovered_directive`: documentation in the place of a malformed rename is
  another matter, for then the next attribute counts.
-/

import KeyedRecord.Proofs.Expansion.Emission
import KeyedRecord.Sample.Basic
import Mathlib.Logic.Relation

namespace KeyedRecord

open Grammar (Attribute)

/-! ### The outline of a record -/

/-- What the code for documents reads of a member. -/
structure MemberOutline where
  role : MemberRole
  initial : Option Phrase

/-- What the code for documents reads of a member. -/
def Member.outline (member : Member) : MemberOutline :=
  ⟨member.facts.role, member.initial⟩

/-- What the code for documents reads of a record. -/
structure RecordOutline where
  name : Ident
  visibility : Phrase
  members : List MemberOutline

/-- What the code for documents reads of a record. -/
def Record.outline (record : Record) : RecordOutline :=
  ⟨record.name, record.visibility, record.members.map Member.outline⟩

/-- The roles of members follow from the roles that their facts give. -/
theorem MemberRole.ofFacts_congr {first second : List MemberFacts}
    (same : first.map MemberFacts.role = second.map MemberFacts.role) :
    MemberRole.ofFacts first = MemberRole.ofFacts second := by
  have needs (members : List MemberFacts) : members.any MemberFacts.isIncludedComputed =
      (members.map MemberFacts.role).any fun role => role.isIncluded && role.isComputed := by
    rw [List.any_map]
    rfl
  have roles (members : List MemberFacts) (flag : Bool) :
      (members.filter fun facts => !flag || facts.isTyped).map MemberFacts.role =
        (members.map MemberFacts.role).filter fun role =>
          !flag || (role.isComputed || role.declaredType.isSome) := by
    rw [List.filter_map]
    rfl
  simp only [MemberRole.ofFacts, needs, roles, same]

section

variable {first second : Record}

theorem RecordOutline.roles_eq (same : first.outline = second.outline) :
    first.facts.map MemberFacts.role = second.facts.map MemberFacts.role := by
  have roles (record : Record) : record.facts.map MemberFacts.role =
      record.outline.members.map MemberOutline.role := by
    simp only [Record.facts, Record.outline, List.map_map]
    rfl
  rw [roles, roles, same]

/-- The outline determines the schema and the warnings. -/
theorem RecordOutline.synthesize_eq (same : first.outline = second.outline)
    (reported : List Warning) :
    Schema.synthesize first.facts reported = Schema.synthesize second.facts reported := by
  simp only [Schema.synthesize, MemberRole.ofFacts_congr (RecordOutline.roles_eq same)]

/-- The outline determines how the fields are filled. -/
theorem RecordOutline.filled_eq (same : first.outline = second.outline) (bound : List Ident) :
    first.storedMembers.map (Member.filled bound) =
      second.storedMembers.map (Member.filled bound) := by
  let fill (outline : MemberOutline) : FilledField :=
    Member.filled bound ⟨[], [], outline.role.name, .other [], .stored outline.initial⟩
  have filled (record : Record) : record.storedMembers.map (Member.filled bound) =
      (record.outline.members.filter fun outline => !outline.role.isComputed).map fill := by
    simp only [Record.storedMembers, Record.outline, List.filter_map, List.map_map]
    rfl
  rw [filled, filled, same]

/-- The outline and a schema determine the code for documents. -/
theorem RecordOutline.ofSchema_eq (same : first.outline = second.outline) (schema : Schema) :
    Conformance.ofSchema first schema = Conformance.ofSchema second schema := by
  have name : first.name = second.name := congrArg RecordOutline.name same
  have visibility : first.visibility = second.visibility := congrArg RecordOutline.visibility same
  have keysName : first.keysName = second.keysName := by rw [Record.keysName, name, Record.keysName]
  have reading : schema.reading first = schema.reading second := by
    simp only [Schema.reading, Reading.ofSteps, RecordOutline.filled_eq same]
  simp only [Conformance.ofSchema, KeyTable.enumeration, name, visibility, keysName, reading]

/-- The outline determines what a record gets for its documents. -/
theorem RecordOutline.documentCode_eq (same : first.outline = second.outline) :
    DocumentCode.ofRecord first = DocumentCode.ofRecord second := by
  have schema : first.schema = second.schema :=
    congrArg Prod.fst (RecordOutline.synthesize_eq same [])
  simp only [DocumentCode.ofRecord, schema, RecordOutline.ofSchema_eq same]

/-- The outline determines the warnings. -/
theorem RecordOutline.warnings_eq (same : first.outline = second.outline) :
    Warning.ofFacts first.facts = Warning.ofFacts second.facts :=
  congrArg Prod.snd (RecordOutline.synthesize_eq same [])

end

/-! ### What attributes ask for -/

/-- The attribute is a rename whose arguments cannot be read, or do not begin with a text. -/
def Grammar.Attribute.IsMalformedRename (attr : Attribute) : Prop :=
  attr.isNamed renameWord = true ∧
    ∀ delimiter content, attr.arguments = .list delimiter content →
      ∀ leading rest, (Grammar.commaElements List.isEmpty
          ((Grammar.Rules.forPhrase content).expr true)).complete content = .ok (leading :: rest) →
        ∀ text, leading.item.form ≠ .text text

/-- What a directive asks for, if it asks for anything. -/
def Directive.demand : Directive → Option Directive
  | .rename none => none
  | .other => none
  | asking => some asking

/-- What the attributes of a member ask for. -/
def Attributes.demand (attributes : List Attribute) : Option Directive :=
  (Directive.first attributes).bind Directive.demand

/-- A malformed rename gives no key. -/
theorem Grammar.Attribute.IsMalformedRename.ofAttribute_eq {attr : Attribute}
    (malformed : attr.IsMalformedRename) : Directive.ofAttribute attr = .rename none := by
  obtain ⟨named, unreadable⟩ := malformed
  have noKey : attr.key? = none := by
    unfold Grammar.Attribute.key?
    split
    case h_2 => rfl
    case h_1 delimiter content arguments =>
      unfold leadingText?
      split
      case h_2 => rfl
      case h_1 phrase text separator rest read =>
        exact absurd rfl (unreadable delimiter content arguments _ rest read text)
  rw [Directive.ofAttribute, if_pos named, noKey]

/-- An attribute that is neither directive says nothing. -/
theorem Directive.ofAttribute_of_not_isDirective {attr : Attribute}
    (plain : attr.isDirective = false) : Directive.ofAttribute attr = .other := by
  obtain ⟨notRename, notExclude⟩ := Bool.or_eq_false_iff.mp plain
  simp [Directive.ofAttribute, notRename, notExclude]

/-- A rename is no documentation. -/
theorem Grammar.Attribute.not_isDocumentation_of_rename {attr : Attribute}
    (named : attr.isNamed renameWord = true) : attr.isDocumentation = false := by
  have word : attr.path.ident? = some (Ident.plain renameWord) := by
    simpa [Grammar.Attribute.isNamed] using named
  simp only [Grammar.Attribute.isDocumentation, Grammar.Attribute.isNamed, word]
  decide

/-- How a member takes part follows from what its attributes ask for. -/
theorem Member.participation_eq (member : Member) : member.facts.participation =
    match Attributes.demand member.attributes with
    | some .exclude => ⟨false, none⟩
    | some (.rename (some key)) => ⟨true, if key == member.name.name then none else some key⟩
    | _ => ⟨!member.isComputed, none⟩ := by
  simp only [MemberFacts.participation, Member.facts, Attributes.demand]
  rcases Directive.first member.attributes with _ | ((_ | key) | _ | _) <;> rfl

/-! ### Differences that do not matter -/

/-- Documentation and nothing else. -/
def Attributes.AreDocumentation (attributes : List Attribute) : Prop :=
  ∀ attr ∈ attributes, attr.isDocumentation = true

/-- One difference between the attributes of a member of which documents take no notice. -/
inductive Attributes.Differ : List Attribute → List Attribute → Prop
  /-- Documentation stands anywhere. -/
  | documentation (before after : List Attribute) (comment : Attribute)
      (isDocumentation : comment.isDocumentation = true) :
      Differ (before ++ after) (before ++ comment :: after)
  /-- The attributes behind the first one that is no documentation are others. -/
  | later (comments rest others : List Attribute) (leading : Attribute)
      (areComments : AreDocumentation comments) (isFirst : leading.isDocumentation = false) :
      Differ (comments ++ leading :: rest) (comments ++ leading :: others)
  /-- In the place of a malformed rename stands an attribute that is no directive. If it is
  documentation, then so is all that follows. -/
  | replaced (comments rest : List Attribute) (leading other : Attribute)
      (areComments : AreDocumentation comments) (isMalformed : leading.IsMalformedRename)
      (isOther : other.isDirective = false)
      (isFirst : other.isDocumentation = true → AreDocumentation rest) :
      Differ (comments ++ leading :: rest) (comments ++ other :: rest)
  /-- A malformed rename is missing, and all that follows is documentation. -/
  | dropped (comments rest : List Attribute) (leading : Attribute)
      (areComments : AreDocumentation comments) (isMalformed : leading.IsMalformedRename)
      (isLast : AreDocumentation rest) :
      Differ (comments ++ leading :: rest) (comments ++ rest)

/-- One difference between records of which documents take no notice: between the attributes of a
member, or by an item of the implementation anywhere. -/
inductive Record.Differ : Record → Record → Prop
  | attributes (record : Record) (before after : List BodyItem) (member : Member)
      (changed : List Attribute) (differ : Attributes.Differ member.attributes changed) :
      Differ { record with items := before ++ .member member :: after }
        { record with items := before ++ .member { member with attributes := changed } :: after }
  | item (record : Record) (before after : List BodyItem) (item : Grammar.ImplItem) :
      Differ { record with items := before ++ after }
        { record with items := before ++ .item item :: after }

/-- What attributes ask for depends on the first one that is no documentation. -/
theorem Attributes.demand_eq_head? (attributes : List Attribute) :
    Attributes.demand attributes =
      (attributes.filter fun attr => !attr.isDocumentation).head?.bind fun attr =>
        (Directive.ofAttribute attr).demand := by
  rw [Attributes.demand, Directive.first, List.head?_filter, Option.bind_map]
  rfl

/-- Documentation in front asks for nothing. -/
theorem Attributes.AreDocumentation.demand_append {comments : List Attribute}
    (areComments : AreDocumentation comments) (rest : List Attribute) :
    Attributes.demand (comments ++ rest) = Attributes.demand rest := by
  have none : comments.filter (fun attr => !attr.isDocumentation) = [] := by
    simpa [List.filter_eq_nil_iff, AreDocumentation] using areComments
  rw [demand_eq_head?, demand_eq_head?, List.filter_append, none, List.nil_append]

/-- Documentation alone asks for nothing. -/
theorem Attributes.AreDocumentation.demand_eq_none {comments : List Attribute}
    (areComments : AreDocumentation comments) : Attributes.demand comments = none := by
  have nothing := areComments.demand_append []
  rwa [List.append_nil] at nothing

/-- The first attribute that is no documentation is the one that asks. -/
theorem Attributes.demand_cons {leading : Attribute} (isFirst : leading.isDocumentation = false)
    (rest : List Attribute) :
    Attributes.demand (leading :: rest) = (Directive.ofAttribute leading).demand := by
  simp [demand_eq_head?, isFirst]

/-- A malformed rename asks for nothing. -/
theorem Grammar.Attribute.IsMalformedRename.demand_eq_none {leading : Attribute}
    (isMalformed : leading.IsMalformedRename) (rest : List Attribute) :
    Attributes.demand (leading :: rest) = none := by
  rw [Attributes.demand_cons (not_isDocumentation_of_rename isMalformed.1),
    isMalformed.ofAttribute_eq]
  rfl

/-- Attributes with one such difference ask for the same. -/
theorem Attributes.Differ.demand_eq {first second : List Attribute}
    (differ : Attributes.Differ first second) :
    Attributes.demand first = Attributes.demand second := by
  cases differ with
  | documentation before after comment isDocumentation =>
    simp [demand_eq_head?, isDocumentation]
  | later comments rest others leading areComments isFirst =>
    rw [areComments.demand_append, areComments.demand_append, demand_cons isFirst,
      demand_cons isFirst]
  | replaced comments rest leading other areComments isMalformed isOther isFirst =>
    rw [areComments.demand_append, areComments.demand_append, isMalformed.demand_eq_none]
    symm
    cases documents : other.isDocumentation with
    | false =>
      rw [demand_cons documents, Directive.ofAttribute_of_not_isDirective isOther]
      rfl
    | true =>
      have areComments : AreDocumentation (other :: rest) :=
        List.forall_mem_cons.mpr ⟨documents, isFirst documents⟩
      exact areComments.demand_eq_none
  | dropped comments rest leading areComments isMalformed isLast =>
    rw [areComments.demand_append, areComments.demand_append, isMalformed.demand_eq_none,
      isLast.demand_eq_none]

/-- The outline of a member holds of its attributes only what they ask for. -/
theorem Member.outline_eq_of_demand {member : Member} {changed : List Attribute}
    (same : Attributes.demand member.attributes = Attributes.demand changed) :
    member.outline = { member with attributes := changed }.outline := by
  have participation : member.facts.participation =
      { member with attributes := changed }.facts.participation := by
    rw [Member.participation_eq, Member.participation_eq, same]
    rfl
  simp only [Member.outline, MemberFacts.role, participation]
  rfl

/-- Records with one such difference have the same outline. -/
theorem Record.Differ.outline_eq {first second : Record} (differ : Record.Differ first second) :
    first.outline = second.outline := by
  cases differ with
  | attributes record before after member changed differ =>
    simp [Record.outline, Record.members, BodyItem.member?,
      Member.outline_eq_of_demand differ.demand_eq]
  | item record before after item =>
    simp [Record.outline, Record.members, BodyItem.member?, List.filterMap_cons]

/-- Records with any number of such differences have the same outline. -/
theorem Record.outline_eq_of_eqvGen {first second : Record}
    (differ : Relation.EqvGen Record.Differ first second) : first.outline = second.outline := by
  induction differ with
  | rel first second differ => exact differ.outline_eq
  | refl record => rfl
  | symm first second _ same => exact same.symm
  | trans first second third _ _ same again => exact same.trans again

/-- **What documents take no notice of.** Take two records with any number of differences of these
kinds: documentation on members, attributes behind a member's first one that is no documentation, a
malformed rename in that place that is missing or has no directive in its place, and items of the
implementation. Their expansions hold the same code for documents, or the same error, and the same
warnings, and the wording of all this is the same. -/
theorem Expansion.ignores_differences {first second : Record}
    (differ : Relation.EqvGen Record.Differ first second) :
    (Expansion.ofRecord first).documentCode = (Expansion.ofRecord second).documentCode ∧
      (Expansion.ofRecord first).warnings = (Expansion.ofRecord second).warnings ∧
      ∃ generated, (Expansion.ofRecord first).phrase = first.ownPhrase ++ generated ∧
        (Expansion.ofRecord second).phrase = second.ownPhrase ++ generated := by
  have same := Record.outline_eq_of_eqvGen differ
  have code := RecordOutline.documentCode_eq same
  have warnings := RecordOutline.warnings_eq same
  refine ⟨code, warnings, (DocumentCode.ofRecord second).phrase variantPhrase ++
    (Warning.ofFacts second.facts).flatMap Warning.phrase, ?first, ?second⟩
  case first => rw [Expansion.phrase_eq, code, warnings, List.append_assoc]
  case second => rw [Expansion.phrase_eq, List.append_assoc]

namespace Sample

/-- A comment of documentation. -/
def comment : Attribute :=
  ⟨Grammar.Path.ofIdent (Ident.plain "doc"), .value (Phrase.ofText "x")⟩

/-- A rename without arguments. -/
def keyless : Attribute :=
  markWith renameWord []

/-- A record of one member and an implementation. -/
def annotated (attributes : List Attribute) (items : List Grammar.ImplItem) : Record :=
  declare "Annotated" (stored attributes "count" (named "i64") :: items.map BodyItem.item)

theorem keyless_isMalformedRename : keyless.IsMalformedRename := by
  refine ⟨by decide, ?_⟩
  rintro delimiter content ⟨⟩ leading rest ⟨⟩

end Sample

/-- A malformed rename is dropped, documentation is added, and so is a constant. -/
theorem Expansion.ignores_differences_sample :
    let bare := Sample.annotated [Sample.keyless] []
    let commented := Sample.annotated [Sample.comment]
      [⟨.constant, Phrase.template "const LIMIT : i64 = 1 ;"⟩]
    Relation.EqvGen Record.Differ bare commented ∧
      (Expansion.ofRecord bare).documentCode = (Expansion.ofRecord commented).documentCode := by
  intro bare commented
  have dropped : Record.Differ bare (Sample.annotated [] []) :=
    .attributes bare [] [] _ _
      (.dropped [] [] Sample.keyless (by simp [Attributes.AreDocumentation])
        Sample.keyless_isMalformedRename (by simp [Attributes.AreDocumentation]))
  have documented :
      Record.Differ (Sample.annotated [] []) (Sample.annotated [Sample.comment] []) :=
    .attributes bare [] [] _ _ (.documentation [] [] Sample.comment (by decide))
  have extended : Record.Differ (Sample.annotated [Sample.comment] []) commented :=
    .item bare (Sample.annotated [Sample.comment] []).items [] _
  have differ : Relation.EqvGen Record.Differ bare commented :=
    .trans _ _ _ (.rel _ _ dropped) (.trans _ _ _ (.rel _ _ documented) (.rel _ _ extended))
  exact ⟨differ, (Expansion.ignores_differences differ).1⟩

/-! ### A difference that matters -/

namespace Sample

/-- A record with an attribute in front of an exclusion. -/
def guarded (leading : Attribute) : Record :=
  declare "Guarded"
    [stored [leading, excluded] "left" (named "i64"), stored [] "right" (named "i64")]

end Sample

/-- Enumerations of the same name and visibility whose wordings start two equal phrases have the
same variants in their wording. -/
theorem KeyEnumeration.variants_eq_of_phrase {first second : KeyEnumeration}
    (visibility : first.visibility = second.visibility) (name : first.name = second.name)
    {rest others : Phrase}
    (same : first.phrase variantPhrase ++ rest = second.phrase variantPhrase ++ others) :
    Phrase.commaSeparated ((first.variants.map KeyVariant.name).map variantPhrase) =
      Phrase.commaSeparated ((second.variants.map KeyVariant.name).map variantPhrase) := by
  simp only [KeyEnumeration.phrase, visibility, name, List.append_assoc,
    List.append_cancel_left_eq, Phrase.braced, List.cons_append, List.cons.injEq,
    TokenTree.group.injEq] at same
  exact same.1.2

/-- A record whose schema has such variants, without a conflict, gets code that starts with their
enumeration. -/
theorem DocumentCode.phrase_of_variants (record : Record) (variants : List String)
    (found : record.schema.map (fun schema => schema.keys.variants) = some variants)
    (free : record.schema.bind (fun schema => schema.keys.conflict?) = none) :
    ∃ keys : KeyEnumeration,
      keys.phrase variantPhrase <+: (DocumentCode.ofRecord record).phrase variantPhrase ∧
        keys.visibility = record.visibility ∧ keys.name = record.keysName ∧
        keys.variants.map KeyVariant.name = variants := by
  obtain ⟨schema, isSchema, rfl⟩ := Option.map_eq_some_iff.mp found
  rw [isSchema, Option.bind_some] at free
  refine ⟨schema.keys.enumeration record, ?worded, rfl, rfl, ?variants⟩
  case worded =>
    simp only [DocumentCode.ofRecord, isSchema, free, DocumentCode.phrase, Conformance.phrase,
      Conformance.ofSchema, List.append_assoc, List.prefix_append]
  case variants =>
    rw [KeyTable.enumeration, List.map_map]
    rfl

/-- Documentation in the place of a malformed rename uncovers the directive behind it: the code for
documents is then another. -/
theorem Expansion.heeds_uncovered_directive :
    Sample.keyless.IsMalformedRename ∧ Sample.comment.isDirective = false ∧
      ¬∃ generated, (Expansion.ofRecord (Sample.guarded Sample.keyless)).phrase =
          (Sample.guarded Sample.keyless).ownPhrase ++ generated ∧
        (Expansion.ofRecord (Sample.guarded Sample.comment)).phrase =
          (Sample.guarded Sample.comment).ownPhrase ++ generated := by
  refine ⟨Sample.keyless_isMalformedRename, by decide, ?_⟩
  rintro ⟨generated, first, second⟩
  rw [Expansion.phrase_eq, List.append_assoc, List.append_cancel_left_eq] at first second
  obtain ⟨both, ⟨rest, worded⟩, visibility, name, variants⟩ :=
    DocumentCode.phrase_of_variants (Sample.guarded Sample.keyless) ["Left", "Right"]
      (by decide +kernel) (by decide +kernel)
  obtain ⟨one, ⟨others, worded'⟩, visibility', name', variants'⟩ :=
    DocumentCode.phrase_of_variants (Sample.guarded Sample.comment) ["Right"]
      (by decide +kernel) (by decide +kernel)
  have same := first.trans second.symm
  rw [← worded, ← worded', List.append_assoc, List.append_assoc] at same
  have variantsSame := KeyEnumeration.variants_eq_of_phrase (visibility.trans visibility'.symm)
    (name.trans name'.symm) same
  rw [variants, variants'] at variantsSame
  exact absurd (congrArg List.length variantsSame) (by decide)

end KeyedRecord
