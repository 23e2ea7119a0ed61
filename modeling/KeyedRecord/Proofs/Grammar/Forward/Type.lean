/-
**Paths, attributes, parameters and types are read forward.**

Readers that go on from a place they have found before are opened here: the value of an attribute,
which may be a literal alone, the limit of a visibility, and the inputs of a function type. All
others follow from the readers they consist of.
-/

import KeyedRecord.Proofs.Grammar.Forward.Basic

namespace KeyedRecord.Grammar

-- The text of a long reader is followed to its end.
set_option synthInstance.maxSize 40000

/-! ### Paths -/

instance (bound : Nat) : IsForward (plainSegments bound) := by
  induction bound with
  | zero =>
    unfold plainSegments
    infer_instance
  | succ bound ih =>
    unfold plainSegments
    dsimp only
    infer_instance

instance : IsForward plainPath := by
  unfold plainPath
  infer_instance

instance : IsForward boundLifetimes := by
  unfold boundLifetimes
  infer_instance

instance : IsForward boundLifetimes? := by
  unfold boundLifetimes?
  infer_instance

section

variable (rules : Rules) [rules.AreForward]

instance : IsForward (narrowResult rules) := by
  unfold narrowResult
  infer_instance

instance : IsForward (roundArguments rules) := by
  unfold roundArguments
  infer_instance

instance : IsForward (constantArgument rules) := by
  unfold constantArgument
  infer_instance

instance (allowCapture allowConst : Bool) : IsForward (bound rules allowCapture allowConst) := by
  unfold bound
  dsimp only
  infer_instance

instance : IsForward (angleArgument rules) := by
  unfold angleArgument
  dsimp only
  infer_instance

instance : IsForward (angleArguments rules) := by
  unfold angleArguments
  infer_instance

instance (inExpr : Bool) : IsForward (segment rules inExpr) := by
  unfold segment
  dsimp only
  infer_instance

instance (inExpr : Bool) (bound : Nat) : IsForward (moreSegments rules inExpr bound) := by
  induction bound with
  | zero =>
    unfold moreSegments
    infer_instance
  | succ bound ih =>
    unfold moreSegments
    infer_instance

instance (inExpr : Bool) : IsForward (path rules inExpr) := by
  unfold path
  infer_instance

instance (inExpr : Bool) (before : Path) : IsForward (pathRest rules inExpr before) := by
  unfold pathRest
  infer_instance

instance (inExpr : Bool) (bound : Nat) : IsForward (segmentsAfterType rules inExpr bound) := by
  induction bound with
  | zero =>
    unfold segmentsAfterType
    infer_instance
  | succ bound ih =>
    unfold segmentsAfterType
    infer_instance

instance (inExpr : Bool) : IsForward (qualifiedPath rules inExpr) := by
  unfold qualifiedPath
  infer_instance

instance : IsForward (methodArguments rules) := by
  unfold methodArguments
  infer_instance

/-! ### Attributes and visibility -/

instance : IsForward attributePath := by
  unfold attributePath
  infer_instance

instance : IsForward (attributeValue rules) := by
  refine ⟨fun cursor => .attempt_bind ?found ?absent⟩
  case found =>
    intro phrase later forward
    dsimp only
    split
    · exact .set_bind forward inferInstance
    · exact IsForward.forwardFrom cursor
  case absent => exact IsForward.forwardFrom cursor

instance : IsForward (attributeContent rules) := by
  unfold attributeContent
  infer_instance

instance (bound : Nat) : IsForward (attributesAtMost rules bound) := by
  induction bound with
  | zero =>
    unfold attributesAtMost
    infer_instance
  | succ bound ih =>
    unfold attributesAtMost
    infer_instance

instance : IsForward (attributes rules) := by
  unfold attributes
  infer_instance

instance : IsForward (attributesPhrase rules) := by
  unfold attributesPhrase
  infer_instance

instance : IsForward (innerAttributes rules) := by
  unfold innerAttributes
  infer_instance

/-- The group behind `pub`, if it limits the visibility. -/
instance isForward_limit (keyword : Phrase) : IsForward (do
    match ← ahead with
    | .group .parenthesis content :: rest =>
      if startsWithAnyWord ["crate", "self", "super"] content then
        if content.length == 1 then
          moveTo rest
          return keyword ++ Phrase.parenthesized content
        else return keyword
      else if startsWithWord "in" content then
        moveTo rest
        let limit ← on content do
          let opening ← word "in"
          return opening ++ (← plainPath).phrase
        return keyword ++ Phrase.parenthesized limit
      else return keyword
    | _ => return keyword : Reader Phrase) := by
  refine ⟨fun cursor => .ahead_bind ?_⟩
  split
  · next stands =>
    have further := suffix_of_eq_cons stands
    split
    · split
      · exact .moveTo_bind further inferInstance
      · exact .pure cursor keyword
    · split
      · exact .moveTo_bind further inferInstance
      · exact .pure cursor keyword
  · exact .pure cursor keyword

instance : IsForward visibility := by
  unfold visibility
  infer_instance

/-! ### Parameters and conditions -/

instance : IsForward (parameter rules) := by
  unfold parameter
  dsimp only
  infer_instance

instance : IsForward (parameters rules) := by
  unfold parameters
  infer_instance

instance : IsForward (condition rules) := by
  unfold condition
  infer_instance

instance : IsForward (conditions rules) := by
  unfold conditions
  infer_instance

/-! ### Types -/

instance (allowCapture allowConst : Bool) (bound : Nat) :
    IsForward (moreBounds rules allowCapture allowConst bound) := by
  induction bound with
  | zero =>
    unfold moreBounds
    infer_instance
  | succ bound ih =>
    unfold moreBounds
    dsimp only
    infer_instance

instance (allowPlus allowCapture allowConst : Bool) :
    IsForward (traitSum rules allowPlus allowCapture allowConst) := by
  unfold traitSum
  dsimp only
  infer_instance

instance : IsForward (plusBounds rules) := by
  unfold plusBounds
  infer_instance

instance (allowArguments : Bool) : IsForward (capturedType rules allowArguments) := by
  unfold capturedType
  dsimp only
  infer_instance

instance : IsForward (moreOfTuple rules) := by
  unfold moreOfTuple
  infer_instance

instance (allowPlus : Bool) : IsForward (roundType rules allowPlus) := by
  unfold roundType
  dsimp only
  infer_instance

instance (isFirst : Bool) : IsForward (functionInput rules isFirst) := by
  unfold functionInput
  dsimp only
  infer_instance

instance (isFirst : Bool) (bound : Nat) : IsForward (functionInputs rules isFirst bound) := by
  induction bound generalizing isFirst with
  | zero =>
    unfold functionInputs
    infer_instance
  | succ bound ih =>
    unfold functionInputs
    refine ⟨fun cursor => .bind (IsForward.forwardFrom cursor) fun ended => ?_⟩
    split
    · infer_instance
    · refine ⟨fun cursor => .attempt_bind ?found ?absent⟩
      case found =>
        intro attributes later forward
        dsimp only
        split
        · exact .set_bind forward inferInstance
        · exact IsForward.forwardFrom cursor
      case absent =>
        dsimp only
        exact IsForward.forwardFrom cursor

instance : IsForward externConvention := by
  unfold externConvention
  infer_instance

instance : IsForward (functionType rules) := by
  unfold functionType
  dsimp only
  infer_instance

instance (bound : Nat) (base : Path) : IsForward (pathType.extend rules bound base) := by
  induction bound generalizing base with
  | zero =>
    unfold pathType.extend
    infer_instance
  | succ bound ih =>
    unfold pathType.extend
    dsimp only
    infer_instance

instance (lifetimes : Phrase) (allowPlus : Bool) :
    IsForward (pathType rules lifetimes allowPlus) := by
  unfold pathType
  dsimp only
  infer_instance

instance (allowPlus allowArguments : Bool) : IsForward (type rules allowPlus allowArguments) := by
  unfold type
  dsimp only
  infer_instance

instance : IsForward (wideResult rules) := by
  unfold wideResult
  infer_instance

end

end KeyedRecord.Grammar
