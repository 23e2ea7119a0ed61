/-
**Paths, attributes, parameters and types take the same in front of rests of one outline.**

The readers are those that stand in front of a rest themselves. What is only read inside a group is
not among them, since the group is the same for both.
-/

import KeyedRecord.Proofs.Grammar.Outline.Basic

namespace KeyedRecord.Grammar

-- The text of a long reader is followed to its end.
set_option synthInstance.maxSize 40000

section

variable {rest other : Phrase} [SameOutline rest other]

/-! ### Paths -/

instance : OfOutline startsPathSegment := by
  unfold startsPathSegment
  infer_instance

instance : OfOutline startsRoundArguments := by
  unfold startsRoundArguments
  infer_instance

instance {bound image : Nat} [same : Agree bound image] :
    InStep rest other (plainSegments bound) (plainSegments image) := by
  obtain rfl := same.eq
  clear same
  induction bound with
  | zero =>
    unfold plainSegments
    infer_instance
  | succ bound ih =>
    unfold plainSegments
    dsimp only
    infer_instance

instance : InStep rest other plainPath plainPath := by
  unfold plainPath
  infer_instance

instance : InStep rest other boundLifetimes boundLifetimes := by
  unfold boundLifetimes
  infer_instance

instance : InStep rest other boundLifetimes? boundLifetimes? := by
  unfold boundLifetimes?
  infer_instance

variable (rules : Rules) [rules.AreForward] [rules.AreInStep]

instance : InStep rest other (narrowResult rules) (narrowResult rules) := by
  unfold narrowResult
  infer_instance

instance : InStep rest other (roundArguments rules) (roundArguments rules) := by
  unfold roundArguments
  infer_instance

instance : InStep rest other (constantArgument rules) (constantArgument rules) := by
  unfold constantArgument
  infer_instance

instance (allowCapture allowConst : Bool) : InStep rest other
    (bound rules allowCapture allowConst) (bound rules allowCapture allowConst) := by
  unfold bound
  dsimp only
  infer_instance

instance : InStep rest other (angleArgument rules) (angleArgument rules) := by
  unfold angleArgument
  dsimp only
  infer_instance

instance : InStep rest other (angleArguments rules) (angleArguments rules) := by
  unfold angleArguments
  infer_instance

instance (inExpr : Bool) :
    InStep rest other (segment rules inExpr) (segment rules inExpr) := by
  unfold segment
  dsimp only
  infer_instance

instance (inExpr : Bool) {bound image : Nat} [same : Agree bound image] :
    InStep rest other (moreSegments rules inExpr bound) (moreSegments rules inExpr image) := by
  obtain rfl := same.eq
  clear same
  induction bound with
  | zero =>
    unfold moreSegments
    infer_instance
  | succ bound ih =>
    unfold moreSegments
    infer_instance

instance (inExpr : Bool) : InStep rest other (path rules inExpr) (path rules inExpr) := by
  unfold path
  infer_instance

instance (inExpr : Bool) (before : Path) :
    InStep rest other (pathRest rules inExpr before) (pathRest rules inExpr before) := by
  unfold pathRest
  infer_instance

instance (inExpr : Bool) {bound image : Nat} [same : Agree bound image] : InStep rest other
    (segmentsAfterType rules inExpr bound) (segmentsAfterType rules inExpr image) := by
  obtain rfl := same.eq
  clear same
  induction bound with
  | zero =>
    unfold segmentsAfterType
    infer_instance
  | succ bound ih =>
    unfold segmentsAfterType
    infer_instance

instance (inExpr : Bool) :
    InStep rest other (qualifiedPath rules inExpr) (qualifiedPath rules inExpr) := by
  unfold qualifiedPath
  infer_instance

instance : InStep rest other (methodArguments rules) (methodArguments rules) := by
  unfold methodArguments
  infer_instance

/-! ### Attributes -/

instance {bound image : Nat} [same : Agree bound image] :
    InStep rest other (attributesAtMost rules bound) (attributesAtMost rules image) := by
  obtain rfl := same.eq
  clear same
  induction bound with
  | zero =>
    unfold attributesAtMost
    infer_instance
  | succ bound ih =>
    unfold attributesAtMost
    infer_instance

instance : InStep rest other (attributes rules) (attributes rules) := by
  unfold attributes
  infer_instance

instance : InStep rest other (attributesPhrase rules) (attributesPhrase rules) := by
  unfold attributesPhrase
  infer_instance

instance : InStep rest other visibility visibility := by
  unfold visibility
  refine .bind fun isLimited => ?_
  split
  case isFalse => infer_instance
  case isTrue =>
    refine .bind fun keyword => ⟨isForward_limit keyword, ?_⟩
    intro phrase more result taken
    have looked := Takes.of_look looks_ahead taken
    refine .look looks_ahead rfl ?_
    rw [id] at looked ⊢
    -- The reader looks into a group that it may leave where it is, but that group is no block, so
    -- the same one stands in front of both rests.
    have alike : SameOutline (phrase ++ (more ++ rest)) (phrase ++ (more ++ other)) := inferInstance
    split at looked
    case h_2 noGroup =>
      obtain ⟨rfl, rfl⟩ := looked.of_pure
      split
      · next stands =>
        rw [stands] at alike
        obtain ⟨behind, stands⟩ := alike.symm.exists_cons nofun
        exact absurd stands (noGroup _ _)
      · exact .pure keyword _
    case h_1 content behind stands =>
      rw [stands] at alike
      obtain ⟨last, alike⟩ := alike.exists_cons nofun
      rw [alike]
      dsimp only
      split at looked
      case isTrue isModule =>
        rw [if_pos isModule]
        split at looked
        case isTrue alone =>
          rw [if_pos alone]
          exact InStep.pass inferInstance stands alike looked
        case isFalse several =>
          rw [if_neg several]
          obtain ⟨rfl, rfl⟩ := looked.of_pure
          exact .pure keyword _
      case isFalse noModule =>
        rw [if_neg noModule]
        split at looked
        case isTrue isPath =>
          rw [if_pos isPath]
          exact InStep.pass inferInstance stands alike looked
        case isFalse noPath =>
          rw [if_neg noPath]
          obtain ⟨rfl, rfl⟩ := looked.of_pure
          exact .pure keyword _

/-! ### Parameters and conditions -/

instance : OfOutline endsParameterBounds := by
  unfold endsParameterBounds
  infer_instance

instance : OfOutline endsConditions := by
  unfold endsConditions
  infer_instance

instance : InStep rest other (parameter rules) (parameter rules) := by
  unfold parameter
  dsimp only
  infer_instance

instance : InStep rest other (parameters rules) (parameters rules) := by
  unfold parameters
  infer_instance

instance : InStep rest other (condition rules) (condition rules) := by
  unfold condition
  infer_instance

instance : InStep rest other (conditions rules) (conditions rules) := by
  unfold conditions
  infer_instance

/-! ### Types -/

instance : OfOutline startsBound := by
  unfold startsBound
  infer_instance

instance (allowCapture allowConst : Bool) {bound image : Nat} [same : Agree bound image] :
    InStep rest other (moreBounds rules allowCapture allowConst bound)
      (moreBounds rules allowCapture allowConst image) := by
  obtain rfl := same.eq
  clear same
  induction bound with
  | zero =>
    unfold moreBounds
    infer_instance
  | succ bound ih =>
    unfold moreBounds
    dsimp only
    infer_instance

instance (allowPlus allowCapture allowConst : Bool) : InStep rest other
    (traitSum rules allowPlus allowCapture allowConst)
    (traitSum rules allowPlus allowCapture allowConst) := by
  unfold traitSum
  dsimp only
  infer_instance

instance : InStep rest other (plusBounds rules) (plusBounds rules) := by
  unfold plusBounds
  infer_instance

instance (allowArguments : Bool) :
    InStep rest other (capturedType rules allowArguments) (capturedType rules allowArguments) := by
  unfold capturedType
  dsimp only
  infer_instance

instance (allowPlus : Bool) :
    InStep rest other (roundType rules allowPlus) (roundType rules allowPlus) := by
  unfold roundType
  dsimp only
  infer_instance

instance : InStep rest other externConvention externConvention := by
  unfold externConvention
  infer_instance

instance : InStep rest other (functionType rules) (functionType rules) := by
  unfold functionType
  dsimp only
  infer_instance

instance {bound image : Nat} [same : Agree bound image] (base : Path) :
    InStep rest other (pathType.extend rules bound base) (pathType.extend rules image base) := by
  obtain rfl := same.eq
  clear same
  induction bound generalizing base with
  | zero =>
    unfold pathType.extend
    infer_instance
  | succ bound ih =>
    unfold pathType.extend
    dsimp only
    infer_instance

instance (lifetimes : Phrase) (allowPlus : Bool) :
    InStep rest other (pathType rules lifetimes allowPlus)
      (pathType rules lifetimes allowPlus) := by
  unfold pathType
  dsimp only
  infer_instance

instance (allowPlus allowArguments : Bool) :
    InStep rest other (type rules allowPlus allowArguments)
      (type rules allowPlus allowArguments) := by
  unfold type
  dsimp only
  infer_instance

instance : InStep rest other (wideResult rules) (wideResult rules) := by
  unfold wideResult
  infer_instance

end

end KeyedRecord.Grammar
