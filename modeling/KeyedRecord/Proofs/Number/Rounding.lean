/-
**Rounding to the nearest magnitude.**

Between two neighbouring magnitudes lies a middle, and a fraction is rounded to the magnitude whose
two middles it lies between. A middle itself belongs to the even one of its neighbours. Fractions
are counted in halves of the smallest positive number, so that the middles are whole.

* `BinaryFormat.Encloses`: the fraction lies between the middles of the magnitude.
* `BinaryFormat.Encloses.unique`: no two magnitudes enclose one fraction.
* `BinaryFormat.encloses_nearest`: what a fraction is rounded to encloses it.
* `BinaryFormat.round_of_encloses`: a fraction that a finite magnitude encloses is rounded to it.
-/

import KeyedRecord.Proofs.Number.Exact

namespace KeyedRecord

namespace BinaryFormat

variable (format : BinaryFormat)

/-! ### Neighbouring magnitudes -/

/-- The units of an exponent with a significand. The significand may reach the length at which the
exponent grows, and is short only beside the smallest exponent. -/
theorem units_of_parts {exponent significand : Nat}
    (full : exponent = 0 ∨ 2 ^ format.fractionBits ≤ significand)
    (atMost : significand ≤ 2 ^ (format.fractionBits + 1)) :
    format.units (exponent * 2 ^ format.fractionBits + significand) =
      significand * 2 ^ exponent := by
  rcases Nat.lt_or_ge significand (2 ^ format.fractionBits) with small | large
  · obtain rfl : exponent = 0 := full.resolve_right (Nat.not_le_of_lt small)
    rw [zero_mul, zero_add, pow_zero, mul_one, format.units_of_subnormal small]
  rcases Nat.lt_or_eq_of_le atMost with short | rfl
  · exact format.units_of_normal exponent large short
  · have carried : exponent * 2 ^ format.fractionBits + 2 ^ (format.fractionBits + 1) =
        (exponent + 1) * 2 ^ format.fractionBits + 2 ^ format.fractionBits := by ring
    have shorter : 2 ^ format.fractionBits < 2 ^ (format.fractionBits + 1) :=
      Nat.pow_lt_pow_right Nat.one_lt_two (Nat.lt_succ_self _)
    rw [carried, format.units_of_normal _ (Nat.le_refl _) shorter]
    ring

/-- Every magnitude is an exponent with a significand that is not yet too long. -/
theorem exists_parts (magnitude : Nat) :
    ∃ exponent significand, (exponent = 0 ∨ 2 ^ format.fractionBits ≤ significand) ∧
      significand < 2 ^ (format.fractionBits + 1) ∧
      magnitude = exponent * 2 ^ format.fractionBits + significand := by
  rcases format.magnitude_cases magnitude with
    small | ⟨exponent, significand, lower, upper, rfl⟩
  · refine ⟨0, magnitude, .inl rfl, ?_, ?_⟩
    · exact small.trans_le (Nat.pow_le_pow_right Nat.two_pos (Nat.le_succ _))
    · rw [zero_mul, zero_add]
  · exact ⟨exponent, significand, .inr lower, upper, rfl⟩

/-- A greater magnitude stands for more units. -/
theorem units_strictMono : StrictMono format.units := by
  refine strictMono_nat_of_lt_succ fun magnitude => ?_
  obtain ⟨exponent, significand, full, upper, rfl⟩ := format.exists_parts magnitude
  rw [format.units_of_parts full upper.le, Nat.add_assoc,
    format.units_of_parts (full.imp_right Nat.le_succ_of_le) upper]
  exact Nat.mul_lt_mul_of_pos_right (Nat.lt_succ_self _) (Nat.two_pow_pos _)

theorem units_pos {magnitude : Nat} (positive : 0 < magnitude) : 0 < format.units magnitude :=
  Nat.lt_of_le_of_lt (Nat.zero_le _) (format.units_strictMono positive)

/-! ### Enclosed fractions -/

/-- The fraction `point / denominator`, in halves of the smallest positive number, lies between the
middles of the magnitude and its two neighbours. An odd magnitude does not reach them. -/
structure Encloses (magnitude point denominator : Nat) : Prop where
  lowest : (format.units (magnitude - 1) + format.units magnitude) * denominator ≤ point
  highest : point ≤ (format.units magnitude + format.units (magnitude + 1)) * denominator
  inside : magnitude % 2 = 1 →
    (format.units (magnitude - 1) + format.units magnitude) * denominator < point ∧
      point < (format.units magnitude + format.units (magnitude + 1)) * denominator

/-- Equal fractions lie alike above a bound. -/
theorem mul_le_iff_of_same {point denominator point' denominator' : Nat}
    (positive : 0 < denominator) (positive' : 0 < denominator')
    (same : point * denominator' = point' * denominator) (bound : Nat) :
    bound * denominator ≤ point ↔ bound * denominator' ≤ point' := by
  rw [← Nat.mul_le_mul_right_iff positive', same, Nat.mul_right_comm,
    Nat.mul_le_mul_right_iff positive]

/-- Equal fractions lie alike below a bound. -/
theorem le_mul_iff_of_same {point denominator point' denominator' : Nat}
    (positive : 0 < denominator) (positive' : 0 < denominator')
    (same : point * denominator' = point' * denominator) (bound : Nat) :
    point ≤ bound * denominator ↔ point' ≤ bound * denominator' := by
  rw [← Nat.mul_le_mul_right_iff positive', same, Nat.mul_right_comm,
    Nat.mul_le_mul_right_iff positive]

variable {format}

/-- Whether a fraction is enclosed depends on its value only. -/
theorem Encloses.congr {magnitude point denominator point' denominator' : Nat}
    (encloses : format.Encloses magnitude point denominator) (positive : 0 < denominator)
    (positive' : 0 < denominator') (same : point * denominator' = point' * denominator) :
    format.Encloses magnitude point' denominator' := by
  have above := mul_le_iff_of_same positive positive' same
  have below := le_mul_iff_of_same positive positive' same
  refine ⟨(above _).mp encloses.lowest, (below _).mp encloses.highest, fun odd => ⟨?_, ?_⟩⟩
  · exact (lt_iff_lt_of_le_iff_le (below _)).mp (encloses.inside odd).1
  · exact (lt_iff_lt_of_le_iff_le (above _)).mp (encloses.inside odd).2

/-- A fraction that lies strictly between the middles is enclosed. -/
theorem Encloses.of_lt {magnitude point denominator : Nat}
    (lowest : (format.units (magnitude - 1) + format.units magnitude) * denominator < point)
    (highest : point < (format.units magnitude + format.units (magnitude + 1)) * denominator) :
    format.Encloses magnitude point denominator :=
  ⟨lowest.le, highest.le, fun _ => ⟨lowest, highest⟩⟩

/-- The fraction that is exactly the number of a positive magnitude is enclosed. -/
theorem encloses_exact {magnitude denominator : Nat} (nonzero : 0 < magnitude)
    (positive : 0 < denominator) :
    format.Encloses magnitude (2 * format.units magnitude * denominator) denominator := by
  have previous : format.units (magnitude - 1) < format.units magnitude :=
    format.units_strictMono (Nat.sub_lt nonzero Nat.one_pos)
  have next : format.units magnitude < format.units (magnitude + 1) :=
    format.units_strictMono (Nat.lt_succ_self _)
  refine .of_lt ?_ ?_
  · exact Nat.mul_lt_mul_of_pos_right (by omega) positive
  · exact Nat.mul_lt_mul_of_pos_right (by omega) positive

/-- The upper middle of a magnitude is at most the lower one of a greater magnitude, and it is the
same only for the next magnitude. -/
theorem middle_le {lower upper : Nat} (less : lower < upper) :
    format.units lower + format.units (lower + 1) ≤
        format.units (upper - 1) + format.units upper ∧
      (format.units lower + format.units (lower + 1) =
        format.units (upper - 1) + format.units upper → upper = lower + 1) := by
  have first : format.units lower ≤ format.units (upper - 1) :=
    format.units_strictMono.monotone (by omega)
  have second : format.units (lower + 1) ≤ format.units upper :=
    format.units_strictMono.monotone less
  refine ⟨Nat.add_le_add first second, fun equal => ?_⟩
  exact (format.units_strictMono.injective (by omega : format.units (lower + 1) = _)).symm

/-- A magnitude that encloses a fraction is not less than another one that does. -/
theorem Encloses.not_lt {lower upper point denominator : Nat} (positive : 0 < denominator)
    (below : format.Encloses lower point denominator)
    (above : format.Encloses upper point denominator) : ¬lower < upper := by
  intro less
  obtain ⟨ordered, adjacent⟩ := format.middle_le less
  have equal : format.units lower + format.units (lower + 1) =
      format.units (upper - 1) + format.units upper :=
    Nat.le_antisymm ordered
      (Nat.le_of_mul_le_mul_right (above.lowest.trans below.highest) positive)
  obtain rfl := adjacent equal
  -- The common middle belongs to the even one of the two.
  rcases Nat.mod_two_eq_zero_or_one lower with even | odd
  · have outside := (above.inside (by omega)).1
    rw [← equal] at outside
    exact Nat.not_le_of_lt outside below.highest
  · have outside := (below.inside odd).2
    rw [equal] at outside
    exact Nat.not_le_of_lt outside above.lowest

/-- **No two magnitudes enclose one fraction.** -/
theorem Encloses.unique {first second point denominator : Nat} (positive : 0 < denominator)
    (encloses : format.Encloses first point denominator)
    (encloses' : format.Encloses second point denominator) : first = second :=
  Nat.le_antisymm (Nat.le_of_not_lt (encloses'.not_lt positive encloses))
    (Nat.le_of_not_lt (encloses.not_lt positive encloses'))

end BinaryFormat

/-! ### Rounding to a natural number -/

/-- What a fraction is rounded to is at most a half away from it, and if it is odd then it is
nearer. -/
theorem roundHalfEven_spec (numerator : Nat) {denominator : Nat} (positive : 0 < denominator) :
    2 * roundHalfEven numerator denominator * denominator ≤ 2 * numerator + denominator ∧
      2 * numerator ≤ 2 * roundHalfEven numerator denominator * denominator + denominator ∧
      (roundHalfEven numerator denominator % 2 = 1 →
        2 * roundHalfEven numerator denominator * denominator < 2 * numerator + denominator ∧
        2 * numerator < 2 * roundHalfEven numerator denominator * denominator + denominator) := by
  have parts := Nat.div_add_mod' numerator denominator
  have remainder := Nat.mod_lt numerator positive
  simp only [roundHalfEven]
  generalize numerator / denominator = quotient at *
  generalize numerator % denominator = rest at *
  have down : 2 * quotient * denominator = 2 * (quotient * denominator) := by ring
  have up : 2 * (quotient + 1) * denominator = 2 * (quotient * denominator) + 2 * denominator := by
    ring
  split
  · omega
  · split
    · omega
    · rcases Nat.mod_two_eq_zero_or_one quotient with even | odd
      · rw [even, Nat.add_zero]
        omega
      · rw [odd]
        omega

/-- A multiple of the denominator that is not exceeded is not exceeded after rounding. -/
theorem roundHalfEven_le {numerator denominator bound : Nat} (positive : 0 < denominator)
    (atMost : numerator ≤ bound * denominator) : roundHalfEven numerator denominator ≤ bound := by
  have near := (roundHalfEven_spec numerator positive).1
  have scaled : 2 * roundHalfEven numerator denominator * denominator ≤
      (2 * bound + 1) * denominator := by
    rw [add_mul, one_mul, mul_assoc 2 bound]
    omega
  have halves := Nat.le_of_mul_le_mul_right scaled positive
  omega

/-- A multiple of the denominator that is reached is reached after rounding. -/
theorem le_roundHalfEven {numerator denominator bound : Nat} (positive : 0 < denominator)
    (atLeast : bound * denominator ≤ numerator) : bound ≤ roundHalfEven numerator denominator := by
  have near := (roundHalfEven_spec numerator positive).2.1
  have scaled : 2 * bound * denominator ≤
      (2 * roundHalfEven numerator denominator + 1) * denominator := by
    rw [add_mul, one_mul, mul_assoc 2 bound]
    omega
  have halves := Nat.le_of_mul_le_mul_right scaled positive
  omega

/-! ### Rounding to a magnitude -/

namespace BinaryFormat

variable (format : BinaryFormat)

/-- The magnitude nearest to a fraction in a format without a greatest exponent. -/
def nearest (scaled denominator : Nat) : Nat :=
  let exponent := (scaled / denominator).log2 - format.fractionBits
  exponent * 2 ^ format.fractionBits + roundHalfEven scaled (denominator * 2 ^ exponent)

/-- Rounding takes the nearest magnitude, and infinity in place of what is beyond it. -/
theorem round_eq_min (numerator denominator : Nat) :
    format.round numerator denominator =
      min (format.nearest (numerator * 2 ^ format.unitBits) denominator) format.infinity :=
  rfl

/-- The significand to which a fraction is rounded has the length that goes with its exponent. -/
theorem nearest_parts (scaled : Nat) {denominator : Nat} (positive : 0 < denominator) :
    ∃ exponent significand,
      format.nearest scaled denominator = exponent * 2 ^ format.fractionBits + significand ∧
      significand = roundHalfEven scaled (denominator * 2 ^ exponent) ∧
      (exponent = 0 ∨ 2 ^ format.fractionBits * (denominator * 2 ^ exponent) ≤ scaled) ∧
      (exponent = 0 ∨ 2 ^ format.fractionBits ≤ significand) ∧
      significand ≤ 2 ^ (format.fractionBits + 1) := by
  have step : ∀ exponent, 0 < denominator * 2 ^ exponent :=
    fun exponent => Nat.mul_pos positive (Nat.two_pow_pos exponent)
  unfold nearest
  dsimp only
  generalize chosen : (scaled / denominator).log2 - format.fractionBits = exponent
  have reached :
      exponent = 0 ∨ 2 ^ format.fractionBits * (denominator * 2 ^ exponent) ≤ scaled := by
    rcases Nat.eq_zero_or_pos exponent with small | large
    · exact .inl small
    refine .inr ?_
    have nonzero : scaled / denominator ≠ 0 := by
      intro zero
      rw [zero, Nat.log2_zero, Nat.zero_sub] at chosen
      exact large.ne chosen
    have length : format.fractionBits + exponent = (scaled / denominator).log2 := by omega
    calc 2 ^ format.fractionBits * (denominator * 2 ^ exponent)
        = 2 ^ (scaled / denominator).log2 * denominator := by
          rw [mul_comm denominator, ← mul_assoc, ← pow_add, length]
      _ ≤ scaled / denominator * denominator :=
          Nat.mul_le_mul_right _ (Nat.log2_self_le nonzero)
      _ ≤ scaled := Nat.div_mul_le_self _ _
  have bounded : scaled ≤ 2 ^ (format.fractionBits + 1) * (denominator * 2 ^ exponent) := by
    have length : (scaled / denominator).log2 + 1 ≤ format.fractionBits + 1 + exponent := by omega
    calc scaled
        ≤ (scaled / denominator + 1) * denominator := by
          rw [mul_comm]
          exact (Nat.lt_mul_div_succ scaled positive).le
      _ ≤ 2 ^ (format.fractionBits + 1 + exponent) * denominator :=
          Nat.mul_le_mul_right _
            (Nat.lt_log2_self.trans_le (Nat.pow_le_pow_right Nat.two_pos length))
      _ = 2 ^ (format.fractionBits + 1) * (denominator * 2 ^ exponent) := by
          rw [pow_add]
          ring
  exact ⟨exponent, _, rfl, rfl, reached, reached.imp_right (le_roundHalfEven (step _)),
    roundHalfEven_le (step _) bounded⟩

/-- The next magnitude is at least one significand further. -/
theorem le_units_succ {exponent significand : Nat}
    (full : exponent = 0 ∨ 2 ^ format.fractionBits ≤ significand)
    (atMost : significand ≤ 2 ^ (format.fractionBits + 1)) :
    (significand + 1) * 2 ^ exponent ≤
      format.units (exponent * 2 ^ format.fractionBits + significand + 1) := by
  rcases Nat.lt_or_eq_of_le atMost with short | rfl
  · rw [Nat.add_assoc, format.units_of_parts (full.imp_right Nat.le_succ_of_le) short]
  · have carried : exponent * 2 ^ format.fractionBits + 2 ^ (format.fractionBits + 1) + 1 =
        (exponent + 1) * 2 ^ format.fractionBits + (2 ^ format.fractionBits + 1) := by ring
    have short : 2 ^ format.fractionBits + 1 ≤ 2 ^ (format.fractionBits + 1) := by
      have := Nat.two_pow_pos format.fractionBits
      rw [pow_succ]
      omega
    rw [carried, format.units_of_parts (.inr (Nat.le_succ _)) short]
    calc (2 ^ (format.fractionBits + 1) + 1) * 2 ^ exponent
        ≤ (2 ^ (format.fractionBits + 1) + 2) * 2 ^ exponent :=
          Nat.mul_le_mul_right _ (Nat.le_succ _)
      _ = (2 ^ format.fractionBits + 1) * 2 ^ (exponent + 1) := by ring

/-- The magnitude before is one significand less, but for the shortest significand. -/
theorem units_pred {exponent significand : Nat} (nonzero : 0 < significand)
    (full : exponent = 0 ∨ 2 ^ format.fractionBits < significand)
    (atMost : significand ≤ 2 ^ (format.fractionBits + 1)) :
    format.units (exponent * 2 ^ format.fractionBits + significand - 1) =
      (significand - 1) * 2 ^ exponent := by
  rw [Nat.add_sub_assoc nonzero]
  exact format.units_of_parts (full.imp_right Nat.le_sub_one_of_lt)
    ((Nat.sub_le _ _).trans atMost)

/-- A fraction is not below the lower middle of what it is rounded to. -/
theorem lowest_nearest (scaled : Nat) {denominator : Nat} (positive : 0 < denominator)
    {exponent significand : Nat}
    (rounded : significand = roundHalfEven scaled (denominator * 2 ^ exponent))
    (reached : exponent = 0 ∨ 2 ^ format.fractionBits * (denominator * 2 ^ exponent) ≤ scaled)
    (full : exponent = 0 ∨ 2 ^ format.fractionBits ≤ significand)
    (atMost : significand ≤ 2 ^ (format.fractionBits + 1)) :
    (format.units (exponent * 2 ^ format.fractionBits + significand - 1) +
        format.units (exponent * 2 ^ format.fractionBits + significand)) * denominator ≤
          2 * scaled ∧
      (significand % 2 = 1 →
        (format.units (exponent * 2 ^ format.fractionBits + significand - 1) +
          format.units (exponent * 2 ^ format.fractionBits + significand)) * denominator <
            2 * scaled) := by
  have step : 0 < denominator * 2 ^ exponent := Nat.mul_pos positive (Nat.two_pow_pos _)
  obtain ⟨lowest, -, inside⟩ := roundHalfEven_spec scaled step
  rw [← rounded] at lowest inside
  have own := format.units_of_parts full atMost
  rcases Nat.eq_zero_or_pos significand with zero | nonzero
  · subst zero
    obtain rfl : exponent = 0 :=
      full.resolve_right (Nat.not_le_of_lt (Nat.two_pow_pos _))
    rw [zero_mul, zero_add] at own
    rw [zero_mul, zero_add, Nat.zero_sub, own, zero_mul, Nat.zero_add, zero_mul]
    exact ⟨Nat.zero_le _, fun odd => absurd odd (by decide)⟩
  by_cases growing : exponent = 0 ∨ 2 ^ format.fractionBits < significand
  · have sum : ((significand - 1) * 2 ^ exponent + significand * 2 ^ exponent) * denominator +
        denominator * 2 ^ exponent = 2 * significand * (denominator * 2 ^ exponent) := by
      obtain ⟨before, rfl⟩ := Nat.exists_eq_succ_of_ne_zero nonzero.ne'
      rw [Nat.succ_sub_one, Nat.succ_eq_add_one]
      ring
    rw [own, format.units_pred nonzero growing atMost]
    refine ⟨by omega, fun odd => ?_⟩
    have strict := (inside odd).1
    omega
  · -- Below the shortest significand the magnitudes are closer, but the fraction is not there.
    have shortest : significand = 2 ^ format.fractionBits :=
      Nat.le_antisymm (Nat.le_of_not_lt fun more => growing (.inr more))
        (full.resolve_left fun zero => growing (.inl zero))
    have reached := reached.resolve_left fun zero => growing (.inl zero)
    have previous : format.units (exponent * 2 ^ format.fractionBits + significand - 1) <
        format.units (exponent * 2 ^ format.fractionBits + significand) :=
      format.units_strictMono (by omega)
    have strict : (format.units (exponent * 2 ^ format.fractionBits + significand - 1) +
        format.units (exponent * 2 ^ format.fractionBits + significand)) * denominator <
          2 * scaled := by
      calc _ < 2 * (significand * 2 ^ exponent) * denominator := by
            rw [← own]
            exact Nat.mul_lt_mul_of_pos_right (by omega) positive
        _ = 2 * (2 ^ format.fractionBits * (denominator * 2 ^ exponent)) := by
            rw [shortest]
            ring
        _ ≤ 2 * scaled := Nat.mul_le_mul_left 2 reached
    exact ⟨strict.le, fun _ => strict⟩

/-- **What a fraction is rounded to encloses it**, in a format with a fraction. -/
theorem encloses_nearest (hasFraction : 0 < format.fractionBits) (scaled : Nat)
    {denominator : Nat} (positive : 0 < denominator) :
    format.Encloses (format.nearest scaled denominator) (2 * scaled) denominator := by
  obtain ⟨exponent, significand, parts, rounded, reached, full, atMost⟩ :=
    format.nearest_parts scaled positive
  have step : 0 < denominator * 2 ^ exponent := Nat.mul_pos positive (Nat.two_pow_pos _)
  obtain ⟨-, highest, inside⟩ := roundHalfEven_spec scaled step
  rw [← rounded] at highest inside
  have parity : format.nearest scaled denominator % 2 = significand % 2 := by
    have even : exponent * 2 ^ format.fractionBits % 2 = 0 := by
      obtain ⟨bits, fraction⟩ := Nat.exists_eq_add_of_lt hasFraction
      rw [fraction, Nat.zero_add, pow_succ, ← mul_assoc, Nat.mul_mod_left]
    rw [parts]
    omega
  have upper : 2 * significand * (denominator * 2 ^ exponent) + denominator * 2 ^ exponent ≤
      (format.units (format.nearest scaled denominator) +
        format.units (format.nearest scaled denominator + 1)) * denominator := by
    calc 2 * significand * (denominator * 2 ^ exponent) + denominator * 2 ^ exponent
        = (significand * 2 ^ exponent + (significand + 1) * 2 ^ exponent) * denominator := by ring
      _ ≤ _ := by
          rw [parts, format.units_of_parts full atMost]
          exact Nat.mul_le_mul_right _
            (Nat.add_le_add_left (format.le_units_succ full atMost) _)
  obtain ⟨lower, lowerOdd⟩ := format.lowest_nearest scaled positive rounded reached full atMost
  rw [← parts] at lower lowerOdd
  refine ⟨lower, highest.trans upper, fun odd => ?_⟩
  rw [parity] at odd
  exact ⟨lowerOdd odd, (inside odd).2.trans_le upper⟩

/-- **A fraction that a finite magnitude encloses is rounded to it.** -/
theorem round_of_encloses (hasFraction : 0 < format.fractionBits)
    {magnitude numerator denominator : Nat} (positive : 0 < denominator)
    (finite : magnitude < format.infinity)
    (encloses : format.Encloses magnitude (2 * (numerator * 2 ^ format.unitBits)) denominator) :
    format.round numerator denominator = magnitude := by
  have nearest : format.nearest (numerator * 2 ^ format.unitBits) denominator = magnitude :=
    (format.encloses_nearest hasFraction _ positive).unique positive encloses
  rw [round_eq_min, nearest]
  exact Nat.min_eq_left finite.le

end BinaryFormat

end KeyedRecord
