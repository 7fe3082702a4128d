import Snippet.Layout.Line

/-!
# Half levels in binary32

Levels of indentation are whole numbers and halves. As long as their number of halves, times the
width of a level, has no more than 24 binary digits, the arithmetic of binary32 rounds none of it,
and the number of characters that indent a level is the one that exact arithmetic gives.
-/

namespace Snippet

namespace Number

theorem twoTo_add (first second : Nat) : twoTo (first + second) = twoTo first * twoTo second :=
  Nat.pow_add 2 first second

theorem divideToEven_mul (n : Nat) {divisor : Nat} (h : 0 < divisor) :
    divideToEven (n * divisor) divisor = n := by
  unfold divideToEven
  rw [Nat.mul_div_cancel n h, Nat.mul_mod_left]
  apply if_neg
  rw [Bool.or_eq_true_iff, not_or]
  constructor
  · simp
  · simp [Nat.ne_of_lt h]

namespace Single

/-- Numbers of units that a binary32 number has the digits for. -/
def Fits (units : Nat) : Prop :=
  ∃ mantissa exponent, mantissa < twoTo 24 ∧ units = mantissa * twoTo exponent

theorem roundUnits_mul {units divisor : Nat} (h : Fits units) (hdivisor : 0 < divisor) :
    roundUnits (units * divisor) divisor = units := by
  unfold roundUnits
  dsimp only
  rw [Nat.mul_div_cancel units hdivisor]
  by_cases hsmall : units < twoTo 24
  · rw [if_pos hsmall, divideToEven_mul units hdivisor]
  · rw [if_neg hsmall]
    obtain ⟨mantissa, exponent, hmantissa, rfl⟩ := h
    -- The last digit that is kept is worth no more than the mantissa's.
    have hbelow : mantissa * twoTo exponent < twoTo (24 + exponent) := by
      rw [twoTo_add]
      exact Nat.mul_lt_mul_of_pos_right hmantissa (twoTo_pos exponent)
    have hne : mantissa * twoTo exponent ≠ 0 := by
      intro hzero
      rw [hzero] at hsmall
      exact hsmall (twoTo_pos 24)
    have hlog : (mantissa * twoTo exponent).log2 < 24 + exponent := (Nat.log2_lt hne).mpr hbelow
    obtain ⟨more, hmore⟩ : ∃ more, exponent = more + ((mantissa * twoTo exponent).log2 - 23) :=
      ⟨exponent - ((mantissa * twoTo exponent).log2 - 23), by omega⟩
    generalize (mantissa * twoTo exponent).log2 - 23 = step at hmore
    subst hmore
    have hunits : mantissa * twoTo (more + step) = mantissa * twoTo more * twoTo step := by
      rw [twoTo_add, Nat.mul_assoc]
    have hstep : 0 < divisor * twoTo step := Nat.mul_pos hdivisor (twoTo_pos step)
    calc
      divideToEven (mantissa * twoTo (more + step) * divisor) (divisor * twoTo step) * twoTo step =
          divideToEven (mantissa * twoTo more * (divisor * twoTo step)) (divisor * twoTo step) *
            twoTo step := by
        rw [hunits, Nat.mul_assoc _ (twoTo step), Nat.mul_comm (twoTo step)]
      _ = mantissa * twoTo more * twoTo step := by rw [divideToEven_mul _ hstep]
      _ = mantissa * twoTo (more + step) := hunits.symm

theorem unitsPerOne_eq : unitsPerOne = 2 * twoTo 148 := by decide

/-- A number of halves. -/
def ofHalves (count : Nat) : Single := .finite ((count * twoTo 148 : Nat) : Int)

theorem fits_halves {count : Nat} (h : count ≤ twoTo 24) : Fits (count * twoTo 148) := by
  rcases Nat.lt_or_eq_of_le h with hlt | rfl
  · exact ⟨count, 148, hlt, rfl⟩
  · exact ⟨1, 172, by decide, by decide⟩

theorem ofRatio_halves {count divisor : Nat} (h : count ≤ twoTo 24) (hdivisor : 0 < divisor) :
    ofRatio ((count * twoTo 148 * divisor : Nat) : Int) divisor = ofHalves count := by
  have hlarge : ¬twoTo 128 * unitsPerOne ≤ count * twoTo 148 := by
    have hcount : count * twoTo 148 ≤ twoTo 24 * twoTo 148 := Nat.mul_le_mul_right _ h
    have hbound : twoTo 24 * twoTo 148 < twoTo 128 * unitsPerOne := by decide
    omega
  have hnegative : decide (((count * twoTo 148 * divisor : Nat) : Int) < 0) = false :=
    decide_eq_false (by omega)
  unfold ofRatio ofUnits
  rw [hnegative, Int.natAbs_natCast, roundUnits_mul (fits_halves h) hdivisor, if_neg hlarge]
  rfl

theorem zero_eq : zero = ofHalves 0 := rfl

theorem half_eq : half = ofHalves 1 := by decide

theorem one_eq : one = ofHalves 2 := by decide

theorem ofNat_eq {n : Nat} (h : n ≤ twoTo 23) : ofNat n = ofHalves (2 * n) := by
  have hunits : n * unitsPerOne = 2 * n * twoTo 148 * 1 := by
    rw [unitsPerOne_eq, Nat.mul_one, Nat.mul_left_comm, Nat.mul_assoc]
  unfold ofNat
  rw [hunits]
  apply ofRatio_halves
  · have htwo : twoTo 24 = 2 * twoTo 23 := by decide
    omega
  · exact Nat.one_pos

theorem add_halves {first second : Nat} (h : first + second ≤ twoTo 24) :
    (ofHalves first).add (ofHalves second) = ofHalves (first + second) := by
  rw [← ofRatio_halves h Nat.one_pos, Nat.mul_one, Nat.add_mul, Int.natCast_add]
  rfl

theorem mul_ofNat {count n : Nat} (hn : n ≤ twoTo 23) (h : count * n ≤ twoTo 24) :
    (ofHalves count).mul (ofNat n) = ofHalves (count * n) := by
  have hproduct : ((count * twoTo 148 : Nat) : Int) * ((2 * n * twoTo 148 : Nat) : Int) =
      ((count * n * twoTo 148 * unitsPerOne : Nat) : Int) := by
    have hunits : count * twoTo 148 * (2 * n * twoTo 148) =
        count * n * twoTo 148 * (2 * twoTo 148) := by
      ac_rfl
    rw [unitsPerOne_eq, ← hunits, ← Int.natCast_mul]
  rw [ofNat_eq hn, ← ofRatio_halves h (twoTo_pos 149), ← unitsPerOne, ← hproduct]
  rfl

theorem toNat_halves (count : Nat) : (ofHalves count).toNat = count / 2 := by
  unfold ofHalves toNat
  dsimp only
  rw [Int.toNat_natCast, unitsPerOne_eq, Nat.mul_div_mul_right _ _ (twoTo_pos 148)]

/-- Nothing wide is nothing, also at a level beyond all numbers. -/
theorem toNat_mul_zero (x : Single) : (x.mul (ofNat 0)).toNat = 0 := by
  have hzero : ofNat 0 = .finite 0 := by decide
  rw [hzero]
  cases x with
  | notANumber => rfl
  | infinite negative => rfl
  | finite units =>
      have hproduct : (Single.finite units).mul (.finite 0) = .finite 0 := by
        change ofRatio (units * 0) unitsPerOne = .finite 0
        rw [Int.mul_zero]
        decide
      rw [hproduct]
      decide

end Single

end Number

namespace Layout.IndentUnit

open Number (Single twoTo)

variable {unit : IndentUnit}

theorem countAt_halves {level halves : Nat} (hlevel : 2 * level + halves ≤ twoTo 24)
    (hwidth : unit.width ≤ twoTo 23) (h : (2 * level + halves) * unit.width ≤ twoTo 24) :
    unit.countAt level (.ofHalves halves) = (2 * level + halves) * unit.width / 2 := by
  have hbelow : level ≤ twoTo 23 := by
    have htwo : twoTo 24 = 2 * twoTo 23 := by decide
    omega
  rw [countAt, count, Single.ofNat_eq hbelow, Single.add_halves hlevel, Single.mul_ofNat hwidth h,
    Single.toNat_halves]

/-- One level more is one width more. -/
theorem countAt_succ {level halves : Nat} (hhalves : halves ≤ 2)
    (h : (level + 1) * unit.width ≤ twoTo 22) :
    unit.countAt (level + 1) (.ofHalves halves) =
      unit.countAt level (.ofHalves halves) + unit.width := by
  obtain ⟨width, character⟩ := unit
  dsimp only at h
  cases width with
  | zero => simp only [countAt, count, Single.toNat_mul_zero]
  | succ width =>
      have hbound : twoTo 22 = 4194304 ∧ twoTo 23 = 8388608 ∧ twoTo 24 = 16777216 := by decide
      have hlevel : level + 1 ≤ (level + 1) * (width + 1) :=
        Nat.le_mul_of_pos_right _ width.succ_pos
      have hwidth : width + 1 ≤ (level + 1) * (width + 1) :=
        Nat.le_mul_of_pos_left _ level.succ_pos
      have hextra : halves * (width + 1) ≤ 2 * (width + 1) := Nat.mul_le_mul_right _ hhalves
      have hdeeper : (2 * (level + 1) + halves) * (width + 1) =
          2 * ((level + 1) * (width + 1)) + halves * (width + 1) := by
        rw [Nat.add_mul, Nat.mul_assoc]
      have hsame : (2 * (level + 1) + halves) * (width + 1) =
          (2 * level + halves) * (width + 1) + 2 * (width + 1) := by
        rw [← Nat.add_mul]
        congr 1
        omega
      rw [countAt_halves (by omega) (by dsimp only; omega) (by dsimp only; omega),
        countAt_halves (by omega) (by dsimp only; omega) (by dsimp only; omega)]
      dsimp only
      rw [hsame, Nat.add_mul_div_left _ _ Nat.two_pos]

end Layout.IndentUnit

end Snippet
