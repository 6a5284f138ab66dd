/-
Module: SassRenderLint.Proofs.DistanceOrder
Layer: Proofs
Purpose: How far rounding keeps the order of distances. A rounded distance never turns the order of two
  exact ones round. It may make them equal: roots of neighbouring whole numbers come closer and closer, and
  the spacing of rounded numbers grows. Below `2 ^ 50` the roots are still at least two spacings apart, so
  positions whose coordinates are below `2 ^ 24` are ordered by rounded distances as by exact ones.
Main exports: Distance.wholeRoot_eq_sqrt, Distance.roundBits_mono, Distance.roundBits_lt, Distance.root_mono,
  Distance.root_lt, Position.distance_lt_iff
-/
import Mathlib.Data.Nat.Sqrt
import Mathlib.Tactic.Linarith
import Mathlib.Tactic.Ring
import SassRenderLint.Sheet.Distance

namespace SassRenderLint

namespace Distance

/-! ### Whole roots -/

/-- Digit by digit in base four, the whole part of the root is found. -/
theorem wholeRoot_eq_sqrt {k n : Nat} (small : n < 4 ^ k) : wholeRoot k n = Nat.sqrt n := by
  induction k generalizing n with
  | zero =>
      have zero : n = 0 := by omega
      subst zero
      rfl
  | succ k ih =>
      have half := ih (n := n / 4) (by rw [Nat.pow_succ] at small; omega)
      have below := Nat.sqrt_le (n / 4)
      have above := Nat.lt_succ_sqrt (n / 4)
      rw [Nat.succ_eq_add_one] at above
      have quarter := Nat.div_mul_le_self n 4
      have next := Nat.lt_div_mul_add (a := n) (b := 4) (by decide)
      simp only [wholeRoot, half]
      -- Twice the root of the quarter is the root of the number or one less.
      split
      · rename_i fits
        refine Nat.eq_sqrt.2 ⟨fits, ?_⟩
        nlinarith
      · rename_i tooLarge
        refine Nat.eq_sqrt.2 ⟨?_, by omega⟩
        nlinarith

/-- The root of a whole number in the units of distances, before it is rounded. -/
def scaledRoot (n : Nat) : Nat := Nat.sqrt (n * 2 ^ 128)

/-- A distance is the scaled root, rounded, with a note whether anything was cut off of it. -/
theorem root_eq (n : Nat) :
    root n = roundBits (scaledRoot n) (scaledRoot n * scaledRoot n != n * 2 ^ 128) := by
  have small : n * 2 ^ 128 < 4 ^ (Nat.log2 (n * 2 ^ 128) / 2 + 1) := by
    have power : (4 : Nat) ^ (Nat.log2 (n * 2 ^ 128) / 2 + 1) = 2 ^ (2 * (Nat.log2 (n * 2 ^ 128) / 2 + 1)) := by
      rw [Nat.pow_mul]
    rw [power]
    refine Nat.lt_of_lt_of_le Nat.lt_log2_self (Nat.pow_le_pow_right (by decide) ?_)
    omega
  simp only [root, Nat.shiftLeft_eq, wholeRoot_eq_sqrt small]
  rfl

/-! ### Rounding -/

/-- The spacing of the numbers with fifty-three bits around a number. -/
def spacing (n : Nat) : Nat := 2 ^ (Nat.log2 n + 1 - 53)

theorem spacing_pos (n : Nat) : 0 < spacing n := Nat.two_pow_pos _

def RoundsUp (n : Nat) (inexact : Bool) : Prop :=
  0 < Nat.log2 n + 1 - 53 ∧ (spacing n < 2 * (n % spacing n) ∨
    spacing n = 2 * (n % spacing n) ∧ (inexact = true ∨ n / spacing n % 2 = 1))

/-- Rounded up, a number goes to the next multiple of the spacing. -/
theorem roundBits_of_roundsUp {n : Nat} {inexact : Bool} (up : RoundsUp n inexact) :
    roundBits n inexact = (n / spacing n + 1) * spacing n := by
  simp only [roundBits, Nat.one_shiftLeft]
  exact if_pos up

/-- Otherwise it goes to the multiple below. -/
theorem roundBits_of_not_roundsUp {n : Nat} {inexact : Bool} (down : ¬ RoundsUp n inexact) :
    roundBits n inexact = n / spacing n * spacing n := by
  simp only [roundBits, Nat.one_shiftLeft]
  exact if_neg down

/-- Rounding never goes below the multiple that is cut off to. -/
theorem div_mul_le_roundBits (n : Nat) (inexact : Bool) : n / spacing n * spacing n ≤ roundBits n inexact := by
  by_cases up : RoundsUp n inexact
  · rw [roundBits_of_roundsUp up]
    exact Nat.mul_le_mul_right _ (Nat.le_succ _)
  · rw [roundBits_of_not_roundsUp up]

/-- Rounding never goes beyond the next multiple. -/
theorem roundBits_le_div_mul (n : Nat) (inexact : Bool) :
    roundBits n inexact ≤ (n / spacing n + 1) * spacing n := by
  by_cases up : RoundsUp n inexact
  · rw [roundBits_of_roundsUp up]
  · rw [roundBits_of_not_roundsUp up]
    exact Nat.mul_le_mul_right _ (Nat.le_succ _)

/-- Powers of two are themselves numbers with fifty-three bits, at their own spacing and at any smaller one. -/
theorem spacing_dvd {n k : Nat} (far : Nat.log2 n ≤ k) : spacing n ∣ 2 ^ k := Nat.pow_dvd_pow 2 (by omega)

/-- Rounding does not leave the powers of two around a number. -/
theorem roundBits_le_pow (n : Nat) (inexact : Bool) : roundBits n inexact ≤ 2 ^ (Nat.log2 n + 1) := by
  obtain ⟨count, power⟩ := spacing_dvd (n := n) (Nat.le_succ (Nat.log2 n))
  have inside : n / spacing n < count := by
    rw [Nat.div_lt_iff_lt_mul (spacing_pos n), Nat.mul_comm, ← power]
    exact Nat.lt_log2_self
  refine Nat.le_trans (roundBits_le_div_mul n inexact) ?_
  rw [← Nat.succ_eq_add_one (Nat.log2 n), power, Nat.mul_comm]
  exact Nat.mul_le_mul_left _ inside

/-- Rounding does not lose the leading bit, so numbers of different length stay in order. -/
theorem pow_le_roundBits {n : Nat} (positive : n ≠ 0) (inexact : Bool) : 2 ^ Nat.log2 n ≤ roundBits n inexact := by
  obtain ⟨count, power⟩ := spacing_dvd (Nat.le_refl (Nat.log2 n))
  have inside : count ≤ n / spacing n := by
    rw [Nat.le_div_iff_mul_le (spacing_pos n), Nat.mul_comm, ← power]
    exact Nat.log2_self_le positive
  refine Nat.le_trans ?_ (div_mul_le_roundBits n inexact)
  rw [power, Nat.mul_comm]
  exact Nat.mul_le_mul_right _ inside

theorem log2_le_log2 {m n : Nat} (le : m ≤ n) : Nat.log2 m ≤ Nat.log2 n := by
  by_cases zero : m = 0
  · simp [zero]
  · exact (Nat.le_log2 (by omega)).2 (Nat.le_trans (Nat.log2_self_le zero) le)

/-- Within one spacing, what is not smaller is not rounded up less. -/
theorem RoundsUp.mono {m n : Nat} {inexact alsoInexact : Bool} (sameSpacing : Nat.log2 m = Nat.log2 n)
    (sameCell : m / spacing m = n / spacing n) (le : m < n ∨ m = n ∧ (inexact = true → alsoInexact = true))
    (up : RoundsUp m inexact) : RoundsUp n alsoInexact := by
  have spaced : spacing m = spacing n := by rw [spacing, spacing, sameSpacing]
  obtain ⟨coarse, up⟩ := up
  rw [spaced] at up sameCell
  rw [sameSpacing] at coarse
  refine ⟨coarse, ?_⟩
  have partM := Nat.div_add_mod m (spacing n)
  have partN := Nat.div_add_mod n (spacing n)
  rw [sameCell] at partM up
  rcases le with less | ⟨rfl, more⟩
  · left
    omega
  · rcases up with above | ⟨half, tie⟩
    · exact Or.inl above
    · exact Or.inr ⟨half, tie.imp_left more⟩

/-- Rounding keeps the order. A number that stands for one slightly above it counts as larger. -/
theorem roundBits_mono {m n : Nat} {inexact alsoInexact : Bool}
    (le : m < n ∨ m = n ∧ (inexact = true → alsoInexact = true)) : roundBits m inexact ≤ roundBits n alsoInexact := by
  have numbers : m ≤ n := by omega
  rcases Nat.lt_or_eq_of_le (log2_le_log2 numbers) with fewerBits | sameBits
  · -- A power of two comes between them.
    have positive : n ≠ 0 := by
      rintro rfl
      simp at fewerBits
    calc roundBits m inexact
        ≤ 2 ^ (Nat.log2 m + 1) := roundBits_le_pow m inexact
      _ ≤ 2 ^ Nat.log2 n := Nat.pow_le_pow_right (by decide) fewerBits
      _ ≤ roundBits n alsoInexact := pow_le_roundBits positive alsoInexact
  · have spaced : spacing m = spacing n := by rw [spacing, spacing, sameBits]
    have cells : m / spacing m ≤ n / spacing n := by
      rw [spaced]
      exact Nat.div_le_div_right numbers
    rcases Nat.lt_or_eq_of_le cells with before | sameCell
    · calc roundBits m inexact
          ≤ (m / spacing m + 1) * spacing m := roundBits_le_div_mul m inexact
        _ ≤ n / spacing n * spacing n := by
            rw [spaced] at before ⊢
            exact Nat.mul_le_mul_right _ before
        _ ≤ roundBits n alsoInexact := div_mul_le_roundBits n alsoInexact
    · by_cases up : RoundsUp m inexact
      · rw [roundBits_of_roundsUp up, roundBits_of_roundsUp (up.mono sameBits sameCell le), sameCell, spaced]
      · rw [roundBits_of_not_roundsUp up, sameCell, spaced]
        exact div_mul_le_roundBits n alsoInexact

/-- Numbers that are two spacings apart are told apart by rounding. -/
theorem roundBits_lt {m n : Nat} (apart : m + 2 * spacing n ≤ n) (inexact alsoInexact : Bool) :
    roundBits m inexact < roundBits n alsoInexact := by
  have finer : spacing m ≤ spacing n := by
    have bits := log2_le_log2 (m := m) (n := n) (by omega)
    exact Nat.pow_le_pow_right (by decide) (by omega)
  have up := roundBits_le_div_mul m inexact
  have down := div_mul_le_roundBits n alsoInexact
  have cellM := Nat.div_mul_le_self m (spacing m)
  have cellN := Nat.lt_div_mul_add (a := n) (spacing_pos n)
  rw [Nat.add_mul, Nat.one_mul] at up
  omega

/-! ### Roots -/

/-- Rounded roots keep the order. -/
theorem root_mono {m n : Nat} (le : m ≤ n) : root m ≤ root n := by
  rw [root_eq, root_eq]
  refine roundBits_mono ?_
  have scaled : m * 2 ^ 128 ≤ n * 2 ^ 128 := Nat.mul_le_mul_right _ le
  rcases Nat.lt_or_eq_of_le (show scaledRoot m ≤ scaledRoot n from Nat.sqrt_le_sqrt scaled) with less | same
  · exact Or.inl less
  · -- Of two numbers with one whole root, only the smaller can be its square.
    refine Or.inr ⟨same, fun above => ?_⟩
    have below : scaledRoot m * scaledRoot m ≤ m * 2 ^ 128 := Nat.sqrt_le _
    have apart : scaledRoot m * scaledRoot m < m * 2 ^ 128 := Nat.lt_of_le_of_ne below (bne_iff_ne.1 above)
    rw [← same]
    exact bne_iff_ne.2 (Nat.ne_of_lt (Nat.lt_of_lt_of_le apart scaled))

/-- Below `2 ^ 50`, rounded roots are in the order of the numbers. -/
theorem root_lt {m n : Nat} (less : m < n) (small : n < 2 ^ 50) : root m < root n := by
  rw [root_eq, root_eq]
  refine roundBits_lt ?_ _ _
  have rootM : scaledRoot m * scaledRoot m ≤ m * 2 ^ 128 := Nat.sqrt_le _
  have boundM : scaledRoot m < 2 ^ 89 := Nat.sqrt_lt.2 (by omega)
  have boundN : scaledRoot n < 2 ^ 89 := Nat.sqrt_lt.2 (by omega)
  have fine : spacing (scaledRoot n) ≤ 2 ^ 36 := by
    refine Nat.pow_le_pow_right (by decide) ?_
    have bits : Nat.log2 (scaledRoot n) < 89 := by
      by_cases zero : scaledRoot n = 0
      · simp [zero]
      · exact (Nat.log2_lt zero).2 boundN
    omega
  have step : (scaledRoot m + 2 ^ 37) * (scaledRoot m + 2 ^ 37) ≤ n * 2 ^ 128 := by
    calc (scaledRoot m + 2 ^ 37) * (scaledRoot m + 2 ^ 37)
        = scaledRoot m * scaledRoot m + 2 ^ 38 * scaledRoot m + 2 ^ 74 := by ring
      _ ≤ m * 2 ^ 128 + 2 ^ 128 := by omega
      _ ≤ n * 2 ^ 128 := by omega
  have apart : scaledRoot m + 2 ^ 37 ≤ scaledRoot n := Nat.le_sqrt.2 step
  omega

end Distance

namespace Position

/-- Both coordinates are below `2 ^ 24`, as they are in a text of ordinary length. -/
def Near (p : Position) : Prop := p.line.toNat < 2 ^ 24 ∧ p.column.toNat < 2 ^ 24

instance (p : Position) : Decidable p.Near :=
  inferInstanceAs (Decidable (p.line.toNat < 2 ^ 24 ∧ p.column.toNat < 2 ^ 24))

/-- Between near positions, squared distances have at most fifty bits. -/
theorem squaredDistance_lt {p q : Position} (near : p.Near) (alsoNear : q.Near) : p.squaredDistance q < 2 ^ 50 := by
  obtain ⟨line, column⟩ := near
  obtain ⟨otherLine, otherColumn⟩ := alsoNear
  have lines : gap p.line q.line < 2 ^ 24 := by
    rw [gap]
    omega
  have columns : gap p.column q.column < 2 ^ 24 := by
    rw [gap]
    omega
  rw [squaredDistance]
  nlinarith

/-- Rounded distances never come in the wrong order, only in none. -/
theorem distance_le_of_le {target p q : Position} (le : target.squaredDistance p ≤ target.squaredDistance q) :
    target.distance p ≤ target.distance q := Distance.root_mono le

/-- Near positions are ordered by their rounded distances as by their exact ones. -/
theorem distance_lt_iff {target p q : Position} (near : target.Near) (alsoNear : q.Near) :
    target.distance p < target.distance q ↔ target.squaredDistance p < target.squaredDistance q := by
  constructor
  · intro less
    exact Nat.lt_of_not_le fun le => Nat.not_le_of_lt less (distance_le_of_le le)
  · intro less
    exact Distance.root_lt less (squaredDistance_lt near alsoNear)

end Position

end SassRenderLint
