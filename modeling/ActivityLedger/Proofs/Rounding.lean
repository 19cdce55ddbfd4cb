import ActivityLedger.Relational.Cell
import Mathlib.Data.Nat.Log
import Mathlib.Tactic.Ring

/-!
# Sums beyond the range of amounts

An integer is rounded to the nearest one with 53 binary digits.  Two amounts are rounded
before they are added and their sum is rounded again, but a sum that is no amount is
not rounded back into the range: a cell holds a sum as an integer exactly where it is one
of the amounts.
-/

namespace ActivityLedger

namespace Binary64

/-! ## Quotients -/

@[simp] theorem roundQuotient_one (n : Nat) : roundQuotient n 1 = n := by
  simp [roundQuotient, Nat.mod_one]

/-- Rounding takes one of the two integers next to a quotient, the nearer one. -/
theorem roundQuotient_cases (n d : Nat) :
    (roundQuotient n d = n / d ∧ 2 * (n % d) ≤ d) ∨
      (roundQuotient n d = n / d + 1 ∧ d ≤ 2 * (n % d)) := by
  unfold roundQuotient
  dsimp only
  split
  · exact Or.inl ⟨rfl, by omega⟩
  · split
    · exact Or.inr ⟨rfl, by omega⟩
    · rcases Nat.mod_two_eq_zero_or_one (n / d) with even | odd
      · exact Or.inl ⟨by rw [even, Nat.add_zero], by omega⟩
      · exact Or.inr ⟨by rw [odd], by omega⟩

theorem roundQuotient_near {d : Nat} (positive : 0 < d) (n : Nat) :
    2 * n ≤ 2 * (roundQuotient n d * d) + d ∧ 2 * (roundQuotient n d * d) ≤ 2 * n + d := by
  have division := Nat.div_add_mod' n d
  have below := Nat.mod_lt n positive
  rcases roundQuotient_cases n d with ⟨same, rest⟩ | ⟨same, rest⟩
  · rw [same]
    omega
  · have next : (n / d + 1) * d = n / d * d + d := Nat.succ_mul _ _
    rw [same, next]
    omega

theorem le_roundQuotient {n d k : Nat} (positive : 0 < d) (even : k % 2 = 0)
    (near : 2 * (k * d) ≤ 2 * n + d) : k ≤ roundQuotient n d := by
  have division := Nat.div_add_mod' n d
  have rest := Nat.mod_lt n positive
  have beyond (m : Nat) (less : n / d + m < k) : n / d * d + (m + 1) * d ≤ k * d := by
    rw [← Nat.add_mul]
    exact Nat.mul_le_mul_right d (by omega)
  have one := beyond 0
  have two := beyond 1
  unfold roundQuotient
  dsimp only
  split
  · omega
  · split
    · omega
    · omega

theorem roundQuotient_mul {c : Nat} (positive : 0 < c) (n d : Nat) :
    roundQuotient (n * c) (d * c) = roundQuotient n d := by
  have double : 2 * (n % d * c) = 2 * (n % d) * c := (Nat.mul_assoc ..).symm
  unfold roundQuotient
  dsimp only
  rw [Nat.mul_div_mul_right n d positive, Nat.mul_mod_mul_right, double]
  simp only [Nat.mul_lt_mul_right positive]

/-! ## Powers of two -/

theorem log2_mul_pow {n : Nat} (positive : 0 < n) (k : Nat) :
    (n * 2 ^ k).log2 = n.log2 + k := by
  induction k with
  | zero => simp
  | succ k ih =>
      have here : n * 2 ^ k ≠ 0 := Nat.ne_of_gt (Nat.mul_pos positive (Nat.two_pow_pos k))
      rw [Nat.pow_succ, ← Nat.mul_assoc, Nat.log2_eq_log_two, Nat.log_mul_base one_lt_two here,
        ← Nat.log2_eq_log_two, ih, Nat.add_assoc]

theorem scale_mul (n d c : Nat) (exponent : Int) :
    scale (n * c) (d * c) exponent =
      ((scale n d exponent).1 * c, (scale n d exponent).2 * c) := by
  unfold scale
  split
  · rw [Nat.mul_right_comm]
  · rw [Nat.mul_right_comm]

theorem exponentOf_mul_pow {n d : Nat} (positive : 0 < n) (denominator : 0 < d) (k : Nat) :
    exponentOf (n * 2 ^ k) (d * 2 ^ k) = exponentOf n d := by
  have same : ((n * 2 ^ k).log2 : Int) - (d * 2 ^ k).log2 = (n.log2 : Int) - d.log2 := by
    rw [log2_mul_pow positive, log2_mul_pow denominator]
    omega
  unfold exponentOf
  dsimp only
  rw [same, scale_mul]
  simp only [← Nat.mul_assoc, Nat.mul_le_mul_right_iff (Nat.two_pow_pos k)]

/-! ## Integers -/

def withSign (negative : Bool) (n : Int) : Int := if negative then -n else n

theorem withSign_add (negative : Bool) (n m : Int) :
    withSign negative n + withSign negative m = withSign negative (n + m) := by
  cases negative
  · rfl
  · exact Int.neg_add.symm

theorem withSign_mul (negative : Bool) (n m : Int) :
    withSign negative n * m = withSign negative (n * m) := by
  cases negative
  · rfl
  · exact Int.neg_mul n m

@[simp] theorem natAbs_withSign (negative : Bool) (n : Nat) :
    (withSign negative n).natAbs = n := by
  cases negative
  · rfl
  · exact Int.natAbs_neg n

theorem withSign_natAbs (n : Int) : withSign (n < 0) n.natAbs = n := by
  unfold withSign
  split <;> simp only [decide_eq_true_eq] at * <;> omega

def ofSize (negative : Bool) (size : Nat) (exponent : Int) : Binary64 :=
  if size = 0 then .finite 0 0
  else if greatestExponent < exponent then .infinite negative
  else .finite (withSign negative size) exponent

/-- The number of a rounded size at an exponent, which is one more where the size is full. -/
def ofRounded (negative : Bool) (rounded : Nat) (exponent : Int) : Binary64 :=
  if rounded = 2 * leastMantissa then ofSize negative leastMantissa (exponent + 1)
  else ofSize negative rounded exponent

theorem ofQuotient_of_ne {n : Int} (nonzero : n ≠ 0) (d : Nat) :
    ofQuotient n d =
      ofRounded (n < 0)
        (roundQuotient (scale n.natAbs d (-exponentOf n.natAbs d)).1
          (scale n.natAbs d (-exponentOf n.natAbs d)).2)
        (exponentOf n.natAbs d) := by
  unfold ofQuotient ofRounded ofSize withSign
  rw [if_neg nonzero]
  dsimp only
  split <;> simp only [decide_eq_true_eq]

/-- A quotient in higher terms is rounded to the same number. -/
theorem ofQuotient_mul_pow (n : Int) {d : Nat} (denominator : 0 < d) (k : Nat) :
    ofQuotient (n * 2 ^ k) (d * 2 ^ k) = ofQuotient n d := by
  have power : (0 : Int) < 2 ^ k := Int.pow_pos (by decide)
  have size : (n * 2 ^ k).natAbs = n.natAbs * 2 ^ k := by
    rw [Int.natAbs_mul, Int.natAbs_pow]
    rfl
  by_cases nothing : n = 0
  · simp [nothing, ofQuotient]
  · have positive : 0 < n.natAbs := Int.natAbs_pos.mpr nothing
    have nonzero : n * 2 ^ k ≠ 0 := Int.mul_ne_zero nothing (Int.ne_of_gt power)
    have sign : n * 2 ^ k < 0 ↔ n < 0 := by
      simpa using Int.mul_lt_mul_right (b := n) (c := 0) power
    rw [ofQuotient_of_ne nonzero, ofQuotient_of_ne nothing, size,
      exponentOf_mul_pow positive denominator, scale_mul, roundQuotient_mul (Nat.two_pow_pos k)]
    simp only [sign]

def IsInteger (x : Binary64) (n : Int) : Prop :=
  ∃ mantissa exponent k, x = .finite mantissa exponent ∧
    quotient mantissa exponent = (n * 2 ^ k, 2 ^ k)

namespace IsInteger

variable {x y : Binary64} {n m : Int}

theorem int? (integer : IsInteger x n) : x.int? = some n := by
  obtain ⟨mantissa, exponent, k, rfl, same⟩ := integer
  have power : (2 : Int) ^ k ≠ 0 := Int.pow_ne_zero (by decide)
  simp [Binary64.int?, same, power]

/-- The sum of integers is the sum in the integers, rounded. -/
theorem add (left : IsInteger x n) (right : IsInteger y m) : x.add y = ofInt (n + m) := by
  obtain ⟨mantissa, exponent, k, rfl, same⟩ := left
  obtain ⟨mantissa', exponent', k', rfl, same'⟩ := right
  have sum : n * 2 ^ k * ((2 ^ k' : Nat) : Int) + m * 2 ^ k' * ((2 ^ k : Nat) : Int) =
      (n + m) * 2 ^ (k + k') := by
    push_cast
    ring
  have power : (2 ^ k * 2 ^ k' : Nat) = 1 * 2 ^ (k + k') := by
    rw [Nat.one_mul, Nat.pow_add]
  rw [Binary64.add, same, same']
  dsimp only
  rw [sum, power, ofQuotient_mul_pow _ Nat.one_pos]
  rfl

theorem zero : IsInteger (.finite 0 0) 0 := ⟨0, 0, 0, rfl, rfl⟩

theorem ofSize_up (negative : Bool) (size : Nat) {exponent : Nat} (few : exponent ≤ 971) :
    IsInteger (ofSize negative size exponent) (withSign negative (size * 2 ^ exponent : Nat)) := by
  unfold ofSize
  split
  · rename_i nothing
    rw [nothing, Nat.zero_mul]
    cases negative <;> exact zero
  · rw [if_neg (by rw [greatestExponent]; omega)]
    refine ⟨_, _, 0, rfl, ?_⟩
    simp [quotient, withSign_mul]

theorem ofRounded_up (negative : Bool) (rounded : Nat) {exponent : Nat} (few : exponent < 971) :
    IsInteger (ofRounded negative rounded exponent)
      (withSign negative (rounded * 2 ^ exponent : Nat)) := by
  unfold ofRounded
  split
  · rename_i full
    have carried : rounded * 2 ^ exponent = leastMantissa * 2 ^ (exponent + 1) := by
      rw [full, Nat.pow_succ', Nat.mul_comm 2 leastMantissa, Nat.mul_assoc]
    rw [carried]
    exact ofSize_up negative leastMantissa few
  · exact ofSize_up negative rounded (Nat.le_of_lt few)

theorem ofSize_down (negative : Bool) (n : Nat) (places : Nat) :
    IsInteger (ofSize negative (n * 2 ^ places) (-places)) (withSign negative n) := by
  unfold ofSize
  split
  · rename_i nothing
    have nil : n = 0 := by simpa using nothing
    rw [nil]
    cases negative <;> exact zero
  · rw [if_neg (by rw [greatestExponent]; omega)]
    refine ⟨_, _, places, rfl, ?_⟩
    cases places with
    | zero => simp [quotient]
    | succ places =>
      have below : ¬ (0 : Int) ≤ -((places + 1 : Nat) : Int) := by omega
      rw [quotient, if_neg below, withSign_mul, Int.natAbs_neg, Int.natAbs_natCast]
      push_cast
      rfl

end IsInteger

/-- The nearest integer with 53 binary digits. -/
def nearest (n : Nat) : Nat := roundQuotient n (2 ^ (n.log2 - 52)) * 2 ^ (n.log2 - 52)

theorem scale_down {n places : Nat} (few : n.log2 + places = 52) :
    scale n 1 (-((n.log2 : Int) - 52)) = (n * 2 ^ places, 1) := by
  have exponent : -((n.log2 : Int) - 52) = places := by omega
  rw [exponent, scale, if_pos (Int.natCast_nonneg places)]
  rfl

theorem scale_up {n exponent : Nat} (many : n.log2 = 52 + exponent) :
    scale n 1 (-((n.log2 : Int) - 52)) = (n, 2 ^ exponent) := by
  have same : -((n.log2 : Int) - 52) = -(exponent : Int) := by omega
  rw [same, scale]
  cases exponent with
  | zero => simp
  | succ exponent =>
      rw [if_neg (by omega), Nat.one_mul, Int.natAbs_neg, Int.natAbs_natCast]
      rfl

/-- The greatest binary digit of an integer goes to the first of 53 places. -/
theorem exponentOf_one {n : Nat} (positive : 0 < n) : exponentOf n 1 = (n.log2 : Int) - 52 := by
  have power := Nat.log2_self_le (Nat.ne_of_gt positive)
  have full : leastMantissa * (scale n 1 (-((n.log2 : Int) - 52))).2 ≤
      (scale n 1 (-((n.log2 : Int) - 52))).1 := by
    rcases Nat.le_total n.log2 52 with few | many
    · obtain ⟨places, sum⟩ := Nat.exists_eq_add_of_le few
      rw [scale_down sum.symm]
      have scaled := Nat.mul_le_mul_right (2 ^ places) power
      rwa [← Nat.pow_add, ← sum] at scaled
    · obtain ⟨exponent, sum⟩ := Nat.exists_eq_add_of_le many
      rw [scale_up sum]
      rwa [sum, Nat.pow_add] at power
  have guess : (n.log2 : Int) - (Nat.log2 1 : Nat) - 52 = (n.log2 : Int) - 52 := by
    rw [show Nat.log2 1 = 0 from rfl]
    omega
  unfold exponentOf
  dsimp only
  rw [guess, if_pos full, leastExponent]
  omega

/-- An integer is rounded to the nearest one. -/
theorem isInteger_ofInt (negative : Bool) {n : Nat} (small : n.log2 ≤ 1000) :
    IsInteger (ofInt (withSign negative n)) (withSign negative (nearest n)) := by
  by_cases nothing : n = 0
  · rw [nothing]
    cases negative <;> exact IsInteger.zero
  · have nonzero : withSign negative n ≠ 0 := by
      cases negative <;> simpa [withSign] using nothing
    have sign : decide (withSign negative n < 0) = negative := by
      cases negative
      · simp [withSign]
      · simpa [withSign] using Nat.pos_of_ne_zero nothing
    rw [ofInt, ofQuotient_of_ne nonzero, natAbs_withSign, sign, exponentOf_one (by omega)]
    rcases Nat.le_total n.log2 52 with few | many
    · obtain ⟨places, sum⟩ := Nat.exists_eq_add_of_le few
      have same : nearest n = n := by
        rw [nearest, Nat.sub_eq_zero_of_le few, Nat.pow_zero, roundQuotient_one, Nat.mul_one]
      have exponent : (n.log2 : Int) - 52 = -places := by omega
      have room : n * 2 ^ places ≠ 2 * leastMantissa := by
        have below :=
          Nat.mul_lt_mul_of_pos_right (Nat.lt_log2_self (n := n)) (Nat.two_pow_pos places)
        have top : 2 ^ (n.log2 + 1) * 2 ^ places = 2 * leastMantissa := by
          rw [← Nat.pow_add, Nat.add_right_comm, ← sum]
          rfl
        omega
      rw [scale_down sum.symm, exponent, roundQuotient_one, ofRounded, if_neg room, same]
      exact IsInteger.ofSize_down negative n places
    · obtain ⟨exponent, sum⟩ := Nat.exists_eq_add_of_le many
      have same : (n.log2 : Int) - 52 = exponent := by omega
      have places : n.log2 - 52 = exponent := by omega
      rw [scale_up sum, same, nearest, places]
      exact IsInteger.ofRounded_up negative _ (by omega)

/-! ## Sums -/

theorem nearest_near (n : Nat) : 2 * n ≤ 2 * nearest n + 2 ^ (n.log2 - 52) :=
  (roundQuotient_near (Nat.two_pow_pos _) n).1

theorem nearest_le (n : Nat) : 2 * nearest n ≤ 2 * n + 2 ^ (n.log2 - 52) :=
  (roundQuotient_near (Nat.two_pow_pos _) n).2

theorem pow_dvd_nearest (n : Nat) : 2 ^ (n.log2 - 52) ∣ nearest n := Nat.dvd_mul_left ..

theorem pow_le_nearest {n : Nat} (many : 52 ≤ n.log2) : 2 ^ n.log2 ≤ nearest n := by
  have positive : n ≠ 0 := by
    rintro rfl
    exact absurd many (by decide)
  obtain ⟨exponent, sum⟩ := Nat.exists_eq_add_of_le many
  have places : n.log2 - 52 = exponent := by omega
  have power := Nat.log2_self_le positive
  rw [sum, Nat.pow_add] at power ⊢
  rw [nearest, places]
  exact Nat.mul_le_mul_right _
    (le_roundQuotient (Nat.two_pow_pos exponent) (by decide) (by omega))

/-- A multiple that is at most one half above another one is not above it. -/
theorem le_of_dvd_of_near {u s t : Nat} (left : u ∣ s) (right : u ∣ t)
    (near : 2 * t ≤ 2 * s + u) : t ≤ s := by
  obtain ⟨p, rfl⟩ := left
  obtain ⟨q, rfl⟩ := right
  refine Nat.le_of_not_lt fun above => ?_
  have next : u * (p + 1) ≤ u * q :=
    Nat.mul_le_mul_left u (Nat.lt_of_mul_lt_mul_left above)
  rw [Nat.mul_succ] at next
  omega

theorem le_nearest {n : Nat} (near : 2 ^ 63 ≤ n + 512) : 2 ^ 63 ≤ nearest n := by
  have big : 62 ≤ n.log2 := (Nat.le_log2 (by omega)).mpr (by omega)
  rcases Nat.eq_or_lt_of_le big with same | more
  · have full : 2 ^ 53 ≤ roundQuotient n (2 ^ 10) :=
      le_roundQuotient (by decide) (by decide) (by omega)
    rw [nearest, ← same]
    exact Nat.mul_le_mul_right (2 ^ 10) full
  · exact Nat.le_trans (Nat.pow_le_pow_right (by decide) more) (pow_le_nearest (by omega))

theorem le_nearest_add_of_le {a b : Nat} (order : b ≤ a) (beyond : 2 ^ 63 ≤ a + b) :
    2 ^ 63 ≤ nearest a + nearest b + 512 := by
  have logs : b.log2 ≤ a.log2 := by
    rw [Nat.log2_eq_log_two, Nat.log2_eq_log_two]
    exact Nat.log_mono_right order
  by_cases alone : 2 ^ 63 ≤ a
  · have first := le_nearest (n := a) (by omega)
    omega
  · have small : a.log2 < 63 := (Nat.log2_lt (by omega)).mpr (by omega)
    by_cases big : 62 ≤ b.log2
    · have first := pow_le_nearest (n := a) (by omega)
      have second := pow_le_nearest (n := b) (by omega)
      have sameFirst : a.log2 = 62 := by omega
      have sameSecond : b.log2 = 62 := by omega
      rw [sameFirst] at first
      rw [sameSecond] at second
      omega
    · -- Both are multiples of the last place of the smaller one, of which at most half is lost.
      have multiple : 2 ^ (b.log2 - 52) ∣ nearest a + nearest b + 512 := by
        refine Nat.dvd_add (Nat.dvd_add ?_ (pow_dvd_nearest b)) ?_
        · exact Nat.dvd_trans (Nat.pow_dvd_pow 2 (by omega)) (pow_dvd_nearest a)
        · exact Nat.pow_dvd_pow 2 (show b.log2 - 52 ≤ 9 by omega)
      have limit : 2 ^ (b.log2 - 52) ∣ 2 ^ 63 := Nat.pow_dvd_pow 2 (by omega)
      have lost : 2 ^ (a.log2 - 52) ≤ 2 ^ 10 := Nat.pow_le_pow_right (by decide) (by omega)
      have first := nearest_near a
      have second := nearest_near b
      exact le_of_dvd_of_near multiple limit (by omega)

/-- Rounding two numbers that reach a limit together leaves their sum just below it at least. -/
theorem le_nearest_add {a b : Nat} (beyond : 2 ^ 63 ≤ a + b) :
    2 ^ 63 ≤ nearest a + nearest b + 512 := by
  rcases Nat.le_total b a with order | order
  · exact le_nearest_add_of_le order beyond
  · have swapped := le_nearest_add_of_le order (by omega)
    omega

theorem nearest_small {n : Nat} (small : n ≤ 2 ^ 63) : nearest n < 2 ^ 64 := by
  have logs : n.log2 ≤ 63 := by
    rw [Nat.log2_eq_log_two]
    exact Nat.le_trans (Nat.log_mono_right small) (Nat.log_pow one_lt_two 63).le
  have place : 2 ^ (n.log2 - 52) ≤ 2 ^ 11 := Nat.pow_le_pow_right (by decide) (by omega)
  have near := nearest_le n
  omega

/-- The rounded sum of two rounded numbers of one sign reaches a limit that the sum reaches. -/
theorem int?_add (negative : Bool) {a b : Nat} (left : a ≤ 2 ^ 63) (right : b ≤ 2 ^ 63)
    (beyond : 2 ^ 63 ≤ a + b) :
    ∃ sum : Nat, ((ofInt (withSign negative a)).add (ofInt (withSign negative b))).int? =
      some (withSign negative sum) ∧ 2 ^ 63 ≤ sum := by
  have small (n : Nat) (below : n < 2 ^ 65) : n.log2 ≤ 1000 := by
    by_cases nothing : n = 0
    · rw [nothing]
      decide
    · have logs := (Nat.log2_lt nothing).mpr below
      omega
  have first := nearest_small left
  have second := nearest_small right
  have rounded := (isInteger_ofInt negative (small a (by omega))).add
    (isInteger_ofInt negative (small b (by omega)))
  refine ⟨nearest (nearest a + nearest b), ?_, le_nearest (le_nearest_add beyond)⟩
  rw [rounded, withSign_add, ← Int.natCast_add]
  exact (isInteger_ofInt negative (small _ (by omega))).int?

end Binary64

namespace Relational.Cell

theorem ofReal_of_beyond {x : Binary64} {n : Int} (integer : x.int? = some n)
    (beyond : 2 ^ 63 ≤ n.natAbs) : ofReal x = .real x := by
  have outside : ¬ (-9223372036854775808 < n ∧ n < 9223372036854775807) := by omega
  simp only [ofReal, integer, dif_neg outside]

/-- A sum that is no amount is kept as a fraction. -/
theorem exists_real_of_add? {n delta : Amount} (unfit : n.add? delta = none) :
    ∃ x, (Cell.integer n).add delta = .real x := by
  have outside := Bounded.ofInt?_eq_none_iff.mp unfit
  have bounds := And.intro n.lo_le n.le_hi
  have deltaBounds := And.intro delta.lo_le delta.le_hi
  have sameSign : decide (delta.val < 0) = decide (n.val < 0) := decide_eq_decide.mpr (by omega)
  have first := Binary64.withSign_natAbs n.val
  have second := Binary64.withSign_natAbs delta.val
  rw [sameSign] at second
  obtain ⟨sum, rounded, beyond⟩ := Binary64.int?_add (n.val < 0)
    (show n.val.natAbs ≤ 2 ^ 63 by omega) (show delta.val.natAbs ≤ 2 ^ 63 by omega) (by omega)
  rw [first, second] at rounded
  refine ⟨(Binary64.ofInt n.val).add (Binary64.ofInt delta.val), ?_⟩
  simp only [add, number, unfit]
  exact ofReal_of_beyond rounded (by rwa [Binary64.natAbs_withSign])

/-- A cell holds a sum as an integer exactly where the sum is an amount. -/
theorem add_integer_eq_integer_iff {n delta sum : Amount} :
    (Cell.integer n).add delta = .integer sum ↔ sum.val = n.val + delta.val := by
  rw [← Bounded.add?_eq_some_iff]
  cases fits : n.add? delta with
  | some other => simp [add_integer_of_add? fits]
  | none =>
      obtain ⟨x, lost⟩ := exists_real_of_add? fits
      simp [lost]

end Relational.Cell

end ActivityLedger
