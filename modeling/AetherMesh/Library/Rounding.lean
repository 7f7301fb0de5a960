import Mathlib.Data.Int.Log
import Mathlib.Data.Rat.Floor
import Mathlib.Tactic.Linarith

/-!
Positive rationals rounded to so many significant bits, to the nearest one and to the even one of two
that are equally near.
-/

namespace Rounding

def nearestEven (x : ℚ) : ℤ :=
  if x - ⌊x⌋ < 1 / 2 then ⌊x⌋
  else if 1 / 2 < x - ⌊x⌋ then ⌊x⌋ + 1
  else if ⌊x⌋ % 2 = 0 then ⌊x⌋ else ⌊x⌋ + 1

/-- What the last bit is worth; `bits` does not count the leading one. -/
def unit (bits : ℕ) (x : ℚ) : ℚ := 2 ^ (Int.log 2 x - bits)

def round (bits : ℕ) (x : ℚ) : ℚ := nearestEven (x / unit bits x) * unit bits x

variable {bits : ℕ} {x y : ℚ}

theorem nearestEven_cases (x : ℚ) :
    nearestEven x = ⌊x⌋ ∧ x - ⌊x⌋ ≤ 1 / 2 ∨ nearestEven x = ⌊x⌋ + 1 ∧ 1 / 2 ≤ x - ⌊x⌋ := by
  unfold nearestEven
  split
  · rename_i below
    exact Or.inl ⟨rfl, below.le⟩
  · rename_i far
    split
    · rename_i above
      exact Or.inr ⟨rfl, above.le⟩
    · rename_i near
      split
      · exact Or.inl ⟨rfl, not_lt.mp near⟩
      · exact Or.inr ⟨rfl, not_lt.mp far⟩

theorem nearestEven_of_lt {n : ℤ} (below : n ≤ x) (near : x < n + 1 / 2) : nearestEven x = n := by
  have floor : ⌊x⌋ = n := Int.floor_eq_iff.mpr ⟨below, by linarith⟩
  rw [nearestEven, floor, if_pos (by linarith)]

theorem nearestEven_intCast (n : ℤ) : nearestEven n = n :=
  nearestEven_of_lt le_rfl (by linarith)

theorem nearestEven_mono (order : x ≤ y) : nearestEven x ≤ nearestEven y := by
  rcases (Int.floor_mono order).lt_or_eq with lower | same
  · have next : nearestEven x ≤ ⌊x⌋ + 1 := by
      rcases nearestEven_cases x with ⟨down, -⟩ | ⟨up, -⟩ <;> omega
    have floor : ⌊y⌋ ≤ nearestEven y := by
      rcases nearestEven_cases y with ⟨down, -⟩ | ⟨up, -⟩ <;> omega
    omega
  · -- two numbers with one floor are rounded by how far they are above it
    have nearer : x - ⌊y⌋ ≤ y - ⌊y⌋ := by linarith
    unfold nearestEven
    rw [same]
    split
    · split
      · exact le_rfl
      · split <;> [skip; split] <;> omega
    · rename_i far
      rw [if_neg (fun near => far (nearer.trans_lt near))]
      split
      · rename_i above
        rw [if_pos (above.trans_le nearer)]
      · split <;> split <;> omega

theorem unit_pos : 0 < unit bits x := zpow_pos (by norm_num) _

theorem round_zero : round bits 0 = 0 := by
  have none : nearestEven 0 = 0 := by exact_mod_cast nearestEven_intCast 0
  rw [round, zero_div, none, Int.cast_zero, zero_mul]

/-- The leading bit stands where it should. -/
theorem leading (bits : ℕ) (positive : 0 < x) : (2 : ℚ) ^ bits ≤ x / unit bits x ∧ x / unit bits x < 2 ^ (bits + 1) := by
  have base : (2 : ℚ) ≠ 0 := two_ne_zero
  have shifted (extra : ℕ) :
      (2 : ℚ) ^ (bits + extra) * unit bits x = 2 ^ (Int.log 2 x + extra) := by
    rw [unit, ← zpow_natCast, ← zpow_add₀ base]
    congr 1
    push_cast
    ring
  constructor
  · rw [le_div_iff₀ unit_pos]
    have low := Int.zpow_log_le_self (b := 2) (by norm_num) positive
    have same := shifted 0
    simp only [add_zero, Nat.cast_zero] at same
    rw [same]
    exact_mod_cast low
  · rw [div_lt_iff₀ unit_pos, shifted 1]
    exact_mod_cast Int.lt_zpow_succ_log_self (b := 2) (by norm_num) x

theorem nearestEven_le {n : ℤ} (below : x ≤ n) : nearestEven x ≤ n := by
  rw [← nearestEven_intCast n]
  exact nearestEven_mono below

theorem le_nearestEven {n : ℤ} (above : n ≤ x) : n ≤ nearestEven x := by
  rw [← nearestEven_intCast n]
  exact nearestEven_mono above

theorem round_nonneg (nonneg : 0 ≤ x) : 0 ≤ round bits x := by
  have whole : 0 ≤ nearestEven (x / unit bits x) :=
    le_nearestEven (by exact_mod_cast div_nonneg nonneg unit_pos.le)
  exact mul_nonneg (by exact_mod_cast whole) unit_pos.le

theorem round_mono (nonneg : 0 ≤ x) (order : x ≤ y) : round bits x ≤ round bits y := by
  rcases nonneg.eq_or_lt with rfl | positive
  · rw [round_zero]
    exact round_nonneg order
  have above : 0 < y := positive.trans_le order
  rcases (Int.log_mono_right (b := 2) positive order).lt_or_eq with lower | same
  · -- a power of two lies between them
    have small : round bits x ≤ 2 ^ (bits + 1) * unit bits x := by
      refine mul_le_mul_of_nonneg_right ?_ unit_pos.le
      have whole : nearestEven (x / unit bits x) ≤ 2 ^ (bits + 1) :=
        nearestEven_le (by exact_mod_cast (leading bits positive).2.le)
      exact_mod_cast whole
    have large : 2 ^ bits * unit bits y ≤ round bits y := by
      refine mul_le_mul_of_nonneg_right ?_ unit_pos.le
      have whole : 2 ^ bits ≤ nearestEven (y / unit bits y) :=
        le_nearestEven (by exact_mod_cast (leading bits above).1)
      exact_mod_cast whole
    have between : (2 : ℚ) ^ (bits + 1) * unit bits x ≤ 2 ^ bits * unit bits y := by
      rw [pow_succ, mul_assoc]
      refine mul_le_mul_of_nonneg_left ?_ (by positivity)
      rw [unit, unit, ← zpow_one_add₀ two_ne_zero]
      exact zpow_le_zpow_right₀ (by norm_num) (by omega)
    exact small.trans (between.trans large)
  · have units : unit bits x = unit bits y := by rw [unit, unit, same]
    rw [round, round, units]
    refine mul_le_mul_of_nonneg_right ?_ unit_pos.le
    exact_mod_cast nearestEven_mono (div_le_div_of_nonneg_right order unit_pos.le)

/-- A number with no more bits than there are is a multiple of its unit. -/
theorem exists_multiple (bits : ℕ) {m : ℕ} (positive : 0 < m) (short : m ≤ 2 ^ (bits + 1)) (e : ℤ) :
    ∃ n : ℤ, (m * 2 ^ e : ℚ) = n * unit bits (m * 2 ^ e) := by
  have base : (2 : ℚ) ≠ 0 := two_ne_zero
  rcases short.eq_or_lt with rfl | shorter
  · refine ⟨2 ^ bits, ?_⟩
    have power : ((2 ^ (bits + 1) : ℕ) * 2 ^ e : ℚ) = 2 ^ (bits + 1 + e : ℤ) := by
      rw [zpow_add₀ base]
      norm_cast
    have place : Int.log 2 ((2 : ℚ) ^ (bits + 1 + e : ℤ)) = bits + 1 + e := by
      exact_mod_cast Int.log_zpow (R := ℚ) (b := 2) (by norm_num) (bits + 1 + e)
    rw [power, unit, place, Int.cast_pow, Int.cast_ofNat, ← zpow_natCast, ← zpow_add₀ base]
    congr 1
    omega
  · have above : (0 : ℚ) < m * 2 ^ e := mul_pos (by exact_mod_cast positive) (zpow_pos two_pos e)
    have place : Int.log 2 (m * 2 ^ e : ℚ) < bits + 1 + e := by
      refine (Int.lt_zpow_iff_log_lt (b := 2) (by norm_num) above).mp ?_
      have scaled : (m * 2 ^ e : ℚ) < 2 ^ (bits + 1) * 2 ^ e :=
        mul_lt_mul_of_pos_right (by exact_mod_cast shorter) (zpow_pos two_pos e)
      rw [Nat.cast_ofNat, zpow_add₀ base]
      exact_mod_cast scaled
    obtain ⟨extra, gap⟩ : ∃ extra : ℕ, e = Int.log 2 (m * 2 ^ e : ℚ) - bits + extra :=
      ⟨(e - (Int.log 2 (m * 2 ^ e : ℚ) - bits)).toNat, by omega⟩
    refine ⟨m * 2 ^ extra, ?_⟩
    have split : (2 : ℚ) ^ e = 2 ^ extra * unit bits (m * 2 ^ e) := by
      rw [unit, ← zpow_natCast, ← zpow_add₀ base, add_comm, ← gap]
    calc (m * 2 ^ e : ℚ) = m * (2 ^ extra * unit bits (m * 2 ^ e)) := by rw [← split]
      _ = _ := by push_cast; ring

theorem round_of_multiple {n : ℤ} (multiple : x = n * unit bits x) : round bits x = x := by
  have whole : x / unit bits x = n := (div_eq_iff unit_pos.ne').mpr multiple
  rw [round, whole, nearestEven_intCast, ← multiple]

theorem exists_dyadic (bits : ℕ) (positive : 0 < x) :
    ∃ m : ℕ, 0 < m ∧ m ≤ 2 ^ (bits + 1) ∧ round bits x = m * 2 ^ (Int.log 2 x - bits) := by
  obtain ⟨low, high⟩ := leading bits positive
  have least : 2 ^ bits ≤ nearestEven (x / unit bits x) := le_nearestEven (by exact_mod_cast low)
  have most : nearestEven (x / unit bits x) ≤ 2 ^ (bits + 1) :=
    nearestEven_le (by exact_mod_cast high.le)
  have some : (0 : ℤ) < 2 ^ bits := by positivity
  obtain ⟨m, same⟩ := Int.eq_ofNat_of_zero_le (some.le.trans least)
  refine ⟨m, by omega, by rw [same] at most; exact_mod_cast most, ?_⟩
  rw [round, same, unit]
  rfl

theorem round_multiple (bits : ℕ) (positive : 0 < x) :
    ∃ n : ℤ, round bits x = n * unit bits (round bits x) := by
  obtain ⟨m, some, short, rounded⟩ := exists_dyadic bits positive
  rw [rounded]
  exact exists_multiple bits some short _

theorem round_round (nonneg : 0 ≤ x) : round bits (round bits x) = round bits x := by
  rcases nonneg.eq_or_lt with rfl | positive
  · rw [round_zero, round_zero]
  · obtain ⟨n, multiple⟩ := round_multiple bits positive
    exact round_of_multiple multiple

theorem round_natCast {n : ℕ} (short : n ≤ 2 ^ (bits + 1)) : round bits n = n := by
  rcases n.eq_zero_or_pos with rfl | positive
  · rw [Nat.cast_zero, round_zero]
  · obtain ⟨m, multiple⟩ := exists_multiple bits positive short 0
    rw [zpow_zero, mul_one] at multiple
    exact round_of_multiple multiple

/-- What is less than half of the last bit is lost. -/
theorem round_add {n : ℤ} {extra : ℚ} (positive : 0 < x) (multiple : x = n * unit bits x)
    (nonneg : 0 ≤ extra) (little : extra < unit bits x / 2) : round bits (x + extra) = x := by
  have whole : x / unit bits x = n := (div_eq_iff unit_pos.ne').mpr multiple
  obtain ⟨low, high⟩ := leading bits positive
  have step : (n : ℚ) + 1 ≤ 2 ^ (bits + 1) := by
    rw [whole] at high
    have below : n < 2 ^ (bits + 1) := by exact_mod_cast high
    exact_mod_cast below
  have grown : (x + extra) / unit bits x = n + extra / unit bits x := by rw [add_div, whole]
  have part : extra / unit bits x < 1 / 2 := by
    rw [div_lt_iff₀ unit_pos]
    linarith
  have shift : (2 : ℚ) ^ (bits + 1) * unit bits x = 2 ^ (Int.log 2 x + 1) := by
    rw [unit, ← zpow_natCast, ← zpow_add₀ two_ne_zero]
    congr 1
    push_cast
    ring
  have place : Int.log 2 (x + extra) = Int.log 2 x := by
    have least := Int.log_mono_right (b := 2) positive (le_add_of_nonneg_right (b := extra) nonneg)
    have most : Int.log 2 (x + extra) < Int.log 2 x + 1 := by
      refine (Int.lt_zpow_iff_log_lt (b := 2) (by norm_num) (by linarith)).mp ?_
      rw [Nat.cast_ofNat, ← shift]
      refine (div_lt_iff₀ unit_pos).mp ?_
      rw [grown]
      linarith
    omega
  have units : unit bits (x + extra) = unit bits x := by rw [unit, unit, place]
  have nearest : nearestEven ((x + extra) / unit bits x) = n := by
    rw [grown]
    exact nearestEven_of_lt (le_add_of_nonneg_right (div_nonneg nonneg unit_pos.le)) (by linarith)
  rw [round, units, nearest, ← multiple]

end Rounding
