import AetherMesh.Library.Rounding

/-! Durations in nanoseconds, and the seconds that they are as a double. -/

namespace AetherMesh

open Rounding

def double (x : ℚ) : ℚ := round 52 x

def asSecsF64 (duration : Nat) : ℚ :=
  double (double (duration / 10 ^ 9 : Nat) + double ((duration % 10 ^ 9 : Nat) / 10 ^ 9))

theorem double_mono {x y : ℚ} (nonneg : 0 ≤ x) (order : x ≤ y) : double x ≤ double y :=
  round_mono nonneg order

theorem double_nonneg {x : ℚ} (nonneg : 0 ≤ x) : 0 ≤ double x := round_nonneg nonneg

theorem nanos_nonneg (nanos : Nat) : 0 ≤ double (nanos / 10 ^ 9) :=
  double_nonneg (div_nonneg (Nat.cast_nonneg nanos) (by norm_num))

theorem nanos_lt_one {nanos : Nat} (part : nanos < 10 ^ 9) : double (nanos / 10 ^ 9) < 1 := by
  -- the largest part of a second, and a double that lies between it and one
  have largest : (nanos / 10 ^ 9 : ℚ) ≤ (2 ^ 30 - 1 : ℕ) * 2 ^ (-30 : ℤ) := by
    have whole : (nanos : ℚ) ≤ 10 ^ 9 - 1 := by
      have below : nanos + 1 ≤ 10 ^ 9 := part
      have cast : (nanos : ℚ) + 1 ≤ 10 ^ 9 := by exact_mod_cast below
      linarith
    rw [div_le_iff₀ (by norm_num)]
    refine whole.trans ?_
    norm_num
  obtain ⟨n, multiple⟩ := exists_multiple 52 (m := 2 ^ 30 - 1) (by norm_num) (by norm_num) (-30)
  have bounded := double_mono (div_nonneg (Nat.cast_nonneg nanos) (by norm_num)) largest
  rw [double, double, round_of_multiple multiple] at bounded
  refine bounded.trans_lt ?_
  norm_num

/-- Above 2 ^ 53 seconds the part of a second is lost. -/
theorem double_add_nanos {secs nanos : Nat} (many : 2 ^ 53 ≤ secs) (part : nanos < 10 ^ 9) :
    double (double secs + double (nanos / 10 ^ 9)) = double secs := by
  have least : (2 : ℚ) ^ 53 ≤ double secs := by
    have exact : double (2 ^ 53 : ℕ) = (2 ^ 53 : ℕ) := round_natCast (by norm_num)
    have order := double_mono (x := (2 ^ 53 : ℕ)) (y := secs) (by positivity) (by exact_mod_cast many)
    rw [exact] at order
    exact_mod_cast order
  have positive : 0 < double secs := lt_of_lt_of_le (by norm_num) least
  obtain ⟨n, multiple⟩ := round_multiple 52 (x := secs) (by
    have some : 0 < secs := by omega
    exact_mod_cast some)
  have unit : 2 ≤ unit 52 (double secs) := by
    have place : 53 ≤ Int.log 2 (double secs) :=
      (Int.zpow_le_iff_le_log (b := 2) (by norm_num) positive).mp (by exact_mod_cast least)
    calc (2 : ℚ) = 2 ^ (1 : ℤ) := (zpow_one 2).symm
      _ ≤ _ := zpow_le_zpow_right₀ (by norm_num) (by omega)
  refine round_add positive multiple (nanos_nonneg nanos) ?_
  have below := nanos_lt_one part
  linarith

theorem asSecsF64_nonneg (duration : Nat) : 0 ≤ asSecsF64 duration :=
  double_nonneg (add_nonneg (double_nonneg (Nat.cast_nonneg _)) (nanos_nonneg _))

theorem asSecsF64_mono {short long : Nat} (order : short ≤ long) : asSecsF64 short ≤ asSecsF64 long := by
  have rest (duration : Nat) : duration % 10 ^ 9 < 10 ^ 9 := Nat.mod_lt _ (by norm_num)
  have whole (secs : Nat) : 0 ≤ double secs := double_nonneg (Nat.cast_nonneg secs)
  unfold asSecsF64
  rcases (Nat.div_le_div_right (c := 10 ^ 9) order).lt_or_eq with fewer | same
  · calc double (double (short / 10 ^ 9 : Nat) + double ((short % 10 ^ 9 : Nat) / 10 ^ 9))
        ≤ double (long / 10 ^ 9 : Nat) := by
          rcases Nat.lt_or_ge (short / 10 ^ 9) (2 ^ 53) with few | many
          · have exact : double (short / 10 ^ 9 : Nat) = (short / 10 ^ 9 : Nat) :=
              round_natCast few.le
            have below := nanos_lt_one (rest short)
            have next : ((short / 10 ^ 9 : Nat) : ℚ) + 1 ≤ (long / 10 ^ 9 : Nat) := by
              exact_mod_cast fewer
            rw [exact]
            exact double_mono (add_nonneg (Nat.cast_nonneg _) (nanos_nonneg _)) (by linarith)
          · rw [double_add_nanos many (rest short)]
            exact double_mono (Nat.cast_nonneg _) (by exact_mod_cast fewer.le)
      _ = double (double (long / 10 ^ 9 : Nat)) := (round_round (Nat.cast_nonneg _)).symm
      _ ≤ _ := double_mono (whole _) (le_add_of_nonneg_right (nanos_nonneg _))
  · have nanos : short % 10 ^ 9 ≤ long % 10 ^ 9 := by omega
    rw [same]
    refine double_mono (add_nonneg (whole _) (nanos_nonneg _)) (add_le_add_right ?_ _)
    refine double_mono (div_nonneg (Nat.cast_nonneg _) (by norm_num)) ?_
    exact div_le_div_of_nonneg_right (by exact_mod_cast nanos) (by norm_num)

end AetherMesh
