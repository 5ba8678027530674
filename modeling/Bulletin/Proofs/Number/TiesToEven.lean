import Bulletin.Number.Double
import Bulletin.Proofs.Number.Rounding
import Mathlib.Algebra.Group.Nat.Even
import Mathlib.Data.Nat.Log

/-!
# Ties to even

A quotient is rounded to the nearest number of at most fifty-three significant bits. If two are
equally near, the last bit of the rounded one is clear, and this tells the two apart: between any
two numbers with clear last bits there is a third one. Rounding reaches the first number that is too
large for a finite double halfway between it and the greatest one that is not.
-/

namespace Bulletin

/-- Rounding goes down or up, and in the middle to the even side. -/
theorem roundHalfEven_cases (n d : Nat) :
    (roundHalfEven n d = n / d ∧ 2 * (n % d) ≤ d ∧ (2 * (n % d) = d → Even (n / d))) ∨
      (roundHalfEven n d = n / d + 1 ∧ d ≤ 2 * (n % d) ∧ (2 * (n % d) = d → Even (n / d + 1))) := by
  simp only [Nat.even_iff, roundHalfEven]
  split
  · omega
  · split <;> omega

/-- How far a quotient is from a whole number, in parts of the divisor. -/
def partsBetween (n d k : Nat) : Nat := ((n : ℤ) - k * d).natAbs

/-- No whole number is nearer to a quotient than the rounded one, and if another one is as near, the
rounded one is even. -/
theorem roundHalfEven_nearest (n : Nat) {d : Nat} (hd : 0 < d) (k : Nat) :
    k = roundHalfEven n d ∨ partsBetween n d (roundHalfEven n d) < partsBetween n d k ∨
      partsBetween n d (roundHalfEven n d) = partsBetween n d k ∧ Even (roundHalfEven n d) := by
  have hr : n % d < d := Nat.mod_lt n hd
  -- Seen from the quotient rounded down, the other number is some whole number of steps away.
  obtain ⟨j, hj⟩ : ∃ j : ℤ, (k : ℤ) = (n / d : Nat) + j := ⟨k - (n / d : Nat), by omega⟩
  have hdown : (n : ℤ) - (n / d : Nat) * d = (n % d : Nat) := by
    have := Nat.div_add_mod' n d
    rw [← Int.natCast_mul]
    omega
  have hup : (n : ℤ) - (n / d + 1 : Nat) * d = (n % d : Nat) - d := by
    rw [Int.natCast_succ, Int.add_mul]
    omega
  have hother : (n : ℤ) - k * d = (n % d : Nat) - j * d := by
    rw [hj, Int.add_mul]
    omega
  have steps : (j ≤ -1 ∧ j * d ≤ -1 * d) ∨ (j = 0 ∧ j * d = 0) ∨ (j = 1 ∧ j * d = d) ∨
      (2 ≤ j ∧ 2 * d ≤ j * d) := by
    have monotone {a b : ℤ} (h : a ≤ b) : a * d ≤ b * d :=
      Int.mul_le_mul_of_nonneg_right h (Int.natCast_nonneg d)
    rcases (by omega : j ≤ -1 ∨ j = 0 ∨ j = 1 ∨ 2 ≤ j) with h | rfl | rfl | h
    · exact .inl ⟨h, monotone h⟩
    · exact .inr (.inl ⟨rfl, Int.zero_mul _⟩)
    · exact .inr (.inr (.inl ⟨rfl, Int.one_mul _⟩))
    · exact .inr (.inr (.inr ⟨h, monotone h⟩))
  rw [Nat.even_iff]
  rcases roundHalfEven_cases n d with ⟨h, near, tie⟩ | ⟨h, near, tie⟩
  · rw [Nat.even_iff] at tie
    rw [h, partsBetween, partsBetween, hdown, hother]
    omega
  · rw [Nat.even_iff] at tie
    rw [h, partsBetween, partsBetween, hup, hother]
    omega

theorem log2_mono {m n : Nat} (h : m ≤ n) : m.log2 ≤ n.log2 := by
  rw [Nat.log2_eq_log_two, Nat.log2_eq_log_two]
  exact Nat.log_mono_right h

theorem log2_mul_two_pow {h : Nat} (hne : h ≠ 0) (k : Nat) :
    (h * 2 ^ k).log2 = h.log2 + k := by
  have positive := Nat.two_pow_pos k
  rw [Nat.log2_eq_iff (Nat.mul_ne_zero hne (Nat.ne_of_gt positive)), Nat.pow_add,
    Nat.add_right_comm, Nat.pow_add]
  exact ⟨Nat.mul_le_mul_right _ (Nat.log2_self_le hne),
    Nat.mul_lt_mul_of_pos_right Nat.lt_log2_self positive⟩

theorem spacing_dvd_spacing {m n : Nat} (h : m.log2 ≤ n.log2) : spacing m ∣ spacing n :=
  Nat.pow_dvd_pow 2 (Nat.sub_le_sub_right h 52)

/-- The last of the significant bits of a number is clear. -/
def LastBitClear (u : Nat) : Prop := Even (u / spacing u)

/-- An even multiple of a power of two has a clear last bit if no other power of two is between its
neighbours. -/
theorem lastBitClear_mul {h k : Nat} (even : Even h) (hle : h ≤ 2 ^ 53)
    (hk : k = 0 ∨ 2 ^ 52 ≤ h) : LastBitClear (h * 2 ^ k) := by
  by_cases hzero : h = 0
  · simp [hzero, LastBitClear]
  rw [LastBitClear, spacing, Nat.pow_eq, log2_mul_two_pow hzero]
  rcases Nat.eq_or_lt_of_le hle with rfl | hlt
  · rw [Nat.log2_two_pow, Nat.add_comm 53, Nat.add_sub_assoc (by decide), Nat.mul_comm,
      Nat.pow_add, Nat.mul_div_mul_left _ _ (Nat.two_pow_pos k)]
    decide
  · have hlow : h.log2 < 53 := (Nat.log2_lt hzero).mpr hlt
    have hhigh : 2 ^ 52 ≤ h → 52 ≤ h.log2 := (Nat.le_log2 hzero).mpr
    have hlog : h.log2 + k - 52 = k := by omega
    rw [hlog, Nat.mul_div_cancel _ (Nat.two_pow_pos k)]
    exact even

theorem roundHalfEven_le_two_pow (n d : Nat) :
    roundHalfEven n (d * spacing (n / d)) ≤ 2 ^ 53 := by
  have hround := roundHalfEven_le n (d * spacing (n / d))
  rw [← Nat.div_div_eq_div_mul] at hround
  exact Nat.le_trans hround (div_spacing_lt (n / d))

/-- A quotient with more than fifty-three bits before the point keeps fifty-three of them. -/
theorem two_pow_le_roundHalfEven {n d : Nat} (h : (n / d).log2 - 52 ≠ 0) :
    2 ^ 52 ≤ roundHalfEven n (d * spacing (n / d)) := by
  have hne : n / d ≠ 0 := by
    intro hzero
    rw [hzero] at h
    exact h rfl
  refine Nat.le_trans ?_ (div_le_roundHalfEven _ _)
  rw [← Nat.div_div_eq_div_mul, Nat.le_div_iff_mul_le (spacing_pos _), spacing, Nat.pow_eq,
    ← Nat.pow_add, Nat.add_sub_of_le (by omega)]
  exact Nat.log2_self_le hne

/-- A number with so few bits is a multiple of the spacing at a quotient, or is below a power of two
that the quotient is not below. -/
theorem Fits.spacing_dvd_or_lt {v : Nat} (h : Fits v) (q : Nat) :
    spacing q ∣ v ∨ v < Nat.pow 2 q.log2 ∧ Nat.pow 2 q.log2 ≤ q := by
  by_cases hq : q = 0
  · exact .inl (hq ▸ Nat.one_dvd v)
  by_cases hv : Nat.pow 2 q.log2 ≤ v
  · have hlog := log2_mono hv
    rw [Nat.pow_eq, Nat.log2_two_pow] at hlog
    exact .inl (Nat.dvd_trans (spacing_dvd_spacing hlog) h)
  · exact .inr ⟨Nat.lt_of_not_le hv, Nat.log2_self_le hq⟩

theorem partsBetween_mul (n d k s : Nat) : partsBetween n (d * s) k = partsBetween n d (k * s) := by
  rw [partsBetween, partsBetween, ← Int.natCast_mul, ← Int.natCast_mul, Nat.mul_right_comm,
    Nat.mul_assoc]

/-- No number of at most fifty-three bits is nearer to a quotient than the rounded one, and if
another one is as near, the rounded one has a clear last bit. -/
theorem roundBits_nearest (n : Nat) {d : Nat} (hd : 0 < d) {v : Nat} (h : Fits v) :
    v = roundBits n d ∨ partsBetween n d (roundBits n d) < partsBetween n d v ∨
      partsBetween n d (roundBits n d) = partsBetween n d v ∧ LastBitClear (roundBits n d) := by
  have onGrid (k : Nat) := roundHalfEven_nearest n (Nat.mul_pos hd (spacing_pos (n / d))) k
  simp only [partsBetween_mul] at onGrid
  rcases h.spacing_dvd_or_lt (n / d) with ⟨k, rfl⟩ | ⟨below, le⟩
  · rw [Nat.mul_comm, roundBits]
    rcases onGrid k with same | nearer | ⟨tie, even⟩
    · exact .inl (congrArg (· * _) same)
    · exact .inr (.inl nearer)
    · refine .inr (.inr ⟨tie, lastBitClear_mul even (roundHalfEven_le_two_pow n d) ?_⟩)
      by_cases hk : (n / d).log2 - 52 = 0
      · exact .inl hk
      · exact .inr (two_pow_le_roundHalfEven hk)
  · -- The power of two is nearer than what lies below it, and it is on the grid.
    obtain ⟨k, hk⟩ := spacing_dvd_pow_log2 (n / d)
    have power := onGrid k
    rw [Nat.mul_comm k, ← hk] at power
    have closer : partsBetween n d (Nat.pow 2 (n / d).log2) < partsBetween n d v := by
      have le : Nat.pow 2 (n / d).log2 * d ≤ n := (Nat.le_div_iff_mul_le hd).mp le
      have below : v * d < Nat.pow 2 (n / d).log2 * d := Nat.mul_lt_mul_of_pos_right below hd
      rw [partsBetween, partsBetween, ← Int.natCast_mul, ← Int.natCast_mul]
      omega
    rw [roundBits]
    refine .inr (.inl ?_)
    rcases power with same | nearer | ⟨tie, -⟩
    · rw [← same, Nat.mul_comm k, ← hk]
      exact closer
    · exact Nat.lt_trans nearer closer
    · exact Nat.lt_of_le_of_lt (Nat.le_of_eq tie) closer

theorem Fits.div_mul {u : Nat} (h : Fits u) : u / spacing u * spacing u = u := Nat.div_mul_cancel h

theorem fits_add_spacing {m : Nat} (h : Fits m) : Fits (m + spacing m) := by
  have next : m + spacing m = (m / spacing m + 1) * Nat.pow 2 (m.log2 - 52) := by
    rw [← spacing, Nat.add_mul, Nat.one_mul, h.div_mul]
  rw [next]
  exact fits_of_le (div_spacing_lt m)

/-- Between two numbers with clear last bits there is a third one. -/
theorem add_spacing_lt {m n : Nat} (hm : Fits m) (hn : Fits n) (clearM : LastBitClear m)
    (clearN : LastBitClear n) (h : m < n) : m + spacing m < n := by
  obtain ⟨c, hc⟩ := spacing_dvd_spacing (log2_mono (Nat.le_of_lt h))
  obtain ⟨i, hi⟩ := clearM
  obtain ⟨j, hj⟩ := clearN
  have hm : m = (i + i) * spacing m := by rw [← hi, hm.div_mul]
  have hn : n = ((j * c) + (j * c)) * spacing m := by
    rw [← Nat.add_mul, Nat.mul_assoc, Nat.mul_comm c, ← hc, ← hj, hn.div_mul]
  have steps : i + i < j * c + j * c :=
    Nat.lt_of_mul_lt_mul_right (a := spacing m) (by rwa [← hm, ← hn])
  -- Both are even multiples of the smaller spacing, so they are two steps apart at least.
  calc m + spacing m
      = (i + i + 1) * spacing m := by rw [Nat.add_mul _ 1, ← hm, Nat.one_mul]
    _ < ((j * c) + (j * c)) * spacing m :=
        Nat.mul_lt_mul_of_pos_right (by omega) (spacing_pos m)
    _ = n := hn.symm

/-! ### Overflow -/

/-- Halfway from the greatest finite magnitude to the first one that is too large, in units. -/
def overflowHalfway : Nat := overflowUnits - Nat.pow 2 2044

/-- The rounded number is too large from this threshold on: a tie goes to the even side, which is
the larger one. -/
theorem roundBits_lt_overflowUnits_iff (n : Nat) {d : Nat} (hd : 0 < d) :
    roundBits n d < overflowUnits ↔ n < overflowHalfway * d := by
  constructor
  · intro small
    refine Nat.lt_of_not_le fun le => ?_
    have tie : roundBits overflowHalfway 1 = overflowUnits := by decide +kernel
    have := roundBits_mono Nat.one_pos hd (show overflowHalfway * d ≤ n * 1 by omega)
    omega
  · intro below
    refine Nat.lt_of_not_le fun large => ?_
    obtain ⟨greatest, fits, lt, halfway⟩ : ∃ greatest, Fits greatest ∧ greatest < overflowUnits ∧
        greatest + overflowUnits = 2 * overflowHalfway :=
      ⟨overflowUnits - Nat.pow 2 2045, by decide +kernel⟩
    have nearest := roundBits_nearest n hd fits
    generalize roundBits n d = rounded at *
    have hlarge : overflowUnits * d ≤ rounded * d := Nat.mul_le_mul_right d large
    have hlt : greatest * d < overflowUnits * d := Nat.mul_lt_mul_of_pos_right lt hd
    have hhalfway : greatest * d + overflowUnits * d = 2 * (overflowHalfway * d) := by
      rw [← Nat.add_mul, halfway, Nat.mul_assoc]
    simp only [partsBetween, ← Int.natCast_mul] at nearest
    omega

end Bulletin
