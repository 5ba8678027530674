import Bulletin.Number.Double

/-!
# Laws of rounding

Rounding a quotient to fifty-three significant bits depends on the quotient only, not on how it is
written, and a larger quotient is not rounded to a smaller number. A number with so few bits is
rounded to itself. A quotient below one half is rounded to zero, and no quotient is rounded beyond
the powers of two around it.
-/

namespace Bulletin

theorem spacing_pos (q : Nat) : 0 < spacing q := Nat.two_pow_pos _

theorem roundHalfEven_mul (n d : Nat) {k : Nat} (hk : 0 < k) :
    roundHalfEven (n * k) (d * k) = roundHalfEven n d := by
  have below : 2 * (n % d * k) < d * k ↔ 2 * (n % d) < d := by
    rw [← Nat.mul_assoc]
    exact Nat.mul_lt_mul_right hk
  have above : d * k < 2 * (n % d * k) ↔ d < 2 * (n % d) := by
    rw [← Nat.mul_assoc]
    exact Nat.mul_lt_mul_right hk
  simp only [roundHalfEven, Nat.mul_div_mul_right n d hk, Nat.mul_mod_mul_right, below, above]

theorem roundHalfEven_one (n : Nat) : roundHalfEven n 1 = n := by
  simp [roundHalfEven, Nat.mod_one]

theorem div_le_roundHalfEven (n d : Nat) : n / d ≤ roundHalfEven n d := by
  unfold roundHalfEven
  dsimp only
  split
  · omega
  · split <;> omega

theorem roundBits_mul (n d : Nat) {k : Nat} (hk : 0 < k) :
    roundBits (n * k) (d * k) = roundBits n d := by
  have hspacing : d * k * spacing (n / d) = d * spacing (n / d) * k := by
    rw [Nat.mul_assoc, Nat.mul_comm k, Nat.mul_assoc]
  rw [roundBits, Nat.mul_div_mul_right n d hk, hspacing, roundHalfEven_mul _ _ hk, roundBits]

/-- Equal quotients are rounded to the same number. -/
theorem roundBits_congr {n d n' d' : Nat} (hd : 0 < d) (hd' : 0 < d') (h : n * d' = n' * d) :
    roundBits n d = roundBits n' d' := by
  rw [← roundBits_mul n d hd', h, Nat.mul_comm d d', roundBits_mul n' d' hd]

theorem roundBits_of_fits {u : Nat} (h : Fits u) : roundBits u 1 = u := by
  obtain ⟨m, hm⟩ : spacing u ∣ u := h
  have hround : roundHalfEven u (1 * spacing u) = m := by
    have := roundHalfEven_mul m 1 (spacing_pos u)
    rwa [Nat.mul_comm m, ← hm, roundHalfEven_one] at this
  rw [roundBits, Nat.div_one, hround, Nat.mul_comm, ← hm]

theorem roundBits_eq_zero {n d : Nat} (h : 2 * n < d) : roundBits n d = 0 := by
  have hlt : n < d := by omega
  have hround : roundHalfEven n (d * spacing 0) = 0 := by
    rw [show d * spacing 0 = d from Nat.mul_one d]
    simp only [roundHalfEven, Nat.div_eq_of_lt hlt, Nat.mod_eq_of_lt hlt, h, if_true]
  rw [roundBits, Nat.div_eq_of_lt hlt, hround, Nat.zero_mul]

theorem spacing_dvd_pow_log2 (q : Nat) : spacing q ∣ Nat.pow 2 q.log2 :=
  Nat.pow_dvd_pow 2 (Nat.sub_le ..)

theorem two_pow_le_roundBits {k n d : Nat} (hd : 0 < d) (h : Nat.pow 2 k * d ≤ n) :
    Nat.pow 2 k ≤ roundBits n d := by
  have hq : Nat.pow 2 k ≤ n / d := (Nat.le_div_iff_mul_le hd).mpr h
  have hlog : k ≤ (n / d).log2 :=
    (Nat.le_log2 (Nat.ne_of_gt (Nat.lt_of_lt_of_le (Nat.two_pow_pos k) hq))).mpr hq
  have hself : Nat.pow 2 (n / d).log2 ≤ n / d :=
    Nat.log2_self_le (Nat.ne_of_gt (Nat.lt_of_lt_of_le (Nat.two_pow_pos k) hq))
  calc Nat.pow 2 k
      ≤ Nat.pow 2 (n / d).log2 := Nat.pow_le_pow_right (by decide) hlog
    _ = Nat.pow 2 (n / d).log2 / spacing (n / d) * spacing (n / d) :=
        (Nat.div_mul_cancel (spacing_dvd_pow_log2 _)).symm
    _ ≤ n / d / spacing (n / d) * spacing (n / d) :=
        Nat.mul_le_mul_right _ (Nat.div_le_div_right hself)
    _ = n / (d * spacing (n / d)) * spacing (n / d) := by rw [Nat.div_div_eq_div_mul]
    _ ≤ roundBits n d := Nat.mul_le_mul_right _ (div_le_roundHalfEven _ _)

theorem roundHalfEven_mono {n n' : Nat} (d : Nat) (h : n ≤ n') :
    roundHalfEven n d ≤ roundHalfEven n' d := by
  rcases Nat.eq_or_lt_of_le (Nat.div_le_div_right (c := d) h) with same | later
  · have below : n % d ≤ n' % d := by
      have := Nat.div_add_mod n d
      have := Nat.div_add_mod n' d
      rw [← same] at this
      omega
    simp only [roundHalfEven, ← same]
    repeat' split
    all_goals omega
  · calc roundHalfEven n d
        ≤ n / d + 1 := roundHalfEven_le n d
      _ ≤ n' / d := later
      _ ≤ roundHalfEven n' d := div_le_roundHalfEven n' d

/-- Rounding does not go beyond the next power of two. -/
theorem roundBits_le_two_pow (n d : Nat) : roundBits n d ≤ Nat.pow 2 ((n / d).log2 + 1) := by
  have hdvd : spacing (n / d) ∣ Nat.pow 2 ((n / d).log2 + 1) :=
    Nat.pow_dvd_pow 2 (by omega)
  have hlt : n / d / spacing (n / d) < Nat.pow 2 ((n / d).log2 + 1) / spacing (n / d) :=
    Nat.div_lt_div_of_lt_of_dvd hdvd Nat.lt_log2_self
  calc roundBits n d
      ≤ (n / (d * spacing (n / d)) + 1) * spacing (n / d) :=
        Nat.mul_le_mul_right _ (roundHalfEven_le _ _)
    _ = (n / d / spacing (n / d) + 1) * spacing (n / d) := by rw [Nat.div_div_eq_div_mul]
    _ ≤ Nat.pow 2 ((n / d).log2 + 1) / spacing (n / d) * spacing (n / d) :=
        Nat.mul_le_mul_right _ hlt
    _ = Nat.pow 2 ((n / d).log2 + 1) := Nat.div_mul_cancel hdvd

theorem roundBits_mono_left {n n' d : Nat} (hd : 0 < d) (h : n ≤ n') :
    roundBits n d ≤ roundBits n' d := by
  have hq : n / d ≤ n' / d := Nat.div_le_div_right h
  by_cases same : (n / d).log2 = (n' / d).log2
  · have hspacing : spacing (n / d) = spacing (n' / d) := by rw [spacing, same, spacing]
    rw [roundBits, roundBits, ← hspacing]
    exact Nat.mul_le_mul_right _ (roundHalfEven_mono _ h)
  · have hne : n' / d ≠ 0 := by
      intro hzero
      rw [hzero, Nat.le_zero] at hq
      exact same (by rw [hq, hzero])
    have later : (n / d).log2 + 1 ≤ (n' / d).log2 := by
      by_cases hzero : n / d = 0
      · rw [hzero] at same ⊢
        exact Nat.pos_of_ne_zero (Ne.symm same)
      · have := (Nat.le_log2 hne).mpr (Nat.le_trans (Nat.log2_self_le hzero) hq)
        omega
    calc roundBits n d
        ≤ Nat.pow 2 ((n / d).log2 + 1) := roundBits_le_two_pow n d
      _ ≤ Nat.pow 2 (n' / d).log2 := Nat.pow_le_pow_right (by decide) later
      _ ≤ roundBits n' d := by
        refine two_pow_le_roundBits hd ?_
        exact Nat.le_trans (Nat.mul_le_mul_right d (Nat.log2_self_le hne))
          (Nat.div_mul_le_self n' d)

/-- A quotient that is not larger is not rounded to a larger number. -/
theorem roundBits_mono {n d n' d' : Nat} (hd : 0 < d) (hd' : 0 < d') (h : n * d' ≤ n' * d) :
    roundBits n d ≤ roundBits n' d' := by
  rw [← roundBits_mul n d hd', ← roundBits_mul n' d' hd, Nat.mul_comm d' d]
  exact roundBits_mono_left (Nat.mul_pos hd hd') h

end Bulletin
