import RobotMaze.Proofs.Text.Digits

/-! # Shortest decimals

    The search for the digits of a number tries ever longer decimals, beginning at the
    first digit that is not zero.

    * `Reaches` — a power of ten is not above a quotient; the search for the exponent
      of the first digit ends at one that is not (`reaches_leadingExponent`);
    * `isFull_search`, `isFull_shortest` — so the digits that are found are as many as
      are counted, and the first of them is not zero. -/

namespace RobotMaze.Decimal

/-! ## The first digit -/

/-- `10 ^ e` is at most `num / den`. -/
def Reaches (num den : Nat) (e : Int) : Prop := den * 10 ^ e.toNat ≤ num * 10 ^ (-e).toNat

/-- A search that ends low enough ends at a power that the quotient reaches. -/
theorem reaches_leadingExponent {num den fuel : Nat} {e : Int} (h : Reaches num den (e - fuel)) :
    Reaches num den (leadingExponent num den fuel e) := by
  induction fuel generalizing e with
  | zero => rwa [Int.natCast_zero, Int.sub_zero] at h
  | succ fuel ih =>
      rw [leadingExponent]
      split
      · rename_i hreached
        exact hreached
      · refine ih ?_
        have hlast : e - 1 - (fuel : Int) = e - ((fuel + 1 : Nat) : Int) := by omega
        rwa [hlast]

theorem reaches_neg {num den n : Nat} (h : den ≤ num * 10 ^ n) : Reaches num den (-(n : Int)) := by
  have hplus : (-(n : Int)).toNat = 0 := by omega
  have hminus : (- -(n : Int)).toNat = n := by omega
  rw [Reaches, hplus, hminus, Nat.pow_zero, Nat.mul_one]
  exact h

theorem one_shiftLeft_le {m n : Nat} (h : m ≤ 3 * n) : 1 <<< m ≤ 10 ^ n :=
  calc 1 <<< m = 2 ^ m := Nat.one_shiftLeft m
    _ ≤ 2 ^ (3 * n) := Nat.pow_le_pow_right (by decide) h
    _ = (2 ^ 3) ^ n := Nat.pow_mul 2 3 n
    _ ≤ 10 ^ n := Nat.pow_le_pow_left (by decide) n

theorem one_shiftLeft_pos (n : Nat) : 0 < 1 <<< n := Nat.one_shiftLeft n ▸ Nat.two_pow_pos n

/-- The least magnitude, one part of the scale, is above the power that the search goes down to. -/
theorem scale_interval (b : Binary) : 0 < b.interval.scale ∧ b.interval.scale ≤ 10 ^ 390 :=
  ⟨one_shiftLeft_pos 1076, one_shiftLeft_le (by decide)⟩

/-! ## Digits -/

/-- There are at least as many digits as are counted. -/
structure Digits.IsFull (d : Digits) : Prop where
  count_pos : 0 < d.count
  le_digits : 10 ^ (d.count - 1) ≤ d.digits

variable {i : Interval} {exponent : Int}

/-- The whole part of a quotient, moved so that its first digit is so many places before the point,
    has so many digits. -/
theorem le_quotient (hscale : 0 < i.scale) (h : Reaches i.value i.scale exponent) {count : Nat}
    (hcount : 0 < count) :
    10 ^ (count - 1) ≤ i.value * Nat.pow 10 (-(exponent - (count : Int) + 1)).toNat
      / (i.scale * Nat.pow 10 (exponent - (count : Int) + 1).toNat) := by
  generalize hplace : exponent - (count : Int) + 1 = e
  have hpow : ∀ n, 0 < 10 ^ n := fun n => Nat.pow_pos (by decide)
  -- both powers of the place and both of the first digit, without a sign
  have hplaces : count - 1 + e.toNat + (-exponent).toNat = exponent.toNat + (-e).toNat := by omega
  show 10 ^ (count - 1) ≤ i.value * 10 ^ (-e).toNat / (i.scale * 10 ^ e.toNat)
  rw [Nat.le_div_iff_mul_le (Nat.mul_pos hscale (hpow _))]
  refine Nat.le_of_mul_le_mul_right ?_ (hpow (-exponent).toNat)
  calc 10 ^ (count - 1) * (i.scale * 10 ^ e.toNat) * 10 ^ (-exponent).toNat
      = i.scale * 10 ^ (count - 1 + e.toNat + (-exponent).toNat) := by
        rw [Nat.pow_add, Nat.pow_add]
        ac_rfl
    _ = i.scale * 10 ^ exponent.toNat * 10 ^ (-e).toNat := by
        rw [hplaces, Nat.pow_add, Nat.mul_assoc]
    _ ≤ i.value * 10 ^ (-exponent).toNat * 10 ^ (-e).toNat := Nat.mul_le_mul_right _ h
    _ = i.value * 10 ^ (-e).toNat * 10 ^ (-exponent).toNat := by ac_rfl

/-- What is taken is the whole part of the quotient or the number after it. -/
theorem le_of_withDigits {count n : Nat} (h : i.withDigits exponent count = some n) :
    i.value * Nat.pow 10 (-(exponent - (count : Int) + 1)).toNat
      / (i.scale * Nat.pow 10 (exponent - (count : Int) + 1).toNat) ≤ n := by
  simp only [Interval.withDigits] at h
  generalize i.value * Nat.pow 10 (-(exponent - (count : Int) + 1)).toNat
    / (i.scale * Nat.pow 10 (exponent - (count : Int) + 1).toNat) = below at h ⊢
  have hbelow : some below = some n → below ≤ n := fun h => Nat.le_of_eq (Option.some.inj h)
  have habove : some (below + 1) = some n → below ≤ n := fun h =>
    Option.some.inj h ▸ Nat.le_succ below
  split at h
  · split at h
    · exact hbelow h
    split at h
    · exact habove h
    split at h
    · exact hbelow h
    · exact habove h
  split at h
  · exact hbelow h
  split at h
  · exact habove h
  · cases h

theorem isFull_search (hscale : 0 < i.scale) (h : Reaches i.value i.scale exponent)
    {fuel count : Nat} (hcount : 0 < count) : (i.search exponent fuel count).IsFull := by
  induction fuel generalizing count with
  | zero => exact ⟨hcount, le_quotient hscale h hcount⟩
  | succ fuel ih =>
      rw [Interval.search]
      cases hdigits : i.withDigits exponent count with
      | none => exact ih (Nat.succ_pos count)
      | some n =>
          show (if n = Nat.pow 10 count then _ else _ : Digits).IsFull
          split
          · exact ⟨Nat.one_pos, Nat.le_refl 1⟩
          · exact ⟨hcount, Nat.le_trans (le_quotient hscale h hcount) (le_of_withDigits hdigits)⟩

/-- The digits of a magnitude other than zero are as many as are counted. -/
theorem isFull_shortest {b : Binary} (hb : b.mantissa ≠ 0) : b.shortest.IsFull := by
  have hvalue : 1 ≤ b.interval.value := by
    show 1 ≤ (4 * b.mantissa) <<< b.exponent
    rw [Nat.shiftLeft_eq]
    exact Nat.mul_pos (by omega) (Nat.pow_pos (by decide))
  obtain ⟨hpos, hle⟩ := scale_interval b
  refine isFull_search hpos (reaches_leadingExponent (reaches_neg (n := 390) ?_)) Nat.one_pos
  exact Nat.le_trans hle (Nat.le_mul_of_pos_left _ hvalue)

/-- There is a digit, the first is not zero, and there are as many as are counted. -/
theorem Digits.IsFull.toDigits {d : Digits} (h : d.IsFull) :
    d.count ≤ (Nat.toDigits 10 d.digits).length
      ∧ (Nat.toDigits 10 d.digits).head? ≠ some '0' := by
  have hpos : 0 < d.digits := Nat.lt_of_lt_of_le (Nat.pow_pos (by decide)) h.le_digits
  refine ⟨?_, fun hzero => ?_⟩
  · refine Nat.le_of_not_lt fun hshort => ?_
    have hlt := (Nat.length_toDigits_le_iff (by decide) Nat.length_toDigits_pos).mp
      (Nat.le_refl (Nat.toDigits 10 d.digits).length)
    have hle : 10 ^ (Nat.toDigits 10 d.digits).length ≤ 10 ^ (d.count - 1) :=
      Nat.pow_le_pow_right (by decide) (by omega)
    have hdigits := h.le_digits
    omega
  · rw [head?_toDigits hzero] at hpos
    exact absurd hpos (Nat.lt_irrefl 0)

end RobotMaze.Decimal
