import Mathlib.Algebra.Group.Nat.Defs
import RobotMaze.Decimal
import RobotMaze.Text.Number
import RobotMaze.Time.Reader

/-! # Digits — numbers of a fixed width

    The fields of a date have a width, filled with zeros on the left.

    * `length_padded`, `ofDigits_padded` — a number that fits has that width and
      is what its digits spell;
    * `toString_injective` — different numbers are written differently;
    * `padded_append_lt` — such texts are ordered as the numbers are;
    * `readNumber_append`, `readNumber_padded` — the reader of numbers takes the
      digits and leaves what follows them. -/

namespace RobotMaze

open Decimal (padded)
open Text (ofDigits)

theorem Text.ofDigits_eq (ds : List Char) : ofDigits ds = Nat.ofDigitChars 10 ds 0 := by
  simp only [ofDigits, Nat.ofDigitChars]
  congr 1
  funext n c
  rw [Nat.mul_comm]
  rfl

namespace Decimal

theorem toList_toString (n : Nat) : (toString n).toList = Nat.toDigits 10 n := by
  rw [Nat.toString_eq_ofList_toDigits, String.toList_ofList]

/-- Only zero is written with a zero in front. -/
theorem head?_toDigits {n : Nat} (h : (Nat.toDigits 10 n).head? = some '0') : n = 0 := by
  induction n using Nat.strongRecOn with
  | ind n ih =>
      by_cases hn : n < 10
      · rw [Nat.toDigits_of_lt_base hn] at h
        have hzero : ∀ m < 10, Nat.digitChar m = '0' → m = 0 := by decide
        exact hzero n hn (Option.some.inj h)
      · have hsplit := Nat.toDigits_append_toDigits (by decide : 1 < 10) (by omega : 0 < n / 10)
          (Nat.mod_lt n (by decide : 0 < 10))
        rw [Nat.div_add_mod] at hsplit
        have hne : Nat.toDigits 10 (n / 10) ≠ [] := List.ne_nil_of_length_pos Nat.length_toDigits_pos
        obtain ⟨c, more, hcons⟩ := List.exists_cons_of_ne_nil hne
        rw [← hsplit, hcons] at h
        have hzero := ih (n / 10) (by omega) (by rw [hcons]; exact h)
        omega

/-- Different numbers have different digits. -/
theorem toDigits_injective : Function.Injective (Nat.toDigits 10) := by
  intro n m h
  have hnumber := congrArg (Nat.ofDigitChars 10 · 0) h
  simpa [Nat.ofDigitChars_toDigits] using hnumber

/-- Different numbers are written differently, with a sign or without. -/
theorem toString_injective : Function.Injective (toString : Int → String) := by
  have hsign : ∀ n m : Nat, Nat.toDigits 10 n ≠ '-' :: Nat.toDigits 10 m := by
    intro n m h
    have hdigit : '-'.isDigit = true := Nat.isDigit_of_mem_toDigits (by decide) (by decide)
      (h ▸ List.mem_cons_self)
    cases hdigit
  have hminus : ∀ n : Nat, (toString (Int.negSucc n)).toList = '-' :: Nat.toDigits 10 (n + 1) := by
    intro n
    show ("-" ++ toString (n + 1)).toList = _
    rw [String.toList_append, toList_toString]
    rfl
  have hplain : ∀ n : Nat, (toString (Int.ofNat n)).toList = Nat.toDigits 10 n := toList_toString
  intro n m h
  have htext := congrArg String.toList h
  cases n with
  | ofNat n =>
      cases m with
      | ofNat m =>
          rw [hplain, hplain] at htext
          exact congrArg Int.ofNat (toDigits_injective htext)
      | negSucc m =>
          rw [hplain, hminus] at htext
          exact absurd htext (hsign n (m + 1))
  | negSucc n =>
      cases m with
      | ofNat m =>
          rw [hplain, hminus] at htext
          exact absurd htext.symm (hsign m (n + 1))
      | negSucc m =>
          rw [hminus, hminus] at htext
          exact congrArg Int.negSucc (Nat.succ.inj (toDigits_injective (List.cons.inj htext).2))

theorem isDigit_of_mem_padded {width n : Nat} {c : Char} (h : c ∈ padded width n) :
    c.isDigit = true := by
  simp only [padded] at h
  rw [toList_toString] at h
  rcases List.mem_append.mp h with h | h
  · rw [List.eq_of_mem_replicate h]
    rfl
  · exact Nat.isDigit_of_mem_toDigits (by decide) (by decide) h

/-- A number that fits has the width that it is written with. -/
theorem length_padded {width n : Nat} (hwidth : 0 < width) (hn : n < 10 ^ width) :
    (padded width n).length = width := by
  have hle : (Nat.toDigits 10 n).length ≤ width :=
    (Nat.length_toDigits_le_iff (by decide) hwidth).mpr hn
  simp only [padded]
  rw [toList_toString, List.length_append, List.length_replicate]
  omega

/-- Zeros on the left do not change a number. -/
theorem ofDigits_padded (width n : Nat) : ofDigits (padded width n) = n := by
  simp only [padded]
  rw [toList_toString, Text.ofDigits_eq, Nat.ofDigitChars_append, Nat.ofDigitChars_replicate_zero,
    Nat.mul_zero, Nat.ofDigitChars_toDigits (by decide) (by decide)]

/-! ## Order -/

theorem digitChar_lt : ∀ m < 10, ∀ n < m, Nat.digitChar n < Nat.digitChar m := by decide

/-- A number that is written with a width is its tens, and then its last digit. -/
theorem padded_succ {width : Nat} (hwidth : 0 < width) (n : Nat) :
    padded (width + 1) n = padded width (n / 10) ++ [Nat.digitChar (n % 10)] := by
  simp only [padded]
  rw [toList_toString, toList_toString]
  by_cases hn : n < 10
  · rw [Nat.toDigits_of_lt_base hn, Nat.div_eq_of_lt hn, Nat.mod_eq_of_lt hn]
    show List.replicate width '0' ++ _ = (List.replicate (width - 1) '0' ++ ['0']) ++ _
    rw [← List.replicate_succ', Nat.sub_add_cancel hwidth]
  · have hsplit : Nat.toDigits 10 n = Nat.toDigits 10 (n / 10) ++ [Nat.digitChar (n % 10)] := by
      have happend := Nat.toDigits_append_toDigits (by decide : 1 < 10) (by omega : 0 < n / 10)
        (Nat.mod_lt n (by decide : 0 < 10))
      rw [Nat.div_add_mod, Nat.toDigits_of_lt_base (Nat.mod_lt n (by decide))] at happend
      exact happend.symm
    rw [hsplit, List.length_append, List.length_singleton, Nat.add_sub_add_right,
      List.append_assoc]

/-- Numbers that fit a width are ordered as texts as they are as numbers, whatever follows. -/
theorem padded_append_lt_of_lt {width : Nat} (hwidth : 0 < width) {n m : Nat} (hlt : n < m)
    (hm : m < 10 ^ width) (xs ys : List Char) :
    padded width n ++ xs < padded width m ++ ys := by
  induction width generalizing n m xs ys with
  | zero => exact absurd hwidth (Nat.lt_irrefl 0)
  | succ width ih =>
      cases Nat.eq_zero_or_pos width with
      | inl hzero =>
          subst hzero
          simp only [padded]
          rw [toList_toString, toList_toString, Nat.toDigits_of_lt_base (by omega),
            Nat.toDigits_of_lt_base (by omega)]
          exact List.cons_lt_cons_iff.mpr (Or.inl (digitChar_lt m hm n hlt))
      | inr hpos =>
          rw [padded_succ hpos, padded_succ hpos, List.append_assoc, List.append_assoc]
          rcases Nat.lt_or_eq_of_le (Nat.div_le_div_right (c := 10) (Nat.le_of_lt hlt)) with
            htens | htens
          · exact ih hpos htens (by omega) _ _
          · -- the tens agree, so the last digit decides
            rw [htens]
            refine List.append_left_lt (List.cons_lt_cons_iff.mpr (Or.inl ?_))
            exact digitChar_lt _ (Nat.mod_lt m (by decide)) _ (by omega)

/-- Where the numbers are equal, what follows them decides. -/
theorem padded_append_lt {width : Nat} (hwidth : 0 < width) {n m : Nat} (hm : m < 10 ^ width)
    {xs ys : List Char} (h : n < m ∨ (n = m ∧ xs < ys)) :
    padded width n ++ xs < padded width m ++ ys := by
  rcases h with hlt | ⟨rfl, hrest⟩
  · exact padded_append_lt_of_lt hwidth hlt hm xs ys
  · exact List.append_left_lt hrest

end Decimal

namespace Time

/-- Nothing more can be read as digits: the greatest width is reached, or something else follows. -/
def DigitsEnd (read most : Nat) (rest : List Char) : Prop :=
  read = most ∨ ∃ c more, rest = c :: more ∧ c.isDigit = false

/-- Digits are read up to where they end. -/
theorem readNumber_append {least most : Nat} {ds rest : List Char}
    (hdigits : ∀ c ∈ ds, c.isDigit = true) (hleast : least ≤ ds.length)
    (hmost : ds.length ≤ most) (hend : DigitsEnd ds.length most rest) :
    readNumber least most (ds ++ rest) = some (ofDigits ds, rest) := by
  -- what the reader may still take does not begin with a digit
  have hrest : (rest.take (most - ds.length)).takeWhile Char.isDigit = [] := by
    rcases hend with hfull | ⟨c, more, rfl, hc⟩
    · rw [hfull, Nat.sub_self]
      rfl
    · cases most - ds.length with
      | zero => rfl
      | succ k => simp [hc]
  have htaken : ((ds ++ rest).take most).takeWhile Char.isDigit = ds := by
    rw [List.take_append, List.take_of_length_le hmost, List.takeWhile_append_of_pos hdigits, hrest,
      List.append_nil]
  simp only [readNumber]
  rw [htaken]
  simp only [if_neg (Nat.not_lt.mpr hleast), List.drop_left]

/-- A number of a fixed width is read back. -/
theorem readNumber_padded {width n : Nat} (hwidth : 0 < width) (hn : n < 10 ^ width)
    (rest : List Char) : readNumber width width (padded width n ++ rest) = some (n, rest) := by
  have hlength := Decimal.length_padded hwidth hn
  rw [readNumber_append (fun _ => Decimal.isDigit_of_mem_padded) (by omega) (by omega)
    (Or.inl hlength), Decimal.ofDigits_padded]

end Time

end RobotMaze
