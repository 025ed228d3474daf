import Mathlib.Data.Int.Order.Basic

/-!
# DaikinBridge.Lib.Midpoint

Truncated midpoints, and bands of 16-bit values around a centre.

The midpoint of two 16-bit values is computed in a wider type, by a division that truncates
toward zero, and always fits again (`toInt_midpoint`). `Midway` says of three integers that
the third is the truncated midpoint of the first two, without a division: an odd sum loses
one half, toward zero.

A band is a centre and a half width. Its edges are computed modulo `2 ^ 16`; they are exact
where centre and half width add up to 16-bit values, and a centre midway between two values
that are two half widths apart has exactly these two as its edges (`edges_of_midpoint`).
-/

namespace DaikinBridge.Lib

/-- The truncated midpoint of `a` and `b` is `c`. -/
def Midway (a b c : Int) : Prop :=
  a + b = 2 * c ∨ (a + b = 2 * c + 1 ∧ 0 ≤ c) ∨ (a + b = 2 * c - 1 ∧ c ≤ 0)

instance (a b c : Int) : Decidable (Midway a b c) :=
  inferInstanceAs (Decidable (_ ∨ _ ∨ _))

theorem tdiv_two_eq_iff {a b c : Int} : (a + b).tdiv 2 = c ↔ Midway a b c := by
  have hsign : Int.sign 2 = 1 := rfl
  rw [Int.tdiv_eq_ediv, hsign, Midway]
  split <;> omega

/-- The midpoint of two 16-bit values is one. -/
theorem toInt_midpoint {a b : Int} (ha : -32768 ≤ a ∧ a ≤ 32767) (hb : -32768 ≤ b ∧ b ≤ 32767) :
    (Int16.ofInt ((a + b).tdiv 2)).toInt = (a + b).tdiv 2 := by
  have hmid : Midway a b ((a + b).tdiv 2) := tdiv_two_eq_iff.mp rfl
  unfold Midway at hmid
  exact Int16.toInt_ofInt_of_le (by omega) (by omega)

/-- A 16-bit value as an integer is in range. -/
theorem toInt_range (v : Int16) : -32768 ≤ v.toInt ∧ v.toInt ≤ 32767 :=
  ⟨v.le_toInt, Int.le_of_lt_add_one v.toInt_lt⟩

theorem midpoint_eq_iff {a b c : Int16} :
    Int16.ofInt ((a.toInt + b.toInt).tdiv 2) = c ↔ Midway a.toInt b.toInt c.toInt := by
  rw [← Int16.toInt_inj, toInt_midpoint (toInt_range a) (toInt_range b), tdiv_two_eq_iff]

/-- Two half widths apart, two values are the edges of the band around their midpoint. -/
theorem edges_of_midpoint {lo hi d : Int16} (h : hi.toInt - lo.toInt = 2 * d.toInt) :
    Int16.ofInt ((Int16.ofInt ((lo.toInt + hi.toInt).tdiv 2)).toInt - d.toInt) = lo ∧
      Int16.ofInt ((Int16.ofInt ((lo.toInt + hi.toInt).tdiv 2)).toInt + d.toInt) = hi := by
  have hmid : (lo.toInt + hi.toInt).tdiv 2 = lo.toInt + d.toInt := by
    rw [tdiv_two_eq_iff]
    exact .inl (by omega)
  rw [toInt_midpoint (toInt_range lo) (toInt_range hi), hmid]
  constructor
  · rw [show lo.toInt + d.toInt - d.toInt = lo.toInt by omega, Int16.ofInt_toInt]
  · rw [show lo.toInt + d.toInt + d.toInt = hi.toInt by omega, Int16.ofInt_toInt]

end DaikinBridge.Lib
