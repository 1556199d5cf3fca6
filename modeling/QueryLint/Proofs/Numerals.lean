import Mathlib.Data.List.Basic
import Mathlib.Data.List.TakeWhile
import QueryLint.Text.Numeral

/-!
Natural numbers as they are written: one or more digits, which are read back as the number, and of
which the first is zero only for zero itself.
-/

namespace QueryLint.Text

theorem isDigit_of_mem_ofNat {n : Nat} {c : Char} (h : c ∈ ofNat n) : c.isDigit := by
  rw [ofNat, Nat.toList_repr] at h
  exact Nat.isDigit_of_mem_toDigits (by decide) (by decide) h

theorem ofNat_ne_nil (n : Nat) : ofNat n ≠ [] := by
  rw [ofNat, Nat.toList_repr]
  exact Nat.toDigits_ne_nil

@[simp] theorem digitsValue_ofNat (n : Nat) : digitsValue (ofNat n) = n := by
  rw [ofNat, Nat.toList_repr]
  exact Nat.ofDigitChars_ten_toDigits

theorem ofNat_injective {n m : Nat} (h : ofNat n = ofNat m) : n = m := by
  rw [← digitsValue_ofNat n, h, digitsValue_ofNat]

theorem eq_zero_of_head?_ofNat {n : Nat} (h : (ofNat n).head? = some '0') : n = 0 := by
  rw [ofNat, Nat.toList_repr] at h
  induction n using Nat.strongRecOn with
  | ind n ih =>
    rw [Nat.toDigits_eq_if (by decide)] at h
    split at h
    · rename_i hlt
      have hdigit : ∀ n < 10, Nat.digitChar n = '0' → n = 0 := by decide
      exact hdigit n hlt (by simpa using h)
    · rename_i hge
      rw [List.head?_append_of_ne_nil _ Nat.toDigits_ne_nil] at h
      have hzero := ih (n / 10) (by omega) h
      omega

theorem takeWhile_isDigit_ofNat (n : Nat) : (ofNat n).takeWhile Char.isDigit = ofNat n :=
  List.takeWhile_eq_self_iff.mpr fun _ hc => isDigit_of_mem_ofNat hc

theorem dropWhile_isDigit_ofNat (n : Nat) : (ofNat n).dropWhile Char.isDigit = [] :=
  List.dropWhile_eq_nil_iff.mpr fun _ hc => isDigit_of_mem_ofNat hc

theorem head?_ofNat_ne {n : Nat} {c : Char} (hc : c.isDigit = false) :
    (ofNat n).head? ≠ some c := by
  intro h
  rw [isDigit_of_mem_ofNat (List.mem_of_mem_head? h)] at hc
  cases hc

theorem dropSign_ofNat (n : Nat) : dropSign (ofNat n) = ofNat n := by
  have hplus : (ofNat n).head? ≠ some '+' := head?_ofNat_ne (by decide)
  have hminus : (ofNat n).head? ≠ some '-' := head?_ofNat_ne (by decide)
  unfold dropSign
  split <;> simp_all

theorem readDecimal?_ofNat (n : Nat) : readDecimal? (ofNat n) = some ⟨n, 0⟩ := by
  rw [readDecimal?, dropSign_ofNat, takeWhile_isDigit_ofNat, dropWhile_isDigit_ofNat]
  simp [ofNat_ne_nil, readExponent?]

end QueryLint.Text
