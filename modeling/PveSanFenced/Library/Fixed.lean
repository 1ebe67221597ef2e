import Mathlib.Algebra.Order.Ring.Nat
import Mathlib.Data.Nat.Basic
import Mathlib.Order.Basic

/-!
# Unsigned 64-bit words

What a bare `+` or `*` does when the exact result does not fit depends on how
the program was built: it panics or it wraps around. Both builds are modelled,
a panic as `none`. The saturating operations are those a program uses when it
must do neither.
-/

namespace PveSanFenced.Library.Fixed

set_option autoImplicit false

def maxWord : ℕ := 2 ^ 64 - 1

def saturatingAdd (left right : UInt64) : UInt64 :=
  UInt64.ofNat (min (left.toNat + right.toNat) maxWord)

def saturatingSub (left right : UInt64) : UInt64 :=
  UInt64.ofNat (left.toNat - right.toNat)

def saturatingMul (left right : UInt64) : UInt64 :=
  UInt64.ofNat (min (left.toNat * right.toNat) maxWord)

theorem word_le_max (word : UInt64) : word.toNat ≤ maxWord := by
  have bound := word.toNat_lt
  simp only [maxWord]
  omega

@[simp] theorem saturating_add_to_nat (left right : UInt64) :
    (saturatingAdd left right).toNat = min (left.toNat + right.toNat) maxWord := by
  have small : min (left.toNat + right.toNat) maxWord < 2 ^ 64 := by
    simp only [maxWord]
    omega
  rw [saturatingAdd, UInt64.toNat_ofNat', Nat.mod_eq_of_lt small]

/-- What the build does on overflow. -/
inductive Overflow where
  | panics
  | wraps
  deriving DecidableEq, Repr

def exactWord (mode : Overflow) (exact : ℕ) : Option UInt64 :=
  match mode with
  | .panics => if exact ≤ maxWord then some (UInt64.ofNat exact) else none
  | .wraps => some (UInt64.ofNat exact)

def addWord (mode : Overflow) (left right : UInt64) : Option UInt64 :=
  exactWord mode (left.toNat + right.toNat)

def mulWord (mode : Overflow) (left right : UInt64) : Option UInt64 :=
  exactWord mode (left.toNat * right.toNat)

theorem of_nat_to_nat {exact : ℕ} (fits : exact ≤ maxWord) :
    (UInt64.ofNat exact).toNat = exact := by
  have small : exact < 2 ^ 64 := by
    simp only [maxWord] at fits
    omega
  rw [UInt64.toNat_ofNat', Nat.mod_eq_of_lt small]

theorem exact_word_fits (mode : Overflow) {exact : ℕ} (fits : exact ≤ maxWord) :
    exactWord mode exact = some (UInt64.ofNat exact) := by
  cases mode with
  | panics => exact if_pos fits
  | wraps => rfl

theorem exact_word_panics_iff (exact : ℕ) :
    (exactWord .panics exact).isSome = true ↔ exact ≤ maxWord := by
  unfold exactWord
  split_ifs with fits
  · exact iff_of_true rfl fits
  · exact iff_of_false Bool.false_ne_true fits

@[simp] theorem saturating_sub_to_nat (left right : UInt64) :
    (saturatingSub left right).toNat = left.toNat - right.toNat := by
  have small : left.toNat - right.toNat < 2 ^ 64 := by
    have bound := left.toNat_lt
    omega
  rw [saturatingSub, UInt64.toNat_ofNat', Nat.mod_eq_of_lt small]

@[simp] theorem saturating_mul_to_nat (left right : UInt64) :
    (saturatingMul left right).toNat = min (left.toNat * right.toNat) maxWord := by
  have small : min (left.toNat * right.toNat) maxWord < 2 ^ 64 := by
    simp only [maxWord]
    omega
  rw [saturatingMul, UInt64.toNat_ofNat', Nat.mod_eq_of_lt small]

@[simp] theorem min_word_to_nat (left right : UInt64) :
    (min left right).toNat = min left.toNat right.toNat := by
  change (if left ≤ right then left else right).toNat = _
  split_ifs with ordered
  · exact (Nat.min_eq_left (UInt64.le_iff_toNat_le.mp ordered)).symm
  · rw [UInt64.le_iff_toNat_le, Nat.not_le] at ordered
    exact (Nat.min_eq_right ordered.le).symm

theorem min_saturating_mul (left right bound : UInt64) :
    (min (saturatingMul left right) bound).toNat =
      min (left.toNat * right.toNat) bound.toNat := by
  have largest := word_le_max bound
  rw [min_word_to_nat, saturating_mul_to_nat]
  omega

theorem exact_word_eq_none {mode : Overflow} {exact : ℕ} :
    exactWord mode exact = none ↔ mode = .panics ∧ maxWord < exact := by
  cases mode with
  | wraps =>
      constructor
      · intro impossible
        cases impossible
      · intro impossible
        cases impossible.1
  | panics =>
      unfold exactWord
      split_ifs with fits
      · constructor
        · intro impossible
          cases impossible
        · intro beyond
          omega
      · exact iff_of_true rfl ⟨rfl, by omega⟩

theorem eq_of_exact_word {mode : Overflow} {exact : ℕ} {word : UInt64}
    (computed : exactWord mode exact = some word) : word = UInt64.ofNat exact := by
  cases mode with
  | wraps => exact (Option.some.inj computed).symm
  | panics =>
      rw [exactWord, Option.ite_none_right_eq_some, Option.some.injEq] at computed
      exact computed.2.symm

end PveSanFenced.Library.Fixed
