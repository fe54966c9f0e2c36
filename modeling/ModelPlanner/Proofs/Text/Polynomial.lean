/-
**The hash of a text is a polynomial of its units.**

The units encode the text (`Encodes`): a character below `U+10000` is its own unit, any other one a high
and a low surrogate that share its bits. The polynomial has the units as coefficients, the first one highest,
and is taken at 31.

* `encodes_iff`: a text has one encoding, that of `unitsOf`;
* `hashUnits_eq`: a hash that is continued is the hash so far times a power of 31, and the polynomial of the
  units that follow;
* `hash_polynomial`: hence the hash is the polynomial, reduced to 32 bits with a sign, and the hash of two
  texts in a row comes from their hashes and the number of units of the second one.
-/

import Mathlib.Algebra.BigOperators.Fin
import ModelPlanner.Text

namespace ModelPlanner.Text

/-! ### Units -/

/-- The units encode the characters: each one by itself, or by a high and a low surrogate if it lies beyond
the basic plane. -/
inductive Encodes : List Char → List Nat → Prop
  | nil : Encodes [] []
  | basic {c : Char} {cs : List Char} {units : List Nat} :
      c.toNat < 0x10000 → Encodes cs units → Encodes (c :: cs) (c.toNat :: units)
  | surrogates {c : Char} {high low : Nat} {cs : List Char} {units : List Nat} :
      0xD800 ≤ high ∧ high < 0xDC00 → 0xDC00 ≤ low ∧ low < 0xE000 →
        c.toNat = 0x10000 + 0x400 * (high - 0xD800) + (low - 0xDC00) → Encodes cs units →
        Encodes (c :: cs) (high :: low :: units)

/-- Code points end before `0x110000`. -/
theorem toNat_lt (c : Char) : c.toNat < 0x110000 := by
  rcases c.valid with low | ⟨_, high⟩
  · exact low.trans (by decide)
  · exact high

/-- **A list of characters has one encoding.** -/
theorem encodes_iff {cs : List Char} {units : List Nat} :
    Encodes cs units ↔ units = cs.flatMap charUnits := by
  constructor
  · intro encodes
    induction encodes with
    | nil => rfl
    | basic small _ ih => rw [List.flatMap_cons, charUnits, if_pos small, ih, List.singleton_append]
    | @surrogates c high low cs units highRange lowRange point _ ih =>
      have large : ¬ c.toNat < 0x10000 := by omega
      have highEq : 0xD800 + (c.toNat - 0x10000) / 0x400 = high := by omega
      have lowEq : 0xDC00 + (c.toNat - 0x10000) % 0x400 = low := by omega
      rw [List.flatMap_cons, charUnits, if_neg large, highEq, lowEq, ih, List.cons_append,
        List.singleton_append]
  · rintro rfl
    induction cs with
    | nil => exact .nil
    | cons c cs ih =>
      have bound := toNat_lt c
      rw [List.flatMap_cons, charUnits]
      split
      · next small => exact .basic small ih
      · exact .surrogates (by omega) (by omega) (by omega) ih

/-! ### The polynomial -/

/-- The polynomial of units at 31: the first unit has the highest power, the last one stands alone. -/
def polynomial (units : List Nat) : Nat :=
  ∑ place : Fin units.length, units[place] * 31 ^ (units.length - 1 - place)

theorem polynomial_cons (unit : Nat) (units : List Nat) :
    polynomial (unit :: units) = unit * 31 ^ units.length + polynomial units := by
  unfold polynomial
  refine (Fin.sum_univ_succ _).trans (congrArg₂ (· + ·) rfl ?_)
  refine Finset.sum_congr rfl fun place _ => ?_
  have power : (unit :: units).length - 1 - place.succ = units.length - 1 - place := by
    rw [List.length_cons, Fin.val_succ]
    omega
  rw [power]
  rfl

theorem ofNat_pow (base power : Nat) : Int32.ofNat (base ^ power) = Int32.ofNat base ^ power := by
  induction power with
  | zero => rfl
  | succ power ih => rw [Nat.pow_succ, Int32.pow_succ, Int32.ofNat_mul, ih]

/-! ### The hash -/

/-- Units that follow move what stands before by a power of 31 and add their polynomial. -/
theorem hashUnits_eq (before : Int32) (units : List Nat) :
    hashUnits before units = before * 31 ^ units.length + Int32.ofNat (polynomial units) := by
  induction units generalizing before with
  | nil => simp [hashUnits, polynomial]
  | cons unit units ih =>
    calc hashUnits before (unit :: units)
        = (before * 31 + Int32.ofNat unit) * 31 ^ units.length + Int32.ofNat (polynomial units) := ih _
      _ = before * 31 ^ (units.length + 1) +
            (Int32.ofNat unit * 31 ^ units.length + Int32.ofNat (polynomial units)) := by grind
      _ = before * 31 ^ (unit :: units).length + Int32.ofNat (polynomial (unit :: units)) := by
        rw [polynomial_cons, Int32.ofNat_add, Int32.ofNat_mul, ofNat_pow]
        rfl

/-- From nothing, the hash is the polynomial. -/
theorem hashUnits_zero (units : List Nat) : hashUnits 0 units = Int32.ofNat (polynomial units) := by
  rw [hashUnits_eq, Int32.zero_mul, Int32.zero_add]

/-- **The hash of a text is the polynomial of its units at 31**, as a number of 32 bits with a sign; and
behind another text, this text moves the other one's hash by as many powers of 31 as it has units. -/
theorem hash_polynomial (text : String) :
    ∃ units, (∀ others, Encodes text.toList others ↔ others = units) ∧
      (hash text).toInt = (polynomial units : Int).bmod (2 ^ 32) ∧
      ∀ before, hash (before ++ text) = hash before * 31 ^ units.length + hash text := by
  refine ⟨unitsOf text, fun others => encodes_iff, ?_, fun before => ?_⟩
  · rw [hash, hashUnits_zero]
    exact Int32.toInt_ofNat'
  · rw [hash, unitsOf_append, hashUnits_append, hashUnits_eq, ← hashUnits_zero]
    rfl

/-- A text with a pair of surrogates, whose hash wraps around. -/
example : unitsOf "card🂡" = [0x63, 0x61, 0x72, 0x64, 0xD83C, 0xDCA1] ∧ hash "card🂡" = -1365835019 := by
  decide +kernel

end ModelPlanner.Text
