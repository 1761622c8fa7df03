import PocCore.Machine.Bytes
import Mathlib.Tactic.Ring

namespace PocCore.Arithmetic

/-- `base_uint_<BITS>`: `WIDTH = BITS / 32` limbs `pn`, the least significant first. -/
@[ext] structure BaseUint (WIDTH : Nat) where
  pn : List (BitVec 32)
  length_pn : pn.length = WIDTH

/-- `arith_uint256`, the 256-bit instance the source uses. -/
abbrev ArithUint256 := BaseUint 8

/-- The integer `Σ pn[i] * 2^(32 i)` that little-endian limbs stand for. -/
def limbsValue : List (BitVec 32) → Nat
  | [] => 0
  | x :: xs => x.toNat + 2^32 * limbsValue xs

def BaseUint.value {WIDTH : Nat} (a : BaseUint WIDTH) : Nat := limbsValue a.pn

/-- The default constructor: every limb zero. -/
def BaseUint.zero (WIDTH : Nat) : BaseUint WIDTH := ⟨List.replicate WIDTH 0, by simp⟩

/-- The `uint64_t` constructor and `operator=(uint64_t)`: `pn[0] = (unsigned int)b`,
`pn[1] = (unsigned int)(b >> 32)`, every other limb zero. Both need two limbs. -/
def BaseUint.ofUInt64 {WIDTH : Nat} (b : BitVec 64) : BaseUint (WIDTH + 2) :=
  ⟨b.setWidth 32 :: (b >>> 32).setWidth 32 :: List.replicate WIDTH 0, by simp⟩

/-- The loop of `operator+=`: `n = carry + pn[i] + b.pn[i]`, `pn[i] = n & 0xffffffff`,
`carry = n >> 32`, over the limbs from the least significant up. -/
def addLimbs : List (BitVec 32) → List (BitVec 32) → BitVec 64 → List (BitVec 32)
  | x :: xs, y :: ys, carry =>
    let n := carry + x.setWidth 64 + y.setWidth 64
    (n &&& 0xffffffff).setWidth 32 :: addLimbs xs ys (n >>> 32)
  | _, _, _ => []

/-- `operator+=(const base_uint_&)`, and the binary `operator+` that applies it to a copy. -/
def BaseUint.add {WIDTH : Nat} (a b : BaseUint WIDTH) : BaseUint WIDTH :=
  ⟨addLimbs a.pn b.pn 0, by
    have h : ∀ (xs ys : List (BitVec 32)) c, xs.length = ys.length →
        (addLimbs xs ys c).length = xs.length := by
      intro xs; induction xs with
      | nil => intro ys c _; rfl
      | cons x xs ih =>
        intro ys c hl; cases ys with
        | nil => simp at hl
        | cons y ys => simp [addLimbs, ih ys _ (by simpa using hl)]
    rw [h _ _ _ (a.length_pn.trans b.length_pn.symm), a.length_pn]⟩

/-- `operator+=(uint64_t)`: the operand is first stored in a fresh `base_uint_`. -/
def BaseUint.addUInt64 {WIDTH : Nat} (a : BaseUint (WIDTH + 2)) (b64 : BitVec 64) :
    BaseUint (WIDTH + 2) :=
  a.add (BaseUint.ofUInt64 b64)

theorem limbsValue_lt (xs : List (BitVec 32)) : limbsValue xs < 2^(32 * xs.length) := by
  induction xs with
  | nil => simp [limbsValue]
  | cons x xs ih =>
    have hx := x.isLt
    have hs : 2^32 * (limbsValue xs + 1) ≤ 2^32 * 2^(32 * xs.length) := Nat.mul_le_mul_left _ ih
    rw [limbsValue, List.length_cons, Nat.mul_succ, Nat.pow_add, Nat.mul_comm (2^(32 * xs.length))]
    omega

theorem value_lt {WIDTH : Nat} (a : BaseUint WIDTH) : a.value < 2^(32 * WIDTH) := by
  simpa [BaseUint.value, a.length_pn] using limbsValue_lt a.pn

theorem limbsValue_eq_zero_iff : ∀ xs : List (BitVec 32), limbsValue xs = 0 ↔ ∀ x ∈ xs, x = 0
  | [] => by simp [limbsValue]
  | x :: xs => by
    rw [limbsValue, List.forall_mem_cons, ← limbsValue_eq_zero_iff xs, BitVec.toNat_eq,
      BitVec.ofNat_eq_ofNat, BitVec.toNat_ofNat, Nat.zero_mod]
    omega

theorem mod_limb_step (a Q M : Nat) :
    (a + 2^32 * Q) % (2^32 * M) = a % 2^32 + 2^32 * ((a / 2^32 + Q) % M) := by
  rw [Nat.mod_mul, Nat.add_mul_mod_self_left, Nat.add_mul_div_left _ _ (Nat.two_pow_pos 32)]

theorem add_limb_step (x y : BitVec 32) (carry : BitVec 64) (hc : carry.toNat ≤ 1) :
    (((carry + x.setWidth 64 + y.setWidth 64) &&& 0xffffffff).setWidth 32).toNat =
      (carry.toNat + x.toNat + y.toNat) % 2^32 ∧
    ((carry + x.setWidth 64 + y.setWidth 64) >>> 32).toNat =
      (carry.toNat + x.toNat + y.toNat) / 2^32 := by
  have hx := x.isLt
  have hy := y.isLt
  have hn : (carry + x.setWidth 64 + y.setWidth 64).toNat = carry.toNat + x.toNat + y.toNat := by
    simp only [BitVec.toNat_add, BitVec.toNat_setWidth]
    rw [Nat.mod_eq_of_lt (show x.toNat < 2^64 by omega),
      Nat.mod_eq_of_lt (show y.toNat < 2^64 by omega),
      Nat.mod_eq_of_lt (show carry.toNat + x.toNat < 2^64 by omega), Nat.mod_eq_of_lt (by omega)]
  refine ⟨?_, ?_⟩
  · simp only [BitVec.toNat_setWidth, BitVec.toNat_and, hn]
    rw [show (0xffffffff : BitVec 64).toNat = 2^32 - 1 from rfl, Nat.and_pow_two_sub_one_eq_mod,
      Nat.mod_mod]
  · simp only [BitVec.toNat_ushiftRight, hn, Nat.shiftRight_eq_div_pow]

/-- The carry loop adds the limb values and the incoming carry modulo `2^(32 * WIDTH)`. -/
theorem limbsValue_addLimbs (xs ys : List (BitVec 32)) (carry : BitVec 64)
    (hl : xs.length = ys.length) (hc : carry.toNat ≤ 1) :
    limbsValue (addLimbs xs ys carry) =
      (limbsValue xs + limbsValue ys + carry.toNat) % 2^(32 * xs.length) := by
  induction xs generalizing ys carry with
  | nil => simp [addLimbs, limbsValue, Nat.mod_one]
  | cons x xs ih =>
    cases ys with
    | nil => simp at hl
    | cons y ys =>
      obtain ⟨hlow, hcarry⟩ := add_limb_step x y carry hc
      have hx := x.isLt
      have hy := y.isLt
      have hnext : ((carry + x.setWidth 64 + y.setWidth 64) >>> 32).toNat ≤ 1 := by
        rw [hcarry]; omega
      simp only [addLimbs, limbsValue, List.length_cons]
      rw [ih ys _ (by simpa using hl) hnext, hlow, hcarry, Nat.mul_succ, Nat.pow_add,
        Nat.mul_comm (2^(32 * xs.length)),
        show x.toNat + 2^32 * limbsValue xs + (y.toNat + 2^32 * limbsValue ys) + carry.toNat =
          (carry.toNat + x.toNat + y.toNat) + 2^32 * (limbsValue xs + limbsValue ys) by ring,
        mod_limb_step, Nat.add_comm (_ / 2^32)]

theorem value_add {WIDTH : Nat} (a b : BaseUint WIDTH) :
    (a.add b).value = (a.value + b.value) % 2^(32 * WIDTH) := by
  simpa [BaseUint.value, BaseUint.add, a.length_pn] using
    limbsValue_addLimbs a.pn b.pn 0 (a.length_pn.trans b.length_pn.symm) (by simp)

theorem limbsValue_replicate_zero (n : Nat) : limbsValue (List.replicate n 0) = 0 := by
  induction n with
  | zero => rfl
  | succ n ih => simpa [List.replicate_succ, limbsValue] using ih

theorem value_ofUInt64 {WIDTH : Nat} (b : BitVec 64) :
    (BaseUint.ofUInt64 b : BaseUint (WIDTH + 2)).value = b.toNat := by
  have hb := b.isLt
  simp only [BaseUint.value, BaseUint.ofUInt64, limbsValue, limbsValue_replicate_zero,
    BitVec.toNat_setWidth, BitVec.toNat_ushiftRight, Nat.shiftRight_eq_div_pow]
  omega

/-- `a += b` and `a += b64` on an `arith_uint256` add modulo `2^256`. -/
theorem add_assign_mod (a b : ArithUint256) (b64 : BitVec 64) :
    (a.add b).value = (a.value + b.value) % 2^256 ∧
      (a.addUInt64 b64).value = (a.value + b64.toNat) % 2^256 :=
  ⟨value_add a b, by rw [BaseUint.addUInt64, value_add, value_ofUInt64]⟩

end PocCore.Arithmetic
