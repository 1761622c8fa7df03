import PocCore.Arithmetic.Increment

namespace PocCore.Arithmetic

/-- The limb loops of `operator^=`, `operator&=` and `operator|=`: `pn[i] op= b.pn[i]` for
every limb. -/
def BaseUint.bitwise {WIDTH : Nat} (op : BitVec 32 → BitVec 32 → BitVec 32)
    (a b : BaseUint WIDTH) : BaseUint WIDTH :=
  ⟨List.zipWith op a.pn b.pn, by simp [a.length_pn, b.length_pn]⟩

/-- `operator^=(const base_uint_&)`. -/
def BaseUint.xor {WIDTH : Nat} (a b : BaseUint WIDTH) : BaseUint WIDTH := a.bitwise (· ^^^ ·) b

/-- `operator&=(const base_uint_&)`. -/
def BaseUint.and {WIDTH : Nat} (a b : BaseUint WIDTH) : BaseUint WIDTH := a.bitwise (· &&& ·) b

/-- `operator|=(const base_uint_&)`. -/
def BaseUint.or {WIDTH : Nat} (a b : BaseUint WIDTH) : BaseUint WIDTH := a.bitwise (· ||| ·) b

/-- The `uint64_t` overloads: `pn[0] op= (unsigned int)b`, `pn[1] op= (unsigned int)(b >> 32)`,
the other limbs untouched. -/
def BaseUint.bitwiseUInt64 {WIDTH : Nat} (op : BitVec 32 → BitVec 32 → BitVec 32)
    (a : BaseUint (WIDTH + 2)) (b : BitVec 64) : BaseUint (WIDTH + 2) :=
  ⟨(a.pn.set 0 (op (a.pn.getD 0 0) (b.setWidth 32))).set 1
    (op (a.pn.getD 1 0) ((b >>> 32).setWidth 32)), by simp [a.length_pn]⟩

/-- `operator^=(uint64_t)`. -/
def BaseUint.xorUInt64 {WIDTH : Nat} (a : BaseUint (WIDTH + 2)) (b : BitVec 64) :
    BaseUint (WIDTH + 2) :=
  a.bitwiseUInt64 (· ^^^ ·) b

/-- `operator|=(uint64_t)`. -/
def BaseUint.orUInt64 {WIDTH : Nat} (a : BaseUint (WIDTH + 2)) (b : BitVec 64) :
    BaseUint (WIDTH + 2) :=
  a.bitwiseUInt64 (· ||| ·) b

/-- `operator!`: every limb zero. -/
def BaseUint.isZero {WIDTH : Nat} (a : BaseUint WIDTH) : Bool := a.pn.all (· == 0)

/-- `operator==`: `memcmp` of the limb arrays. -/
def BaseUint.beq {WIDTH : Nat} (a b : BaseUint WIDTH) : Bool := a.pn == b.pn

/-- `GetLow64`: `pn[0] | (uint64_t)pn[1] << 32`. -/
def BaseUint.getLow64 {WIDTH : Nat} (a : BaseUint (WIDTH + 2)) : BitVec 64 :=
  (a.pn.getD 0 0).setWidth 64 ||| (a.pn.getD 1 0).setWidth 64 <<< 32

section Bitwise

variable {f : Bool → Bool → Bool} (hf : f false false = false)

include hf in
theorem bitwise_limb_step {x y : Nat} (hx : x < 2^32) (hy : y < 2^32) (X Y : Nat) :
    Nat.bitwise f (x + 2^32 * X) (y + 2^32 * Y) =
      Nat.bitwise f x y + 2^32 * Nat.bitwise f X Y := by
  apply Nat.eq_of_testBit_eq
  intro j
  rw [Nat.add_comm x, Nat.add_comm y, Nat.add_comm (Nat.bitwise f x y), Nat.testBit_bitwise hf,
    Nat.testBit_mul_pow_two_add _ hx, Nat.testBit_mul_pow_two_add _ hy,
    Nat.testBit_mul_pow_two_add _ (Nat.bitwise_lt_two_pow hx hy)]
  split <;> rw [Nat.testBit_bitwise hf]

include hf in
/-- A limb-wise operation whose limbs compute `Nat.bitwise f` computes it on the values. -/
theorem limbsValue_zipWith {op : BitVec 32 → BitVec 32 → BitVec 32}
    (hop : ∀ x y, (op x y).toNat = Nat.bitwise f x.toNat y.toNat) :
    ∀ xs ys : List (BitVec 32), xs.length = ys.length →
      limbsValue (List.zipWith op xs ys) = Nat.bitwise f (limbsValue xs) (limbsValue ys)
  | [], [], _ => by unfold Nat.bitwise; simp [limbsValue]
  | x :: xs, y :: ys, hl => by
    rw [List.zipWith_cons_cons, limbsValue, limbsValue, limbsValue, hop,
      limbsValue_zipWith hop xs ys (by simpa using hl), bitwise_limb_step hf x.isLt y.isLt]
  | [], _ :: _, hl | _ :: _, [], hl => by simp at hl

include hf in
theorem value_bitwise {WIDTH : Nat} {op : BitVec 32 → BitVec 32 → BitVec 32}
    (hop : ∀ x y, (op x y).toNat = Nat.bitwise f x.toNat y.toNat) (a b : BaseUint WIDTH) :
    (a.bitwise op b).value = Nat.bitwise f a.value b.value :=
  limbsValue_zipWith hf hop a.pn b.pn (a.length_pn.trans b.length_pn.symm)

end Bitwise

theorem zipWith_replicate_zero {op : BitVec 32 → BitVec 32 → BitVec 32} (hop : ∀ x, op x 0 = x) :
    ∀ xs : List (BitVec 32), List.zipWith op xs (List.replicate xs.length 0) = xs
  | [] => rfl
  | x :: xs => by
    rw [List.length_cons, List.replicate_succ, List.zipWith_cons_cons, hop,
      zipWith_replicate_zero hop xs]

theorem bitwiseUInt64_eq {WIDTH : Nat} {op : BitVec 32 → BitVec 32 → BitVec 32}
    (hop : ∀ x, op x 0 = x) (a : BaseUint (WIDTH + 2)) (b : BitVec 64) :
    a.bitwiseUInt64 op b = a.bitwise op (BaseUint.ofUInt64 b) := by
  obtain ⟨pn, hl⟩ := a
  match pn, hl with
  | [], hl | [_], hl => simp at hl
  | x0 :: x1 :: rest, hl =>
    ext1
    simp only [BaseUint.bitwiseUInt64, BaseUint.bitwise, BaseUint.ofUInt64, List.getD_cons_zero,
      List.getD_cons_succ, List.set_cons_zero, List.set_cons_succ, List.zipWith_cons_cons,
      List.cons.injEq, true_and]
    rw [← show rest.length = WIDTH by simpa using hl, zipWith_replicate_zero hop]

theorem value_xor {WIDTH : Nat} (a b : BaseUint WIDTH) : (a.xor b).value = a.value ^^^ b.value :=
  value_bitwise rfl (fun x y => BitVec.toNat_xor x y) a b

theorem value_and {WIDTH : Nat} (a b : BaseUint WIDTH) : (a.and b).value = a.value &&& b.value :=
  value_bitwise rfl (fun x y => BitVec.toNat_and x y) a b

theorem value_or {WIDTH : Nat} (a b : BaseUint WIDTH) : (a.or b).value = a.value ||| b.value :=
  value_bitwise rfl (fun x y => BitVec.toNat_or x y) a b

theorem value_xorUInt64 {WIDTH : Nat} (a : BaseUint (WIDTH + 2)) (b : BitVec 64) :
    (a.xorUInt64 b).value = a.value ^^^ b.toNat := by
  rw [BaseUint.xorUInt64, bitwiseUInt64_eq (fun _ => BitVec.xor_zero), ← BaseUint.xor, value_xor,
    value_ofUInt64]

theorem value_orUInt64 {WIDTH : Nat} (a : BaseUint (WIDTH + 2)) (b : BitVec 64) :
    (a.orUInt64 b).value = a.value ||| b.toNat := by
  rw [BaseUint.orUInt64, bitwiseUInt64_eq (fun _ => BitVec.or_zero), ← BaseUint.or, value_or,
    value_ofUInt64]

theorem isZero_iff {WIDTH : Nat} (a : BaseUint WIDTH) : a.isZero = true ↔ a.value = 0 := by
  simp [BaseUint.isZero, BaseUint.value, limbsValue_eq_zero_iff]

theorem beq_iff {WIDTH : Nat} (a b : BaseUint WIDTH) : a.beq b = true ↔ a.value = b.value := by
  rw [BaseUint.beq, beq_iff_eq]
  exact ⟨congrArg limbsValue, fun h => congrArg BaseUint.pn (BaseUint.eq_of_value_eq h)⟩

theorem toNat_getLow64 {WIDTH : Nat} (a : BaseUint (WIDTH + 2)) :
    a.getLow64.toNat = a.value % 2^64 := by
  obtain ⟨pn, hl⟩ := a
  match pn, hl with
  | [], hl | [_], hl => simp at hl
  | x0 :: x1 :: rest, _ =>
    have h0 : x0.toNat < 2^32 := x0.isLt
    have h1 := x1.isLt
    have hhi : (x1.setWidth 64 <<< 32).toNat = x1.toNat <<< 32 := by
      simp only [BitVec.toNat_shiftLeft, BitVec.toNat_setWidth, Nat.shiftLeft_eq,
        Nat.reducePow] at h1 ⊢
      rw [Nat.mod_eq_of_lt (by omega), Nat.mod_eq_of_lt (by omega)]
    simp only [BaseUint.getLow64, List.getD_cons_zero, List.getD_cons_succ, BitVec.toNat_or, hhi]
    rw [BitVec.toNat_setWidth, Nat.mod_eq_of_lt (Nat.lt_trans h0 (by decide)),
      lor_shiftLeft_eq_add h0, BaseUint.value, limbsValue, limbsValue]
    simp only [Nat.reducePow]
    omega

/-- The remaining operators of `arith_uint256` act on its value: the bitwise operators and their
`uint64_t` overloads, `operator!`, `operator==`, and `GetLow64` modulo `2^64`. -/
theorem bitwise_ops_on_values (a b : ArithUint256) (b64 : BitVec 64) :
    (a.xor b).value = a.value ^^^ b.value ∧ (a.and b).value = a.value &&& b.value ∧
    (a.or b).value = a.value ||| b.value ∧
    (a.xorUInt64 b64).value = a.value ^^^ b64.toNat ∧
    (a.orUInt64 b64).value = a.value ||| b64.toNat ∧
    (a.isZero = true ↔ a.value = 0) ∧ (a.beq b = true ↔ a.value = b.value) ∧
    a.getLow64.toNat = a.value % 2^64 ∧ (BaseUint.ofUInt64 b64 : ArithUint256).getLow64 = b64 :=
  ⟨value_xor a b, value_and a b, value_or a b, value_xorUInt64 a b64, value_orUInt64 a b64,
    isZero_iff a, beq_iff a b, toNat_getLow64 a, BitVec.eq_of_toNat_eq (by
      rw [toNat_getLow64, value_ofUInt64, Nat.mod_eq_of_lt b64.isLt])⟩

end PocCore.Arithmetic
