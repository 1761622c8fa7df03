import PocCore.Arithmetic.BaseUint

namespace PocCore.Arithmetic

/-- The loop of prefix `operator++`, `while (i < WIDTH && ++pn[i] == 0) i++;`: the limbs it
leaves and the index `i` it stops at. -/
def incrementLoop : List (BitVec 32) → List (BitVec 32) × Nat
  | [] => ([], 0)
  | x :: xs =>
    if x + 1 = 0 then
      let r := incrementLoop xs
      ((x + 1) :: r.1, r.2 + 1)
    else ((x + 1) :: xs, 0)

/-- The loop of prefix `operator--`, `while (i < WIDTH && --pn[i] == (uint32_t)-1) i++;`. -/
def decrementLoop : List (BitVec 32) → List (BitVec 32) × Nat
  | [] => ([], 0)
  | x :: xs =>
    if x - 1 = 0xffffffff then
      let r := decrementLoop xs
      ((x - 1) :: r.1, r.2 + 1)
    else ((x - 1) :: xs, 0)

theorem length_incrementLoop (xs : List (BitVec 32)) : (incrementLoop xs).1.length = xs.length := by
  induction xs with
  | nil => rfl
  | cons x xs ih => unfold incrementLoop; split <;> simp [ih]

theorem length_decrementLoop (xs : List (BitVec 32)) : (decrementLoop xs).1.length = xs.length := by
  induction xs with
  | nil => rfl
  | cons x xs ih => unfold decrementLoop; split <;> simp [ih]

/-- Prefix `operator++`. -/
def BaseUint.increment {WIDTH : Nat} (a : BaseUint WIDTH) : BaseUint WIDTH :=
  ⟨(incrementLoop a.pn).1, (length_incrementLoop a.pn).trans a.length_pn⟩

/-- Prefix `operator--`. -/
def BaseUint.decrement {WIDTH : Nat} (a : BaseUint WIDTH) : BaseUint WIDTH :=
  ⟨(decrementLoop a.pn).1, (length_decrementLoop a.pn).trans a.length_pn⟩

/-- Postfix `operator++(int)`: the old value it returns, and `*this` after `++(*this)`. -/
def BaseUint.postIncrement {WIDTH : Nat} (a : BaseUint WIDTH) : BaseUint WIDTH × BaseUint WIDTH :=
  let ret := a
  (ret, a.increment)

/-- Postfix `operator--(int)`: the old value it returns, and `*this` after `--(*this)`. -/
def BaseUint.postDecrement {WIDTH : Nat} (a : BaseUint WIDTH) : BaseUint WIDTH × BaseUint WIDTH :=
  let ret := a
  (ret, a.decrement)

/-- `operator~`: every limb complemented. -/
def BaseUint.complement {WIDTH : Nat} (a : BaseUint WIDTH) : BaseUint WIDTH :=
  ⟨a.pn.map (~~~ ·), by simp [a.length_pn]⟩

/-- Unary `operator-`: `ret.pn[i] = ~pn[i]` for every limb, then `ret++`. -/
def BaseUint.neg {WIDTH : Nat} (a : BaseUint WIDTH) : BaseUint WIDTH :=
  a.complement.increment

/-- `operator-=(const base_uint_&)`, `*this += -b`, and the binary `operator-` on a copy. -/
def BaseUint.sub {WIDTH : Nat} (a b : BaseUint WIDTH) : BaseUint WIDTH :=
  a.add b.neg

/-- `operator-=(uint64_t)`: `b = b64; *this += -b;`. -/
def BaseUint.subUInt64 {WIDTH : Nat} (a : BaseUint (WIDTH + 2)) (b64 : BitVec 64) :
    BaseUint (WIDTH + 2) :=
  a.add (BaseUint.ofUInt64 b64).neg

/-- The increment loop adds one modulo `2^(32 * WIDTH)`. -/
theorem limbsValue_incrementLoop (xs : List (BitVec 32)) :
    limbsValue (incrementLoop xs).1 = (limbsValue xs + 1) % 2^(32 * xs.length) := by
  induction xs with
  | nil => simp [incrementLoop, limbsValue]
  | cons x xs ih =>
    have hx := x.isLt
    have hlt := limbsValue_lt xs
    have hy : (x + 1).toNat = (x.toNat + 1) % 2^32 := by simp [BitVec.toNat_add]
    rw [limbsValue, List.length_cons, Nat.mul_succ, Nat.pow_add, Nat.mul_comm (2^(32 * xs.length)),
      show x.toNat + 2^32 * limbsValue xs + 1 = (x.toNat + 1) + 2^32 * limbsValue xs by omega,
      mod_limb_step]
    unfold incrementLoop
    split
    case isTrue h =>
      have hw : x.toNat + 1 = 2^32 := by bv_omega
      simp only [limbsValue, ih, hw, h, Nat.mod_self, Nat.div_self (Nat.two_pow_pos 32),
        Nat.add_comm 1]
      rfl
    case isFalse h =>
      have hw : x.toNat + 1 < 2^32 := by bv_omega
      simp only [limbsValue, hy, Nat.mod_eq_of_lt hw, Nat.div_eq_of_lt hw, Nat.zero_add,
        Nat.mod_eq_of_lt hlt]

theorem limbsValue_complement (xs : List (BitVec 32)) :
    limbsValue (xs.map (~~~ ·)) = 2^(32 * xs.length) - 1 - limbsValue xs := by
  induction xs with
  | nil => simp [limbsValue]
  | cons x xs ih =>
    have hx := x.isLt
    have hlt := limbsValue_lt xs
    rw [List.map_cons, limbsValue, limbsValue, ih, BitVec.toNat_not, List.length_cons, Nat.mul_succ,
      Nat.pow_add]
    generalize 2^(32 * xs.length) = M at *
    have : 2^32 * (limbsValue xs + 1) ≤ 2^32 * M := Nat.mul_le_mul_left _ hlt
    omega

theorem value_neg {WIDTH : Nat} (a : BaseUint WIDTH) :
    a.neg.value = (2^(32 * WIDTH) - a.value) % 2^(32 * WIDTH) := by
  have hlt := value_lt a
  simp only [BaseUint.neg, BaseUint.increment, BaseUint.complement, BaseUint.value,
    limbsValue_incrementLoop, limbsValue_complement, List.length_map, a.length_pn] at hlt ⊢
  congr 1
  have : 1 ≤ 2^(32 * WIDTH) := Nat.one_le_two_pow
  omega

theorem limbsValue_injective {xs ys : List (BitVec 32)} (hl : xs.length = ys.length)
    (hv : limbsValue xs = limbsValue ys) : xs = ys := by
  induction xs generalizing ys with
  | nil => exact (List.eq_nil_of_length_eq_zero hl.symm).symm
  | cons x xs ih =>
    cases ys with
    | nil => simp at hl
    | cons y ys =>
      have hx := x.isLt
      have hy := y.isLt
      simp only [limbsValue] at hv
      have hxy : x = y := BitVec.eq_of_toNat_eq (by omega)
      have htail : limbsValue xs = limbsValue ys := by omega
      rw [hxy, ih (by simpa using hl) htail]

theorem BaseUint.eq_of_value_eq {WIDTH : Nat} {a b : BaseUint WIDTH} (h : a.value = b.value) :
    a = b :=
  BaseUint.ext (limbsValue_injective (a.length_pn.trans b.length_pn.symm) h)

theorem value_zero (WIDTH : Nat) : (BaseUint.zero WIDTH).value = 0 :=
  limbsValue_replicate_zero WIDTH

theorem cast_add_sub_mod (a b P : Nat) (hb : b ≤ P) :
    (((a + (P - b) % P) % P : Nat) : Int) = ((a : Int) - b) % P := by
  rw [Int.ofNat_emod, Nat.cast_add, Int.ofNat_emod, Int.add_emod_emod, Int.ofNat_sub hb,
    show (a : Int) + (P - b) = a - b + P by ring, Int.add_emod_self]

theorem value_sub {WIDTH : Nat} (a b : BaseUint WIDTH) :
    ((a.sub b).value : Int) = ((a.value : Int) - b.value) % 2^(32 * WIDTH) := by
  rw [BaseUint.sub, value_add, value_neg, cast_add_sub_mod _ _ _ (value_lt b).le]
  push_cast; rfl

theorem value_subUInt64 {WIDTH : Nat} (a : BaseUint (WIDTH + 2)) (b64 : BitVec 64) :
    ((a.subUInt64 b64).value : Int) = ((a.value : Int) - b64.toNat) % 2^(32 * (WIDTH + 2)) := by
  have hb := (value_lt (BaseUint.ofUInt64 b64 : BaseUint (WIDTH + 2))).le
  rw [value_ofUInt64] at hb
  rw [BaseUint.subUInt64, value_add, value_neg, value_ofUInt64, cast_add_sub_mod _ _ _ hb]
  push_cast; rfl

theorem add_neg_self {WIDTH : Nat} (a : BaseUint WIDTH) : a.add a.neg = BaseUint.zero WIDTH := by
  apply BaseUint.eq_of_value_eq
  rw [value_add, value_neg, value_zero, Nat.add_mod_mod, Nat.add_sub_cancel' (value_lt a).le,
    Nat.mod_self]

theorem sub_add_cancel {WIDTH : Nat} (a b : BaseUint WIDTH) : (a.sub b).add b = a := by
  apply BaseUint.eq_of_value_eq
  rw [value_add, BaseUint.sub, value_add, value_neg, Nat.mod_add_mod, Nat.add_right_comm,
    Nat.add_mod_mod, Nat.add_assoc, Nat.add_sub_cancel' (value_lt b).le, Nat.add_mod_right,
    Nat.mod_eq_of_lt (value_lt a)]

/-- Negation and subtraction on `arith_uint256` are two's complement modulo `2^256`. -/
theorem neg_sub_twos_complement (a b : ArithUint256) (b64 : BitVec 64) :
    b.neg.value = (2^256 - b.value) % 2^256 ∧
    ((a.sub b).value : Int) = ((a.value : Int) - b.value) % 2^256 ∧
    ((a.subUInt64 b64).value : Int) = ((a.value : Int) - b64.toNat) % 2^256 ∧
    a.add a.neg = BaseUint.zero 8 ∧ (a.sub b).add b = a :=
  ⟨value_neg b, value_sub a b, value_subUInt64 a b64, add_neg_self a, sub_add_cancel a b⟩

/-- `operator++` stops at the first limb that is not all ones, or after the last limb. -/
theorem incrementLoop_exit (xs : List (BitVec 32)) :
    (incrementLoop xs).2 = xs.findIdx (· != 0xFFFFFFFF) := by
  induction xs with
  | nil => rfl
  | cons x xs ih =>
    have hw : x + 1 = 0 ↔ x = 0xFFFFFFFF := by bv_omega
    simp only [incrementLoop, List.findIdx_cons]
    by_cases h : x = 0xFFFFFFFF
    · rw [if_pos (hw.2 h)]; simp [h, ih]
    · rw [if_neg (mt hw.1 h), bne_iff_ne.2 h]; rfl

example : (incrementLoop [0xFFFFFFFF, 0xFFFFFFFF, 5, 0]).2 = 2 := by decide

theorem sub_one_eq_allOnes_iff (x : BitVec 32) : x - 1 = 0xffffffff ↔ x = 0 := by bv_omega

theorem decrementLoop_exit (xs : List (BitVec 32)) :
    (decrementLoop xs).2 = xs.findIdx (· != 0) := by
  induction xs with
  | nil => rfl
  | cons x xs ih =>
    have hw := sub_one_eq_allOnes_iff x
    simp only [decrementLoop, List.findIdx_cons]
    by_cases h : x = 0
    · rw [if_pos (hw.2 h)]; simp [h, ih]
    · rw [if_neg (mt hw.1 h), bne_iff_ne.2 h]; rfl

theorem decrementLoop_eq (xs : List (BitVec 32)) :
    decrementLoop xs = ((incrementLoop (xs.map (~~~ ·))).1.map (~~~ ·),
      (incrementLoop (xs.map (~~~ ·))).2) := by
  induction xs with
  | nil => rfl
  | cons x xs ih =>
    have hw : x - 1 = 0xffffffff ↔ ~~~x + 1 = 0 := by
      show _ ↔ ~~~x + 1#32 = 0#32
      rw [sub_one_eq_allOnes_iff, ← BitVec.neg_eq_not_add, BitVec.neg_eq_zero_iff]; rfl
    have hx : ~~~(~~~x + 1) = x - 1 := by
      show ~~~(~~~x + 1#32) = x - 1#32
      rw [← BitVec.neg_eq_not_add, BitVec.not_neg, BitVec.sub_toAdd]
    simp only [decrementLoop, incrementLoop, List.map_cons]
    by_cases h : x - 1 = 0xffffffff
    · rw [if_pos h, if_pos (hw.1 h), ih]
      simp only [List.map_cons, hx]
    · rw [if_neg h, if_neg (mt hw.2 h)]
      simp only [List.map_cons, List.map_map, hx, Function.comp_def, BitVec.not_not,
        List.map_id']

/-- The decrement loop subtracts one modulo `2^(32 * WIDTH)`. -/
theorem limbsValue_decrementLoop (xs : List (BitVec 32)) :
    limbsValue (decrementLoop xs).1 =
      (limbsValue xs + (2^(32 * xs.length) - 1)) % 2^(32 * xs.length) := by
  have hlt := limbsValue_lt xs
  rw [decrementLoop_eq, limbsValue_complement, length_incrementLoop, limbsValue_incrementLoop,
    limbsValue_complement, List.length_map]
  generalize 2^(32 * xs.length) = M at *
  generalize limbsValue xs = v at *
  rcases Nat.eq_zero_or_pos v with rfl | hv
  · rw [Nat.sub_zero, Nat.sub_add_cancel (by omega), Nat.mod_self, Nat.zero_add,
      Nat.mod_eq_of_lt (by omega), Nat.sub_zero]
  · rw [Nat.mod_eq_of_lt (by omega : M - 1 - v + 1 < M), show v + (M - 1) = v - 1 + M by omega,
      Nat.add_mod_right, Nat.mod_eq_of_lt (by omega)]
    omega

theorem limbsValue_eq_max_iff (xs : List (BitVec 32)) :
    limbsValue xs = 2^(32 * xs.length) - 1 ↔ ∀ x ∈ xs, x = 0xFFFFFFFF := by
  have hlt := limbsValue_lt xs
  have hc := limbsValue_complement xs
  rw [show limbsValue xs = 2^(32 * xs.length) - 1 ↔ limbsValue (xs.map (~~~ ·)) = 0 by omega,
    limbsValue_eq_zero_iff, List.forall_mem_map]
  exact forall₂_congr fun x _ => by bv_omega

theorem incrementLoop_exit_eq_length_iff (xs : List (BitVec 32)) :
    (incrementLoop xs).2 = xs.length ↔ limbsValue xs = 2^(32 * xs.length) - 1 := by
  simp only [incrementLoop_exit, List.findIdx_eq_length, bne_eq_false_iff_eq,
    limbsValue_eq_max_iff]

theorem decrementLoop_exit_eq_length_iff (xs : List (BitVec 32)) :
    (decrementLoop xs).2 = xs.length ↔ limbsValue xs = 0 := by
  simp only [decrementLoop_exit, List.findIdx_eq_length, bne_eq_false_iff_eq,
    limbsValue_eq_zero_iff]

theorem value_increment {WIDTH : Nat} (a : BaseUint WIDTH) :
    a.increment.value = (a.value + 1) % 2^(32 * WIDTH) := by
  rw [BaseUint.value, BaseUint.increment, limbsValue_incrementLoop, a.length_pn]; rfl

theorem value_decrement {WIDTH : Nat} (a : BaseUint WIDTH) :
    a.decrement.value = (a.value + (2^(32 * WIDTH) - 1)) % 2^(32 * WIDTH) := by
  rw [BaseUint.value, BaseUint.decrement, limbsValue_decrementLoop, a.length_pn]; rfl

theorem cast_value_decrement {WIDTH : Nat} (a : BaseUint WIDTH) :
    (a.decrement.value : Int) = ((a.value : Int) - 1) % 2^(32 * WIDTH) := by
  have hM : 2^(32 * WIDTH) - 1 < 2^(32 * WIDTH) := Nat.sub_lt (Nat.two_pow_pos _) Nat.one_pos
  rw [value_decrement, ← Nat.mod_eq_of_lt hM, cast_add_sub_mod _ _ _ Nat.one_le_two_pow]
  push_cast; rfl

theorem decrement_increment {WIDTH : Nat} (a : BaseUint WIDTH) : a.increment.decrement = a := by
  apply BaseUint.eq_of_value_eq
  have : 1 ≤ 2^(32 * WIDTH) := Nat.one_le_two_pow
  rw [value_decrement, value_increment, Nat.mod_add_mod, Nat.add_assoc, Nat.add_sub_cancel' this,
    Nat.add_mod_right, Nat.mod_eq_of_lt (value_lt a)]

theorem increment_decrement {WIDTH : Nat} (a : BaseUint WIDTH) : a.decrement.increment = a := by
  apply BaseUint.eq_of_value_eq
  have : 1 ≤ 2^(32 * WIDTH) := Nat.one_le_two_pow
  rw [value_increment, value_decrement, Nat.mod_add_mod, Nat.add_assoc, Nat.sub_add_cancel this,
    Nat.add_mod_right, Nat.mod_eq_of_lt (value_lt a)]

/-- Prefix `++` and `--` on `arith_uint256` add and subtract one modulo `2^256`, and their loops
stop at the first limb that does not wrap; the postfix forms return the old value. -/
theorem increment_decrement_spec (a : ArithUint256) :
    a.increment.value = (a.value + 1) % 2^256 ∧
    (a.decrement.value : Int) = ((a.value : Int) - 1) % 2^256 ∧
    (incrementLoop a.pn).2 = a.pn.findIdx (· != 0xFFFFFFFF) ∧
    (decrementLoop a.pn).2 = a.pn.findIdx (· != 0) ∧
    ((incrementLoop a.pn).2 = 8 ↔ a.value = 2^256 - 1) ∧
    ((decrementLoop a.pn).2 = 8 ↔ a.value = 0) ∧
    a.postIncrement = (a, a.increment) ∧ a.postDecrement = (a, a.decrement) ∧
    a.increment.decrement = a ∧ a.decrement.increment = a := by
  have hinc := incrementLoop_exit_eq_length_iff a.pn
  have hdec := decrementLoop_exit_eq_length_iff a.pn
  rw [a.length_pn] at hinc hdec
  exact ⟨value_increment a, cast_value_decrement a, incrementLoop_exit a.pn,
    decrementLoop_exit a.pn, hinc, hdec, rfl, rfl, decrement_increment a, increment_decrement a⟩

/-- The carry loops of `++` and `--` leave the limbs that `+= 1` and `-= 1` leave. -/
theorem increment_eq_addUInt64_one {WIDTH : Nat} (a : BaseUint (WIDTH + 2)) :
    a.increment = a.addUInt64 1 ∧ a.decrement = a.subUInt64 1 := by
  refine ⟨BaseUint.eq_of_value_eq ?_, BaseUint.eq_of_value_eq (Int.ofNat_inj.1 ?_)⟩
  · rw [value_increment, BaseUint.addUInt64, value_add, value_ofUInt64]; rfl
  · rw [cast_value_decrement, value_subUInt64]; rfl

end PocCore.Arithmetic
