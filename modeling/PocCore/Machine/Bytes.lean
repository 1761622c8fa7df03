import Mathlib.Data.List.OfFn
import Mathlib.Algebra.BigOperators.Group.List

namespace PocCore

/-- How a call ends when it does not return: a failed `assert`, a division by zero, or an access
outside an allocated buffer. -/
inductive Fault where
  | assertion (expr : String)
  | divisionByZero
  | outOfBounds
  deriving DecidableEq, Repr

/-- `memcpy(buf + off, src, size)` into an allocated byte buffer; writing past its end faults. -/
def memcpy (buf : List (BitVec 8)) (off : Nat) (src : List (BitVec 8)) :
    Except Fault (List (BitVec 8)) :=
  if off + src.length ≤ buf.length then .ok (buf.take off ++ src ++ buf.drop (off + src.length))
  else .error .outOfBounds

/-- The `len` bytes at `buf + off`, as `Write(buf + off, len)` hands them to a hasher. -/
def readBytes (buf : List (BitVec 8)) (off len : Nat) : Except Fault (List (BitVec 8)) :=
  if off + len ≤ buf.length then .ok ((buf.drop off).take len) else .error .outOfBounds

/-- `buf[i]` for a byte array `buf`. -/
def readByte (buf : List (BitVec 8)) (i : Nat) : Except Fault (BitVec 8) :=
  match buf[i]? with
  | some b => .ok b
  | none => .error .outOfBounds

@[simp] theorem pure_eq_ok {ε α : Type} (a : α) : (pure a : Except ε α) = .ok a :=
  rfl

@[simp] theorem ok_bind {ε α β : Type} (a : α) (f : α → Except ε β) : (Except.ok a >>= f) = f a :=
  rfl

@[simp] theorem error_bind {ε α β : Type} (e : ε) (f : α → Except ε β) :
    (Except.error e >>= f) = .error e :=
  rfl

theorem mapM_of_ok {ε α β : Type} {l : List α} {f : α → Except ε β} {g : α → β}
    (h : ∀ x ∈ l, f x = .ok (g x)) : l.mapM f = .ok (l.map g) := by
  induction l with
  | nil => rfl
  | cons x l ih =>
    rw [List.mapM_cons, h x (by simp), ok_bind, ih fun y hy => h y (by simp [hy])]
    rfl

theorem memcpy_of_le {buf src : List (BitVec 8)} {off : Nat} (h : off + src.length ≤ buf.length) :
    memcpy buf off src = .ok (buf.take off ++ src ++ buf.drop (off + src.length)) := by
  simp [memcpy, h]

theorem readBytes_of_le {buf : List (BitVec 8)} {off len : Nat} (h : off + len ≤ buf.length) :
    readBytes buf off len = .ok ((buf.drop off).take len) := by
  simp [readBytes, h]

theorem readByte_of_lt {buf : List (BitVec 8)} {i : Nat} (h : i < buf.length) :
    readByte buf i = .ok buf[i] := by
  simp [readByte, List.getElem?_eq_getElem h]

theorem length_memcpy {buf src out : List (BitVec 8)} {off : Nat}
    (h : memcpy buf off src = .ok out) : out.length = buf.length := by
  unfold memcpy at h
  split at h
  · cases h
    simp only [List.length_append, List.length_take, List.length_drop]
    omega
  · cases h

theorem memcpy_before {pre src rest : List (BitVec 8)} {off : Nat}
    (hl : off + src.length = pre.length) :
    memcpy (pre ++ rest) off src = .ok (pre.take off ++ src ++ rest) := by
  rw [memcpy_of_le (by simp only [List.length_append]; omega), hl,
    List.take_append_of_le_length (by omega), List.drop_left' rfl]

theorem readBytes_after {pre rest : List (BitVec 8)} {len : Nat} (hl : len ≤ rest.length) :
    readBytes (pre ++ rest) pre.length len = .ok (rest.take len) := by
  rw [readBytes_of_le (by simp only [List.length_append]; omega), List.drop_left' rfl]

theorem memcpy_last {pre src old : List (BitVec 8)} {off : Nat} (ho : pre.length = off)
    (hl : src.length = old.length) : memcpy (pre ++ old) off src = .ok (pre ++ src) := by
  subst ho
  rw [memcpy_of_le (by simp only [List.length_append]; omega), List.take_left' rfl,
    List.drop_eq_nil_of_le (by simp only [List.length_append]; omega), List.append_nil]

/-- The integer whose little-endian bytes are `bs`. -/
def leValue : List (BitVec 8) → Nat
  | [] => 0
  | b :: bs => b.toNat + 256 * leValue bs

/-- The bytes of a `uint64_t` in memory on the little-endian hosts the source runs on. -/
def nativeBytes (x : BitVec 64) : List (BitVec 8) :=
  (List.range 8).map fun k => x.extractLsb' (8 * k) 8

@[simp] theorem length_nativeBytes (x : BitVec 64) : (nativeBytes x).length = 8 := by
  simp [nativeBytes]

@[simp] theorem getElem_nativeBytes (x : BitVec 64) (k : Nat) (h : k < (nativeBytes x).length) :
    (nativeBytes x)[k] = x.extractLsb' (8 * k) 8 := by
  simp [nativeBytes]

theorem leValue_lt (bs : List (BitVec 8)) : leValue bs < 256 ^ bs.length := by
  induction bs with
  | nil => simp [leValue]
  | cons b bs ih =>
    have hb := b.isLt
    rw [leValue, List.length_cons, Nat.pow_succ']
    omega

theorem leValue_div_mod (bs : List (BitVec 8)) (k : Nat) :
    leValue bs / 256 ^ k % 256 = (bs.getD k 0).toNat := by
  induction bs generalizing k with
  | nil => simp [leValue]
  | cons b bs ih =>
    have hb := b.isLt
    cases k with
    | zero => simp only [leValue, Nat.pow_zero, Nat.div_one, List.getD_cons_zero]; omega
    | succ k =>
      rw [leValue, Nat.pow_succ', ← Nat.div_div_eq_div_mul, Nat.add_mul_div_left _ _ (by decide),
        Nat.div_eq_of_lt hb, Nat.zero_add, ih, List.getD_cons_succ]

/-- `htobe64` on a little-endian host: the value whose native bytes are those of `x` reversed. -/
def htobe64 (x : BitVec 64) : BitVec 64 :=
  BitVec.ofNat 64 (leValue (nativeBytes x).reverse)

/-- `btc_uint256`: an opaque blob of 32 bytes. -/
structure BtcUint256 where
  data : List (BitVec 8)
  length_data : data.length = 32

/-- `GetUint64(pos)`: the eight bytes at `data + 8 * pos` read least significant first. -/
def getUint64 (b : BtcUint256) (pos : Fin 4) : BitVec 64 :=
  let ptr (k : Nat) : BitVec 64 := (b.data.getD (8 * pos + k) 0).setWidth 64
  ptr 0 ||| ptr 1 <<< 8 ||| ptr 2 <<< 16 ||| ptr 3 <<< 24 |||
    ptr 4 <<< 32 ||| ptr 5 <<< 40 ||| ptr 6 <<< 48 ||| ptr 7 <<< 56

theorem lor_shiftLeft_eq_add {a b n : Nat} (ha : a < 2^n) : a ||| b <<< n = a + 2^n * b := by
  rw [Nat.or_comm, Nat.shiftLeft_eq, Nat.mul_comm, ← Nat.mul_add_lt_is_or ha, Nat.add_comm]

theorem toNat_setWidth_shiftLeft (y : BitVec 8) {n : Nat} (hn : n ≤ 56) :
    (y.setWidth 64 <<< n).toNat = y.toNat <<< n := by
  have hy := y.isLt
  have : y.toNat * 2^n < 2^64 :=
    calc y.toNat * 2^n < 2^8 * 2^n := Nat.mul_lt_mul_of_pos_right hy (Nat.two_pow_pos n)
      _ = 2^(8+n) := (Nat.pow_add 2 8 n).symm
      _ ≤ 2^64 := Nat.pow_le_pow_right (by decide) (by omega)
  rw [BitVec.toNat_shiftLeft, BitVec.toNat_setWidth,
    Nat.mod_eq_of_lt (show y.toNat < 2^64 by omega),
    Nat.shiftLeft_eq, Nat.mod_eq_of_lt this]

theorem getUint64_eq_leValue (b : BtcUint256) (pos : Fin 4) :
    getUint64 b pos = BitVec.ofNat 64 (leValue ((b.data.drop (8 * pos)).take 8)) := by
  have hpos := pos.isLt
  have hl := b.length_data
  have hbytes : (b.data.drop (8 * pos)).take 8 =
      (List.range 8).map fun k => b.data.getD (8 * pos + k) 0 := by
    apply List.ext_getElem
    · simp only [List.length_take, List.length_drop, List.length_map, List.length_range]; omega
    · intro k h1 h2
      simp only [List.getElem_take, List.getElem_drop, List.getElem_map, List.getElem_range]
      simp only [List.length_take, List.length_drop] at h1
      rw [List.getD_eq_getElem?_getD, List.getElem?_eq_getElem (by omega), Option.getD_some]
  rw [hbytes, show (List.range 8).map (fun k => b.data.getD (8 * pos + k) 0) = _ from rfl]
  unfold getUint64
  generalize b.data.getD (8 * pos + 0) 0 = y0, b.data.getD (8 * pos + 1) 0 = y1,
    b.data.getD (8 * pos + 2) 0 = y2, b.data.getD (8 * pos + 3) 0 = y3,
    b.data.getD (8 * pos + 4) 0 = y4, b.data.getD (8 * pos + 5) 0 = y5,
    b.data.getD (8 * pos + 6) 0 = y6, b.data.getD (8 * pos + 7) 0 = y7
  have := y0.isLt; have := y1.isLt; have := y2.isLt; have := y3.isLt
  have := y4.isLt; have := y5.isLt; have := y6.isLt; have := y7.isLt
  apply BitVec.eq_of_toNat_eq
  simp (disch := omega) only [leValue, BitVec.toNat_or, BitVec.toNat_ofNat, BitVec.toNat_setWidth,
    toNat_setWidth_shiftLeft, lor_shiftLeft_eq_add, Nat.mod_eq_of_lt]
  omega

/-- The big-endian bytes of a 64-bit integer, most significant first. -/
def be64 (x : BitVec 64) : List (BitVec 8) :=
  (List.range 8).map fun k => x.extractLsb' (8 * (7 - k)) 8

/-- On a little-endian host `htobe64` lays its argument out most significant byte first. -/
theorem nativeBytes_htobe64 (x : BitVec 64) : nativeBytes (htobe64 x) = be64 x := by
  have hlt : leValue (nativeBytes x).reverse < 2^64 := by
    simpa using leValue_lt (nativeBytes x).reverse
  apply List.ext_getElem (by simp [be64])
  intro k h1 _
  simp only [length_nativeBytes] at h1
  apply BitVec.eq_of_toNat_eq
  rw [getElem_nativeBytes, BitVec.extractLsb'_toNat, htobe64, BitVec.toNat_ofNat,
    Nat.mod_eq_of_lt hlt, Nat.shiftRight_eq_div_pow, Nat.pow_mul, leValue_div_mod,
    List.getD_eq_getElem?_getD, List.getElem?_reverse (by simpa using h1),
    List.getElem?_eq_getElem (by simp; omega), Option.getD_some]
  simp [be64]

end PocCore
