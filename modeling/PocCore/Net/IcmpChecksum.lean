import PocCore.Machine.Bytes
import Mathlib.Tactic.Ring

namespace PocCore.Net

/-- `icmp_header`: the eight bytes `rep_` of an ICMP header as they go on the wire. -/
structure IcmpHeader where
  rep : Fin 8 → BitVec 8

namespace IcmpHeader

/-- `decode(a, b)`: the big-endian 16-bit field in bytes `a` and `b`. -/
def decode (h : IcmpHeader) (a b : Fin 8) : BitVec 16 :=
  BitVec.ofNat 16 (((h.rep a).toNat <<< 8) + (h.rep b).toNat)

/-- `encode(a, b, n)`: `rep_[a] = n >> 8`, `rep_[b] = n & 0xFF`. -/
def encode (h : IcmpHeader) (a b : Fin 8) (n : BitVec 16) : IcmpHeader :=
  ⟨Function.update (Function.update h.rep a ((n >>> 8).setWidth 8)) b ((n &&& 0xFF).setWidth 8)⟩

def type (h : IcmpHeader) : BitVec 8 := h.rep 0

def code (h : IcmpHeader) : BitVec 8 := h.rep 1

def checksum (h : IcmpHeader) : BitVec 16 := h.decode 2 3

def identifier (h : IcmpHeader) : BitVec 16 := h.decode 4 5

def sequenceNumber (h : IcmpHeader) : BitVec 16 := h.decode 6 7

def setType (h : IcmpHeader) (n : BitVec 8) : IcmpHeader := ⟨Function.update h.rep 0 n⟩

def setCode (h : IcmpHeader) (n : BitVec 8) : IcmpHeader := ⟨Function.update h.rep 1 n⟩

def setChecksum (h : IcmpHeader) (n : BitVec 16) : IcmpHeader := h.encode 2 3 n

def setIdentifier (h : IcmpHeader) (n : BitVec 16) : IcmpHeader := h.encode 4 5 n

def setSequenceNumber (h : IcmpHeader) (n : BitVec 16) : IcmpHeader := h.encode 6 7 n

/-- `operator<<`: the eight bytes written to the stream. -/
def toBytes (h : IcmpHeader) : List (BitVec 8) := List.ofFn h.rep

/-- `operator>>`: the header in the first eight bytes of the stream, and what follows it. -/
def read (bs : List (BitVec 8)) : Option (IcmpHeader × List (BitVec 8)) :=
  if 8 ≤ bs.length then some (⟨fun i => bs.getD i 0⟩, bs.drop 8) else none

theorem decode_encode (h : IcmpHeader) {a b : Fin 8} (hab : a ≠ b) (n : BitVec 16) :
    (h.encode a b n).decode a b = n := by
  have hn := n.isLt
  apply BitVec.eq_of_toNat_eq
  simp only [decode, encode, Function.update_same, Function.update_noteq hab, BitVec.toNat_ofNat,
    BitVec.toNat_setWidth, BitVec.toNat_ushiftRight, BitVec.toNat_and, Nat.shiftLeft_eq,
    Nat.shiftRight_eq_div_pow]
  rw [show (0xFF : BitVec 16).toNat = 2^8 - 1 from rfl, Nat.and_pow_two_sub_one_eq_mod]
  omega

theorem encode_rep_of_ne (h : IcmpHeader) {a b i : Fin 8} (ha : i ≠ a) (hb : i ≠ b)
    (n : BitVec 16) : (h.encode a b n).rep i = h.rep i := by
  simp only [encode, Function.update_noteq ha, Function.update_noteq hb]

@[simp] theorem length_toBytes (h : IcmpHeader) : h.toBytes.length = 8 := List.length_ofFn _

theorem read_eq_some_iff {bs rest : List (BitVec 8)} {h : IcmpHeader} :
    read bs = some (h, rest) ↔ bs = h.toBytes ++ rest := by
  constructor
  · intro hr
    unfold read at hr
    split_ifs at hr with hl
    simp only [Option.some.injEq, Prod.mk.injEq] at hr
    obtain ⟨rfl, rfl⟩ := hr
    conv_lhs => rw [← List.take_append_drop 8 bs]
    congr 1
    apply List.ext_getElem (by rw [List.length_take, length_toBytes]; omega)
    intro i _ h2
    rw [length_toBytes] at h2
    simp only [List.getElem_take, toBytes, List.getElem_ofFn]
    rw [List.getD_eq_getElem?_getD, List.getElem?_eq_getElem (by omega), Option.getD_some]
  · rintro rfl
    rw [read, if_pos (by rw [List.length_append, length_toBytes]; omega),
      List.drop_left' (length_toBytes h)]
    congr
    funext i
    rw [List.getD_eq_getElem?_getD,
      List.getElem?_append_left (by rw [length_toBytes]; exact i.isLt), toBytes,
      List.getElem?_ofFn, List.ofFnNthVal, dif_pos i.isLt]
    rfl

theorem read_toBytes (h : IcmpHeader) (rest : List (BitVec 8)) :
    read (h.toBytes ++ rest) = some (h, rest) :=
  read_eq_some_iff.2 rfl

theorem toNat_decode (h : IcmpHeader) (a b : Fin 8) :
    (h.decode a b).toNat = (h.rep a).toNat * 256 + (h.rep b).toNat := by
  have := (h.rep a).isLt
  have := (h.rep b).isLt
  simp only [decode, BitVec.toNat_ofNat, Nat.shiftLeft_eq]
  omega

@[simp] theorem type_setChecksum (h : IcmpHeader) (n : BitVec 16) :
    (h.setChecksum n).type = h.type :=
  encode_rep_of_ne h (by decide) (by decide) n

@[simp] theorem code_setChecksum (h : IcmpHeader) (n : BitVec 16) :
    (h.setChecksum n).code = h.code :=
  encode_rep_of_ne h (by decide) (by decide) n

@[simp] theorem checksum_setChecksum (h : IcmpHeader) (n : BitVec 16) :
    (h.setChecksum n).checksum = n :=
  decode_encode h (by decide) n

@[simp] theorem identifier_setChecksum (h : IcmpHeader) (n : BitVec 16) :
    (h.setChecksum n).identifier = h.identifier := by
  simp [identifier, decode, setChecksum, encode, Function.update_apply]

@[simp] theorem sequenceNumber_setChecksum (h : IcmpHeader) (n : BitVec 16) :
    (h.setChecksum n).sequenceNumber = h.sequenceNumber := by
  simp [sequenceNumber, decode, setChecksum, encode, Function.update_apply]

theorem decode_update_of_ne (h : IcmpHeader) {i c d : Fin 8} (hc : c ≠ i) (hd : d ≠ i)
    (v : BitVec 8) : (⟨Function.update h.rep i v⟩ : IcmpHeader).decode c d = h.decode c d := by
  simp only [decode, Function.update_noteq hc, Function.update_noteq hd]

theorem decode_encode_of_ne (h : IcmpHeader) {a b c d : Fin 8} (hca : c ≠ a) (hcb : c ≠ b)
    (hda : d ≠ a) (hdb : d ≠ b) (n : BitVec 16) : (h.encode a b n).decode c d = h.decode c d := by
  simp only [decode, encode_rep_of_ne h hca hcb, encode_rep_of_ne h hda hdb]

@[simp] theorem type_setType (h : IcmpHeader) (n : BitVec 8) : (h.setType n).type = n :=
  show Function.update h.rep 0 n 0 = n from Function.update_same _ _ _

@[simp] theorem identifier_setType (h : IcmpHeader) (n : BitVec 8) :
    (h.setType n).identifier = h.identifier :=
  decode_update_of_ne h (by decide) (by decide) n

@[simp] theorem sequenceNumber_setType (h : IcmpHeader) (n : BitVec 8) :
    (h.setType n).sequenceNumber = h.sequenceNumber :=
  decode_update_of_ne h (by decide) (by decide) n

@[simp] theorem type_setCode (h : IcmpHeader) (n : BitVec 8) : (h.setCode n).type = h.type :=
  Function.update_noteq (show (0 : Fin 8) ≠ 1 by decide) n h.rep

@[simp] theorem identifier_setCode (h : IcmpHeader) (n : BitVec 8) :
    (h.setCode n).identifier = h.identifier :=
  decode_update_of_ne h (by decide) (by decide) n

@[simp] theorem sequenceNumber_setCode (h : IcmpHeader) (n : BitVec 8) :
    (h.setCode n).sequenceNumber = h.sequenceNumber :=
  decode_update_of_ne h (by decide) (by decide) n

@[simp] theorem type_setIdentifier (h : IcmpHeader) (n : BitVec 16) :
    (h.setIdentifier n).type = h.type :=
  encode_rep_of_ne h (by decide) (by decide) n

@[simp] theorem identifier_setIdentifier (h : IcmpHeader) (n : BitVec 16) :
    (h.setIdentifier n).identifier = n :=
  decode_encode h (by decide) n

@[simp] theorem sequenceNumber_setIdentifier (h : IcmpHeader) (n : BitVec 16) :
    (h.setIdentifier n).sequenceNumber = h.sequenceNumber :=
  decode_encode_of_ne h (by decide) (by decide) (by decide) (by decide) n

@[simp] theorem type_setSequenceNumber (h : IcmpHeader) (n : BitVec 16) :
    (h.setSequenceNumber n).type = h.type :=
  encode_rep_of_ne h (by decide) (by decide) n

@[simp] theorem identifier_setSequenceNumber (h : IcmpHeader) (n : BitVec 16) :
    (h.setSequenceNumber n).identifier = h.identifier :=
  decode_encode_of_ne h (by decide) (by decide) (by decide) (by decide) n

@[simp] theorem sequenceNumber_setSequenceNumber (h : IcmpHeader) (n : BitVec 16) :
    (h.setSequenceNumber n).sequenceNumber = n :=
  decode_encode h (by decide) n

end IcmpHeader

open IcmpHeader

/-- The `while` loop of `compute_checksum`: each turn adds one or two bytes as a big-endian word. -/
def bodySum : BitVec 32 → List (BitVec 8) → BitVec 32
  | sum, [] => sum
  | sum, [b] => sum + (b.setWidth 32 <<< 8)
  | sum, b :: c :: rest => bodySum (sum + (b.setWidth 32 <<< 8) + c.setWidth 32) rest

/-- `compute_checksum(header, body_begin, body_end)`. -/
def computeChecksum (header : IcmpHeader) (body : List (BitVec 8)) : IcmpHeader :=
  let sum : BitVec 32 := BitVec.ofNat 32 ((header.type.toNat <<< 8) + header.code.toNat +
    header.identifier.toNat + header.sequenceNumber.toNat)
  let sum := bodySum sum body
  let sum := (sum >>> 16) + (sum &&& 0xFFFF)
  let sum := sum + (sum >>> 16)
  header.setChecksum ((~~~sum).setWidth 16)

/-- The 16-bit words of a byte string, big-endian, an odd last byte padded with zero. -/
def words : List (BitVec 8) → List Nat
  | [] => []
  | [b] => [b.toNat * 256]
  | b :: c :: rest => (b.toNat * 256 + c.toNat) :: words rest

/-- One's-complement addition of 16-bit words: a carry out of the top bit is added back in. -/
def onesAdd (a b : Nat) : Nat :=
  if a + b < 65536 then a + b else a + b - 65535

/-- The RFC 1071 sum of a sequence of 16-bit words. -/
def onesComplementSum (ws : List Nat) : Nat := ws.foldl onesAdd 0

/-- The value an end-around-carry sum of words totalling `n` settles on. -/
def endAroundValue (n : Nat) : Nat := if n = 0 then 0 else (n - 1) % 65535 + 1

theorem endAroundValue_of_lt {m : Nat} (hm : m < 65536) : endAroundValue m = m := by
  unfold endAroundValue
  split <;> omega

theorem endAroundValue_add_mul {m : Nat} (hm : 0 < m) (k : Nat) :
    endAroundValue (m + 65535 * k) = endAroundValue m := by
  unfold endAroundValue
  rw [if_neg (by omega), if_neg (by omega), show m + 65535 * k - 1 = m - 1 + 65535 * k by omega,
    Nat.add_mul_mod_self_left]

theorem foldl_onesAdd (ws : List Nat) (hw : ∀ w ∈ ws, w < 65536) (a : Nat) (ha : a < 65536) :
    ws.foldl onesAdd a = endAroundValue (a + ws.sum) := by
  induction ws generalizing a with
  | nil => rw [List.foldl_nil, List.sum_nil, Nat.add_zero, endAroundValue_of_lt ha]
  | cons w ws ih =>
    have hw' := hw w (by simp)
    have hstep : onesAdd a w < 65536 := by unfold onesAdd; split <;> omega
    rw [List.foldl_cons, ih (fun x hx => hw x (by simp [hx])) _ hstep, List.sum_cons, onesAdd]
    split
    · rw [Nat.add_assoc]
    · rw [show a + (w + ws.sum) = a + w - 65535 + ws.sum + 65535 * 1 by omega,
        endAroundValue_add_mul (by omega)]

theorem words_lt : ∀ bs : List (BitVec 8), ∀ w ∈ words bs, w < 65536
  | [] => by simp [words]
  | [b] => by have := b.isLt; simp [words]; omega
  | b :: c :: rest => by
    have := b.isLt; have := c.isLt
    simp only [words, List.mem_cons]
    rintro w (rfl | hw)
    · omega
    · exact words_lt rest w hw

theorem sum_words_le : ∀ bs : List (BitVec 8), (words bs).sum ≤ 65535 * ((bs.length + 1) / 2)
  | [] => by simp [words]
  | [b] => by have := b.isLt; simp [words]; omega
  | b :: c :: rest => by
    have := b.isLt; have := c.isLt; have := sum_words_le rest
    simp only [words, List.sum_cons, List.length_cons]
    omega

theorem toNat_setWidth_shiftLeft_eight (b : BitVec 8) :
    (b.setWidth 32 <<< 8).toNat = b.toNat * 256 := by
  have := b.isLt
  simp only [BitVec.toNat_shiftLeft, BitVec.toNat_setWidth, Nat.shiftLeft_eq]
  omega

theorem bodySum_toNat : ∀ (sum : BitVec 32) (body : List (BitVec 8)),
    sum.toNat + (words body).sum < 2^32 → (bodySum sum body).toNat = sum.toNat + (words body).sum
  | sum, [] => by simp [bodySum, words]
  | sum, [b] => by
    intro h
    simp only [words, List.sum_cons, List.sum_nil] at h
    simp only [bodySum, words, List.sum_cons, List.sum_nil, BitVec.toNat_add,
      toNat_setWidth_shiftLeft_eight]
    omega
  | sum, b :: c :: rest => by
    intro h
    have := c.isLt
    simp only [words, List.sum_cons] at h
    have hstep : (sum + (b.setWidth 32 <<< 8) + c.setWidth 32).toNat =
        sum.toNat + b.toNat * 256 + c.toNat := by
      simp only [BitVec.toNat_add, toNat_setWidth_shiftLeft_eight, BitVec.toNat_setWidth]
      omega
    rw [bodySum, bodySum_toNat _ rest (by omega), hstep, words, List.sum_cons]
    omega

theorem fold_twice_mod (n : Nat) (hn : n < 2^32) :
    (n / 65536 + n % 65536 + (n / 65536 + n % 65536) / 65536) % 65536 = endAroundValue n := by
  have hq : n / 65536 < 65536 := by omega
  have hr : n % 65536 < 65536 := Nat.mod_lt _ (by decide)
  have hn' : n = 65536 * (n / 65536) + n % 65536 := (Nat.div_add_mod n 65536).symm
  generalize n / 65536 = q at *
  generalize n % 65536 = r at *
  subst hn'
  rcases Nat.eq_zero_or_pos (q + r) with h0 | hpos
  · rw [show q = 0 by omega, show r = 0 by omega]
    rfl
  rw [show 65536 * q + r = q + r + 65535 * q by omega, endAroundValue_add_mul hpos]
  rcases Nat.lt_or_ge (q + r) 65536 with h | h
  · rw [Nat.div_eq_of_lt h, Nat.add_zero, Nat.mod_eq_of_lt h, endAroundValue_of_lt h]
  · rw [show q + r = q + r - 65535 + 65535 * 1 by omega, endAroundValue_add_mul (by omega),
      endAroundValue_of_lt (by omega)]
    omega

theorem toNat_foldedComplement (sum : BitVec 32) :
    ((~~~((sum >>> 16) + (sum &&& (0xFFFF : BitVec 32)) +
      ((sum >>> 16) + (sum &&& (0xFFFF : BitVec 32))) >>> 16)).setWidth 16).toNat =
      65535 - endAroundValue sum.toNat := by
  have hs := sum.isLt
  have hq : sum.toNat / 2 ^ 16 < 2 ^ 16 := Nat.div_lt_of_lt_mul hs
  have hr : sum.toNat % 2 ^ 16 < 2 ^ 16 := Nat.mod_lt _ (by decide)
  have hfold : ((sum >>> 16) + (sum &&& 0xFFFF)).toNat = sum.toNat / 65536 + sum.toNat % 65536 := by
    rw [BitVec.toNat_add, BitVec.toNat_ushiftRight, BitVec.toNat_and, Nat.shiftRight_eq_div_pow,
      show (0xFFFF : BitVec 32).toNat = 2^16 - 1 from rfl, Nat.and_pow_two_sub_one_eq_mod,
      Nat.mod_eq_of_lt (by omega)]
  generalize (sum >>> 16) + (sum &&& 0xFFFF) = s1 at hfold ⊢
  have hs2 : (s1 + s1 >>> 16).toNat = s1.toNat + s1.toNat / 65536 := by
    rw [BitVec.toNat_add, BitVec.toNat_ushiftRight, Nat.shiftRight_eq_div_pow,
      Nat.mod_eq_of_lt (by omega)]
  rw [← fold_twice_mod _ hs, ← hfold, ← hs2]
  generalize s1 + s1 >>> 16 = s2
  have := s2.isLt
  simp only [BitVec.toNat_setWidth, BitVec.toNat_not, Nat.reducePow] at this ⊢
  omega

theorem words_toBytes (h : IcmpHeader) (rest : List (BitVec 8)) :
    words (h.toBytes ++ rest) = (h.type.toNat * 256 + h.code.toNat) :: h.checksum.toNat ::
      h.identifier.toNat :: h.sequenceNumber.toNat :: words rest := by
  have hbytes : h.toBytes = [h.rep 0, h.rep 1, h.rep 2, h.rep 3, h.rep 4, h.rep 5, h.rep 6,
      h.rep 7] := by
    simp only [toBytes, List.ofFn_succ, List.ofFn_zero]; rfl
  rw [checksum, identifier, sequenceNumber, toNat_decode, toNat_decode, toNat_decode, hbytes]
  rfl

theorem endAroundValue_add_complement (n : Nat) :
    endAroundValue (n + (65535 - endAroundValue n)) = 65535 := by
  unfold endAroundValue
  split
  · subst_vars; rfl
  · rw [if_neg (by omega), show n + (65535 - ((n - 1) % 65535 + 1)) - 1 =
      65534 + 65535 * ((n - 1) / 65535) by omega, Nat.add_mul_mod_self_left]

@[simp] theorem type_computeChecksum (header : IcmpHeader) (body : List (BitVec 8)) :
    (computeChecksum header body).type = header.type :=
  type_setChecksum _ _

@[simp] theorem code_computeChecksum (header : IcmpHeader) (body : List (BitVec 8)) :
    (computeChecksum header body).code = header.code :=
  code_setChecksum _ _

@[simp] theorem identifier_computeChecksum (header : IcmpHeader) (body : List (BitVec 8)) :
    (computeChecksum header body).identifier = header.identifier :=
  identifier_setChecksum _ _

@[simp] theorem sequenceNumber_computeChecksum (header : IcmpHeader) (body : List (BitVec 8)) :
    (computeChecksum header body).sequenceNumber = header.sequenceNumber :=
  sequenceNumber_setChecksum _ _

theorem setChecksum_setChecksum (h : IcmpHeader) (m n : BitVec 16) :
    (h.setChecksum m).setChecksum n = h.setChecksum n := by
  simp only [setChecksum, encode]
  rw [Function.update_comm (show (3 : Fin 8) ≠ 2 by decide), Function.update_idem,
    Function.update_idem]

theorem computeChecksum_idempotent (header : IcmpHeader) (c : BitVec 16)
    (body : List (BitVec 8)) :
    computeChecksum (header.setChecksum c) body = computeChecksum header body ∧
      computeChecksum (computeChecksum header body) body = computeChecksum header body := by
  have hset : ∀ c, computeChecksum (header.setChecksum c) body = computeChecksum header body :=
    fun c => by
      simp only [computeChecksum, type_setChecksum, code_setChecksum, identifier_setChecksum,
        sequenceNumber_setChecksum, setChecksum_setChecksum]
  exact ⟨hset c, hset _⟩

/-- The checksum `compute_checksum` stores is the complement of the end-around-carry value of the
other fields and the body's words. -/
theorem checksum_computeChecksum (header : IcmpHeader) (body : List (BitVec 8))
    (hlen : body.length ≤ 65535) :
    (computeChecksum header body).checksum.toNat = 65535 - endAroundValue
      (header.type.toNat * 256 + header.code.toNat + header.identifier.toNat +
        header.sequenceNumber.toNat + (words body).sum) := by
  have := header.type.isLt; have := header.code.isLt
  have := header.identifier.isLt; have := header.sequenceNumber.isLt
  have hsum := sum_words_le body
  have hstart : (BitVec.ofNat 32 ((header.type.toNat <<< 8) + header.code.toNat +
      header.identifier.toNat + header.sequenceNumber.toNat)).toNat = header.type.toNat * 256 +
      header.code.toNat + header.identifier.toNat + header.sequenceNumber.toNat := by
    rw [BitVec.toNat_ofNat, Nat.shiftLeft_eq]; omega
  have hloop := bodySum_toNat _ body (by rw [hstart]; omega)
  rw [hstart] at hloop
  simp only [computeChecksum, checksum_setChecksum]
  rw [toNat_foldedComplement, hloop]

/-- The ICMP checksum verifies: after `compute_checksum` the RFC 1071 sum of header and body is
`0xFFFF`. -/
theorem computeChecksum_verifies (header : IcmpHeader) (body : List (BitVec 8))
    (hlen : body.length ≤ 65535) :
    onesComplementSum (words ((computeChecksum header body).toBytes ++ body)) = 0xFFFF := by
  have := header.type.isLt; have := header.code.isLt
  have := header.identifier.isLt; have := header.sequenceNumber.isLt
  have := (computeChecksum header body).checksum.isLt
  have hwords : ∀ w ∈ (header.type.toNat * 256 + header.code.toNat) ::
      (computeChecksum header body).checksum.toNat :: header.identifier.toNat ::
        header.sequenceNumber.toNat :: words body, w < 65536 := by
    simp only [List.mem_cons]
    rintro w (rfl | rfl | rfl | rfl | hw)
    any_goals omega
    exact words_lt body w hw
  rw [words_toBytes, type_computeChecksum, code_computeChecksum, identifier_computeChecksum,
    sequenceNumber_computeChecksum, onesComplementSum, foldl_onesAdd _ hwords 0 (by decide),
    ← endAroundValue_add_complement (header.type.toNat * 256 + header.code.toNat +
      header.identifier.toNat + header.sequenceNumber.toNat + (words body).sum),
    ← checksum_computeChecksum header body hlen]
  simp only [List.sum_cons]
  congr 1
  omega

theorem computeChecksum_verifies_odd_body :
    [1#8, 2, 3].length ≤ 65535 ∧
    onesComplementSum (words ((computeChecksum ⟨fun _ => 8⟩ [1, 2, 3]).toBytes ++ [1, 2, 3])) =
      0xFFFF :=
  ⟨by decide, computeChecksum_verifies _ _ (by decide)⟩

end PocCore.Net
