import PocCore.Net.NetAddress
import Mathlib.Data.List.Basic
import Mathlib.Tactic.Ring

namespace PocCore.Net

/-- The value of a digit `0` to `9` or `a` to `f`. -/
def digitValue (c : Char) : Nat := if c.toNat < 58 then c.toNat - 48 else c.toNat - 87

def digitsValue (base : Nat) (cs : List Char) : Nat :=
  cs.foldl (fun acc c => acc * base + digitValue c) 0

theorem digitValue_digitChar {k : Nat} (hk : k < 16) : digitValue (Nat.digitChar k) = k := by
  have : ∀ k : Fin 16, digitValue (Nat.digitChar k) = k := by decide
  exact this ⟨k, hk⟩

theorem digitChar_ne {k : Nat} (hk : k < 16) :
    Nat.digitChar k ≠ '.' ∧ Nat.digitChar k ≠ ':' := by
  have : ∀ k : Fin 16, Nat.digitChar k ≠ '.' ∧ Nat.digitChar k ≠ ':' := by decide
  exact this ⟨k, hk⟩

theorem foldl_digits (base : Nat) : ∀ (cs : List Char) (acc : Nat),
    cs.foldl (fun acc c => acc * base + digitValue c) acc =
      acc * base ^ cs.length + digitsValue base cs
  | [], acc => by simp [digitsValue]
  | c :: cs, acc => by
    rw [digitsValue, List.foldl_cons, List.foldl_cons, foldl_digits base cs,
      foldl_digits base cs (0 * base + digitValue c), List.length_cons, pow_succ]
    ring

theorem digitsValue_cons (base : Nat) (c : Char) (cs : List Char) :
    digitsValue base (c :: cs) = digitValue c * base ^ cs.length + digitsValue base cs := by
  rw [digitsValue, List.foldl_cons, foldl_digits, Nat.zero_mul, Nat.zero_add]

section Digits

variable {base : Nat} (h2 : 2 ≤ base) (h16 : base ≤ 16)
include h2 h16

theorem digitsValue_toDigitsCore : ∀ (fuel n : Nat) (ds : List Char), n < fuel →
    digitsValue base (Nat.toDigitsCore base fuel n ds) = n * base ^ ds.length + digitsValue base ds
  | 0, _, _, h => absurd h (Nat.not_lt_zero _)
  | fuel + 1, n, ds, h => by
    have hm : n % base < 16 := (Nat.mod_lt n (by omega)).trans_le h16
    show digitsValue base (if n / base = 0 then Nat.digitChar (n % base) :: ds
      else Nat.toDigitsCore base fuel (n / base) (Nat.digitChar (n % base) :: ds)) = _
    split_ifs with hq
    · rw [digitsValue_cons, digitValue_digitChar hm,
        Nat.mod_eq_of_lt ((Nat.div_eq_zero_iff (by omega)).1 hq)]
    · have hn : 0 < n := Nat.pos_of_ne_zero fun (h0 : n = 0) => hq (by rw [h0, Nat.zero_div])
      have hlt : n / base < fuel := by
        have := Nat.div_lt_self hn (show 1 < base by omega)
        omega
      rw [digitsValue_toDigitsCore fuel _ _ hlt, digitsValue_cons, digitValue_digitChar hm,
        List.length_cons, pow_succ]
      conv_rhs => rw [← Nat.div_add_mod n base]
      ring

theorem digitsValue_toDigits (n : Nat) : digitsValue base (Nat.toDigits base n) = n := by
  simpa using digitsValue_toDigitsCore h2 h16 (n + 1) n [] (Nat.lt_succ_self n)

theorem mem_toDigitsCore : ∀ (fuel n : Nat) (ds : List Char) (c : Char),
    c ∈ Nat.toDigitsCore base fuel n ds → c ∈ ds ∨ ∃ k < 16, c = Nat.digitChar k
  | 0, _, _, _, h => .inl h
  | fuel + 1, n, ds, c, h => by
    have hm : n % base < 16 := (Nat.mod_lt n (by omega)).trans_le h16
    change c ∈ (if n / base = 0 then Nat.digitChar (n % base) :: ds
      else Nat.toDigitsCore base fuel (n / base) (Nat.digitChar (n % base) :: ds)) at h
    split_ifs at h
    · rcases List.mem_cons.1 h with rfl | h
      exacts [.inr ⟨_, hm, rfl⟩, .inl h]
    · rcases mem_toDigitsCore fuel _ _ c h with h | h
      · rcases List.mem_cons.1 h with rfl | h
        exacts [.inr ⟨_, hm, rfl⟩, .inl h]
      · exact .inr h

theorem separator_not_mem_toDigits (n : Nat) :
    '.' ∉ Nat.toDigits base n ∧ ':' ∉ Nat.toDigits base n := by
  have hd : ∀ c ∈ Nat.toDigits base n, c ≠ '.' ∧ c ≠ ':' := fun c h => by
    rcases mem_toDigitsCore h2 h16 _ _ _ c h with h | ⟨k, hk, rfl⟩
    exacts [absurd h (List.not_mem_nil _), digitChar_ne hk]
  exact ⟨fun h => (hd _ h).1 rfl, fun h => (hd _ h).2 rfl⟩

end Digits

theorem not_mem_intercalate {c s : Char} (hcs : c ≠ s) :
    ∀ {ls : List (List Char)}, (∀ l ∈ ls, c ∉ l) → c ∉ [s].intercalate ls
  | [], _ => by simp [List.intercalate]
  | [l], h => by simpa [List.intercalate] using h l (List.mem_singleton_self l)
  | l :: l' :: ls, h => by
    have ih : c ∉ [s].intercalate (l' :: ls) :=
      not_mem_intercalate hcs fun x hx => h x (List.mem_cons_of_mem _ hx)
    have hj : [s].intercalate (l :: l' :: ls) = l ++ s :: [s].intercalate (l' :: ls) := by
      simp [List.intercalate]
    rw [hj]
    simp only [List.mem_append, List.mem_cons, not_or]
    exact ⟨h l (List.mem_cons_self _ _), hcs, ih⟩

/-- The sign of `memcmp(a, b, n)` over bytes read as `unsigned char`; the code tests only the sign. -/
def memcmp : List (BitVec 8) → List (BitVec 8) → Int
  | x :: xs, y :: ys => if x = y then memcmp xs ys else if x.toNat < y.toNat then -1 else 1
  | _, _ => 0

/-- The number that bytes in network order spell, the first byte most significant. -/
def beValue : List (BitVec 8) → Nat
  | [] => 0
  | x :: xs => x.toNat * 256 ^ xs.length + beValue xs

theorem mul_add_lt_mul_add_iff {x y u v P : Nat} (hu : u < P) (hv : v < P) :
    x * P + u < y * P + v ↔ x < y ∨ x = y ∧ u < v := by
  constructor
  · intro h
    rcases Nat.lt_trichotomy x y with hxy | rfl | hxy
    · exact .inl hxy
    · exact .inr ⟨rfl, by omega⟩
    · have := Nat.mul_le_mul_right P (show y + 1 ≤ x from hxy)
      rw [Nat.succ_mul] at this
      omega
  · rintro (hxy | ⟨rfl, huv⟩)
    · have := Nat.mul_le_mul_right P (show x + 1 ≤ y from hxy)
      rw [Nat.succ_mul] at this
      omega
    · omega

theorem beValue_lt : ∀ xs : List (BitVec 8), beValue xs < 256 ^ xs.length
  | [] => Nat.one_pos
  | x :: xs => by
    have h := (mul_add_lt_mul_add_iff (x := x.toNat) (y := 256) (beValue_lt xs)
      (pow_pos (by decide) xs.length)).2 (.inl x.isLt)
    rw [beValue, List.length_cons, pow_succ, Nat.mul_comm (256 ^ xs.length)]
    omega

theorem memcmp_cons {x y : BitVec 8} {xs ys : List (BitVec 8)} :
    (memcmp (x :: xs) (y :: ys) < 0 ↔ x.toNat < y.toNat ∨ x = y ∧ memcmp xs ys < 0) ∧
      (memcmp (x :: xs) (y :: ys) = 0 ↔ x = y ∧ memcmp xs ys = 0) := by
  rw [memcmp]
  by_cases hxy : x = y
  · subst hxy
    simp only [if_true, Nat.lt_irrefl, false_or, true_and, and_self, iff_self]
  · rw [if_neg hxy]
    simp only [hxy, false_and, or_false]
    split_ifs with hlt
    · exact ⟨iff_of_true (by decide) hlt, iff_of_false (by decide) not_false⟩
    · exact ⟨iff_of_false (by decide) hlt, iff_of_false (by decide) not_false⟩

/-- On bytes of one length, `memcmp` is zero on equal bytes and negative on the smaller number. -/
theorem memcmp_spec : ∀ {xs ys : List (BitVec 8)}, xs.length = ys.length →
    (memcmp xs ys = 0 ↔ xs = ys) ∧ (memcmp xs ys < 0 ↔ beValue xs < beValue ys)
  | [], [], _ => ⟨iff_of_true rfl rfl, iff_of_false (lt_irrefl _) (lt_irrefl _)⟩
  | x :: xs, y :: ys, h => by
    have hl : xs.length = ys.length := by simpa using h
    have ih := memcmp_spec hl
    have hx : beValue xs < 256 ^ ys.length := hl ▸ beValue_lt xs
    rw [memcmp_cons.1, memcmp_cons.2, ih.1, ih.2, beValue, beValue, hl,
      mul_add_lt_mul_add_iff hx (beValue_lt ys), List.cons.injEq, ← BitVec.toNat_eq]
    exact ⟨Iff.rfl, Iff.rfl⟩
  | [], _ :: _, h | _ :: _, [], h => absurd h (by simp)

theorem beValue_inj : ∀ {xs ys : List (BitVec 8)}, xs.length = ys.length →
    beValue xs = beValue ys → xs = ys
  | [], [], _, _ => rfl
  | x :: xs, y :: ys, h, hv => by
    have hl : xs.length = ys.length := by simpa using h
    have hx : beValue xs < 256 ^ ys.length := hl ▸ beValue_lt xs
    rw [beValue, beValue, hl] at hv
    have h1 : ¬(x.toNat < y.toNat ∨ x.toNat = y.toNat ∧ beValue xs < beValue ys) := fun h =>
      absurd ((mul_add_lt_mul_add_iff hx (beValue_lt ys)).2 h) (by omega)
    have h2 : ¬(y.toNat < x.toNat ∨ y.toNat = x.toNat ∧ beValue ys < beValue xs) := fun h =>
      absurd ((mul_add_lt_mul_add_iff (beValue_lt ys) hx).2 h) (by omega)
    have hxy : x = y := BitVec.eq_of_toNat_eq (by omega)
    rw [hxy, beValue_inj hl (by subst hxy; omega)]
  | [], _ :: _, h, _ | _ :: _, [], h, _ => absurd h (by simp)

namespace CNetAddr

/-- `operator==`: `memcmp(a.ip, b.ip, 16) == 0`. -/
def beq (a b : CNetAddr) : Bool := memcmp a.ip b.ip == 0

/-- `operator!=`: `memcmp(a.ip, b.ip, 16) != 0`. -/
def bne (a b : CNetAddr) : Bool := memcmp a.ip b.ip != 0

/-- `operator<`: `memcmp(a.ip, b.ip, 16) < 0`. -/
def lt (a b : CNetAddr) : Bool := decide (memcmp a.ip b.ip < 0)

theorem ext_ip {a b : CNetAddr} (h : a.ip = b.ip) : a = b := by
  cases a; cases b; cases h; rfl

/-- The operators compare the sixteen bytes as one 128-bit number in network order, so `<` is a
strict total order on addresses. -/
theorem operators_compare_beValue (a b : CNetAddr) :
    (a.beq b = true ↔ a = b) ∧ a.bne b = !a.beq b ∧
      (a.lt b = true ↔ beValue a.ip < beValue b.ip) ∧ (a ≠ b → a.lt b = true ∨ b.lt a = true) := by
  have hab := memcmp_spec (a.length_ip.trans b.length_ip.symm)
  have hba := memcmp_spec (b.length_ip.trans a.length_ip.symm)
  have heq : a.beq b = true ↔ a = b := by
    rw [beq, beq_iff_eq, hab.1]
    exact ⟨ext_ip, congrArg CNetAddr.ip⟩
  refine ⟨heq, rfl, by rw [lt, decide_eq_true_iff, hab.2], fun hne => ?_⟩
  simp only [lt, decide_eq_true_iff, hab.2, hba.2]
  rcases Nat.lt_trichotomy (beValue a.ip) (beValue b.ip) with h | h | h
  · exact .inl h
  · exact absurd (ext_ip (beValue_inj (a.length_ip.trans b.length_ip.symm) h)) hne
  · exact .inr h

/-- `ToStringIP()`: an IPv4 address as `%u.%u.%u.%u`, any other as `%x:%x:%x:%x:%x:%x:%x:%x`. -/
def toStringIP (a : CNetAddr) : List Char :=
  if a.isIPv4 then
    ['.'].intercalate ([a.getByte 3, a.getByte 2, a.getByte 1, a.getByte 0].map (Nat.toDigits 10))
  else
    [':'].intercalate ([a.getByte 15 <<< 8 ||| a.getByte 14, a.getByte 13 <<< 8 ||| a.getByte 12,
      a.getByte 11 <<< 8 ||| a.getByte 10, a.getByte 9 <<< 8 ||| a.getByte 8,
      a.getByte 7 <<< 8 ||| a.getByte 6, a.getByte 5 <<< 8 ||| a.getByte 4,
      a.getByte 3 <<< 8 ||| a.getByte 2, a.getByte 1 <<< 8 ||| a.getByte 0].map (Nat.toDigits 16))

end CNetAddr

/-- Reads a text of `ToStringIP` back into sixteen bytes. -/
def readIP (text : List Char) : Option (List (BitVec 8)) :=
  match text.splitOn '.' with
  | [f3, f2, f1, f0] =>
    some (pchIPv4 ++ [f3, f2, f1, f0].map fun f => BitVec.ofNat 8 (digitsValue 10 f))
  | _ =>
    let groups := text.splitOn ':'
    if groups.length = 8 then
      some (groups.flatMap fun g =>
        [BitVec.ofNat 8 (digitsValue 16 g / 256), BitVec.ofNat 8 (digitsValue 16 g)])
    else none

theorem splitOn_of_not_mem {c : Char} {l : List Char} (h : c ∉ l) : l.splitOn c = [l] :=
  List.splitOnP_eq_single _ _ fun x hx hb => h (by rwa [beq_iff_eq.1 hb] at hx)

theorem group_bytes (x y : BitVec 8) :
    BitVec.ofNat 8 ((x.toNat <<< 8 ||| y.toNat) / 256) = x ∧
      BitVec.ofNat 8 (x.toNat <<< 8 ||| y.toNat) = y := by
  have h : x.toNat <<< 8 ||| y.toNat = y.toNat + 2 ^ 8 * x.toNat := by
    rw [Nat.or_comm]; exact lor_shiftLeft_eq_add y.isLt
  have hx := x.isLt
  have hy := y.isLt
  constructor <;> apply BitVec.eq_of_toNat_eq <;> rw [h, BitVec.toNat_ofNat] <;> omega

theorem fields_not_mem {c : Char} (hc : c = '.' ∨ c = ':') {base : Nat} (h2 : 2 ≤ base)
    (h16 : base ≤ 16) (ns : List Nat) : ∀ l ∈ ns.map (Nat.toDigits base), c ∉ l := by
  intro l hl
  obtain ⟨n, -, rfl⟩ := List.mem_map.1 hl
  rcases hc with rfl | rfl
  exacts [(separator_not_mem_toDigits h2 h16 n).1, (separator_not_mem_toDigits h2 h16 n).2]

theorem readIP_decimal (ns : List Nat) (h4 : ns.length = 4) :
    readIP (['.'].intercalate (ns.map (Nat.toDigits 10))) =
      some (pchIPv4 ++ ns.map (BitVec.ofNat 8)) := by
  obtain ⟨n3, n2, n1, n0, rfl⟩ : ∃ n3 n2 n1 n0, ns = [n3, n2, n1, n0] :=
    match ns, h4 with
    | [_, _, _, _], _ => ⟨_, _, _, _, rfl⟩
  rw [readIP, List.splitOn_intercalate _ _
    (fields_not_mem (.inl rfl) (show 2 ≤ 10 by decide) (show 10 ≤ 16 by decide) _) (by simp)]
  simp [digitsValue_toDigits (show 2 ≤ 10 by decide) (show 10 ≤ 16 by decide)]

theorem readIP_hex (ns : List Nat) (h8 : ns.length = 8) :
    readIP ([':'].intercalate (ns.map (Nat.toDigits 16))) =
      some (ns.flatMap fun n => [BitVec.ofNat 8 (n / 256), BitVec.ofNat 8 n]) := by
  have h2 : 2 ≤ 16 := by decide
  have h16 : 16 ≤ 16 := le_rfl
  have hne : ns.map (Nat.toDigits 16) ≠ [] := by
    rw [Ne, List.map_eq_nil_iff]; rintro rfl; cases h8
  rw [readIP, splitOn_of_not_mem (not_mem_intercalate (show '.' ≠ ':' by decide)
    (fields_not_mem (.inl rfl) h2 h16 ns))]
  dsimp only
  rw [List.splitOn_intercalate _ _ (fields_not_mem (.inr rfl) h2 h16 ns) hne, List.length_map,
    if_pos h8, List.flatMap_map]
  simp [digitsValue_toDigits h2 h16]

namespace CNetAddr

theorem readIP_toStringIP_of_isIPv4 {a : CNetAddr} (h4 : a.isIPv4 = true) :
    readIP a.toStringIP = some a.ip := by
  obtain ⟨ip, hl⟩ := a
  obtain ⟨t, rfl⟩ := hasPrefix_iff.1 h4
  obtain ⟨t0, t1, t2, t3, rfl⟩ := exists_four (by simpa [pchIPv4] using hl)
  have e : toStringIP ⟨_, hl⟩ =
      ['.'].intercalate ([t0.toNat, t1.toNat, t2.toNat, t3.toNat].map (Nat.toDigits 10)) := by
    rw [toStringIP, if_pos h4]; rfl
  rw [e, readIP_decimal]
  exacts [by simp, rfl]

theorem readIP_toStringIP_of_not_isIPv4 {a : CNetAddr} (h4 : a.isIPv4 = false) :
    readIP a.toStringIP = some a.ip := by
  obtain ⟨ip, hl⟩ := a
  obtain ⟨b0, b1, b2, b3, b4, b5, b6, b7, b8, b9, b10, b11, b12, b13, b14, b15, rfl⟩ :=
    exists_sixteen hl
  have e : toStringIP ⟨_, hl⟩ = [':'].intercalate ([b0.toNat <<< 8 ||| b1.toNat,
      b2.toNat <<< 8 ||| b3.toNat, b4.toNat <<< 8 ||| b5.toNat, b6.toNat <<< 8 ||| b7.toNat,
      b8.toNat <<< 8 ||| b9.toNat, b10.toNat <<< 8 ||| b11.toNat, b12.toNat <<< 8 ||| b13.toNat,
      b14.toNat <<< 8 ||| b15.toNat].map (Nat.toDigits 16)) := by
    rw [toStringIP, if_neg (by simp [h4])]; rfl
  rw [e, readIP_hex]
  exacts [by simp [group_bytes], rfl]

/-- `ToStringIP` loses nothing: its text reads back to the sixteen bytes. -/
theorem readIP_toStringIP (a : CNetAddr) :
    readIP a.toStringIP = some a.ip ∧ ∀ b : CNetAddr, b.toStringIP = a.toStringIP → b = a := by
  have hr : ∀ c : CNetAddr, readIP c.toStringIP = some c.ip := fun c => by
    cases h4 : c.isIPv4
    exacts [readIP_toStringIP_of_not_isIPv4 h4, readIP_toStringIP_of_isIPv4 h4]
  exact ⟨hr a, fun b h => ext_ip (Option.some.inj ((hr b).symm.trans (h ▸ hr a)))⟩

end CNetAddr

end PocCore.Net
