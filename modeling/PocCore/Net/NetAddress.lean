import PocCore.Machine.Bytes

namespace PocCore.Net

/-- `enum Network` of netaddress.h (not under src/), without `NET_MAX`. -/
inductive Network where
  | unroutable
  | ipv4
  | ipv6
  | tor
  | internal
  deriving DecidableEq, Repr

/-- The value of an enumerator of `enum Network`, from `NET_UNROUTABLE = 0` on. -/
def Network.toByte : Network → BitVec 8
  | .unroutable => 0
  | .ipv4 => 1
  | .ipv6 => 2
  | .tor => 3
  | .internal => 4

/-- `pchIPv4`: the prefix of an IPv4 address mapped into IPv6. -/
def pchIPv4 : List (BitVec 8) := [0, 0, 0, 0, 0, 0, 0, 0, 0, 0, 0xff, 0xff]

/-- `pchOnionCat`: the prefix of a Tor address. -/
def pchOnionCat : List (BitVec 8) := [0xFD, 0x87, 0xD8, 0x7E, 0xEB, 0x43]

/-- `g_internal_prefix`: the prefix of an internal-use address. -/
def gInternalPrefix : List (BitVec 8) := [0xFD, 0x6B, 0x88, 0xC0, 0x87, 0x24]

theorem exists_sixteen : ∀ {xs : List (BitVec 8)}, xs.length = 16 →
    ∃ b0 b1 b2 b3 b4 b5 b6 b7 b8 b9 b10 b11 b12 b13 b14 b15,
      xs = [b0, b1, b2, b3, b4, b5, b6, b7, b8, b9, b10, b11, b12, b13, b14, b15]
  | [_, _, _, _, _, _, _, _, _, _, _, _, _, _, _, _], _ =>
    ⟨_, _, _, _, _, _, _, _, _, _, _, _, _, _, _, _, rfl⟩

theorem exists_four : ∀ {xs : List (BitVec 8)}, xs.length = 4 → ∃ b0 b1 b2 b3, xs = [b0, b1, b2, b3]
  | [_, _, _, _], _ => ⟨_, _, _, _, rfl⟩

/-- `CNetAddr`: the sixteen bytes `ip` in network order. -/
structure CNetAddr where
  ip : List (BitVec 8)
  length_ip : ip.length = 16

namespace CNetAddr

/-- `memcmp(ip, p, sizeof(p)) == 0`. -/
def hasPrefix (a : CNetAddr) (p : List (BitVec 8)) : Bool := p.isPrefixOf a.ip

/-- `GetByte(n)`: `ip[15 - n]`, as an `unsigned int`. -/
def getByte (a : CNetAddr) (n : Nat) : Nat := (a.ip.getD (15 - n) 0).toNat

def isIPv4 (a : CNetAddr) : Bool := a.hasPrefix pchIPv4

def isTor (a : CNetAddr) : Bool := a.hasPrefix pchOnionCat

def isInternal (a : CNetAddr) : Bool := a.hasPrefix gInternalPrefix

def isIPv6 (a : CNetAddr) : Bool := !a.isIPv4 && !a.isTor && !a.isInternal

/-- `IsRFC1918()`: IPv4 private networks. -/
def isRFC1918 (a : CNetAddr) : Bool :=
  a.isIPv4 && (a.getByte 3 == 10 || (a.getByte 3 == 192 && a.getByte 2 == 168) ||
    (a.getByte 3 == 172 && (16 ≤ a.getByte 2 && a.getByte 2 ≤ 31)))

/-- `IsRFC2544()`: IPv4 inter-network communications. -/
def isRFC2544 (a : CNetAddr) : Bool :=
  a.isIPv4 && a.getByte 3 == 198 && (a.getByte 2 == 18 || a.getByte 2 == 19)

/-- `IsRFC3927()`: IPv4 autoconfig. -/
def isRFC3927 (a : CNetAddr) : Bool := a.isIPv4 && (a.getByte 3 == 169 && a.getByte 2 == 254)

/-- `IsRFC6598()`: IPv4 ISP-level NAT. -/
def isRFC6598 (a : CNetAddr) : Bool :=
  a.isIPv4 && a.getByte 3 == 100 && 64 ≤ a.getByte 2 && a.getByte 2 ≤ 127

/-- `IsRFC5737()`: IPv4 documentation addresses. -/
def isRFC5737 (a : CNetAddr) : Bool :=
  a.isIPv4 && ((a.getByte 3 == 192 && a.getByte 2 == 0 && a.getByte 1 == 2) ||
    (a.getByte 3 == 198 && a.getByte 2 == 51 && a.getByte 1 == 100) ||
    (a.getByte 3 == 203 && a.getByte 2 == 0 && a.getByte 1 == 113))

/-- `IsRFC3849()`: IPv6 documentation addresses. -/
def isRFC3849 (a : CNetAddr) : Bool :=
  a.getByte 15 == 0x20 && a.getByte 14 == 0x01 && a.getByte 13 == 0x0D && a.getByte 12 == 0xB8

/-- `IsRFC3964()`: IPv6 6to4 tunnelling. -/
def isRFC3964 (a : CNetAddr) : Bool := a.getByte 15 == 0x20 && a.getByte 14 == 0x02

/-- `IsRFC6052()`: IPv6 well-known prefix for IPv4-embedded addresses. -/
def isRFC6052 (a : CNetAddr) : Bool := a.hasPrefix [0, 0x64, 0xFF, 0x9B, 0, 0, 0, 0, 0, 0, 0, 0]

/-- `IsRFC4380()`: IPv6 Teredo tunnelling. -/
def isRFC4380 (a : CNetAddr) : Bool :=
  a.getByte 15 == 0x20 && a.getByte 14 == 0x01 && a.getByte 13 == 0 && a.getByte 12 == 0

/-- `IsRFC4862()`: IPv6 autoconfig. -/
def isRFC4862 (a : CNetAddr) : Bool := a.hasPrefix [0xFE, 0x80, 0, 0, 0, 0, 0, 0]

/-- `IsRFC4193()`: IPv6 unique local. -/
def isRFC4193 (a : CNetAddr) : Bool := a.getByte 15 &&& 0xFE == 0xFC

/-- `IsRFC6145()`: IPv6 IPv4-translated addresses. -/
def isRFC6145 (a : CNetAddr) : Bool := a.hasPrefix [0, 0, 0, 0, 0, 0, 0, 0, 0xFF, 0xFF, 0, 0]

/-- `IsRFC4843()`: IPv6 ORCHID. -/
def isRFC4843 (a : CNetAddr) : Bool :=
  a.getByte 15 == 0x20 && a.getByte 14 == 0x01 && a.getByte 13 == 0x00 &&
    (a.getByte 12 &&& 0xF0) == 0x10

/-- `IsLocal()`: IPv4 loopback and `0.0.0.0/8`, and IPv6 `::1`. -/
def isLocal (a : CNetAddr) : Bool :=
  (a.isIPv4 && (a.getByte 3 == 127 || a.getByte 3 == 0)) ||
    a.ip == [0, 0, 0, 0, 0, 0, 0, 0, 0, 0, 0, 0, 0, 0, 0, 1]

/-- `IsValid()`: not shifted, not `::`, not documentation, not internal, and not `INADDR_NONE` or `0`. -/
def isValid (a : CNetAddr) : Bool :=
  if a.hasPrefix (pchIPv4.drop 3) then false
  else if a.ip == List.replicate 16 0 then false
  else if a.isRFC3849 then false
  else if a.isInternal then false
  else if a.isIPv4 then !(a.ip.drop 12 == [0xff, 0xff, 0xff, 0xff] || a.ip.drop 12 == [0, 0, 0, 0])
  else true

def isRoutable (a : CNetAddr) : Bool :=
  a.isValid && !(a.isRFC1918 || a.isRFC2544 || a.isRFC3927 || a.isRFC4862 || a.isRFC6598 ||
    a.isRFC5737 || (a.isRFC4193 && !a.isTor) || a.isRFC4843 || a.isLocal || a.isInternal)

def getNetwork (a : CNetAddr) : Network :=
  if a.isInternal then .internal
  else if !a.isRoutable then .unroutable
  else if a.isIPv4 then .ipv4
  else if a.isTor then .tor
  else .ipv6

variable {a : CNetAddr}

theorem hasPrefix_iff {p : List (BitVec 8)} : a.hasPrefix p = true ↔ ∃ t, a.ip = p ++ t := by
  rw [hasPrefix, List.isPrefixOf_iff_prefix]
  exact ⟨fun ⟨t, ht⟩ => ⟨t, ht.symm⟩, fun ⟨t, ht⟩ => ⟨t, ht.symm⟩⟩

theorem isIPv4_eq_false_of_isTor (h : a.isTor = true) : a.isIPv4 = false := by
  obtain ⟨t, ht⟩ := hasPrefix_iff.1 h
  simp [isIPv4, hasPrefix, ht, pchOnionCat, pchIPv4, List.isPrefixOf_cons₂]

theorem isInternal_eq_false_of_isTor (h : a.isTor = true) : a.isInternal = false := by
  obtain ⟨t, ht⟩ := hasPrefix_iff.1 h
  simp [isInternal, hasPrefix, ht, pchOnionCat, gInternalPrefix, List.isPrefixOf_cons₂]

theorem isInternal_eq_false_of_isLocal (h : a.isLocal = true) : a.isInternal = false := by
  simp only [isLocal, Bool.or_eq_true, Bool.and_eq_true, beq_iff_eq] at h
  rcases h with ⟨h4, -⟩ | h1
  · obtain ⟨t, ht⟩ := hasPrefix_iff.1 h4
    simp [isInternal, hasPrefix, ht, pchIPv4, gInternalPrefix, List.isPrefixOf_cons₂]
  · simp [isInternal, hasPrefix, h1, gInternalPrefix, List.isPrefixOf_cons₂]

/-- A Tor address passes every test of `IsRoutable()`. -/
theorem isRoutable_of_isTor (h : a.isTor = true) : a.isRoutable = true := by
  obtain ⟨t, ht⟩ := hasPrefix_iff.1 h
  simp only [isRoutable, isValid, isRFC1918, isRFC2544, isRFC3927, isRFC4862, isRFC6598,
    isRFC5737, isRFC4193, isRFC4843, isLocal, isInternal, isIPv4, isRFC3849, h, hasPrefix, getByte,
    ht, pchOnionCat, pchIPv4, gInternalPrefix, List.isPrefixOf_cons₂, List.cons_beq_cons,
    List.cons_append, List.replicate_succ, List.drop, List.getD_cons_zero, List.getD_cons_succ]
  simp

theorem isRoutable_eq_false_of_isLocal (h : a.isLocal = true) : a.isRoutable = false := by
  simp [isRoutable, h]

theorem isRoutable_eq_false_of_isInternal (h : a.isInternal = true) : a.isRoutable = false := by
  simp [isRoutable, h]

theorem isInternal_eq_false_of_isRoutable (h : a.isRoutable = true) : a.isInternal = false :=
  Bool.eq_false_iff.2 fun hi => by rw [isRoutable_eq_false_of_isInternal hi] at h; cases h

theorem isLocal_eq_false_of_isRoutable (h : a.isRoutable = true) : a.isLocal = false :=
  Bool.eq_false_iff.2 fun hl => by rw [isRoutable_eq_false_of_isLocal hl] at h; cases h

theorem isTor_of_getNetwork_eq_tor (h : a.getNetwork = .tor) : a.isTor = true := by
  unfold getNetwork at h
  split_ifs at h with _ _ _ ht
  exact ht

/-- `GetNetwork()` names the class the classifiers give; every Tor address is `NET_TOR`. -/
theorem getNetwork_classifies (a : CNetAddr) :
    (a.getNetwork = .internal ↔ a.isInternal = true) ∧
    (a.getNetwork = .unroutable ↔ a.isRoutable = false ∧ a.isInternal = false) ∧
    (a.getNetwork = .ipv4 ↔ a.isIPv4 = true ∧ a.isRoutable = true) ∧
    (a.getNetwork = .tor ↔ a.isTor = true) ∧
    (a.getNetwork = .ipv6 ↔ a.isIPv6 = true ∧ a.isRoutable = true) := by
  have hti := @isInternal_eq_false_of_isTor a
  have ht4 := @isIPv4_eq_false_of_isTor a
  have htr := @isRoutable_of_isTor a
  have hir := @isRoutable_eq_false_of_isInternal a
  unfold getNetwork isIPv6
  cases hi : a.isInternal <;> cases hr : a.isRoutable <;> cases h4 : a.isIPv4 <;>
    cases ht : a.isTor <;> simp_all

/-- The branches of `GetGroup` before its loop: `nClass`, `nStartByte` and `nBits`, or the Teredo
group, which the chain returns at once. -/
def groupPlan (a : CNetAddr) : (BitVec 8 × Nat × Nat) ⊕ List (BitVec 8) :=
  let (nClass, nBits) : BitVec 8 × Nat := if a.isLocal then (255, 0) else (Network.ipv6.toByte, 16)
  if a.isInternal then .inl (Network.internal.toByte, gInternalPrefix.length,
    (16 - gInternalPrefix.length) * 8)
  else if !a.isRoutable then .inl (Network.unroutable.toByte, 0, 0)
  else if a.isIPv4 || a.isRFC6145 || a.isRFC6052 then .inl (Network.ipv4.toByte, 12, nBits)
  else if a.isRFC3964 then .inl (Network.ipv4.toByte, 2, nBits)
  else if a.isRFC4380 then
    .inr [Network.ipv4.toByte, BitVec.ofNat 8 (a.getByte 3 ^^^ 0xFF),
      BitVec.ofNat 8 (a.getByte 2 ^^^ 0xFF)]
  else if a.isTor then .inl (Network.tor.toByte, 6, 4)
  else if a.getByte 15 == 0x20 && a.getByte 14 == 0x01 && a.getByte 13 == 0x04 &&
      a.getByte 12 == 0x70 then .inl (nClass, 0, 36)
  else .inl (nClass, 0, 32)

/-- The network `GetGroup` files an address under: that of `GetNetwork()`, except that an IPv4
address carried in an IPv6 form is filed under `NET_IPV4`. -/
def groupNetwork (a : CNetAddr) : Network :=
  if a.isRoutable && (a.isIPv4 || a.isRFC6145 || a.isRFC6052 || a.isRFC3964 || a.isRFC4380) then
    .ipv4
  else a.getNetwork

theorem groupPlan_spec (a : CNetAddr) :
    (∃ s b, a.groupPlan = .inl (a.groupNetwork.toByte, s, b) ∧
      8 * s + b ≤ 128 ∧ b ≤ 80) ∨
    a.groupNetwork = .ipv4 ∧ ∃ x y, a.groupPlan = .inr [Network.ipv4.toByte, x, y] := by
  unfold groupPlan groupNetwork getNetwork
  by_cases hi : a.isInternal = true
  · simp only [hi, isRoutable_eq_false_of_isInternal hi, Bool.false_and, Bool.false_eq_true,
      ↓reduceIte]
    exact .inl ⟨_, _, rfl, by decide⟩
  by_cases hr : a.isRoutable = true
  · simp only [hi, hr, isLocal_eq_false_of_isRoutable hr, Bool.false_eq_true, Bool.not_true,
      Bool.true_and, ↓reduceIte]
    cases hc : (a.isIPv4 || a.isRFC6145 || a.isRFC6052)
    · have h4 : a.isIPv4 = false := by
        simp only [Bool.or_eq_false_iff] at hc
        exact hc.1.1
      simp only [h4, Bool.false_or, Bool.false_eq_true, ↓reduceIte]
      cases a.isRFC3964 <;>
        simp only [Bool.false_or, Bool.true_or, Bool.false_eq_true, ↓reduceIte]
      · cases a.isRFC4380 <;> simp only [Bool.false_eq_true, ↓reduceIte]
        · cases a.isTor <;> simp only [Bool.false_eq_true, ↓reduceIte]
          · split <;> exact .inl ⟨_, _, rfl, by decide⟩
          · exact .inl ⟨_, _, rfl, by decide⟩
        · exact .inr ⟨trivial, _, _, rfl⟩
      · exact .inl ⟨_, _, rfl, by decide⟩
    · simp only [Bool.true_or, ↓reduceIte]
      exact .inl ⟨_, _, rfl, by decide⟩
  · simp only [hi, hr, Bool.not_false, Bool.false_eq_true, Bool.false_and, ↓reduceIte]
    exact .inl ⟨_, _, rfl, by decide⟩

end CNetAddr

/-- The `while (nBits >= 8)` loop of `GetGroup` and the partial byte after it, bounds checked. -/
def groupBytes (ip : List (BitVec 8)) (nStartByte : Nat) : Nat → Except Fault (List (BitVec 8))
  | nBits + 8 => do
    let b ← readByte ip nStartByte
    let rest ← groupBytes ip (nStartByte + 1) nBits
    pure (b :: rest)
  | 0 => pure []
  | nBits + 1 => do
    let b ← readByte ip nStartByte
    pure [b ||| BitVec.ofNat 8 ((1 <<< (8 - (nBits + 1))) - 1)]

theorem groupBytes_ok {ip : List (BitVec 8)} {s b : Nat} (h : 8 * s + b ≤ 8 * ip.length) :
    ∃ g, groupBytes ip s b = .ok g ∧ g.length = (b + 7) / 8 := by
  induction s, b using groupBytes.induct ip with
  | case1 s b ih =>
    obtain ⟨g, hg, hl⟩ := ih (by omega)
    have hs : s < ip.length := by omega
    refine ⟨ip[s] :: g, ?_, ?_⟩
    · simp only [groupBytes.eq_1, readByte_of_lt hs, ok_bind, hg]; rfl
    · rw [List.length_cons, hl]; omega
  | case2 s => exact ⟨[], rfl, rfl⟩
  | case3 s b hne =>
    have hb : b < 7 := Nat.lt_of_not_le fun h7 => hne (b - 7) (by omega)
    refine ⟨_, by rw [groupBytes.eq_3 ip s b hne, readByte_of_lt (by omega)]; rfl, ?_⟩
    rw [List.length_singleton]
    omega

namespace CNetAddr

/-- `GetGroup()`: the class byte, then the group's bytes of the address. -/
def getGroup (a : CNetAddr) : Except Fault (List (BitVec 8)) :=
  match a.groupPlan with
  | .inr vchRet => pure vchRet
  | .inl (nClass, nStartByte, nBits) => do
    let rest ← groupBytes a.ip nStartByte nBits
    pure (nClass :: rest)

/-- `GetGroup()` and `GetNetwork()` agree on the network, except for IPv4 addresses carried in an
IPv6 form, grouped under `NET_IPV4`. -/
theorem getGroup_class (a : CNetAddr) :
    ∃ rest, a.getGroup = .ok (a.groupNetwork.toByte :: rest) := by
  unfold getGroup
  rcases groupPlan_spec a with ⟨s, b, hp, hb, -⟩ | ⟨hn, x, y, hp⟩
  · obtain ⟨g, hg, -⟩ :=
      groupBytes_ok (show 8 * s + b ≤ 8 * a.ip.length by rw [a.length_ip]; omega)
    exact ⟨g, by rw [hp]; simp only [hg, ok_bind]; rfl⟩
  · exact ⟨[x, y], by rw [hp, hn]; rfl⟩

example : CNetAddr.getGroup ⟨pchOnionCat ++ 0xA7 :: List.replicate 9 0, by decide⟩ = .ok [3, 0xAF] :=
  rfl

variable {a : CNetAddr}

/-- Every local address is in the one group `NET_UNROUTABLE`. -/
theorem getGroup_of_isLocal (h : a.isLocal = true) :
    a.getGroup = .ok [Network.unroutable.toByte] := by
  simp only [getGroup, groupPlan, h, isRoutable_eq_false_of_isLocal h,
    isInternal_eq_false_of_isLocal h, Bool.not_false, Bool.false_eq_true, ↓reduceIte]
  rfl

example : CNetAddr.getGroup ⟨pchIPv4 ++ [127, 0, 0, 1], by decide⟩ =
    .ok [Network.unroutable.toByte] :=
  getGroup_of_isLocal (by decide)

theorem getGroup_of_isIPv4 (h4 : a.isIPv4 = true) (hr : a.isRoutable = true) :
    a.getGroup = .ok [Network.ipv4.toByte, a.ip.getD 12 0, a.ip.getD 13 0] := by
  simp [getGroup, groupPlan, h4, hr, isInternal_eq_false_of_isRoutable hr,
    isLocal_eq_false_of_isRoutable hr, groupBytes, readByte_of_lt, a.length_ip]

/-- How an address carries the IPv4 address `v`: mapped, 6to4, Teredo, SIIT or the well-known prefix. -/
def carriesIPv4 (v : List (BitVec 8)) (b : CNetAddr) : Prop :=
  b.ip = pchIPv4 ++ v ∨ (∃ rest, b.ip = [0x20, 0x02] ++ v ++ rest) ∨
    (b.ip.take 4 = [0x20, 0x01, 0, 0] ∧ b.ip.drop 12 = v.map (~~~ ·)) ∨
    b.ip = [0, 0, 0, 0, 0, 0, 0, 0, 0xFF, 0xFF, 0, 0] ++ v ∨
    b.ip = [0, 0x64, 0xFF, 0x9B, 0, 0, 0, 0, 0, 0, 0, 0] ++ v

theorem ofNat_not_xor (x : BitVec 8) : BitVec.ofNat 8 ((~~~x).toNat ^^^ 0xFF) = x := by
  rw [show (0xFF : Nat) = (BitVec.allOnes 8).toNat from rfl, ← BitVec.toNat_xor,
    BitVec.xor_allOnes, BitVec.not_not, BitVec.ofNat_toNat, BitVec.setWidth_eq]

/-- `GetGroup` puts every routable address that carries an IPv4 address in that address's `/16`. -/
theorem getGroup_of_carriesIPv4 {v : List (BitVec 8)} (hv : v.length = 4) {b : CNetAddr}
    (hb : carriesIPv4 v b) (hr : b.isRoutable = true) :
    b.getGroup = .ok [Network.ipv4.toByte, v.getD 0 0, v.getD 1 0] := by
  obtain ⟨v0, v1, v2, v3, rfl⟩ := exists_four hv
  obtain ⟨ip, hl⟩ := b
  obtain ⟨b0, b1, b2, b3, b4, b5, b6, b7, b8, b9, b10, b11, b12, b13, b14, b15, rfl⟩ :=
    exists_sixteen hl
  have hi := isInternal_eq_false_of_isRoutable hr
  have hloc := isLocal_eq_false_of_isRoutable hr
  rcases hb with h | ⟨rest, h⟩ | h | h | h <;>
    simp only [pchIPv4, List.cons_append, List.nil_append, List.map_cons, List.map_nil,
      List.take_succ_cons, List.take_zero, List.drop_succ_cons, List.drop_zero,
      List.cons.injEq, and_true] at h
  · obtain ⟨rfl, rfl, rfl, rfl, rfl, rfl, rfl, rfl, rfl, rfl, rfl, rfl, rfl, rfl, rfl, rfl⟩ := h
    exact getGroup_of_isIPv4 rfl hr
  · obtain ⟨rfl, rfl, rfl, rfl, rfl, rfl, -⟩ := h
    have hp : groupPlan ⟨_, hl⟩ = .inl (Network.ipv4.toByte, 2, 16) := by
      simp only [groupPlan, hr, hi, hloc, show isIPv4 ⟨_, hl⟩ = false from rfl,
        show isRFC6145 ⟨_, hl⟩ = false from rfl, show isRFC6052 ⟨_, hl⟩ = false from rfl,
        show isRFC3964 ⟨_, hl⟩ = true from rfl, Bool.false_eq_true, Bool.not_true, Bool.or_false,
        ↓reduceIte]
    rw [getGroup, hp]
    rfl
  · obtain ⟨⟨rfl, rfl, rfl, rfl⟩, rfl, rfl, rfl, rfl⟩ := h
    have hp : groupPlan ⟨_, hl⟩ = .inr [Network.ipv4.toByte,
        BitVec.ofNat 8 ((~~~v0).toNat ^^^ 0xFF), BitVec.ofNat 8 ((~~~v1).toNat ^^^ 0xFF)] := by
      simp only [groupPlan, hr, hi, hloc, show isIPv4 ⟨_, hl⟩ = false from rfl,
        show isRFC6145 ⟨_, hl⟩ = false from rfl, show isRFC6052 ⟨_, hl⟩ = false from rfl,
        show isRFC3964 ⟨_, hl⟩ = false from rfl, show isRFC4380 ⟨_, hl⟩ = true from rfl,
        Bool.false_eq_true, Bool.not_true, Bool.or_false, ↓reduceIte]
      rfl
    rw [getGroup, hp, ofNat_not_xor, ofNat_not_xor]
    rfl
  all_goals
    obtain ⟨rfl, rfl, rfl, rfl, rfl, rfl, rfl, rfl, rfl, rfl, rfl, rfl, rfl, rfl, rfl, rfl⟩ := h
    have hc : (isIPv4 ⟨_, hl⟩ || isRFC6145 ⟨_, hl⟩ || isRFC6052 ⟨_, hl⟩) = true := rfl
    have hp : groupPlan ⟨_, hl⟩ = .inl (Network.ipv4.toByte, 12, 16) := by
      simp only [groupPlan, hr, hi, hloc, hc, Bool.false_eq_true, Bool.not_true, ↓reduceIte]
    rw [getGroup, hp]
    rfl

def teredoSample : CNetAddr :=
  ⟨[0x20, 0x01, 0, 0, 0, 0, 0, 0, 0, 0, 0, 0, 0xF7, 0xF7, 0xFB, 0xFB], by decide⟩

theorem getGroup_of_carriesIPv4_teredo :
    carriesIPv4 [8, 8, 4, 4] teredoSample ∧ teredoSample.isRoutable = true ∧
      teredoSample.getGroup = .ok [Network.ipv4.toByte, 8, 8] :=
  have hb : carriesIPv4 [8, 8, 4, 4] teredoSample := .inr (.inr (.inl ⟨rfl, rfl⟩))
  have hr : teredoSample.isRoutable = true := by decide
  ⟨hb, hr, @getGroup_of_carriesIPv4 [8, 8, 4, 4] rfl _ hb hr⟩

end CNetAddr

/-- `NET_UNKNOWN` and `NET_TEREDO`, the two values `GetExtNetwork` adds past `enum Network`. -/
inductive ExtNetwork where
  | net (n : Network)
  | unknown
  | teredo
  deriving DecidableEq, Repr

/-- `GetExtNetwork(addr)`, with a null `addr` as `none`. -/
def getExtNetwork : Option CNetAddr → ExtNetwork
  | none => .unknown
  | some a => if a.isRFC4380 then .teredo else .net a.getNetwork

/-- `enum Reachability` of `GetReachabilityFrom`. -/
inductive Reachability where
  | reachUnreachable
  | reachDefault
  | reachTeredo
  | reachIpv6Weak
  | reachIpv4
  | reachIpv6Strong
  | reachPrivate
  deriving DecidableEq, Repr

open Reachability in
/-- `GetReachabilityFrom(paddrPartner)`, with a null partner as `none`. -/
def CNetAddr.getReachabilityFrom (a : CNetAddr) (paddrPartner : Option CNetAddr) :
    Reachability :=
  if !a.isRoutable || a.isInternal then reachUnreachable
  else
    let ourNet := getExtNetwork (some a)
    let fTunnel := a.isRFC3964 || a.isRFC6052 || a.isRFC6145
    match getExtNetwork paddrPartner with
    | .net .ipv4 =>
      match ourNet with
      | .net .ipv4 => reachIpv4
      | _ => reachDefault
    | .net .ipv6 =>
      match ourNet with
      | .teredo => reachTeredo
      | .net .ipv4 => reachIpv4
      | .net .ipv6 => if fTunnel then reachIpv6Weak else reachIpv6Strong
      | _ => reachDefault
    | .net .tor =>
      match ourNet with
      | .net .ipv4 => reachIpv4
      | .net .tor => reachPrivate
      | _ => reachDefault
    | .teredo =>
      match ourNet with
      | .teredo => reachTeredo
      | .net .ipv6 => reachIpv6Weak
      | .net .ipv4 => reachIpv4
      | _ => reachDefault
    | _ =>
      match ourNet with
      | .teredo => reachTeredo
      | .net .ipv6 => reachIpv6Weak
      | .net .ipv4 => reachIpv4
      | .net .tor => reachPrivate
      | _ => reachDefault

namespace CNetAddr

variable {a : CNetAddr}

/-- An address is unreachable from every partner exactly when it is not routable. -/
theorem getReachabilityFrom_eq_reachUnreachable_iff (p : Option CNetAddr) :
    a.getReachabilityFrom p = .reachUnreachable ↔ a.isRoutable = false := by
  unfold getReachabilityFrom
  cases hr : a.isRoutable
  · simp
  · simp only [isInternal_eq_false_of_isRoutable hr, Bool.not_true, Bool.or_self,
      Bool.false_eq_true, ↓reduceIte]
    split <;> split <;> (try split) <;> simp

end CNetAddr

/-- `SetRaw(network, ip_in)` on the sixteen bytes `ip`; a network other than IPv4 or IPv6 fails. -/
def setRaw (ip : List (BitVec 8)) : Network → List (BitVec 8) → Except Fault (List (BitVec 8))
  | .ipv4, ipIn => do
    let ip ← memcpy ip 0 pchIPv4
    memcpy ip 12 (← readBytes ipIn 0 4)
  | .ipv6, ipIn => do memcpy ip 0 (← readBytes ipIn 0 16)
  | _, _ => .error (.assertion "!\"invalid network\"")

theorem length_setRaw {ip ipIn ip' : List (BitVec 8)} {n : Network}
    (h : setRaw ip n ipIn = .ok ip') : ip'.length = ip.length := by
  cases n with
  | ipv4 =>
    cases hc : memcpy ip 0 pchIPv4 with
    | error => rw [setRaw, hc, error_bind] at h; cases h
    | ok ip1 =>
      cases hr : readBytes ipIn 0 4 with
      | error => rw [setRaw, hc, ok_bind, hr, error_bind] at h; cases h
      | ok src => rw [setRaw, hc, ok_bind, hr, ok_bind] at h; rw [length_memcpy h, length_memcpy hc]
  | ipv6 =>
    cases hr : readBytes ipIn 0 16 with
    | error => rw [setRaw, hr, error_bind] at h; cases h
    | ok src => rw [setRaw, hr, ok_bind] at h; exact length_memcpy h
  | unroutable | tor | internal => cases h

/-- `SetRaw(NET_IPV4, ip_in)` writes all sixteen bytes, whatever they held. -/
theorem setRaw_ipv4 {ip ipIn : List (BitVec 8)} (hl : ip.length = 16) (hb : ipIn.length = 4) :
    setRaw ip .ipv4 ipIn = .ok (pchIPv4 ++ ipIn) := by
  rw [setRaw, memcpy_of_le (by simp [pchIPv4, hl]), readBytes_of_le (by omega), ok_bind, ok_bind,
    List.take_zero, List.nil_append, List.drop_zero, List.take_of_length_le (by omega)]
  exact memcpy_last rfl (by simp [pchIPv4, hl, hb])

/-- `CNetAddr(const struct in_addr&)` on an object holding `a`, which it does not `Init()`. -/
def CNetAddr.ofInAddr (a : CNetAddr) (ipv4Addr : List (BitVec 8)) : Except Fault CNetAddr :=
  match h : setRaw a.ip .ipv4 ipv4Addr with
  | .ok ip => .ok ⟨ip, (length_setRaw h).trans a.length_ip⟩
  | .error e => .error e

/-- `GetInAddr(pipv4Addr)`: the four bytes of an IPv4 address, `none` for any other. -/
def CNetAddr.getInAddr (a : CNetAddr) : Option (List (BitVec 8)) :=
  if a.isIPv4 then some (a.ip.drop 12) else none

/-- `SetRaw` overwrites all sixteen bytes the object started with. -/
theorem CNetAddr.ofInAddr_eq (a : CNetAddr) {ipv4Addr : List (BitVec 8)}
    (hb : ipv4Addr.length = 4) :
    a.ofInAddr ipv4Addr = .ok ⟨pchIPv4 ++ ipv4Addr, by simp [pchIPv4, hb]⟩ := by
  unfold CNetAddr.ofInAddr
  split <;> next h => rw [setRaw_ipv4 a.length_ip hb] at h; cases h <;> rfl

theorem getInAddr_ofInAddr (a : CNetAddr) {ipv4Addr : List (BitVec 8)}
    (hb : ipv4Addr.length = 4) :
    ∃ b, a.ofInAddr ipv4Addr = .ok b ∧ b.isIPv4 = true ∧ b.getInAddr = some ipv4Addr := by
  have h4 : CNetAddr.isIPv4 ⟨pchIPv4 ++ ipv4Addr, by simp [pchIPv4, hb]⟩ = true :=
    CNetAddr.hasPrefix_iff.2 ⟨_, rfl⟩
  refine ⟨_, a.ofInAddr_eq hb, h4, ?_⟩
  rw [CNetAddr.getInAddr, if_pos h4]
  exact congrArg some (List.drop_left' rfl)

end PocCore.Net
