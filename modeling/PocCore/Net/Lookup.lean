import PocCore.Net.NetAddress

namespace PocCore.Net

/-- `CNetAddr()`: `Init()` sets all sixteen bytes to zero, the address `::`. -/
def CNetAddr.init : CNetAddr := ⟨List.replicate 16 0, by decide⟩

/-- `CNetAddr(const struct in6_addr&, scope)` on an object holding `a`: `SetRaw(NET_IPV6, ...)`. -/
def CNetAddr.ofIn6Addr (a : CNetAddr) (ipv6Addr : List (BitVec 8)) : Except Fault CNetAddr :=
  match h : setRaw a.ip .ipv6 ipv6Addr with
  | .ok ip => .ok ⟨ip, (length_setRaw h).trans a.length_ip⟩
  | .error e => .error e

def onionSuffix : List (BitVec 8) := ".onion".toList.map fun c => BitVec.ofNat 8 c.toNat

/-- `SetSpecial(strName)`: a `.onion` name whose first part decodes to ten bytes becomes a Tor
address; `DecodeBase32` is a parameter. -/
def setSpecial (decodeBase32 : List (BitVec 8) → List (BitVec 8)) (a : CNetAddr)
    (strName : List (BitVec 8)) : Bool × CNetAddr :=
  if strName.length > 6 ∧ strName.drop (strName.length - 6) = onionSuffix then
    let vchAddr := decodeBase32 ((strName.take (strName.length - 6)).takeWhile (· != 0))
    if h : vchAddr.length = 16 - pchOnionCat.length then
      (true, ⟨pchOnionCat ++ vchAddr, by rw [List.length_append, h]; rfl⟩)
    else (false, a)
  else (false, a)

/-- What `ai_addr` of an `addrinfo` entry points at, by `ai_family`. -/
inductive SockAddr where
  | sin (sinAddr : List (BitVec 8)) (length_sinAddr : sinAddr.length = 4)
  | sin6 (sin6Addr : List (BitVec 8)) (length_sin6Addr : sin6Addr.length = 16)
      (sin6ScopeId : BitVec 32)
  | other

/-- One entry of the list `getaddrinfo` returns: `ai_addrlen` and `ai_addr`. -/
structure AddrInfo where
  aiAddrlen : Nat
  aiAddr : SockAddr

/-- `ai_flags` of the hints: `AI_ADDRCONFIG` when lookups are allowed, `AI_NUMERICHOST` otherwise. -/
inductive AiFlags where
  | addrConfig
  | numericHost
  deriving DecidableEq, Repr

/-- `sizeof(sockaddr_in)` and `sizeof(sockaddr_in6)` on the platforms the code targets. -/
def sizeofSockaddrIn : Nat := 16
def sizeofSockaddrIn6 : Nat := 28

/-- The body of the `while` loop of `LookupIntern` up to its `IsInternal()` test. -/
def resolve (ai : AddrInfo) : Except Fault CNetAddr :=
  match ai.aiAddr with
  | .sin sinAddr _ =>
    if sizeofSockaddrIn ≤ ai.aiAddrlen then CNetAddr.init.ofInAddr sinAddr
    else .error (.assertion "aiTrav->ai_addrlen >= sizeof(sockaddr_in)")
  | .sin6 sin6Addr _ _ =>
    if sizeofSockaddrIn6 ≤ ai.aiAddrlen then CNetAddr.init.ofIn6Addr sin6Addr
    else .error (.assertion "aiTrav->ai_addrlen >= sizeof(sockaddr_in6)")
  | .other => .ok CNetAddr.init

/-- The condition of the two `assert`s: `ai_addrlen` covers the family's socket address. -/
def AddrInfo.fits (ai : AddrInfo) : Bool :=
  match ai.aiAddr with
  | .sin .. => sizeofSockaddrIn ≤ ai.aiAddrlen
  | .sin6 .. => sizeofSockaddrIn6 ≤ ai.aiAddrlen
  | .other => true

/-- The `while` loop of `LookupIntern`: while `vIP` has room, each entry's address is appended
unless it is internal. -/
def lookupLoop (nMaxSolutions : Nat) :
    List AddrInfo → List CNetAddr → Except Fault (List CNetAddr)
  | [], vIP => .ok vIP
  | ai :: aiNext, vIP =>
    if nMaxSolutions = 0 ∨ vIP.length < nMaxSolutions then do
      let resolved ← resolve ai
      lookupLoop nMaxSolutions aiNext (if !resolved.isInternal then vIP ++ [resolved] else vIP)
    else .ok vIP

/-- `LookupIntern(pszName, vIP, nMaxSolutions, fAllowLookup)`; `getaddrinfo` is a parameter, and
`vIP.clear()` is commented out. -/
def lookupIntern (decodeBase32 : List (BitVec 8) → List (BitVec 8))
    (getaddrinfo : List (BitVec 8) → AiFlags → Option (List AddrInfo))
    (pszName : List (BitVec 8)) (vIP : List CNetAddr) (nMaxSolutions : Nat) (fAllowLookup : Bool) :
    Except Fault (Bool × List CNetAddr) :=
  match setSpecial decodeBase32 CNetAddr.init pszName with
  | (true, addr) => .ok (true, vIP ++ [addr])
  | (false, _) =>
    match getaddrinfo pszName (if fAllowLookup then .addrConfig else .numericHost) with
    | none => .ok (false, vIP)
    | some aiRes => do
      let vIP ← lookupLoop nMaxSolutions aiRes vIP
      pure (decide (vIP.length > 0), vIP)

/-- `LookupHost`: an empty name fails, a name in brackets loses them, then `LookupIntern`. -/
def lookupHost (decodeBase32 : List (BitVec 8) → List (BitVec 8))
    (getaddrinfo : List (BitVec 8) → AiFlags → Option (List AddrInfo))
    (pszName : List (BitVec 8)) (vIP : List CNetAddr) (nMaxSolutions : Nat) (fAllowLookup : Bool) :
    Except Fault (Bool × List CNetAddr) :=
  let strHost := pszName
  if strHost.isEmpty then .ok (false, vIP)
  else
    let strHost := if [0x5B].isPrefixOf strHost ∧ [0x5D].isSuffixOf strHost then
        (strHost.drop 1).take (strHost.length - 2)
      else strHost
    lookupIntern decodeBase32 getaddrinfo strHost vIP nMaxSolutions fAllowLookup

theorem setRaw_ipv6 {ip ipIn : List (BitVec 8)} (hl : ip.length = 16) (hb : ipIn.length = 16) :
    setRaw ip .ipv6 ipIn = .ok ipIn := by
  rw [setRaw, readBytes_of_le (by omega), ok_bind, List.drop_zero,
    List.take_of_length_le (by omega), memcpy_of_le (by omega), List.take_zero, List.nil_append,
    List.drop_of_length_le (by omega), List.append_nil]

theorem CNetAddr.ofIn6Addr_eq (a : CNetAddr) {ipv6Addr : List (BitVec 8)}
    (hb : ipv6Addr.length = 16) : a.ofIn6Addr ipv6Addr = .ok ⟨ipv6Addr, hb⟩ := by
  unfold CNetAddr.ofIn6Addr
  split <;> next h => rw [setRaw_ipv6 a.length_ip hb] at h; cases h <;> rfl

theorem setSpecial_cases (decodeBase32 : List (BitVec 8) → List (BitVec 8)) (a : CNetAddr)
    (strName : List (BitVec 8)) :
    setSpecial decodeBase32 a strName = (false, a) ∨
      ∃ a', setSpecial decodeBase32 a strName = (true, a') ∧ a'.isTor = true := by
  unfold setSpecial
  dsimp only
  split_ifs
  · refine .inr ⟨_, rfl, ?_⟩
    exact CNetAddr.hasPrefix_iff.2 ⟨_, rfl⟩
  · exact .inl rfl
  · exact .inl rfl

theorem resolve_ok {ai : AddrInfo} (h : ai.fits = true) : ∃ r, resolve ai = .ok r := by
  unfold resolve
  unfold AddrInfo.fits at h
  split
  · next hb _ => rw [if_pos (by simpa [*] using h)]; exact ⟨_, CNetAddr.init.ofInAddr_eq hb⟩
  · next hb _ _ => rw [if_pos (by simpa [*] using h)]; exact ⟨_, CNetAddr.init.ofIn6Addr_eq hb⟩
  · exact ⟨_, rfl⟩

section Loop

variable {nMaxSolutions : Nat} {vIP vIP' : List CNetAddr}

theorem lookupLoop_ok {ais : List AddrInfo} (h : lookupLoop nMaxSolutions ais vIP = .ok vIP') :
    ∃ added, vIP' = vIP ++ added ∧ (∀ a ∈ added, a.isInternal = false) ∧
      (0 < nMaxSolutions → vIP'.length ≤ max vIP.length nMaxSolutions) := by
  induction ais generalizing vIP with
  | nil =>
    cases h
    exact ⟨[], (List.append_nil _).symm, fun _ h => absurd h (List.not_mem_nil _),
      fun _ => le_max_left _ _⟩
  | cons ai ais ih =>
    simp only [lookupLoop] at h
    split at h
    · next hc =>
      cases hr : resolve ai with
      | error e => rw [hr, error_bind] at h; cases h
      | ok r =>
        rw [hr, ok_bind] at h
        cases hi : r.isInternal
        · simp only [hi, Bool.not_false, ↓reduceIte] at h
          obtain ⟨added, rfl, hint, hlen⟩ := ih h
          refine ⟨r :: added, by rw [List.append_assoc, List.singleton_append], ?_,
            fun hn => ?_⟩
          · exact List.forall_mem_cons.2 ⟨hi, hint⟩
          · have := hlen hn
            simp only [List.length_append, List.length_singleton] at this ⊢
            omega
        · simp only [hi, Bool.not_true, Bool.false_eq_true, ↓reduceIte] at h
          exact ih h
    · cases h
      exact ⟨[], (List.append_nil _).symm, fun _ h => absurd h (List.not_mem_nil _),
        fun _ => le_max_left _ _⟩

theorem lookupLoop_returns {ais : List AddrInfo} (hfit : ∀ ai ∈ ais, ai.fits = true)
    (vIP : List CNetAddr) : ∃ vIP', lookupLoop nMaxSolutions ais vIP = .ok vIP' := by
  induction ais generalizing vIP with
  | nil => exact ⟨_, rfl⟩
  | cons ai ais ih =>
    simp only [lookupLoop]
    split
    · obtain ⟨r, hr⟩ := resolve_ok (hfit ai (List.mem_cons_self _ _))
      rw [hr, ok_bind]
      exact ih (fun a ha => hfit a (List.mem_cons_of_mem _ ha)) _
    · exact ⟨_, rfl⟩

theorem lookupLoop_zero {ais : List AddrInfo} {rs : List CNetAddr}
    (hm : ais.mapM resolve = .ok rs) (vIP : List CNetAddr) :
    lookupLoop 0 ais vIP = .ok (vIP ++ rs.filter fun a => !a.isInternal) := by
  induction ais generalizing rs vIP with
  | nil =>
    rw [List.mapM_nil] at hm
    cases hm
    rw [List.filter_nil, List.append_nil]
    rfl
  | cons ai ais ih =>
    rw [List.mapM_cons] at hm
    cases hr : resolve ai with
    | error e => rw [hr, error_bind] at hm; cases hm
    | ok r =>
      cases hrs : ais.mapM resolve with
      | error e => rw [hr, ok_bind, hrs, error_bind] at hm; cases hm
      | ok bs =>
        rw [hr, ok_bind, hrs, ok_bind] at hm
        cases hm
        simp only [lookupLoop, true_or, ↓reduceIte, hr, ok_bind, ih hrs, List.filter_cons]
        cases r.isInternal <;> simp

end Loop

variable {decodeBase32 : List (BitVec 8) → List (BitVec 8)}
  {getaddrinfo : List (BitVec 8) → AiFlags → Option (List AddrInfo)}
  {nMaxSolutions : Nat} {fAllowLookup : Bool}

theorem lookupIntern_of_special {pszName : List (BitVec 8)} {addr : CNetAddr}
    (hs : setSpecial decodeBase32 CNetAddr.init pszName = (true, addr)) (vIP : List CNetAddr) :
    lookupIntern decodeBase32 getaddrinfo pszName vIP nMaxSolutions fAllowLookup =
      .ok (true, vIP ++ [addr]) := by
  rw [lookupIntern, hs]

theorem lookupIntern_of_not_special {pszName : List (BitVec 8)}
    (hs : (setSpecial decodeBase32 CNetAddr.init pszName).1 = false) (vIP : List CNetAddr) :
    lookupIntern decodeBase32 getaddrinfo pszName vIP nMaxSolutions fAllowLookup =
      match getaddrinfo pszName (if fAllowLookup then .addrConfig else .numericHost) with
      | none => .ok (false, vIP)
      | some aiRes => (lookupLoop nMaxSolutions aiRes vIP).bind
          fun v => pure (decide (v.length > 0), v) := by
  rcases setSpecial_cases decodeBase32 CNetAddr.init pszName with h | ⟨_, h, -⟩
  · rw [lookupIntern, h]
    rfl
  · rw [h] at hs
    cases hs

theorem lookupIntern_of_answer {pszName : List (BitVec 8)} {aiRes : List AddrInfo}
    {vIP vIP' : List CNetAddr} {b : Bool}
    (hs : (setSpecial decodeBase32 CNetAddr.init pszName).1 = false)
    (hg : getaddrinfo pszName (if fAllowLookup then .addrConfig else .numericHost) = some aiRes)
    (h : lookupIntern decodeBase32 getaddrinfo pszName vIP nMaxSolutions fAllowLookup =
      .ok (b, vIP')) :
    ∃ added, vIP' = vIP ++ added ∧ (∀ a ∈ added, a.isInternal = false) ∧
      (0 < nMaxSolutions → vIP'.length ≤ max vIP.length nMaxSolutions) ∧
      b = decide (vIP'.length > 0) := by
  rw [lookupIntern_of_not_special hs, hg] at h
  dsimp only at h
  cases hl : lookupLoop nMaxSolutions aiRes vIP with
  | error e => rw [hl] at h; cases h
  | ok v =>
    rw [hl] at h
    cases h
    obtain ⟨added, rfl, hint, hlen⟩ := lookupLoop_ok hl
    exact ⟨added, rfl, hint, hlen, rfl⟩

theorem lookupIntern_cases {pszName : List (BitVec 8)} {vIP vIP' : List CNetAddr} {b : Bool}
    (h : lookupIntern decodeBase32 getaddrinfo pszName vIP nMaxSolutions fAllowLookup =
      .ok (b, vIP')) :
    (∃ addr, addr.isTor = true ∧ b = true ∧ vIP' = vIP ++ [addr]) ∨
    (b = false ∧ vIP' = vIP) ∨
    (∃ added, vIP' = vIP ++ added ∧ (∀ a ∈ added, a.isInternal = false) ∧
      (0 < nMaxSolutions → vIP'.length ≤ max vIP.length nMaxSolutions) ∧
      b = decide (vIP'.length > 0)) := by
  rcases setSpecial_cases decodeBase32 CNetAddr.init pszName with hs | ⟨addr, hs, ht⟩
  · have hs' : (setSpecial decodeBase32 CNetAddr.init pszName).1 = false := by rw [hs]
    cases hg : getaddrinfo pszName (if fAllowLookup then .addrConfig else .numericHost) with
    | none =>
      rw [lookupIntern_of_not_special hs', hg] at h
      dsimp only at h
      cases h
      exact .inr (.inl ⟨rfl, rfl⟩)
    | some aiRes => exact .inr (.inr (lookupIntern_of_answer hs' hg h))
  · rw [lookupIntern_of_special hs] at h
    cases h
    exact .inl ⟨addr, ht, rfl, rfl⟩

theorem lookupIntern_returns (hfit : ∀ name flags aiRes, getaddrinfo name flags = some aiRes →
      ∀ ai ∈ aiRes, ai.fits = true) (pszName : List (BitVec 8)) (vIP : List CNetAddr) :
    ∃ r, lookupIntern decodeBase32 getaddrinfo pszName vIP nMaxSolutions fAllowLookup =
      .ok r := by
  unfold lookupIntern
  rcases setSpecial_cases decodeBase32 CNetAddr.init pszName with hs | ⟨addr, hs, -⟩
  · rw [hs]
    dsimp only
    split
    · exact ⟨_, rfl⟩
    · next aiRes hg =>
      obtain ⟨v, hv⟩ : ∃ v, lookupLoop nMaxSolutions aiRes vIP = .ok v :=
        lookupLoop_returns (hfit _ _ _ hg) vIP
      exact ⟨_, by rw [hv, ok_bind]; rfl⟩
  · exact ⟨_, by rw [hs]⟩

/-- `LookupHost` never yields an internal address, and returns whenever every `ai_addrlen` covers
its family's socket address. -/
theorem lookupHost_never_internal (pszName : List (BitVec 8)) (vIP : List CNetAddr) :
    (∀ b vIP', lookupHost decodeBase32 getaddrinfo pszName vIP nMaxSolutions fAllowLookup =
        .ok (b, vIP') →
      ∃ added, vIP' = vIP ++ added ∧ (∀ a ∈ added, a.isInternal = false) ∧
        (b = true → vIP' ≠ [])) ∧
    ((∀ name flags aiRes, getaddrinfo name flags = some aiRes → ∀ ai ∈ aiRes, ai.fits = true) →
      ∃ r, lookupHost decodeBase32 getaddrinfo pszName vIP nMaxSolutions fAllowLookup = .ok r) := by
  by_cases he : pszName.isEmpty = true
  · simp only [lookupHost, he, ↓reduceIte]
    exact ⟨fun b vIP' h => by cases h; exact ⟨[], (List.append_nil _).symm,
      fun _ h => absurd h (List.not_mem_nil _), fun h => by cases h⟩, fun _ => ⟨_, rfl⟩⟩
  · simp only [lookupHost, he, Bool.false_eq_true, ↓reduceIte]
    refine ⟨fun b vIP' h => ?_, fun hfit => lookupIntern_returns hfit _ vIP⟩
    rcases lookupIntern_cases h with
      ⟨addr, ht, rfl, rfl⟩ | ⟨rfl, rfl⟩ | ⟨added, rfl, hint, -, rfl⟩
    · exact ⟨[addr], rfl,
        List.forall_mem_singleton.2 (CNetAddr.isInternal_eq_false_of_isTor ht),
        fun _ => List.append_ne_nil_of_right_ne_nil _ (List.cons_ne_nil _ _)⟩
    · exact ⟨[], (List.append_nil _).symm, fun _ h => absurd h (List.not_mem_nil _),
        fun h => by cases h⟩
    · exact ⟨added, rfl, hint, fun h => List.ne_nil_of_length_pos (of_decide_eq_true h)⟩

/-- What `LookupIntern` returns, by its input: special name, resolver error, or resolver answer. -/
theorem lookupIntern_appends (pszName : List (BitVec 8)) (vIP : List CNetAddr) :
    (∀ addr, setSpecial decodeBase32 CNetAddr.init pszName = (true, addr) →
      addr.isTor = true ∧
      lookupIntern decodeBase32 getaddrinfo pszName vIP nMaxSolutions fAllowLookup =
        .ok (true, vIP ++ [addr])) ∧
    ((setSpecial decodeBase32 CNetAddr.init pszName).1 = false →
      getaddrinfo pszName (if fAllowLookup then .addrConfig else .numericHost) = none →
      lookupIntern decodeBase32 getaddrinfo pszName vIP nMaxSolutions fAllowLookup =
        .ok (false, vIP)) ∧
    (∀ aiRes b vIP', (setSpecial decodeBase32 CNetAddr.init pszName).1 = false →
      getaddrinfo pszName (if fAllowLookup then .addrConfig else .numericHost) = some aiRes →
      lookupIntern decodeBase32 getaddrinfo pszName vIP nMaxSolutions fAllowLookup =
        .ok (b, vIP') →
      ∃ added, vIP' = vIP ++ added ∧ (∀ a ∈ added, a.isInternal = false) ∧
        (0 < nMaxSolutions → vIP'.length ≤ max vIP.length nMaxSolutions) ∧
        b = decide (vIP'.length > 0)) ∧
    (∀ aiRes rs, (setSpecial decodeBase32 CNetAddr.init pszName).1 = false →
      getaddrinfo pszName (if fAllowLookup then .addrConfig else .numericHost) = some aiRes →
      aiRes.mapM resolve = .ok rs →
      lookupIntern decodeBase32 getaddrinfo pszName vIP 0 fAllowLookup =
        .ok (decide ((vIP ++ rs.filter fun a => !a.isInternal).length > 0),
          vIP ++ rs.filter fun a => !a.isInternal)) := by
  refine ⟨fun addr hs => ⟨?_, lookupIntern_of_special hs vIP⟩, fun hs hg => ?_,
    fun aiRes b vIP' hs hg h => lookupIntern_of_answer hs hg h, fun aiRes rs hs hg hm => ?_⟩
  · rcases setSpecial_cases decodeBase32 CNetAddr.init pszName with h | ⟨_, h, ht⟩ <;>
      rw [h] at hs <;> cases hs
    exact ht
  · rw [lookupIntern_of_not_special hs, hg]
  · rw [lookupIntern_of_not_special hs, hg]
    dsimp only
    rw [lookupLoop_zero hm vIP]
    rfl

end PocCore.Net
