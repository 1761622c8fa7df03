import PocCore.Consensus.Retarget

namespace PocCore.Consensus

theorem toNat_foldl_bits (as : List ChainHeader) (avg : BitVec 64)
    (h : avg.toNat + (as.map (·.bits.toNat)).sum < 2^64) :
    (as.foldl (fun acc a => acc + a.bits) avg).toNat = avg.toNat + (as.map (·.bits.toNat)).sum := by
  induction as generalizing avg with
  | nil => simp
  | cons a as ih =>
    simp only [List.map_cons, List.sum_cons] at h ⊢
    have hstep : (avg + a.bits).toNat = avg.toNat + a.bits.toNat := by
      rw [BitVec.toNat_add, Nat.mod_eq_of_lt (by omega)]
    rw [List.foldl_cons, ih _ (by omega), hstep, Nat.add_assoc]

theorem sum_bits_mem (l : List ChainHeader) {lo hi : Nat}
    (hl : ∀ x ∈ l, lo ≤ x.bits.toNat ∧ x.bits.toNat ≤ hi) :
    l.length * lo ≤ (l.map (·.bits.toNat)).sum ∧ (l.map (·.bits.toNat)).sum ≤ l.length * hi := by
  induction l with
  | nil => simp
  | cons a l ih =>
    have ha := hl a (by simp)
    have := ih fun x hx => hl x (by simp [hx])
    simp only [List.map_cons, List.sum_cons, List.length_cons, Nat.succ_mul]
    omega

/-- The short-window clamps keep the target within 10% of `curBaseTarget`, and in range with it. -/
theorem shortWindowTarget_bounds (cur : BitVec 64) (dt : Int)
    (hc : cur.toNat ≤ maxBaseTarget.toNat) :
    cur.toNat * 9 / 10 ≤ (shortWindowTarget cur dt).toNat ∧
    (shortWindowTarget cur dt).toNat ≤ cur.toNat * 11 / 10 ∧
    (1 ≤ cur.toNat → 1 ≤ (shortWindowTarget cur dt).toNat ∧
      (shortWindowTarget cur dt).toNat ≤ maxBaseTarget.toNat) := by
  rw [maxBaseTarget_toNat] at hc
  rw [shortWindowTarget_toNat, maxBaseTarget_toNat,
    Nat.mod_eq_of_lt (show cur.toNat * 9 < 2^64 by omega),
    Nat.mod_eq_of_lt (show cur.toNat * 11 < 2^64 by omega)]
  omega

/-- The long-window clamps keep the target within 20% of `curBaseTarget`, and in range with it. -/
theorem longWindowTarget_bounds (cur avg : BitVec 64) (dt : Int)
    (hc : cur.toNat ≤ maxBaseTarget.toNat) :
    cur.toNat * 8 / 10 ≤ (longWindowTarget cur avg dt).toNat ∧
    (longWindowTarget cur avg dt).toNat ≤ cur.toNat * 12 / 10 ∧
    (1 ≤ cur.toNat → 1 ≤ (longWindowTarget cur avg dt).toNat ∧
      (longWindowTarget cur avg dt).toNat ≤ maxBaseTarget.toNat) := by
  rw [maxBaseTarget_toNat] at hc
  rw [longWindowTarget_toNat, maxBaseTarget_toNat,
    Nat.mod_eq_of_lt (show cur.toNat * 8 < 2^64 by omega),
    Nat.mod_eq_of_lt (show cur.toNat * 12 < 2^64 by omega)]
  omega

section Windows

variable {cfg : PocConfig} {prev : ChainHeader} {block : CoinBlockHeader}
  {getPrevBlock : FGetPrevBlock} {as : List ChainHeader}

/-- The short window with its three ancestors found retargets from their exact mean. -/
theorem calculateBaseTarget_short_eq (h4 : cfg.pocGenesisHeight + 4 ≤ prev.height + 1)
    (h : prev.height + 1 < cfg.pocGenesisHeight + 2700) (hs : Ancestors getPrevBlock prev as)
    (hlen : as.length = 3) (hbits : ∀ x ∈ prev :: as, x.bits.toNat ≤ maxBaseTarget.toNat) :
    ∃ cur : BitVec 64, cur.toNat = (prev.bits.toNat + (as.map (·.bits.toNat)).sum) / 4 ∧
      calculateBaseTarget cfg prev block getPrevBlock =
        .ok (shortWindowTarget cur (diffTime block (as.getLastD prev))) := by
  have hsum : prev.bits.toNat + (as.map (·.bits.toNat)).sum < 2^64 := by
    have := (sum_bits_mem (prev :: as) fun x hx => ⟨Nat.zero_le _, hbits x hx⟩).2
    simp only [List.map_cons, List.sum_cons, List.length_cons, hlen, maxBaseTarget_toNat] at this
    omega
  refine ⟨_, ?_, by rw [calculateBaseTarget_short h4 h, ← hlen, shortWindowLoop_ancestors hs]⟩
  rw [BitVec.toNat_udiv, toNat_foldl_bits _ _ hsum]
  rfl

/-- The long window with its twenty-four ancestors found retargets from their running average. -/
theorem calculateBaseTarget_long_eq (h : cfg.pocGenesisHeight + 2700 ≤ prev.height + 1)
    (hs : Ancestors getPrevBlock prev as) (hlen : as.length = 24) :
    calculateBaseTarget cfg prev block getPrevBlock =
      .ok (longWindowTarget prev.bits (runningAverage prev.bits 1 (as.map (·.bits)))
        (diffTime block (as.getLastD prev))) := by
  rw [calculateBaseTarget_long h, ← hlen, longWindowLoop_ancestors hs]

/-- The result lies in `[1, MAX_BASE_TARGET]` when the bits it reads do. -/
theorem calculateBaseTarget_mem_range (hfork : cfg.bcoForkBlockHeight ≤ prev.height + 1)
    (hs : Ancestors getPrevBlock prev as)
    (hshort : cfg.pocGenesisHeight + 4 ≤ prev.height + 1 →
      prev.height + 1 < cfg.pocGenesisHeight + 2700 → 3 ≤ as.length ∧
        ∀ x ∈ prev :: as.take 3, 1 ≤ x.bits.toNat ∧ x.bits.toNat ≤ maxBaseTarget.toNat)
    (hlong : cfg.pocGenesisHeight + 2700 ≤ prev.height + 1 → 24 ≤ as.length ∧
      1 ≤ prev.bits.toNat ∧ prev.bits.toNat ≤ maxBaseTarget.toNat) :
    ∃ r, calculateBaseTarget cfg prev block getPrevBlock = .ok r ∧
      1 ≤ r.toNat ∧ r.toNat ≤ maxBaseTarget.toNat := by
  by_cases h4 : prev.height + 1 < cfg.pocGenesisHeight + 4
  · exact ⟨_, calculateBaseTarget_bootstrap hfork h4, by simp, le_rfl⟩
  by_cases h : prev.height + 1 < cfg.pocGenesisHeight + 2700
  · obtain ⟨hlen, hbits⟩ := hshort (by omega) h
    have hlen3 : (as.take 3).length = 3 := by simp; omega
    obtain ⟨cur, hcur, heq⟩ := calculateBaseTarget_short_eq (by omega) h (hs.take 3) hlen3
      fun x hx => (hbits x hx).2
    have hsum := sum_bits_mem (prev :: as.take 3) hbits
    simp only [List.map_cons, List.sum_cons, List.length_cons, hlen3, maxBaseTarget_toNat]
      at hsum
    obtain ⟨-, -, hr⟩ := shortWindowTarget_bounds cur (diffTime block ((as.take 3).getLastD prev))
      (by rw [hcur, maxBaseTarget_toNat]; omega)
    exact ⟨_, heq, hr (by omega)⟩
  · obtain ⟨hlen, hp⟩ := hlong (by omega)
    have hlen24 : (as.take 24).length = 24 := by simp; omega
    obtain ⟨-, -, hr⟩ := longWindowTarget_bounds prev.bits
      (runningAverage prev.bits 1 ((as.take 24).map (·.bits)))
      (diffTime block ((as.take 24).getLastD prev)) hp.2
    exact ⟨_, calculateBaseTarget_long_eq (by omega) (hs.take 24) hlen24, hr hp.1⟩

end Windows

/-- Per-block rate limit: the short window moves the target by at most 10% of its mean, the long
window by at most 20% of `prev.bits`. -/
theorem calculateBaseTarget_rate_limit (cfg : PocConfig) (prev : ChainHeader)
    (block : CoinBlockHeader) (getPrevBlock : FGetPrevBlock) (as : List ChainHeader)
    (hs : Ancestors getPrevBlock prev as)
    (hbits : ∀ x ∈ prev :: as, x.bits.toNat ≤ maxBaseTarget.toNat) :
    (cfg.pocGenesisHeight + 4 ≤ prev.height + 1 → prev.height + 1 < cfg.pocGenesisHeight + 2700 →
      as.length = 3 → ∃ r, calculateBaseTarget cfg prev block getPrevBlock = .ok r ∧
        (prev.bits.toNat + (as.map (·.bits.toNat)).sum) / 4 * 9 / 10 ≤ r.toNat ∧
        r.toNat ≤ (prev.bits.toNat + (as.map (·.bits.toNat)).sum) / 4 * 11 / 10) ∧
    (cfg.pocGenesisHeight + 2700 ≤ prev.height + 1 → as.length = 24 →
      ∃ r, calculateBaseTarget cfg prev block getPrevBlock = .ok r ∧
        prev.bits.toNat * 8 / 10 ≤ r.toNat ∧ r.toNat ≤ prev.bits.toNat * 12 / 10) := by
  refine ⟨fun h4 h hlen => ?_, fun h hlen => ?_⟩
  · obtain ⟨cur, hcur, heq⟩ := calculateBaseTarget_short_eq h4 h hs hlen hbits
    have hc : cur.toNat ≤ maxBaseTarget.toNat := by
      have := (sum_bits_mem (prev :: as) fun x hx => ⟨Nat.zero_le _, hbits x hx⟩).2
      simp only [List.map_cons, List.sum_cons, List.length_cons, hlen, maxBaseTarget_toNat]
        at this ⊢
      omega
    obtain ⟨hlo, hhi, -⟩ := shortWindowTarget_bounds cur (diffTime block (as.getLastD prev)) hc
    exact ⟨_, heq, hcur ▸ hlo, hcur ▸ hhi⟩
  · obtain ⟨hlo, hhi, -⟩ := longWindowTarget_bounds prev.bits
      (runningAverage prev.bits 1 (as.map (·.bits))) (diffTime block (as.getLastD prev))
      (hbits prev (by simp))
    exact ⟨_, calculateBaseTarget_long_eq h hs hlen, hlo, hhi⟩

/-- A header of the sample chains, whose hash and parent hash are heights as two bytes. -/
def sampleHeader (height : Nat) (bits : BitVec 64) (timestamp : Nat) : ChainHeader :=
  { timestamp := BitVec.ofNat 32 timestamp, bits := bits, nonce := 0, plotseed := 0,
    prevBlockHash := [BitVec.ofNat 8 ((height - 1) / 256), BitVec.ofNat 8 (height - 1)],
    merkleRoot := [], height := height }

/-- The lookup over a sample chain: the header whose height is the hash. -/
def sampleLookup (chain : List ChainHeader) : FGetPrevBlock :=
  fun hash => chain.find? fun hdr =>
    [BitVec.ofNat 8 (hdr.height / 256), BitVec.ofNat 8 hdr.height] == hash

/-- `len` headers of base target `bits` below `top`, newest first, a hundred seconds apart. -/
def sampleChain (top len : Nat) (bits : BitVec 64) (t0 : Nat) : List ChainHeader :=
  (List.range len).map fun i => sampleHeader (top - i) bits (t0 + 100 * (len - 1 - i))

/-- The fork at height 1, no bootstrap blocks and no minimum time. -/
def sampleConfig : PocConfig := ⟨1, 0, 0⟩

def sampleBlock (timestamp : Nat) (bits : BitVec 64) : CoinBlockHeader :=
  { timestamp := BitVec.ofNat 32 timestamp, bits := bits, nonce := 0, plotseed := 0,
    prevBlockHash := [0, 4], merkleRoot := [] }

theorem calculateBaseTarget_rate_limit_sample :
    ∃ r, calculateBaseTarget sampleConfig (sampleHeader 4 1000 1300) (sampleBlock 999 0)
        (sampleLookup (sampleChain 3 3 1000 1000)) = .ok r ∧
      (1000 + ((sampleChain 3 3 1000 1000).map (·.bits.toNat)).sum) / 4 * 9 / 10 ≤ r.toNat ∧
      r.toNat ≤ (1000 + ((sampleChain 3 3 1000 1000).map (·.bits.toNat)).sum) / 4 * 11 / 10 :=
  (calculateBaseTarget_rate_limit sampleConfig (sampleHeader 4 1000 1300) (sampleBlock 999 0)
    (sampleLookup (sampleChain 3 3 1000 1000)) (sampleChain 3 3 1000 1000) (by decide)
    (by decide)).1 (by decide) (by decide) rfl

end PocCore.Consensus
