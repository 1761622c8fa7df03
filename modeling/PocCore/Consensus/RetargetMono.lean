import PocCore.Consensus.RetargetBounds
import PocCore.Consensus.RunningAverage

namespace PocCore.Consensus

theorem shortWindowTarget_mono (cur : BitVec 64) {dt1 dt2 : Nat} (h12 : dt1 ≤ dt2)
    (hdt : dt2 < 2^64) (hfit : cur.toNat * dt2 < 2^64) :
    (shortWindowTarget cur dt1).toNat ≤ (shortWindowTarget cur dt2).toNat := by
  have hP : cur.toNat * dt1 ≤ cur.toNat * dt2 := Nat.mul_le_mul_left _ h12
  rw [shortWindowTarget_toNat, shortWindowTarget_toNat, BitVec.toNat_mul, BitVec.toNat_mul,
    BitVec.ofInt_natCast, BitVec.ofInt_natCast, BitVec.toNat_ofNat, BitVec.toNat_ofNat,
    Nat.mod_eq_of_lt (h12.trans_lt hdt), Nat.mod_eq_of_lt hdt,
    Nat.mod_eq_of_lt (hP.trans_lt hfit), Nat.mod_eq_of_lt hfit]
  gcongr

theorem longWindowTarget_mono (cur avg : BitVec 64) {dt1 dt2 : Int} (h12 : dt1 ≤ dt2)
    (hfit : avg.toNat * 14400 < 2^64) :
    (longWindowTarget cur avg dt1).toNat ≤ (longWindowTarget cur avg dt2).toNat := by
  have hc : (min (max dt1 3600) 14400).toNat ≤ (min (max dt2 3600) 14400).toNat :=
    Int.toNat_le_toNat (by gcongr)
  have hP := Nat.mul_le_mul_left avg.toNat hc
  have hP2 :=
    Nat.mul_le_mul_left avg.toNat (show (min (max dt2 3600) 14400).toNat ≤ 14400 by omega)
  rw [longWindowTarget_toNat, longWindowTarget_toNat,
    Nat.mod_eq_of_lt (show avg.toNat * (min (max dt1 3600) 14400).toNat < 2^64 by omega),
    Nat.mod_eq_of_lt (show avg.toNat * (min (max dt2 3600) 14400).toNat < 2^64 by omega)]
  gcongr

theorem toNat_sub_timestamp {a b : BitVec 32} (h : a ≤ b) :
    (b - a).toNat = b.toNat - a.toNat := by
  rw [BitVec.le_def] at h
  rw [BitVec.toNat_sub]
  omega

theorem runningAverage_le_max {v : BitVec 64} {vs : List (BitVec 64)} (hn : vs.length ≤ 24)
    (hmax : ∀ x ∈ v :: vs, x.toNat ≤ maxBaseTarget.toNat) :
    (runningAverage v 1 vs).toNat ≤ maxBaseTarget.toNat :=
  (runningAverage_inv vs (m := 0) (S := v.toNat)
    ⟨le_rfl, Nat.zero_le _, hmax v (by simp), by omega, by omega⟩ (by omega)
    fun x hx => ⟨Nat.zero_le _, hmax x (by simp [hx])⟩).2.high

/-- A later block never gets a lower base target: in the short window while the later span times
`MAX_BASE_TARGET` fits in 64 bits, in the long window always. -/
theorem calculateBaseTarget_mono_timestamp (cfg : PocConfig) (prev : ChainHeader)
    (getPrevBlock : FGetPrevBlock) (as : List ChainHeader) (hs : Ancestors getPrevBlock prev as)
    (hbits : ∀ x ∈ prev :: as, x.bits.toNat ≤ maxBaseTarget.toNat) (b1 b2 : CoinBlockHeader)
    (h1 : (as.getLastD prev).timestamp ≤ b1.timestamp) (h12 : b1.timestamp ≤ b2.timestamp) :
    (cfg.pocGenesisHeight + 4 ≤ prev.height + 1 → prev.height + 1 < cfg.pocGenesisHeight + 2700 →
      as.length = 3 →
      (b2.timestamp - (as.getLastD prev).timestamp).toNat * maxBaseTarget.toNat < 2^64 →
      ∃ r1 r2, calculateBaseTarget cfg prev b1 getPrevBlock = .ok r1 ∧
        calculateBaseTarget cfg prev b2 getPrevBlock = .ok r2 ∧ r1.toNat ≤ r2.toNat) ∧
    (cfg.pocGenesisHeight + 2700 ≤ prev.height + 1 → as.length = 24 →
      ∃ r1 r2, calculateBaseTarget cfg prev b1 getPrevBlock = .ok r1 ∧
        calculateBaseTarget cfg prev b2 getPrevBlock = .ok r2 ∧ r1.toNat ≤ r2.toNat) := by
  have hd : (b1.timestamp - (as.getLastD prev).timestamp).toNat ≤
      (b2.timestamp - (as.getLastD prev).timestamp).toNat := by
    rw [toNat_sub_timestamp h1, toNat_sub_timestamp (BitVec.le_trans h1 h12)]
    exact Nat.sub_le_sub_right (BitVec.le_def.1 h12) _
  refine ⟨fun h4 h hlen hwrap => ?_, fun h hlen => ?_⟩
  · obtain ⟨cur, hcur, heq1⟩ :=
      @calculateBaseTarget_short_eq cfg prev b1 getPrevBlock as h4 h hs hlen hbits
    obtain ⟨cur', hcur', heq2⟩ :=
      @calculateBaseTarget_short_eq cfg prev b2 getPrevBlock as h4 h hs hlen hbits
    obtain rfl : cur = cur' := BitVec.eq_of_toNat_eq (hcur.trans hcur'.symm)
    have hc : cur.toNat ≤ maxBaseTarget.toNat := by
      have := (sum_bits_mem (prev :: as) fun x hx => ⟨Nat.zero_le _, hbits x hx⟩).2
      simp only [List.map_cons, List.sum_cons, List.length_cons, hlen, maxBaseTarget_toNat]
        at this ⊢
      omega
    have hfit := (Nat.mul_le_mul_right (b2.timestamp - (as.getLastD prev).timestamp).toNat
      hc).trans_lt (by rwa [Nat.mul_comm] at hwrap)
    exact ⟨_, _, heq1, heq2, shortWindowTarget_mono cur hd (by omega) hfit⟩
  · have havg : (runningAverage prev.bits 1 (as.map (·.bits))).toNat ≤ maxBaseTarget.toNat :=
      runningAverage_le_max (by simp [hlen]) fun x hx => by
      obtain rfl | ⟨a, ha, rfl⟩ : x = prev.bits ∨ ∃ a ∈ as, a.bits = x := by
        simpa using hx
      exacts [hbits prev (by simp), hbits a (by simp [ha])]
    exact ⟨_, _, calculateBaseTarget_long_eq h hs hlen, calculateBaseTarget_long_eq h hs hlen,
      longWindowTarget_mono _ _ (Int.ofNat_le.2 hd)
        (by rw [maxBaseTarget_toNat] at havg; omega)⟩

theorem calculateBaseTarget_mono_timestamp_sample :
    ∃ r1 r2, calculateBaseTarget sampleConfig (sampleHeader 4 1000 1300) (sampleBlock 1400 0)
        (sampleLookup (sampleChain 3 3 1000 1000)) = .ok r1 ∧
      calculateBaseTarget sampleConfig (sampleHeader 4 1000 1300) (sampleBlock 1500 0)
        (sampleLookup (sampleChain 3 3 1000 1000)) = .ok r2 ∧ r1.toNat ≤ r2.toNat :=
  (calculateBaseTarget_mono_timestamp sampleConfig (sampleHeader 4 1000 1300)
    (sampleLookup (sampleChain 3 3 1000 1000)) (sampleChain 3 3 1000 1000) (by decide)
    (by decide) (sampleBlock 1400 0) (sampleBlock 1500 0) (by decide) (by decide)).1
    (by decide) (by decide) rfl (by decide)

end PocCore.Consensus
