import PocCore.Consensus.RetargetBounds
import PocCore.Consensus.RunningAverage

namespace PocCore.Consensus

variable {cfg : PocConfig} {prev : ChainHeader} {block : CoinBlockHeader}
  {getPrevBlock : FGetPrevBlock} {as : List ChainHeader} {b : BitVec 64}

theorem runningAverage_replicate (hmax : b.toNat ≤ maxBaseTarget.toNat) :
    ∀ n k, 1 ≤ k → k + n ≤ 25 → runningAverage b k (List.replicate n b) = b
  | 0, _, _, _ => rfl
  | n + 1, k, hk, hn => by
    have hstep : averageStep b k b = b := BitVec.eq_of_toNat_eq (by
      rw [averageStep_toNat b b k (average_product_lt hmax hmax (by omega)) (by omega),
        ← Nat.mul_succ, Nat.mul_div_cancel _ (Nat.succ_pos k)])
    rw [List.replicate_succ, runningAverage, hstep]
    exact runningAverage_replicate hmax n (k + 1) (by omega) (by omega)

theorem map_bits_eq_replicate (hbits : ∀ x ∈ prev :: as, x.bits = b) :
    as.map (·.bits) = List.replicate as.length b :=
  List.eq_replicate_iff.2 ⟨List.length_map _ _, by
    simpa using fun x hx => hbits x (List.mem_cons_of_mem _ hx)⟩

theorem calculateBaseTarget_short_const (h4 : cfg.pocGenesisHeight + 4 ≤ prev.height + 1)
    (h : prev.height + 1 < cfg.pocGenesisHeight + 2700) (hs : Ancestors getPrevBlock prev as)
    (hlen : as.length = 3) (hbits : ∀ x ∈ prev :: as, x.bits = b)
    (hmax : b.toNat ≤ maxBaseTarget.toNat) :
    calculateBaseTarget cfg prev block getPrevBlock =
      .ok (shortWindowTarget b (diffTime block (as.getLastD prev))) := by
  obtain ⟨cur, hcur, heq⟩ :=
    @calculateBaseTarget_short_eq cfg prev block getPrevBlock as h4 h hs hlen
      fun x hx => hbits x hx ▸ hmax
  have hm : as.map (fun x => x.bits.toNat) = List.replicate 3 b.toNat := by
    simpa [hlen] using congrArg (List.map BitVec.toNat) (map_bits_eq_replicate hbits)
  rw [heq, show cur = b from BitVec.eq_of_toNat_eq (by
    rw [hcur, hbits prev (List.mem_cons_self _ _), hm, List.sum_replicate, smul_eq_mul]
    omega)]

theorem calculateBaseTarget_long_const (h : cfg.pocGenesisHeight + 2700 ≤ prev.height + 1)
    (hs : Ancestors getPrevBlock prev as) (hlen : as.length = 24)
    (hbits : ∀ x ∈ prev :: as, x.bits = b) (hmax : b.toNat ≤ maxBaseTarget.toNat) :
    calculateBaseTarget cfg prev block getPrevBlock =
      .ok (longWindowTarget b b (diffTime block (as.getLastD prev))) := by
  rw [calculateBaseTarget_long_eq h hs hlen, map_bits_eq_replicate hbits, hlen,
    hbits prev (List.mem_cons_self _ _), runningAverage_replicate hmax 24 1 le_rfl le_rfl]

/-- The retarget's steady states: the short window keeps `b` at 300 seconds a block, the long window
at 288, and at 300 it raises `b` to `⌊25 b / 24⌋`, capped at `MAX_BASE_TARGET`. -/
theorem calculateBaseTarget_steady (cfg : PocConfig) (prev : ChainHeader)
    (block : CoinBlockHeader) (getPrevBlock : FGetPrevBlock) (b : BitVec 64) (hb : 1 ≤ b.toNat)
    (hmax : b.toNat ≤ maxBaseTarget.toNat) :
    (∀ as : List ChainHeader, cfg.pocGenesisHeight + 4 ≤ prev.height + 1 →
      prev.height + 1 < cfg.pocGenesisHeight + 2700 → Ancestors getPrevBlock prev as →
      as.length = 3 → (∀ x ∈ prev :: as, x.bits = b) →
      diffTime block (as.getLastD prev) = 4 * 300 →
      calculateBaseTarget cfg prev block getPrevBlock = .ok b) ∧
    (∀ as : List ChainHeader, cfg.pocGenesisHeight + 2700 ≤ prev.height + 1 →
      Ancestors getPrevBlock prev as → as.length = 24 → (∀ x ∈ prev :: as, x.bits = b) →
      (diffTime block (as.getLastD prev) = 25 * 288 →
        calculateBaseTarget cfg prev block getPrevBlock = .ok b) ∧
      (diffTime block (as.getLastD prev) = 25 * 300 →
        calculateBaseTarget cfg prev block getPrevBlock =
          .ok (BitVec.ofNat 64 (min (25 * b.toNat / 24) maxBaseTarget.toNat)))) := by
  have hb' := maxBaseTarget_toNat ▸ hmax
  refine ⟨fun as h4 h hs hlen hbits hd => ?_,
    fun as h hs hlen hbits => ⟨fun hd => ?_, fun hd => ?_⟩⟩
  · rw [calculateBaseTarget_short_const h4 h hs hlen hbits hmax, hd]
    refine congrArg Except.ok (BitVec.eq_of_toNat_eq ?_)
    rw [shortWindowTarget_toNat, BitVec.toNat_mul, show (BitVec.ofInt 64 (4 * 300)).toNat = 1200
      from rfl, maxBaseTarget_toNat, Nat.mod_eq_of_lt (show b.toNat * 1200 < 2^64 by omega),
      Nat.mod_eq_of_lt (show b.toNat * 9 < 2^64 by omega),
      Nat.mod_eq_of_lt (show b.toNat * 11 < 2^64 by omega), Nat.mul_div_cancel _ (by norm_num),
      min_eq_left hb', max_eq_left (by omega), max_eq_left (by omega), min_eq_left (by omega)]
  all_goals
    rw [calculateBaseTarget_long_const h hs hlen hbits hmax, hd]
    refine congrArg Except.ok (BitVec.eq_of_toNat_eq ?_)
    rw [longWindowTarget_toNat, maxBaseTarget_toNat,
      Nat.mod_eq_of_lt (show b.toNat * 8 < 2^64 by omega),
      Nat.mod_eq_of_lt (show b.toNat * 12 < 2^64 by omega)]
  · rw [show (min (max (25 * 288 : Int) 3600) 14400).toNat = 7200 by decide,
      Nat.mod_eq_of_lt (show b.toNat * 7200 < 2^64 by omega), Nat.mul_div_cancel _ (by norm_num),
      min_eq_left hb', max_eq_left hb, max_eq_left (by omega), min_eq_left (by omega)]
  · have h25 : b.toNat * 7500 / 7200 = 25 * b.toNat / 24 := by omega
    rw [show (min (max (25 * 300 : Int) 3600) 14400).toNat = 7500 by decide,
      Nat.mod_eq_of_lt (show b.toNat * 7500 < 2^64 by omega), h25, BitVec.toNat_ofNat,
      Nat.mod_eq_of_lt (by omega), max_eq_left (by omega), max_eq_left (by omega),
      min_eq_left (by omega)]

theorem calculateBaseTarget_steady_sample :
    calculateBaseTarget sampleConfig (sampleHeader 4 1000 1300) (sampleBlock 2200 0)
        (sampleLookup (sampleChain 3 3 1000 1000)) = .ok 1000 ∧
    calculateBaseTarget sampleConfig (sampleHeader 2800 1000 9000) (sampleBlock 8200 0)
        (sampleLookup (sampleChain 2799 24 1000 1000)) = .ok 1000 ∧
    calculateBaseTarget sampleConfig (sampleHeader 2800 1000 9000) (sampleBlock 8500 0)
        (sampleLookup (sampleChain 2799 24 1000 1000)) =
      .ok (BitVec.ofNat 64 (min (25 * (1000 : BitVec 64).toNat / 24) maxBaseTarget.toNat)) :=
  have hshort := (calculateBaseTarget_steady sampleConfig (sampleHeader 4 1000 1300)
    (sampleBlock 2200 0) (sampleLookup (sampleChain 3 3 1000 1000)) 1000 (by decide)
    (by decide)).1 (sampleChain 3 3 1000 1000) (by decide) (by decide) (by decide) rfl
    (by decide) rfl
  have hlong := fun block => (calculateBaseTarget_steady sampleConfig
    (sampleHeader 2800 1000 9000) block (sampleLookup (sampleChain 2799 24 1000 1000)) 1000
    (by decide) (by decide)).2 (sampleChain 2799 24 1000 1000) (by decide) (by decide) rfl
    (by decide)
  ⟨hshort, (hlong (sampleBlock 8200 0)).1 rfl, (hlong (sampleBlock 8500 0)).2 rfl⟩

end PocCore.Consensus
