import PocCore.Consensus.RetargetBounds

namespace PocCore.Consensus

/-- A missing ancestor in either window stops the call at `assert(pLastindex != nullptr)`: the
walk has stored the null pointer before it breaks. -/
theorem calculateBaseTarget_missing_ancestor (cfg : PocConfig) (prev : ChainHeader)
    (block : CoinBlockHeader) (getPrevBlock : FGetPrevBlock) (as : List ChainHeader)
    (hs : Ancestors getPrevBlock prev as)
    (hnull : getPrevBlock (as.getLastD prev).prevBlockHash = none)
    (hwin : cfg.pocGenesisHeight + 4 ≤ prev.height + 1 ∧
        prev.height + 1 < cfg.pocGenesisHeight + 2700 ∧ as.length < 3 ∨
      cfg.pocGenesisHeight + 2700 ≤ prev.height + 1 ∧ as.length < 24) :
    calculateBaseTarget cfg prev block getPrevBlock = .error lastIndexNull := by
  rcases hwin with ⟨h4, h, hlen⟩ | ⟨h, hlen⟩
  · have hnone := shortWindowLoop_missing hs hnull hlen prev.bits
    rw [calculateBaseTarget_short h4 h]
    split
    · rfl
    · rename_i heq; rw [heq] at hnone; cases hnone
  · have hnone := longWindowLoop_missing hs hnull hlen 1 prev.bits
    rw [calculateBaseTarget_long h]
    split
    · rfl
    · rename_i heq; rw [heq] at hnone; cases hnone

theorem calculateBaseTarget_missing_first_ancestor :
    calculateBaseTarget sampleConfig (sampleHeader 4 1000 1300) (sampleBlock 1400 0)
      (sampleLookup []) = .error lastIndexNull :=
  calculateBaseTarget_missing_ancestor _ _ _ _ [] trivial rfl
    (.inl ⟨by decide, by decide, by decide⟩)

/-- The short-window retarget over the integers, with the signed difference of the timestamps. -/
def shortWindowTargetExact (curBaseTarget diffTime : Int) : Int :=
  let newBaseTarget := curBaseTarget * diffTime / (300 * 4)
  let newBaseTarget := min newBaseTarget 18325193796
  let newBaseTarget := max newBaseTarget (curBaseTarget * 9 / 10)
  let newBaseTarget := if newBaseTarget = 0 then 1 else newBaseTarget
  min newBaseTarget (curBaseTarget * 11 / 10)

/-- Two short-window retargets that leave the integer formula: a `uint32_t` time span that wraps,
and a product `curBaseTarget * diffTime` that wraps modulo `2^64`. -/
theorem calculateBaseTarget_inexact_time_span :
    calculateBaseTarget sampleConfig (sampleHeader 4 1000 1300) (sampleBlock 999 0)
        (sampleLookup (sampleChain 3 3 1000 1000)) = .ok 1100 ∧
      shortWindowTargetExact ((1000 + 3 * 1000) / 4) (999 - 1000) = 900 ∧
    calculateBaseTarget sampleConfig (sampleHeader 4 4294967298 300) (sampleBlock 4294967295 0)
        (sampleLookup (sampleChain 3 3 4294967298 0)) = .ok 3865470568 ∧
      shortWindowTargetExact ((4294967298 + 3 * 4294967298) / 4) (4294967295 - 0) =
        4724464027 :=
  ⟨rfl, by decide, rfl, by decide⟩

end PocCore.Consensus
