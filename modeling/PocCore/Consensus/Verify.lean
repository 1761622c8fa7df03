import PocCore.Plot.HashChain

namespace PocCore.Consensus

open PocCore.Plot

section Verify

variable (shabal : Shabal256) (cfg : PocConfig) (prev : ChainHeader) (block : CoinBlockHeader)
  (getPrevBlock : FGetPrevBlock) (fresh : Fin (plotSize + 16) → BitVec 8)

/-- `poc::VerifyGenerationSignature`; the deadline test adds in `uint64_t`. -/
def verifyGenerationSignature : Except Fault Bool := do
  if block.timestamp.toNat < cfg.bcoBlockUnixtimeMin then return false
  if block.bits ≠ (← calculateBaseTarget cfg prev block getPrevBlock) then return false
  if prev.height + 1 < cfg.pocGenesisHeight then return true
  let deadline ← calculateDeadline shabal cfg prev block fresh
  return block.timestamp.setWidth 64 > prev.timestamp.setWidth 64 + deadline

/-- What an accepted block satisfies: its timestamp, its bits, and from the genesis height on the
deadline test. -/
theorem verifyGenerationSignature_eq_true
    (h : verifyGenerationSignature shabal cfg prev block getPrevBlock fresh = .ok true) :
    cfg.bcoBlockUnixtimeMin ≤ block.timestamp.toNat ∧
    calculateBaseTarget cfg prev block getPrevBlock = .ok block.bits ∧
    (cfg.pocGenesisHeight ≤ prev.height + 1 → ∃ deadline,
      calculateDeadline shabal cfg prev block fresh = .ok deadline ∧
      prev.timestamp.setWidth 64 + deadline < block.timestamp.setWidth 64) := by
  unfold verifyGenerationSignature at h
  by_cases ht : block.timestamp.toNat < cfg.bcoBlockUnixtimeMin
  · simp [ht] at h
  rw [if_neg ht] at h
  cases hc : calculateBaseTarget cfg prev block getPrevBlock with
  | error e => simp [hc] at h
  | ok r =>
    simp only [hc, ok_bind] at h
    by_cases hb : block.bits = r
    · subst hb
      refine ⟨by omega, rfl, fun hg => ?_⟩
      simp only [ne_eq, not_true_eq_false, if_false, pure_bind,
        if_neg (show ¬prev.height + 1 < cfg.pocGenesisHeight by omega)] at h
      cases hd : calculateDeadline shabal cfg prev block fresh with
      | error e => simp [hd] at h
      | ok d => simp [hd] at h; exact ⟨d, rfl, h⟩
    · simp [hb] at h

theorem calculateDeadline_of_le (hh : prev.height + 1 ≤ cfg.pocGenesisHeight) :
    calculateDeadline shabal cfg prev block fresh = .ok 0 := by
  simp [calculateDeadline, hh]

/-- With `prev.bits ≥ 1` the deadline engine returns at most `(2^64 - 1) / prev.bits`. -/
theorem calculateDeadline_le (hbits : 1 ≤ prev.bits.toNat) :
    ∃ deadline, calculateDeadline shabal cfg prev block fresh = .ok deadline ∧
      deadline.toNat ≤ (2^64 - 1) / prev.bits.toNat := by
  by_cases hh : prev.height + 1 ≤ cfg.pocGenesisHeight
  · exact ⟨0, calculateDeadline_of_le shabal cfg prev block fresh hh, Nat.zero_le _⟩
  have hne : prev.bits ≠ 0 := fun h => by simp [h] at hbits
  rw [calculateDeadline_eq shabal cfg prev block fresh (by omega)]
  refine ⟨_, if_neg hne, ?_⟩
  rw [BitVec.toNat_udiv]
  exact Nat.div_le_div_right (by omega)

/-- With `prev.bits ≥ 2` the deadline test does not wrap: an accepted block is later than its
parent by more than the deadline. -/
theorem verifyGenerationSignature_exact (hbits : 2 ≤ prev.bits.toNat)
    (h : verifyGenerationSignature shabal cfg prev block getPrevBlock fresh = .ok true)
    (hg : cfg.pocGenesisHeight ≤ prev.height + 1) :
    ∃ deadline, calculateDeadline shabal cfg prev block fresh = .ok deadline ∧
      prev.timestamp.toNat + deadline.toNat < block.timestamp.toNat := by
  obtain ⟨-, -, hd⟩ := verifyGenerationSignature_eq_true shabal cfg prev block getPrevBlock fresh h
  obtain ⟨d, hd, hlt⟩ := hd hg
  obtain ⟨d', hd', hle⟩ := calculateDeadline_le shabal cfg prev block fresh (by omega)
  obtain rfl : d' = d := Except.ok.inj (hd'.symm.trans hd)
  have hhalf : (2^64 - 1) / prev.bits.toNat ≤ (2^64 - 1) / 2 :=
    Nat.div_le_div_left hbits (by decide)
  have hts := prev.timestamp.isLt
  refine ⟨d', hd, ?_⟩
  simp only [BitVec.lt_def, BitVec.toNat_add, BitVec.toNat_setWidth] at hlt
  rw [Nat.mod_eq_of_lt (by omega : prev.timestamp.toNat < 2^64),
    Nat.mod_eq_of_lt (by omega : block.timestamp.toNat < 2^64), Nat.mod_eq_of_lt (by omega)] at hlt
  exact hlt

end Verify

theorem verifyGenerationSignature_exact_sample :
    2 ≤ (sampleHeader 1 2 1).bits.toNat ∧
    verifyGenerationSignature (constantShabal 0) sampleConfig (sampleHeader 1 2 1)
      (sampleBlock 2 initialBaseTarget) (sampleLookup []) (fun _ => 0) = .ok true ∧
    sampleConfig.pocGenesisHeight ≤ (sampleHeader 1 2 1).height + 1 ∧
    ∃ deadline, calculateDeadline (constantShabal 0) sampleConfig (sampleHeader 1 2 1)
        (sampleBlock 2 initialBaseTarget) (fun _ => 0) = .ok deadline ∧
      (sampleHeader 1 2 1).timestamp.toNat + deadline.toNat <
        (sampleBlock 2 initialBaseTarget).timestamp.toNat := by
  have hv : verifyGenerationSignature (constantShabal 0) sampleConfig (sampleHeader 1 2 1)
      (sampleBlock 2 initialBaseTarget) (sampleLookup []) (fun _ => 0) = .ok true := by
    unfold verifyGenerationSignature
    rw [calculateDeadline_eq _ _ _ _ _ (by decide)]
    rfl
  exact ⟨by decide, hv, by decide,
    verifyGenerationSignature_exact _ _ _ _ _ _ (by decide) hv (by decide)⟩

/-- The deadline test wraps: over a parent of bits `1`, a block stamped at its parent's own time
can be accepted. -/
theorem verifyGenerationSignature_deadline_wraps :
    calculateDeadline (constantShabal 0xff) sampleConfig (sampleHeader 1 1 1)
        (sampleBlock 1 initialBaseTarget) (fun _ => 0) = .ok (BitVec.ofNat 64 (2^64 - 1)) ∧
    verifyGenerationSignature (constantShabal 0xff) sampleConfig (sampleHeader 1 1 1)
        (sampleBlock 1 initialBaseTarget) (sampleLookup []) (fun _ => 0) = .ok true ∧
    ¬(sampleHeader 1 1 1).timestamp.toNat + (2^64 - 1) <
      (sampleBlock 1 initialBaseTarget).timestamp.toNat := by
  have hd : calculateDeadline (constantShabal 0xff) sampleConfig (sampleHeader 1 1 1)
      (sampleBlock 1 initialBaseTarget) (fun _ => 0) = .ok (BitVec.ofNat 64 (2^64 - 1)) := by
    rw [calculateDeadline_eq _ _ _ _ _ (by decide)]
    rfl
  refine ⟨hd, ?_, by decide⟩
  unfold verifyGenerationSignature
  rw [hd]
  rfl

end PocCore.Consensus
