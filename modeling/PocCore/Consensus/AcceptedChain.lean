import PocCore.Consensus.Verify
import Mathlib.Tactic.IntervalCases

namespace PocCore.Consensus

open PocCore.Plot

section Chain

variable (shabal : Shabal256) (cfg : PocConfig) (getPrevBlock : FGetPrevBlock)

/-- A header of a chain whose every header from `BCO_FORK_BLOCK_HEIGHT` on was accepted by
`VerifyGenerationSignature` against the parent `getPrevBlock` returns for it. -/
inductive AcceptedChain : ChainHeader → Prop
  | root {h : ChainHeader} : h.height < cfg.bcoForkBlockHeight → AcceptedChain h
  | extend {prev h : ChainHeader} : AcceptedChain prev →
      getPrevBlock h.prevBlockHash = some prev → h.height = prev.height + 1 →
      (cfg.bcoForkBlockHeight ≤ h.height → ∃ fresh, verifyGenerationSignature shabal cfg prev
        h.toCoinBlockHeader getPrevBlock fresh = .ok true) →
      AcceptedChain h

variable {shabal cfg getPrevBlock}

/-- The walk back from a header `n` or more above the fork finds `n` ancestors on the chain. -/
theorem AcceptedChain.ancestors {h : ChainHeader} (hc : AcceptedChain shabal cfg getPrevBlock h) :
    ∀ n, n ≤ h.height - cfg.bcoForkBlockHeight → ∃ as : List ChainHeader, as.length = n ∧
      Ancestors getPrevBlock h as ∧ ∀ a ∈ as, AcceptedChain shabal cfg getPrevBlock a ∧
        h.height ≤ a.height + n ∧ a.height < h.height := by
  induction hc with
  | root hlt => intro n hn; exact ⟨[], by simp; omega, trivial, by simp⟩
  | @extend prev h hprev hlook hheight _ ih =>
    intro n hn
    cases n with
    | zero => exact ⟨[], rfl, trivial, by simp⟩
    | succ n =>
      obtain ⟨as, hlen, has, hmem⟩ := ih n (by omega)
      refine ⟨prev :: as, by simp [hlen], ⟨hlook, has⟩, fun a ha => ?_⟩
      rcases List.mem_cons.1 ha with rfl | ha
      · exact ⟨hprev, by omega, by omega⟩
      · obtain ⟨ha, hlo, hhi⟩ := hmem a ha
        exact ⟨ha, by omega, by omega⟩

theorem AcceptedChain.baseTarget_mem_range {prev : ChainHeader}
    (hc : AcceptedChain shabal cfg getPrevBlock prev)
    (hfork : cfg.bcoForkBlockHeight ≤ prev.height + 1)
    (hbits : ∀ a, AcceptedChain shabal cfg getPrevBlock a → cfg.bcoForkBlockHeight ≤ a.height →
      a.height ≤ prev.height → 1 ≤ a.bits.toNat ∧ a.bits.toNat ≤ maxBaseTarget.toNat)
    (block : CoinBlockHeader) :
    ∃ r, calculateBaseTarget cfg prev block getPrevBlock = .ok r ∧
      1 ≤ r.toNat ∧ r.toNat ≤ maxBaseTarget.toNat := by
  obtain ⟨as, hlen, has, hmem⟩ :=
    hc.ancestors (min 24 (prev.height - cfg.bcoForkBlockHeight)) (Nat.min_le_right _ _)
  have hg : cfg.bcoForkBlockHeight ≤ cfg.pocGenesisHeight := Nat.le_add_right _ _
  have hanc : ∀ a ∈ as, 1 ≤ a.bits.toNat ∧ a.bits.toNat ≤ maxBaseTarget.toNat := fun a ha =>
    have ⟨hca, hlo, hhi⟩ := hmem a ha
    hbits a hca (by omega) (by omega)
  refine calculateBaseTarget_mem_range hfork has (fun h4 _ => ⟨by omega, fun x hx => ?_⟩)
    fun h => ⟨by omega, hbits prev hc (by omega) le_rfl⟩
  rcases List.mem_cons.1 hx with rfl | hx
  · exact hbits _ hc (by omega) le_rfl
  · exact hanc x (List.mem_of_mem_take hx)

theorem AcceptedChain.bits_mem_range_below (k : Nat) :
    ∀ h, AcceptedChain shabal cfg getPrevBlock h → cfg.bcoForkBlockHeight ≤ h.height →
      h.height < k → 1 ≤ h.bits.toNat ∧ h.bits.toNat ≤ maxBaseTarget.toNat := by
  induction k with
  | zero => intro h _ _ hk; omega
  | succ k ih =>
    intro h hc hfork hk
    cases hc with
    | root hlt => omega
    | @extend prev _ hprev _ hheight hacc =>
      obtain ⟨fresh, hv⟩ := hacc hfork
      obtain ⟨-, hbt, -⟩ := verifyGenerationSignature_eq_true _ _ _ _ _ _ hv
      obtain ⟨r, hr, hrange⟩ := hprev.baseTarget_mem_range (by omega)
        (fun a ha hfa hle => ih a ha hfa (by omega)) h.toCoinBlockHeader
      rw [hbt] at hr
      cases hr
      exact hrange

theorem AcceptedChain.bits_mem_range {h : ChainHeader}
    (hc : AcceptedChain shabal cfg getPrevBlock h) (hfork : cfg.bcoForkBlockHeight ≤ h.height) :
    1 ≤ h.bits.toNat ∧ h.bits.toNat ≤ maxBaseTarget.toNat :=
  bits_mem_range_below (h.height + 1) h hc hfork (Nat.lt_succ_self _)

theorem AcceptedChain.deadline_returns {h : ChainHeader}
    (hc : AcceptedChain shabal cfg getPrevBlock h) (block : CoinBlockHeader)
    (fresh : Fin (plotSize + 16) → BitVec 8) :
    ∃ deadline, calculateDeadline shabal cfg h block fresh = .ok deadline := by
  by_cases hh : h.height + 1 ≤ cfg.pocGenesisHeight
  · exact ⟨0, calculateDeadline_of_le shabal cfg h block fresh hh⟩
  have hg : cfg.bcoForkBlockHeight ≤ cfg.pocGenesisHeight := Nat.le_add_right _ _
  obtain ⟨d, hd, -⟩ :=
    calculateDeadline_le shabal cfg h block fresh (hc.bits_mem_range (by omega)).1
  exact ⟨d, hd⟩

/-- On top of a header of the chain, from the fork on, `VerifyGenerationSignature` returns. -/
theorem AcceptedChain.verify_returns {h : ChainHeader}
    (hc : AcceptedChain shabal cfg getPrevBlock h) (hfork : cfg.bcoForkBlockHeight ≤ h.height + 1)
    (block : CoinBlockHeader) (fresh : Fin (plotSize + 16) → BitVec 8) :
    ∃ accepted, verifyGenerationSignature shabal cfg h block getPrevBlock fresh = .ok accepted := by
  obtain ⟨r, hr, -⟩ := hc.baseTarget_mem_range hfork
    (fun _ ha hfa _ => ha.bits_mem_range hfa) block
  obtain ⟨d, hd⟩ := hc.deadline_returns block fresh
  unfold verifyGenerationSignature
  simp only [hr, hd, ok_bind, pure_bind]
  split_ifs <;> exact ⟨_, rfl⟩

end Chain

/-- The base-target invariant of accepted chains: bits and required base targets stay in
`[1, MAX_BASE_TARGET]`, and the deadline engine never divides by zero. -/
theorem acceptedChain_base_target_mem_range {shabal : Shabal256} {cfg : PocConfig}
    {getPrevBlock : FGetPrevBlock} {h : ChainHeader}
    (hc : AcceptedChain shabal cfg getPrevBlock h) :
    (cfg.bcoForkBlockHeight ≤ h.height → 1 ≤ h.bits.toNat ∧ h.bits.toNat ≤ maxBaseTarget.toNat) ∧
    (∀ block, cfg.bcoForkBlockHeight ≤ h.height + 1 → ∃ r,
      calculateBaseTarget cfg h block getPrevBlock = .ok r ∧
        1 ≤ r.toNat ∧ r.toNat ≤ maxBaseTarget.toNat) ∧
    (∀ block fresh, ∃ deadline, calculateDeadline shabal cfg h block fresh = .ok deadline) :=
  ⟨hc.bits_mem_range,
    fun block hfork => hc.baseTarget_mem_range hfork (fun _ ha hfa _ => ha.bits_mem_range hfa) block,
    hc.deadline_returns⟩

/-- Under the all-zero hasher every deadline is zero. -/
theorem calculateDeadline_constantShabal_zero (cfg : PocConfig) (prev : ChainHeader)
    (block : CoinBlockHeader) (fresh : Fin (plotSize + 16) → BitVec 8) (hb : prev.bits ≠ 0) :
    calculateDeadline (constantShabal 0) cfg prev block fresh = .ok 0 := by
  by_cases hh : prev.height + 1 ≤ cfg.pocGenesisHeight
  · exact calculateDeadline_of_le _ _ _ _ _ hh
  · rw [calculateDeadline_eq _ _ _ _ _ (by omega), if_neg hb]
    exact congrArg Except.ok BitVec.zero_udiv

/-- Height `k` of a chain at `INITIAL_BASE_TARGET`, blocks 300 seconds apart. -/
def steadyHeader (k : Nat) : ChainHeader := sampleHeader k initialBaseTarget (300 * k)

theorem steadyHeader_verify {k : Nat} (hk : k < 5) :
    verifyGenerationSignature (constantShabal 0) sampleConfig (steadyHeader k)
      (steadyHeader (k + 1)).toCoinBlockHeader (sampleLookup ((List.range 5).map steadyHeader))
      (fun _ => 0) = .ok true := by
  rw [verifyGenerationSignature, calculateDeadline_constantShabal_zero sampleConfig
    (steadyHeader k) _ _ (show initialBaseTarget ≠ 0 by decide)]
  interval_cases k <;> rfl

/-- Heights 0 to 5 are accepted under the all-zero hasher; height 5 is retargeted by the short
window. -/
theorem steadyHeader_accepted : ∀ k, k ≤ 5 → AcceptedChain (constantShabal 0) sampleConfig
    (sampleLookup ((List.range 5).map steadyHeader)) (steadyHeader k)
  | 0, _ => .root (by decide)
  | k + 1, hk =>
    have hk : k < 5 := by omega
    .extend (steadyHeader_accepted k (by omega)) (by interval_cases k <;> rfl) rfl
      fun _ => ⟨fun _ => 0, steadyHeader_verify hk⟩

theorem acceptedChain_base_target_mem_range_sample :
    AcceptedChain (constantShabal 0) sampleConfig
      (sampleLookup ((List.range 5).map steadyHeader)) (steadyHeader 5) ∧
    (sampleConfig.bcoForkBlockHeight ≤ (steadyHeader 5).height →
      1 ≤ (steadyHeader 5).bits.toNat ∧ (steadyHeader 5).bits.toNat ≤ maxBaseTarget.toNat) ∧
    (∀ block, sampleConfig.bcoForkBlockHeight ≤ (steadyHeader 5).height + 1 →
      ∃ r, calculateBaseTarget sampleConfig (steadyHeader 5) block
          (sampleLookup ((List.range 5).map steadyHeader)) = .ok r ∧
        1 ≤ r.toNat ∧ r.toNat ≤ maxBaseTarget.toNat) ∧
    (∀ block fresh, ∃ deadline, calculateDeadline (constantShabal 0) sampleConfig
      (steadyHeader 5) block fresh = .ok deadline) :=
  have hc := steadyHeader_accepted 5 le_rfl
  ⟨hc, acceptedChain_base_target_mem_range hc⟩

theorem AcceptedChain.verify_returns_sample :
    AcceptedChain (constantShabal 0) sampleConfig
      (sampleLookup ((List.range 5).map steadyHeader)) (steadyHeader 5) ∧
    sampleConfig.bcoForkBlockHeight ≤ (steadyHeader 5).height + 1 ∧
    ∃ accepted, verifyGenerationSignature (constantShabal 0) sampleConfig
      (steadyHeader 5) (sampleBlock 1800 initialBaseTarget)
      (sampleLookup ((List.range 5).map steadyHeader)) (fun _ => 0) = .ok accepted :=
  have hc := steadyHeader_accepted 5 le_rfl
  ⟨hc, by decide, hc.verify_returns (by decide) _ _⟩

end PocCore.Consensus
