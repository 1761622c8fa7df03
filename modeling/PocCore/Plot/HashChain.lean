import PocCore.Plot.Deadline
import PocCore.Consensus.RetargetBounds

namespace PocCore.Plot

open PocCore.Consensus

section Chain

variable (shabal : Shabal256)

/-- The hash chain a plot is made of, newest digest first: `plotChain seed j = h_j ++ ... ++ h_1 ++ seed`. -/
def plotChain (seed : List (BitVec 8)) : Nat → List (BitVec 8)
  | 0 => seed
  | j + 1 => (shabal ((plotChain seed j).take (min (32 * j + 16) 4096))).data ++ plotChain seed j

/-- The plot of a seed: the chain of `8192` digests xored with the digest of the whole chain. -/
def plotBytes (seed : List (BitVec 8)) : List (BitVec 8) :=
  let chain := plotChain shabal seed 8192
  let base := shabal chain
  (List.range 262144).map fun i => chain.getD i 0 ^^^ base.data.getD (i % 32) 0

/-- The seed a plot is grown from: the plot seed and the nonce, each big-endian. -/
def plotSeed (block : CoinBlockHeader) : List (BitVec 8) :=
  be64 block.plotseed ++ be64 block.nonce

/-- The little-endian value of a digest's first eight bytes. -/
def le64 (digest : BtcUint256) : BitVec 64 :=
  BitVec.ofNat 64 (leValue (digest.data.take 8))

@[simp] theorem length_plotChain (seed : List (BitVec 8)) (j : Nat) :
    (plotChain shabal seed j).length = 32 * j + seed.length := by
  induction j with
  | zero => simp [plotChain]
  | succ j ih => simp only [plotChain, List.length_append, BtcUint256.length_data, ih]; omega

@[simp] theorem length_plotBytes (seed : List (BitVec 8)) :
    (plotBytes shabal seed).length = 262144 := by
  simp [plotBytes]

theorem plotFill_succ {seed junk : List (BitVec 8)} {m j : Nat} (hseed : seed.length = 16)
    (hmj : m + 1 + j = 8192) (hjunk : junk.length = 32 * (m + 1)) :
    plotFill shabal (m + 1) (junk ++ plotChain shabal seed j) =
      plotFill shabal m (junk.take (32 * m) ++ plotChain shabal seed (j + 1)) := by
  have hlen : (if plotSize + 16 - hashSize * (m + 1) > hashCap then hashCap
      else plotSize + 16 - hashSize * (m + 1)) = min (32 * j + 16) 4096 := by
    simp only [plotSize_eq, hashSize_eq, hashCap_eq]
    split <;> omega
  have hread : readBytes (junk ++ plotChain shabal seed j) junk.length (min (32 * j + 16) 4096) =
      .ok ((plotChain shabal seed j).take (min (32 * j + 16) 4096)) :=
    readBytes_after (by rw [length_plotChain, hseed]; omega)
  have hcopy : ∀ d : BtcUint256, memcpy (junk ++ plotChain shabal seed j) (32 * m) d.data =
      .ok (junk.take (32 * m) ++ (d.data ++ plotChain shabal seed j)) := fun d => by
    rw [memcpy_before (by rw [d.length_data]; omega), List.append_assoc]
  rw [plotFill, hlen, hashSize_eq, show 32 * (m + 1) - 32 = 32 * m by omega, ← hjunk, hread,
    ok_bind]
  simp only [hcopy, ok_bind]
  rfl

/-- The fill loop's invariant: with `m` turns left above the chain of `j` digests, it leaves `j + m`. -/
theorem plotFill_chain {seed : List (BitVec 8)} (hseed : seed.length = 16) (m : Nat) :
    ∀ j (junk : List (BitVec 8)), m + j = 8192 → junk.length = 32 * m →
      plotFill shabal m (junk ++ plotChain shabal seed j) =
        .ok (plotChain shabal seed (j + m)) := by
  induction m with
  | zero =>
    intro j junk _ hjunk
    rw [List.length_eq_zero.1 hjunk]
    rfl
  | succ m ih =>
    intro j junk hmj hjunk
    rw [plotFill_succ shabal hseed hmj hjunk,
      ih (j + 1) _ (by omega) (by simp only [List.length_take, hjunk]; omega),
      Nat.add_right_comm, Nat.add_assoc]

theorem xorPass_eq {gendata : List (BitVec 8)} (h : plotSize ≤ gendata.length) (base : BtcUint256) :
    xorPass gendata base = .ok ((List.range plotSize).map fun i =>
      gendata.getD i 0 ^^^ base.data.getD (i % hashSize) 0) := by
  refine mapM_of_ok fun i hi => ?_
  have hi : i < gendata.length := by simp only [List.mem_range] at hi; omega
  have hb : i % hashSize < base.data.length := by
    rw [base.length_data, hashSize_eq]; exact Nat.mod_lt _ (by decide)
  simp only [readByte_of_lt hi, readByte_of_lt hb, ok_bind, List.getD_eq_getElem?_getD,
    List.getElem?_eq_getElem hi, List.getElem?_eq_getElem hb, Option.getD_some]
  rfl

theorem getBlockScoopNum_lt (genSig : BtcUint256) (nHeight : Nat) :
    (getBlockScoopNum shabal genSig nHeight).toNat < 4096 := by
  unfold getBlockScoopNum BaseUint.modUInt32
  rw [BitVec.toNat_ofNat]
  exact lt_of_le_of_lt (Nat.mod_le _ _) (Nat.mod_lt _ (by decide))

end Chain

section Deadline

variable (shabal : Shabal256) (cfg : PocConfig) (prev : ChainHeader) (block : CoinBlockHeader)
  (fresh : Fin (plotSize + 16) → BitVec 8)

theorem memcpy_plotSeed {β : Type} (k : List (BitVec 8) → Except Fault β) :
    (memcpy (List.ofFn fresh) plotSize (nativeBytes (htobe64 block.plotseed)) >>= fun g =>
      memcpy g (plotSize + 8) (nativeBytes (htobe64 block.nonce)) >>= k) =
      k ((List.ofFn fresh).take plotSize ++ plotSeed block) := by
  have hl : (List.ofFn fresh).length = plotSize + 16 := List.length_ofFn fresh
  rw [memcpy_of_le (by rw [length_nativeBytes, hl]; omega), length_nativeBytes, ok_bind,
    memcpy_last (by rw [List.length_append, List.length_take, hl, length_nativeBytes]; omega)
      (by rw [length_nativeBytes, List.length_drop, hl]; omega),
    nativeBytes_htobe64, nativeBytes_htobe64, List.append_assoc]
  rfl

theorem getUint64_zero (b : BtcUint256) : getUint64 b 0 = le64 b := by
  rw [getUint64_eq_leValue]
  rfl

/-- Past the genesis height the deadline is the chosen scoop's digest over `prev.bits`. -/
theorem calculateDeadline_eq (hh : cfg.pocGenesisHeight < prev.height + 1) :
    calculateDeadline shabal cfg prev block fresh =
      let genSig := getBlockGenerationSignature shabal prev.toCoinBlockHeader
      let s := (getBlockScoopNum shabal genSig (prev.height + 1)).toNat
      if prev.bits = 0 then .error .divisionByZero else
        .ok (le64 (shabal (genSig.data ++
          ((plotBytes shabal (plotSeed block)).drop (64 * s)).take 64)) / prev.bits) := by
  have hl : (List.ofFn fresh).length = plotSize + 16 := List.length_ofFn fresh
  have hseed : (plotSeed block).length = 16 := by simp [plotSeed, be64]
  have hchain : (plotChain shabal (plotSeed block) 8192).length = plotSize + 16 := by
    rw [length_plotChain, hseed]; rfl
  have hfill : plotFill shabal (plotSize / hashSize) ((List.ofFn fresh).take plotSize ++
      plotSeed block) = .ok (plotChain shabal (plotSeed block) 8192) :=
    plotFill_chain shabal hseed _ 0 _ rfl
      (by rw [List.length_take, hl]; simp only [plotSize_eq, hashSize_eq]; omega)
  have hbase : readBytes (plotChain shabal (plotSeed block) 8192) 0 (plotSize + 16) =
      .ok (plotChain shabal (plotSeed block) 8192) := by
    rw [readBytes_of_le (by omega), List.drop_zero, List.take_of_length_le (by omega)]
  have hxor : xorPass (plotChain shabal (plotSeed block) 8192)
      (shabal (plotChain shabal (plotSeed block) 8192)) = .ok (plotBytes shabal (plotSeed block)) :=
    xorPass_eq (by omega) _
  have hs := getBlockScoopNum_lt shabal (getBlockGenerationSignature shabal prev.toCoinBlockHeader)
    (prev.height + 1)
  unfold calculateDeadline
  rw [if_neg (show ¬prev.height + 1 ≤ cfg.pocGenesisHeight by omega)]
  simp only [pure_bind]
  rw [memcpy_plotSeed, hfill, ok_bind, hbase, ok_bind, hxor, ok_bind]
  generalize getBlockScoopNum shabal (getBlockGenerationSignature shabal prev.toCoinBlockHeader)
    (prev.height + 1) = sn at hs ⊢
  have hoff : (sn * BitVec.ofNat 32 scoopSize).toNat = 64 * sn.toNat := by
    rw [BitVec.toNat_mul, BitVec.toNat_ofNat, scoopSize_eq]; omega
  rw [hoff, readBytes_of_le (by rw [length_plotBytes, scoopSize_eq]; omega), ok_bind,
    getUint64_zero, scoopSize_eq]
  rfl

/-- The deadline engine computes the deadline of the plot the hash chain defines. -/
theorem calculateDeadline_plot_refinement (hbits : 1 ≤ prev.bits.toNat)
    (hh : cfg.pocGenesisHeight < prev.height + 1) :
    let genSig := getBlockGenerationSignature shabal prev.toCoinBlockHeader
    let s := (getBlockScoopNum shabal genSig (prev.height + 1)).toNat
    calculateDeadline shabal cfg prev block fresh =
      .ok (le64 (shabal (genSig.data ++
        ((plotBytes shabal (plotSeed block)).drop (64 * s)).take 64)) / prev.bits) := by
  have hne : prev.bits ≠ 0 := fun h => by simp [h] at hbits
  rw [calculateDeadline_eq shabal cfg prev block fresh hh]
  exact if_neg hne

end Deadline

/-- A stand-in hasher whose every digest is 32 copies of one byte. -/
def constantShabal (b : BitVec 8) : Shabal256 :=
  fun _ => ⟨List.replicate 32 b, List.length_replicate _ _⟩

theorem calculateDeadline_plot_refinement_sample :
    1 ≤ (sampleHeader 4 1000 1300).bits.toNat ∧
    sampleConfig.pocGenesisHeight < (sampleHeader 4 1000 1300).height + 1 ∧
    calculateDeadline (constantShabal 7) sampleConfig (sampleHeader 4 1000 1300)
        (sampleBlock 1400 1000) (fun _ => 0) =
      .ok (le64 (constantShabal 7 ((getBlockGenerationSignature (constantShabal 7)
        (sampleHeader 4 1000 1300).toCoinBlockHeader).data ++
          ((plotBytes (constantShabal 7) (plotSeed (sampleBlock 1400 1000))).drop
            (64 * (getBlockScoopNum (constantShabal 7)
              (getBlockGenerationSignature (constantShabal 7)
                (sampleHeader 4 1000 1300).toCoinBlockHeader) 5).toNat)).take 64))
        / (sampleHeader 4 1000 1300).bits) :=
  ⟨by decide, by decide, calculateDeadline_plot_refinement _ _ _ _ _ (by decide) (by decide)⟩

end PocCore.Plot
