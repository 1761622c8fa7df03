import PocCore.Arithmetic.BaseUint
import PocCore.Consensus.Header

namespace PocCore.Plot

open PocCore.Arithmetic PocCore.Consensus

/-- `HASH_SIZE`. -/
def hashSize : Nat := 32

/-- `HASHES_PER_SCOOP`. -/
def hashesPerScoop : Nat := 2

/-- `SCOOP_SIZE`. -/
def scoopSize : Nat := hashesPerScoop * hashSize

/-- `SCOOPS_PER_PLOT`. -/
def scoopsPerPlot : Nat := 4096

/-- `PLOT_SIZE`. -/
def plotSize : Nat := scoopsPerPlot * scoopSize

/-- `HASH_CAP`. -/
def hashCap : Nat := 4096

@[simp] theorem hashSize_eq : hashSize = 32 := rfl

@[simp] theorem scoopSize_eq : scoopSize = 64 := rfl

@[simp] theorem plotSize_eq : plotSize = 262144 := rfl

@[simp] theorem hashCap_eq : hashCap = 4096 := rfl

/-- Shabal-256 as the core uses it: `Write(a).Write(b).Finalize(out)` digests `a ++ b`. -/
abbrev Shabal256 := List (BitVec 8) → BtcUint256

/-- Modelled from the spec: `UintToArith256` reads the blob as a little-endian integer. -/
def uintToArith256 (b : BtcUint256) : ArithUint256 :=
  ⟨(List.range 8).map fun i => BitVec.ofNat 32 (leValue ((b.data.drop (4 * i)).take 4)),
    by simp⟩

/-- Modelled from the spec: `operator%(uint32_t b32)` is the remainder of the value. -/
def BaseUint.modUInt32 {WIDTH : Nat} (a : BaseUint WIDTH) (b32 : BitVec 32) : BitVec 32 :=
  BitVec.ofNat 32 (a.value % b32.toNat)

section Engine

variable (shabal : Shabal256)

/-- `poc::GetBlockGenerationSignature`: the digest of the reversed merkle root and `plotseed`. -/
def getBlockGenerationSignature (prevBlock : CoinBlockHeader) : BtcUint256 :=
  shabal (prevBlock.merkleRoot.reverse ++ nativeBytes prevBlock.plotseed)

/-- `poc::shabal256(genSig, nMix64)`. -/
def shabal256 (genSig : BtcUint256) (nMix64 : BitVec 64) : BtcUint256 :=
  shabal (genSig.data ++ nativeBytes nMix64)

/-- `poc::GetBlockScoopNum`. -/
def getBlockScoopNum (genSig : BtcUint256) (nHeight : Nat) : BitVec 32 :=
  BaseUint.modUInt32 (uintToArith256 (shabal256 shabal genSig (htobe64 (BitVec.ofNat 64 nHeight))))
    4096

/-- The fill loop `for (i = PLOT_SIZE; i > 0; i -= HASH_SIZE)`, its last `n` turns. -/
def plotFill : Nat → List (BitVec 8) → Except Fault (List (BitVec 8))
  | 0, gendata => .ok gendata
  | n + 1, gendata => do
    let i := hashSize * (n + 1)
    let len := plotSize + 16 - i
    let len := if len > hashCap then hashCap else len
    let temp := shabal (← readBytes gendata i len)
    let gendata ← memcpy gendata (i - hashSize) temp.data
    plotFill n gendata

/-- `data[i] = gendata[i] ^ base.begin()[i % HASH_SIZE]` for `0 ≤ i < PLOT_SIZE`. -/
def xorPass (gendata : List (BitVec 8)) (base : BtcUint256) : Except Fault (List (BitVec 8)) :=
  (List.range plotSize).mapM fun i => do
    return (← readByte gendata i) ^^^ (← readByte base.data (i % hashSize))

/-- `poc::CalculateDeadline`; `fresh` is what `new uint8_t[PLOT_SIZE + 16]` leaves in `gendata`. -/
def calculateDeadline (cfg : PocConfig) (prev : ChainHeader) (block : CoinBlockHeader)
    (fresh : Fin (plotSize + 16) → BitVec 8) : Except Fault (BitVec 64) := do
  if prev.height + 1 ≤ cfg.pocGenesisHeight then return 0
  let genSig := getBlockGenerationSignature shabal prev.toCoinBlockHeader
  let scopeNum := getBlockScoopNum shabal genSig (prev.height + 1)
  let addr := htobe64 block.plotseed
  let nonce := htobe64 block.nonce
  let gendata ← memcpy (List.ofFn fresh) plotSize (nativeBytes addr)
  let gendata ← memcpy gendata (plotSize + 8) (nativeBytes nonce)
  let gendata ← plotFill shabal (plotSize / hashSize) gendata
  let base := shabal (← readBytes gendata 0 (plotSize + 16))
  let data ← xorPass gendata base
  let scoop ← readBytes data (scopeNum * BitVec.ofNat 32 scoopSize).toNat scoopSize
  let base := shabal (genSig.data ++ scoop)
  if prev.bits = 0 then throw .divisionByZero
  return getUint64 base 0 / prev.bits

end Engine

end PocCore.Plot
