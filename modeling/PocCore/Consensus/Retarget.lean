import PocCore.Consensus.Header
import Mathlib.Tactic.Ring

namespace PocCore.Consensus

/-- The short-window walk `for (i = nHeight - 2; i >= nHeight - 4; i--)`, `n` steps of it;
a missing ancestor leaves `pLastindex` null and breaks. -/
def shortWindowLoop (getPrevBlock : FGetPrevBlock) :
    Nat → BitVec 64 → ChainHeader → BitVec 64 × Option ChainHeader
  | 0, avgBaseTarget, last => (avgBaseTarget, some last)
  | n + 1, avgBaseTarget, last =>
    match getPrevBlock last.prevBlockHash with
    | none => (avgBaseTarget, none)
    | some p => shortWindowLoop getPrevBlock n (avgBaseTarget + p.bits) p

/-- `avgBaseTarget = (avgBaseTarget * blockCounter + bits) / (blockCounter + 1)`. -/
def averageStep (avgBaseTarget : BitVec 64) (blockCounter : Nat) (bits : BitVec 64) :
    BitVec 64 :=
  (avgBaseTarget * BitVec.ofNat 64 blockCounter + bits) / BitVec.ofNat 64 (blockCounter + 1)

/-- The long-window walk `for (i = nHeight - 2, blockCounter = 1; i >= nHeight - 25; ...)`,
`n` steps of it, folding each ancestor into the running average. -/
def longWindowLoop (getPrevBlock : FGetPrevBlock) :
    Nat → Nat → BitVec 64 → ChainHeader → BitVec 64 × Option ChainHeader
  | 0, _, avgBaseTarget, last => (avgBaseTarget, some last)
  | n + 1, blockCounter, avgBaseTarget, last =>
    match getPrevBlock last.prevBlockHash with
    | none => (avgBaseTarget, none)
    | some p => longWindowLoop getPrevBlock n (blockCounter + 1)
        (averageStep avgBaseTarget blockCounter p.bits) p

/-- `block.timestamp() - pLastindex->timestamp()`, taken in `uint32_t` and then widened. -/
def diffTime (block : CoinBlockHeader) (last : ChainHeader) : Int :=
  ((block.timestamp - last.timestamp).toNat : Int)

/-- The short-window retarget from `curBaseTarget = avgBaseTarget / 4`, clamps in source order. -/
def shortWindowTarget (curBaseTarget : BitVec 64) (diffTime : Int) : BitVec 64 :=
  let newBaseTarget := curBaseTarget * BitVec.ofInt 64 diffTime / (300 * 4)
  let newBaseTarget := if newBaseTarget > maxBaseTarget then maxBaseTarget else newBaseTarget
  let newBaseTarget :=
    if newBaseTarget < curBaseTarget * 9 / 10 then curBaseTarget * 9 / 10 else newBaseTarget
  let newBaseTarget := if newBaseTarget = 0 then 1 else newBaseTarget
  if newBaseTarget > curBaseTarget * 11 / 10 then curBaseTarget * 11 / 10 else newBaseTarget

/-- The long-window retarget: `diffTime` clamped to `[targetTimespan / 2, targetTimespan * 2]`,
then the average scaled and clamped against `curBaseTarget = prev.bits()`. -/
def longWindowTarget (curBaseTarget avgBaseTarget : BitVec 64) (diffTime : Int) : BitVec 64 :=
  let targetTimespan : Int := 5 * 60 * 24
  let diffTime := if diffTime < targetTimespan / 2 then targetTimespan / 2 else diffTime
  let diffTime := if diffTime > targetTimespan * 2 then targetTimespan * 2 else diffTime
  let newBaseTarget :=
    avgBaseTarget * BitVec.ofInt 64 diffTime / BitVec.ofInt 64 targetTimespan
  let newBaseTarget := if newBaseTarget > maxBaseTarget then maxBaseTarget else newBaseTarget
  let newBaseTarget := if newBaseTarget = 0 then 1 else newBaseTarget
  let newBaseTarget :=
    if newBaseTarget < curBaseTarget * 8 / 10 then curBaseTarget * 8 / 10 else newBaseTarget
  if newBaseTarget > curBaseTarget * 12 / 10 then curBaseTarget * 12 / 10 else newBaseTarget

/-- `assert(pLastindex != nullptr)` after either walk. -/
def lastIndexNull : Fault := .assertion "pLastindex != nullptr"

/-- `poc::CalculateBaseTarget`: the base target required of `block` on top of `prev`. -/
def calculateBaseTarget (cfg : PocConfig) (prev : ChainHeader) (block : CoinBlockHeader)
    (getPrevBlock : FGetPrevBlock) : Except Fault (BitVec 64) :=
  if prev.height + 1 < cfg.bcoForkBlockHeight then
    .error (.assertion "prev.height + 1 >= BCO_FORK_BLOCK_HEIGHT")
  else
    let nPocGenesisBlockHeight := cfg.pocGenesisHeight
    let nHeight := prev.height + 1
    if nHeight ≤ nPocGenesisBlockHeight then .ok initialBaseTarget
    else if nHeight < nPocGenesisBlockHeight + 4 then .ok initialBaseTarget
    else if nHeight < nPocGenesisBlockHeight + 2700 then
      match shortWindowLoop getPrevBlock 3 prev.bits prev with
      | (_, none) => .error lastIndexNull
      | (avgBaseTarget, some last) =>
        .ok (shortWindowTarget (avgBaseTarget / 4) (diffTime block last))
    else
      match longWindowLoop getPrevBlock 24 1 prev.bits prev with
      | (_, none) => .error lastIndexNull
      | (avgBaseTarget, some last) =>
        .ok (longWindowTarget prev.bits avgBaseTarget (diffTime block last))


/-- The long window's accumulator after folding in `bits`, the first with counter `blockCounter`. -/
def runningAverage : BitVec 64 → Nat → List (BitVec 64) → BitVec 64
  | avgBaseTarget, _, [] => avgBaseTarget
  | avgBaseTarget, blockCounter, b :: bs =>
    runningAverage (averageStep avgBaseTarget blockCounter b) (blockCounter + 1) bs

section Walks

variable {getPrevBlock : FGetPrevBlock}

/-- When the lookup returns every ancestor, the short walk sums their bits and stops on the last. -/
theorem shortWindowLoop_ancestors {h : ChainHeader} {as : List ChainHeader}
    (hs : Ancestors getPrevBlock h as) (avg : BitVec 64) :
    shortWindowLoop getPrevBlock as.length avg h =
      (as.foldl (fun acc a => acc + a.bits) avg, some (as.getLastD h)) := by
  induction as generalizing h avg with
  | nil => rfl
  | cons a as ih =>
    simp only [List.length_cons, shortWindowLoop, hs.1, ih hs.2, List.foldl_cons,
      List.getLastD_cons]

theorem shortWindowLoop_missing {h : ChainHeader} {as : List ChainHeader} {n : Nat}
    (hs : Ancestors getPrevBlock h as) (hnull : getPrevBlock (as.getLastD h).prevBlockHash = none)
    (hn : as.length < n) (avg : BitVec 64) : (shortWindowLoop getPrevBlock n avg h).2 = none := by
  induction as generalizing h avg n with
  | nil =>
    obtain ⟨n, rfl⟩ : ∃ m, n = m + 1 := ⟨n - 1, by simp at hn; omega⟩
    simp [shortWindowLoop, show getPrevBlock h.prevBlockHash = none from hnull]
  | cons a as ih =>
    obtain ⟨n, rfl⟩ : ∃ m, n = m + 1 := ⟨n - 1, by simp at hn; omega⟩
    simp only [shortWindowLoop, hs.1]
    exact ih hs.2 (by rwa [List.getLastD_cons] at hnull) (by simpa using hn) _

theorem longWindowLoop_ancestors {h : ChainHeader} {as : List ChainHeader}
    (hs : Ancestors getPrevBlock h as) (blockCounter : Nat) (avg : BitVec 64) :
    longWindowLoop getPrevBlock as.length blockCounter avg h =
      (runningAverage avg blockCounter (as.map (·.bits)), some (as.getLastD h)) := by
  induction as generalizing h avg blockCounter with
  | nil => rfl
  | cons a as ih =>
    simp only [List.length_cons, longWindowLoop, hs.1, ih hs.2, List.map_cons, runningAverage,
      List.getLastD_cons]

theorem longWindowLoop_missing {h : ChainHeader} {as : List ChainHeader} {n : Nat}
    (hs : Ancestors getPrevBlock h as) (hnull : getPrevBlock (as.getLastD h).prevBlockHash = none)
    (hn : as.length < n) (blockCounter : Nat) (avg : BitVec 64) :
    (longWindowLoop getPrevBlock n blockCounter avg h).2 = none := by
  induction as generalizing h avg n blockCounter with
  | nil =>
    obtain ⟨n, rfl⟩ : ∃ m, n = m + 1 := ⟨n - 1, by simp at hn; omega⟩
    simp [longWindowLoop, show getPrevBlock h.prevBlockHash = none from hnull]
  | cons a as ih =>
    obtain ⟨n, rfl⟩ : ∃ m, n = m + 1 := ⟨n - 1, by simp at hn; omega⟩
    simp only [longWindowLoop, hs.1]
    exact ih hs.2 (by rwa [List.getLastD_cons] at hnull) (by simpa using hn) _ _

end Walks

theorem toNat_clampAbove (x hi : BitVec 64) :
    (if x > hi then hi else x).toNat = min x.toNat hi.toNat := by
  split <;> rename_i h <;> simp only [gt_iff_lt, BitVec.lt_def] at h <;> omega

theorem toNat_clampBelow (x lo : BitVec 64) :
    (if x < lo then lo else x).toNat = max x.toNat lo.toNat := by
  split <;> rename_i h <;> simp only [BitVec.lt_def] at h <;> omega

theorem toNat_floorOne (x : BitVec 64) : (if x = 0 then 1 else x).toNat = max x.toNat 1 := by
  split <;> rename_i h
  · simp [h]
  · have : x.toNat ≠ 0 := fun h0 => h (BitVec.eq_of_toNat_eq (by simpa using h0))
    omega

theorem shortWindowTarget_toNat (cur : BitVec 64) (dt : Int) :
    (shortWindowTarget cur dt).toNat =
      min (max (max (min ((cur * BitVec.ofInt 64 dt).toNat / 1200) maxBaseTarget.toNat)
        (cur.toNat * 9 % 2^64 / 10)) 1) (cur.toNat * 11 % 2^64 / 10) := by
  simp only [shortWindowTarget, toNat_clampAbove, toNat_clampBelow, toNat_floorOne,
    BitVec.toNat_udiv, BitVec.toNat_mul]
  rfl

theorem clampedTime_eq (dt : Int) :
    (if (if dt < 5 * 60 * 24 / 2 then 5 * 60 * 24 / 2 else dt) > 5 * 60 * 24 * 2 then
      5 * 60 * 24 * 2 else if dt < 5 * 60 * 24 / 2 then 5 * 60 * 24 / 2 else dt) =
      min (max dt 3600) 14400 := by
  split_ifs <;> omega

theorem longWindowTarget_toNat (cur avg : BitVec 64) (dt : Int) :
    (longWindowTarget cur avg dt).toNat =
      min (max (max (min (avg.toNat * (min (max dt 3600) 14400).toNat % 2^64 / 7200)
        maxBaseTarget.toNat) 1) (cur.toNat * 8 % 2^64 / 10)) (cur.toNat * 12 % 2^64 / 10) := by
  have h0 : 0 ≤ min (max dt 3600) 14400 := by omega
  have h1 : min (max dt 3600) 14400 < ((2^64 : Nat) : Int) := by omega
  simp only [longWindowTarget, toNat_clampAbove, toNat_clampBelow, toNat_floorOne, clampedTime_eq,
    BitVec.toNat_udiv, BitVec.toNat_mul, BitVec.toNat_ofInt, Int.emod_eq_of_lt h0 h1]
  rfl

section Regimes

variable {cfg : PocConfig} {prev : ChainHeader} {block : CoinBlockHeader}
  {getPrevBlock : FGetPrevBlock}

theorem calculateBaseTarget_bootstrap (hfork : cfg.bcoForkBlockHeight ≤ prev.height + 1)
    (h : prev.height + 1 < cfg.pocGenesisHeight + 4) :
    calculateBaseTarget cfg prev block getPrevBlock = .ok initialBaseTarget := by
  unfold calculateBaseTarget
  simp only [if_neg (Nat.not_lt.mpr hfork)]
  split_ifs <;> rfl

theorem calculateBaseTarget_short (h4 : cfg.pocGenesisHeight + 4 ≤ prev.height + 1)
    (h : prev.height + 1 < cfg.pocGenesisHeight + 2700) :
    calculateBaseTarget cfg prev block getPrevBlock =
      match shortWindowLoop getPrevBlock 3 prev.bits prev with
      | (_, none) => .error lastIndexNull
      | (avgBaseTarget, some last) =>
        .ok (shortWindowTarget (avgBaseTarget / 4) (diffTime block last)) := by
  have : cfg.bcoForkBlockHeight ≤ cfg.pocGenesisHeight := Nat.le_add_right _ _
  unfold calculateBaseTarget
  rw [if_neg (by omega), if_neg (by omega), if_neg (by omega), if_pos h]

theorem calculateBaseTarget_long (h : cfg.pocGenesisHeight + 2700 ≤ prev.height + 1) :
    calculateBaseTarget cfg prev block getPrevBlock =
      match longWindowLoop getPrevBlock 24 1 prev.bits prev with
      | (_, none) => .error lastIndexNull
      | (avgBaseTarget, some last) =>
        .ok (longWindowTarget prev.bits avgBaseTarget (diffTime block last)) := by
  have : cfg.bcoForkBlockHeight ≤ cfg.pocGenesisHeight := Nat.le_add_right _ _
  unfold calculateBaseTarget
  rw [if_neg (by omega), if_neg (by omega), if_neg (by omega), if_neg (by omega)]

end Regimes

end PocCore.Consensus
