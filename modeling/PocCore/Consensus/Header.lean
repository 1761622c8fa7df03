import PocCore.Machine.Bytes

namespace PocCore.Consensus

/-- The coin-specific constants the core reads and the source leaves to the host. -/
structure PocConfig where
  bcoForkBlockHeight : Nat
  bcoInitBlockCount : Nat
  bcoBlockUnixtimeMin : Nat

/-- `nPocGenesisBlockHeight = BCO_FORK_BLOCK_HEIGHT + BCOInitBlockCount`. -/
def PocConfig.pocGenesisHeight (cfg : PocConfig) : Nat :=
  cfg.bcoForkBlockHeight + cfg.bcoInitBlockCount

/-- The fields of `Coin::CoinBlockHeader` that the core reads. -/
structure CoinBlockHeader where
  timestamp : BitVec 32
  bits : BitVec 64
  nonce : BitVec 64
  plotseed : BitVec 64
  prevBlockHash : List (BitVec 8)
  merkleRoot : List (BitVec 8)
  deriving DecidableEq

/-- `ChainHeader`: a header of the chain index with its height. -/
structure ChainHeader extends CoinBlockHeader where
  height : Nat
  deriving DecidableEq

/-- `FGetPrevBlock`: finds a header by its hash; `none` is the null pointer. -/
abbrev FGetPrevBlock := List (BitVec 8) → Option ChainHeader

/-- `INITIAL_BASE_TARGET`. -/
def initialBaseTarget : BitVec 64 := 18325193796

/-- `MAX_BASE_TARGET`. -/
def maxBaseTarget : BitVec 64 := 18325193796

@[simp] theorem initialBaseTarget_toNat : initialBaseTarget.toNat = 18325193796 := rfl

@[simp] theorem maxBaseTarget_toNat : maxBaseTarget.toNat = 18325193796 := rfl

/-- `getPrevBlock` walks back from `h` through `as`, one parent lookup a header. -/
def Ancestors (getPrevBlock : FGetPrevBlock) : ChainHeader → List ChainHeader → Prop
  | _, [] => True
  | h, a :: as => getPrevBlock h.prevBlockHash = some a ∧ Ancestors getPrevBlock a as

instance Ancestors.decide (getPrevBlock : FGetPrevBlock) :
    ∀ h as, Decidable (Ancestors getPrevBlock h as)
  | _, [] => isTrue trivial
  | h, a :: as =>
    have := Ancestors.decide getPrevBlock a as
    inferInstanceAs (Decidable (getPrevBlock h.prevBlockHash = some a ∧ _))

theorem Ancestors.take {getPrevBlock : FGetPrevBlock} {h : ChainHeader} {as : List ChainHeader}
    (n : Nat) (hs : Ancestors getPrevBlock h as) : Ancestors getPrevBlock h (as.take n) := by
  induction as generalizing h n with
  | nil => simp [Ancestors]
  | cons a as ih =>
    cases n with
    | zero => simp [Ancestors]
    | succ n => exact ⟨hs.1, ih n hs.2⟩

end PocCore.Consensus
