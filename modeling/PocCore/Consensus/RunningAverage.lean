import PocCore.Consensus.Retarget

namespace PocCore.Consensus

/-- Every product `avgBaseTarget * blockCounter + bits` of the running average fits in 64 bits. -/
def AverageFits : BitVec 64 → Nat → List (BitVec 64) → Prop
  | _, _, [] => True
  | avg, blockCounter, b :: bs =>
    avg.toNat * blockCounter + b.toNat < 2^64 ∧
      AverageFits (averageStep avg blockCounter b) (blockCounter + 1) bs

/-- What the running average keeps after `k` values summing to `S`: it stays in range, and `S`
exceeds `k * avg` by at most `k * (k - 1) / 2`. -/
structure AverageInv (m k S avg : Nat) : Prop where
  pos : 1 ≤ k
  low : m ≤ avg
  high : avg ≤ maxBaseTarget.toNat
  floor_le : k * avg ≤ S
  le_floor_add : S ≤ k * avg + k * (k - 1) / 2

theorem averageStep_toNat (avg b : BitVec 64) (k : Nat) (hfit : avg.toNat * k + b.toNat < 2^64)
    (hk : k + 1 < 2^64) :
    (averageStep avg k b).toNat = (avg.toNat * k + b.toNat) / (k + 1) := by
  simp only [averageStep, BitVec.toNat_udiv, BitVec.toNat_add, BitVec.toNat_mul,
    BitVec.toNat_ofNat, Nat.mod_eq_of_lt (show k < 2^64 by omega), Nat.mod_eq_of_lt hk,
    Nat.mod_mod]
  rw [Nat.mod_add_mod, Nat.mod_eq_of_lt hfit]

theorem AverageInv.step {m k S a v : Nat} (h : AverageInv m k S a)
    (hv : m ≤ v ∧ v ≤ maxBaseTarget.toNat) :
    AverageInv m (k + 1) (S + v) ((a * k + v) / (k + 1)) := by
  have hdiv := Nat.div_add_mod (a * k + v) (k + 1)
  have hrem := Nat.mod_lt (a * k + v) (show 0 < k + 1 by omega)
  have hmk := Nat.mul_le_mul_right k h.low
  have hMk := Nat.mul_le_mul_left k h.high
  have hka : k * a = a * k := Nat.mul_comm k a
  have htri : (k + 1) * (k + 1 - 1) = k * (k - 1) + 2 * k := by
    cases k with
    | zero => rfl
    | succ j => simp only [Nat.add_sub_cancel]; ring
  have h1 := h.floor_le
  have h2 := h.le_floor_add
  refine ⟨by omega, ?_, ?_, by omega, by omega⟩
  · exact (Nat.le_div_iff_mul_le (by omega)).2 (by rw [Nat.mul_succ]; omega)
  · exact Nat.div_le_of_le_mul (by rw [Nat.succ_mul]; omega)

theorem average_product_lt {a v k : Nat} (ha : a ≤ maxBaseTarget.toNat)
    (hv : v ≤ maxBaseTarget.toNat) (hk : k ≤ 24) : a * k + v < 2^64 := by
  have := Nat.mul_le_mul ha hk
  simp only [maxBaseTarget_toNat] at *
  omega

theorem runningAverage_inv (vs : List (BitVec 64)) {m k S : Nat} {avg : BitVec 64}
    (h : AverageInv m k S avg.toNat) (hlen : k + vs.length ≤ 25)
    (hvs : ∀ x ∈ vs, m ≤ x.toNat ∧ x.toNat ≤ maxBaseTarget.toNat) :
    AverageFits avg k vs ∧
      AverageInv m (k + vs.length) (S + (vs.map (·.toNat)).sum)
        (runningAverage avg k vs).toNat := by
  induction vs generalizing k S avg with
  | nil => exact ⟨trivial, by simpa using h⟩
  | cons b bs ih =>
    have hb := hvs b (by simp)
    have hfit := average_product_lt h.high hb.2 (show k ≤ 24 by simp at hlen; omega)
    have hstep := h.step hb
    rw [← averageStep_toNat avg b k hfit (by simp at hlen; omega)] at hstep
    obtain ⟨hfits, hinv⟩ := ih hstep (by simp at hlen; omega) fun x hx => hvs x (by simp [hx])
    refine ⟨⟨hfit, hfits⟩, ?_⟩
    simpa only [List.length_cons, List.map_cons, List.sum_cons, runningAverage, Nat.add_assoc,
      Nat.add_comm 1] using hinv

/-- The long window's accumulator over `n ≤ 25` values never overflows and satisfies
`n * avg ≤ S ≤ n * avg + n * (n - 1) / 2`. -/
theorem runningAverage_mean_bounds (v : BitVec 64) (vs : List (BitVec 64))
    (hn : vs.length + 1 ≤ 25) (hmax : ∀ x ∈ v :: vs, x.toNat ≤ maxBaseTarget.toNat) :
    (∀ (getPrevBlock : FGetPrevBlock) (prev : ChainHeader) (as : List ChainHeader),
      Ancestors getPrevBlock prev as → prev.bits = v → as.map (·.bits) = vs →
      (longWindowLoop getPrevBlock as.length 1 prev.bits prev).1 = runningAverage v 1 vs) ∧
    AverageFits v 1 vs ∧
    (∀ m, (∀ x ∈ v :: vs, m ≤ x.toNat) → m ≤ (runningAverage v 1 vs).toNat) ∧
    (vs.length + 1) * (runningAverage v 1 vs).toNat ≤ ((v :: vs).map (·.toNat)).sum ∧
    ((v :: vs).map (·.toNat)).sum ≤
      (vs.length + 1) * (runningAverage v 1 vs).toNat + (vs.length + 1) * vs.length / 2 := by
  have start (m : Nat) (hm : m ≤ v.toNat) : AverageInv m 1 v.toNat v.toNat :=
    ⟨le_rfl, hm, hmax v (by simp), by omega, by omega⟩
  have run (m : Nat) (hm : ∀ x ∈ v :: vs, m ≤ x.toNat) :=
    runningAverage_inv vs (start m (hm v (by simp))) (by omega)
      fun x hx => ⟨hm x (by simp [hx]), hmax x (by simp [hx])⟩
  obtain ⟨hfits, hinv⟩ := run 0 fun _ _ => Nat.zero_le _
  have hfl := hinv.floor_le
  have hle := hinv.le_floor_add
  simp only [List.map_cons, List.sum_cons, Nat.add_comm 1, Nat.add_sub_cancel] at hfl hle ⊢
  exact ⟨fun _ _ _ hs hv hvs => by rw [longWindowLoop_ancestors hs, hv, hvs],
    hfits, fun m hm => (run m hm).2.low, hfl, hle⟩

theorem runningAverage_mean_bounds_three :
    (∀ (getPrevBlock : FGetPrevBlock) (prev : ChainHeader) (as : List ChainHeader),
      Ancestors getPrevBlock prev as → prev.bits = 1000 → as.map (·.bits) = [2000, 3001] →
      (longWindowLoop getPrevBlock as.length 1 prev.bits prev).1 =
        runningAverage 1000 1 [2000, 3001]) ∧
    AverageFits 1000 1 [2000, 3001] ∧
    (∀ m, (∀ x ∈ [1000#64, 2000, 3001], m ≤ x.toNat) →
      m ≤ (runningAverage 1000 1 [2000, 3001]).toNat) ∧
    ([2000#64, 3001].length + 1) * (runningAverage 1000 1 [2000, 3001]).toNat ≤
      ([1000#64, 2000, 3001].map (·.toNat)).sum ∧
    ([1000#64, 2000, 3001].map (·.toNat)).sum ≤
      ([2000#64, 3001].length + 1) * (runningAverage 1000 1 [2000, 3001]).toNat +
        ([2000#64, 3001].length + 1) * [2000#64, 3001].length / 2 :=
  runningAverage_mean_bounds 1000 [2000, 3001] (by decide) (by simp)

end PocCore.Consensus
