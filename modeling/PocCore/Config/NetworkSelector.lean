import PocCore.Machine.Bytes

namespace PocCore.Config

/-- `::tolower` in the C locale: `A` to `Z` become `a` to `z`, every other byte stays. -/
def tolower (c : BitVec 8) : BitVec 8 := if 65 ≤ c.toNat ∧ c.toNat ≤ 90 then c + 32 else c

/-- The name `"bco"`. -/
def bcoName : List (BitVec 8) := [0x62, 0x63, 0x6F]

theorem map_tolower_bcoName : bcoName.map tolower = bcoName := by decide

/-- The exceptions of `NetworkSelector`, declared in CoinQ_coinparams.h (not under src/). -/
inductive NetworkSelectorException where
  | noNetworkSelected
  | networkNotRecognized (networkName : List (BitVec 8))
  deriving DecidableEq, Repr

/-- `NetworkSelector`: `network_map_` as its entries in key order, and `selected_`. -/
structure NetworkSelector (P : Type) where
  networkMap : List (List (BitVec 8) × P)
  selected : List (BitVec 8)

namespace NetworkSelector

variable {P : Type}

/-- `getNetworkNames()`: the keys of `network_map_` in order. -/
def getNetworkNames (sel : NetworkSelector P) : List (List (BitVec 8)) := sel.networkMap.map (·.1)

/-- `select(network_name)`: the lower-cased name becomes `selected_` if `network_map_` has it. -/
def select (sel : NetworkSelector P) (networkName : List (BitVec 8)) :
    Except NetworkSelectorException (NetworkSelector P) :=
  let lowerNetworkName := networkName.map tolower
  if (sel.networkMap.lookup lowerNetworkName).isNone then
    .error (.networkNotRecognized lowerNetworkName)
  else .ok { sel with selected := lowerNetworkName }

/-- `getCoinParams(network_name)`: the named network's parameters, the selected one's for `""`. -/
def getCoinParams (sel : NetworkSelector P) (networkName : List (BitVec 8)) :
    Except NetworkSelectorException P :=
  let lowerNetworkName := if networkName.isEmpty then sel.selected else networkName
  if lowerNetworkName.isEmpty then .error .noNetworkSelected
  else
    let lowerNetworkName := lowerNetworkName.map tolower
    match sel.networkMap.lookup lowerNetworkName with
    | some params => .ok params
    | none => .error (.networkNotRecognized lowerNetworkName)

/-- `NetworkSelector(network_name)`: the one network `bco`, then `select` unless the name is empty. -/
def create (bcoParams : P) (networkName : List (BitVec 8)) :
    Except NetworkSelectorException (NetworkSelector P) :=
  let sel : NetworkSelector P := ⟨[(bcoName, bcoParams)], []⟩
  if networkName.isEmpty then .ok sel else sel.select networkName

/-- The selectors a program can hold: the constructor's, and those `select` returns from them. -/
inductive Reach (bcoParams : P) : NetworkSelector P → Prop
  | create {networkName : List (BitVec 8)} {sel : NetworkSelector P} :
      create bcoParams networkName = .ok sel → Reach bcoParams sel
  | select {sel sel' : NetworkSelector P} {networkName : List (BitVec 8)} :
      Reach bcoParams sel → sel.select networkName = .ok sel' → Reach bcoParams sel'

section Runs

variable {bcoParams : P} {sel sel' : NetworkSelector P}

theorem lookup_bcoName (p : P) (n : List (BitVec 8)) :
    [(bcoName, p)].lookup n = if n = bcoName then some p else none := by
  show (match n == bcoName with | true => some p | false => none) = _
  by_cases h : n = bcoName
  · rw [if_pos h, h, beq_self_eq_true]
  · rw [if_neg h, beq_eq_false_iff_ne.2 h]

theorem select_eq_ok {networkName : List (BitVec 8)} (h : sel.select networkName = .ok sel') :
    (sel.networkMap.lookup (networkName.map tolower)).isSome = true ∧
      sel' = { sel with selected := networkName.map tolower } := by
  dsimp only [select] at h
  split_ifs at h with hn
  cases h
  exact ⟨by simpa using hn, rfl⟩

/-- What every selector keeps: `network_map_` holds `bco` alone, and `selected_` is empty or `bco`. -/
def Good (bcoParams : P) (sel : NetworkSelector P) : Prop :=
  sel.networkMap = [(bcoName, bcoParams)] ∧ (sel.selected = [] ∨ sel.selected = bcoName)

theorem Good.select (hg : Good bcoParams sel) (h : sel.select networkName = .ok sel') :
    networkName.map tolower = bcoName ∧ Good bcoParams sel' := by
  obtain ⟨hs, rfl⟩ := select_eq_ok h
  rw [hg.1, lookup_bcoName] at hs
  split_ifs at hs with hn
  · exact ⟨hn, hg.1, .inr hn⟩
  · cases hs

theorem Reach.good (hr : Reach bcoParams sel) : Good bcoParams sel := by
  induction hr with
  | create h =>
    dsimp only [NetworkSelector.create] at h
    split_ifs at h
    · cases h; exact ⟨rfl, .inl rfl⟩
    · exact (Good.select ⟨rfl, .inl rfl⟩ h).2
  | select _ h ih => exact (ih.select h).2

/-- Every selector a program holds knows `bco` alone, case-insensitively, and an empty name
asks for the selected network or throws that none is selected. -/
theorem Reach.networkSelector_spec (hr : Reach bcoParams sel) :
    sel.getNetworkNames = [bcoName] ∧
    (∀ networkName, (∃ sel', sel.select networkName = .ok sel') ↔
      networkName.map tolower = bcoName) ∧
    ∀ networkName, sel.getCoinParams networkName =
      if networkName = [] then
        (if sel.selected = [] then .error .noNetworkSelected else .ok bcoParams)
      else if networkName.map tolower = bcoName then .ok bcoParams
      else .error (.networkNotRecognized (networkName.map tolower)) := by
  obtain ⟨hm, hs⟩ := hr.good
  refine ⟨by rw [getNetworkNames, hm]; rfl, fun networkName => ⟨fun ⟨_, h⟩ =>
    (Good.select ⟨hm, hs⟩ h).1, fun hn => ?_⟩, fun networkName => ?_⟩
  · refine ⟨{ sel with selected := networkName.map tolower }, ?_⟩
    dsimp only [NetworkSelector.select]
    rw [hm, lookup_bcoName, if_pos hn]
    rfl
  · have hne : bcoName ≠ [] := List.cons_ne_nil _ _
    unfold getCoinParams
    rw [hm]
    by_cases he : networkName = []
    · subst he
      rcases hs with hs | hs <;> simp [hs, hne, lookup_bcoName, map_tolower_bcoName]
    · by_cases hb : networkName.map tolower = bcoName <;> simp [he, hb, lookup_bcoName]

end Runs

def sampleSelector : NetworkSelector Unit := ⟨[(bcoName, ())], bcoName⟩

theorem Reach.networkSelector_spec_sample :
    Reach () sampleSelector ∧
    sampleSelector.getNetworkNames = [bcoName] ∧
    (∀ networkName, (∃ sel', sampleSelector.select networkName = .ok sel') ↔
      networkName.map tolower = bcoName) ∧
    ∀ networkName, sampleSelector.getCoinParams networkName =
      if networkName = [] then
        (if sampleSelector.selected = [] then .error .noNetworkSelected else .ok ())
      else if networkName.map tolower = bcoName then .ok ()
      else .error (.networkNotRecognized (networkName.map tolower)) :=
  have hr : Reach () sampleSelector := @Reach.create Unit () [0x42, 0x43, 0x4F] _ rfl
  ⟨hr, hr.networkSelector_spec⟩

end NetworkSelector

end PocCore.Config
