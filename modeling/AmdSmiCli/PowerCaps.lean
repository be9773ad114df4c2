import AmdSmiCli.Interface

/-!
# The power-cap range

`get_power_caps` folds the power-cap info of every processor into `(power_cap_min, power_cap_max)`, starting from
`UINT64_T` and `0` (`capStep`). The maximum is updated against the running maximum, and so is the minimum: a device's
`min_power_cap` replaces the running minimum whenever it is below the running *maximum*.

- `powerCapsLoop_foldl`: when every query returns, the loop is a fold of `capStep` over the devices' infos;
- `power_caps_max`: the returned maximum is the largest `max_power_cap`, and the returned minimum is one of the
  devices' `min_power_cap`, or `UINT64_T`;
- but not the smallest: a later device with a larger minimum below the maximum replaces it
  (`power_caps_min_last_below_max`).
-/

namespace AmdSmiCli

/-- `amdsmi_interface.MaxUIntegerTypes.UINT64_T`. -/
def uint64Max : Nat := 18446744073709551615

/-- The body of the loop on one device's `power_cap_info`, from `(power_cap_min, power_cap_max)`. -/
def capStep (acc : Nat × Nat) (powerCapInfo : PowerCapInfo) : Nat × Nat :=
  let powerCapMax := if powerCapInfo.maxPowerCap > acc.2 then powerCapInfo.maxPowerCap else acc.2
  (if powerCapInfo.minPowerCap < powerCapMax then powerCapInfo.minPowerCap else acc.1, powerCapMax)

/-- The loop `for dev in device_handles:`. -/
def powerCapsLoop (lib : Lib) : List Handle → Nat × Nat → Except PyExc (Nat × Nat)
  | [], acc => .ok acc
  | dev :: rest, acc => do
    let powerCapInfo ← lib.amdsmiGetPowerCapInfo dev
    powerCapsLoop lib rest (capStep acc powerCapInfo)

/-- `get_power_caps`. -/
def getPowerCaps (lib : Lib) : Except PyExc (Nat × Nat) := do
  let deviceHandles ← lib.amdsmiGetProcessorHandles
  powerCapsLoop lib deviceHandles (uint64Max, 0)

/-! ## The fold -/

theorem powerCapsLoop_foldl {lib : Lib} {info : Handle → PowerCapInfo} :
    ∀ {hs : List Handle}, (∀ h ∈ hs, lib.amdsmiGetPowerCapInfo h = .ok (info h)) →
      ∀ acc, powerCapsLoop lib hs acc = .ok ((hs.map info).foldl capStep acc)
  | [], _, _ => rfl
  | h :: hs, hq, acc => by
    simp only [powerCapsLoop, hq h (List.mem_cons_self _ _), bind, Except.bind, List.map_cons, List.foldl_cons]
    exact powerCapsLoop_foldl (fun x hx => hq x (List.mem_cons_of_mem _ hx)) _

/-- The maximum the fold reaches: the largest of the start and of every `max_power_cap`. -/
theorem foldl_capStep_max (infos : List PowerCapInfo) :
    ∀ acc, (infos.foldl capStep acc).2 = infos.foldl (fun m i => max m i.maxPowerCap) acc.2 := by
  induction infos with
  | nil => exact fun _ => rfl
  | cons i infos ih =>
    intro acc
    rw [List.foldl_cons, List.foldl_cons, ih]
    congr 1
    simp only [capStep]
    split <;> omega

/-- The minimum the fold ends with is the start or one of the `min_power_cap`. -/
theorem foldl_capStep_min_mem (infos : List PowerCapInfo) :
    ∀ acc, (infos.foldl capStep acc).1 ∈ acc.1 :: infos.map (·.minPowerCap) := by
  induction infos with
  | nil => exact fun _ => List.mem_singleton_self _
  | cons i infos ih =>
    intro acc
    have hstep : (capStep acc i).1 = i.minPowerCap ∨ (capStep acc i).1 = acc.1 := by
      simp only [capStep]; exact ite_eq_or_eq _ _ _
    rw [List.foldl_cons, List.map_cons]
    rcases List.mem_cons.1 (ih (capStep acc i)) with h | h
    · rcases hstep with h' | h' <;> simp [h, h']
    · exact List.mem_cons_of_mem _ (List.mem_cons_of_mem _ h)

/-- **The power-cap range**: with every query returning, `get_power_caps` returns as its maximum the largest
`max_power_cap` (`0` with no device), and as its minimum `UINT64_T` or one of the `min_power_cap`. -/
theorem power_caps_max (lib : Lib) (hs : List Handle) (info : Handle → PowerCapInfo)
    (he : lib.amdsmiGetProcessorHandles = .ok hs) (hq : ∀ h ∈ hs, lib.amdsmiGetPowerCapInfo h = .ok (info h)) :
    ∃ r, getPowerCaps lib = .ok r ∧ r.2 = (hs.map info).foldl (fun m i => max m i.maxPowerCap) 0 ∧
      r.1 ∈ uint64Max :: hs.map (fun h => (info h).minPowerCap) := by
  refine ⟨_, by simp only [getPowerCaps, he, bind, Except.bind]; exact powerCapsLoop_foldl hq _,
    foldl_capStep_max _ _, ?_⟩
  simpa [List.map_map] using foldl_capStep_min_mem (hs.map info) (uint64Max, 0)

/-- Two devices with caps `10..100` and `50..100`. -/
theorem power_caps_two_devices :
    ∃ r, getPowerCaps { Lib.idle with
        amdsmiGetProcessorHandles := .ok [⟨0⟩, ⟨1⟩]
        amdsmiGetPowerCapInfo := fun h => .ok (if h = ⟨0⟩ then ⟨10, 100⟩ else ⟨50, 100⟩) } = .ok r ∧
      r.2 = ([⟨0⟩, ⟨1⟩].map fun h : Handle =>
        if h = ⟨0⟩ then (⟨10, 100⟩ : PowerCapInfo) else ⟨50, 100⟩).foldl
          (fun m i => max m i.maxPowerCap) 0 ∧
      r.1 ∈ uint64Max :: [⟨0⟩, ⟨1⟩].map (fun h : Handle =>
        (if h = ⟨0⟩ then (⟨10, 100⟩ : PowerCapInfo) else ⟨50, 100⟩).minPowerCap) :=
  power_caps_max _ [⟨0⟩, ⟨1⟩] (fun h => if h = ⟨0⟩ then ⟨10, 100⟩ else ⟨50, 100⟩) rfl fun _ _ => rfl

/-- Two devices with caps `10..100` and `50..100`: the second minimum is below the running maximum and replaces the
first, so `get_power_caps` returns `(50, 100)`. -/
theorem power_caps_min_last_below_max :
    getPowerCaps { Lib.idle with
      amdsmiGetProcessorHandles := .ok [⟨0⟩, ⟨1⟩]
      amdsmiGetPowerCapInfo := fun h => .ok (if h = ⟨0⟩ then ⟨10, 100⟩ else ⟨50, 100⟩) } =
      .ok (50, 100) := by
  decide

end AmdSmiCli
