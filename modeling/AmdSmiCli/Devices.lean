import AmdSmiCli.Interface
import AmdSmiCli.IntBase16

/-!
# Per-device queries: the vendor check, the bus addresses and the ROCm version

`is_amd_device` asks the library for a GPU's ASIC information, outside its `try`, and inside it compares
`int(asic_info['vendor_id'], 16)` with `AMD_VENDOR_ID`. Its bare `except` turns a missing key, a vendor id that is no
string and a text that is no hexadecimal literal alike into `False`. `AMD_VENDOR_ID` comes from `amdsmi_init` and is
a parameter here. `get_amd_gpu_bdfs` lists the BDF of every processor handle, and `get_rocm_version` gives the
library's ROCm version or `"N/A"`.

- `vendorMatches_eq_true_iff`: the `try` gives `True` exactly for a string that, made ASCII as `int` does, spells a
  hexadecimal literal of value `AMD_VENDOR_ID`;
- `is_amd_device_vendor`: hence, once the query answers, `is_amd_device` never raises, and says `True` exactly then;
  the spelling `0x`, zeros and the digits of a number, as `hex()` or a padded format writes it, says `True` exactly
  when the number is `AMD_VENDOR_ID`.
-/

namespace AmdSmiCli

/-- The value of `asic_info['vendor_id']`: a `str`, or an object of a type other than `str`, `bytes` and
`bytearray`, on which `int(x, 16)` raises `TypeError`. -/
inductive VendorId where
  | str (s : String)
  | other
  deriving DecidableEq, Repr

/-- The `try` of `is_amd_device` over `asic_info['vendor_id']`, `none` when the key is missing: the bare `except`
turns the `KeyError`, `TypeError` or `ValueError` into `False`. -/
def vendorMatches (amdVendorId : Int) : Option VendorId → Bool
  | some (.str s) =>
    match pyIntBase16 s with
    | some vendorValue => vendorValue == amdVendorId
    | none => false
  | _ => false

/-- `is_amd_device(device_handle)`; `amdsmiGetGpuAsicInfo` gives `asic_info['vendor_id']` of
`amdsmi_get_gpu_asic_info`, `none` when the key is missing. -/
def isAmdDevice (amdVendorId : Int) (amdsmiGetGpuAsicInfo : Handle → Except PyExc (Option VendorId))
    (deviceHandle : Handle) : Except PyExc Bool := do
  let asicInfo ← amdsmiGetGpuAsicInfo deviceHandle
  return vendorMatches amdVendorId asicInfo

/-- `get_amd_gpu_bdfs`: the loop appends `amdsmi_get_gpu_device_bdf` of every handle of
`amdsmi_get_processor_handles()`, in order; the first exception reaches the caller. -/
def getAmdGpuBdfs (lib : Lib) : Except PyExc (List String) := do
  let deviceHandles ← lib.amdsmiGetProcessorHandles
  deviceHandles.mapM lib.amdsmiGetGpuDeviceBdf

/-- `get_rocm_version`; `amdsmiGetRocmVersion` gives `(rocm_lib_status is True, rocm_version)`: the version, or
`"N/A"` when the status is not `True` or the call raises `AmdSmiLibraryException`. -/
def getRocmVersion (amdsmiGetRocmVersion : Except PyExc (Bool × String)) : Except PyExc String :=
  match amdsmiGetRocmVersion with
  | .ok (rocmLibStatus, rocmVersion) => .ok (if rocmLibStatus then rocmVersion else "N/A")
  | .error (.amdSmiLibraryException _) => .ok "N/A"
  | .error e => .error e

/-! ## The vendor check -/

theorem vendorMatches_eq_true_iff (amdVendorId : Int) (vendorId : Option VendorId) :
    vendorMatches amdVendorId vendorId = true ↔
      ∃ s, vendorId = some (.str s) ∧
        ∃ lit : HexLiteral, lit.render = transformDecimalAndSpaceToAscii s.toList ∧ lit.value = amdVendorId := by
  match vendorId with
  | none => simp [vendorMatches]
  | some .other => simp [vendorMatches]
  | some (.str s) =>
    simp only [vendorMatches, Option.some.injEq, VendorId.str.injEq, exists_eq_left', ← pyIntBase16_eq_some_iff]
    cases pyIntBase16 s <;> simp

/-- Whitespace, a sign, `0X`, an underscore after it and between digits: `int(s, 16)` takes them all. -/
example : vendorMatches 0x1002 (some (.str " +0X_10_02\n")) = true := by decide

/-- Full-width digits and an ideographic space are made ASCII first. -/
example : vendorMatches 0x1002 (some (.str "\u3000１００２")) = true := by decide

/-- **The vendor check**: once the query answers, `is_amd_device` does not raise, and says `True` exactly when the
vendor id is a string that, made ASCII as `int` does, spells a hexadecimal literal of value `AMD_VENDOR_ID`. The
spelling `0x`, `k` zeros and the digits of `v` says `True` exactly when `v` is `AMD_VENDOR_ID`. -/
theorem is_amd_device_vendor (amdVendorId : Int) (amdsmiGetGpuAsicInfo : Handle → Except PyExc (Option VendorId))
    (deviceHandle : Handle) (vendorId : Option VendorId) (h : amdsmiGetGpuAsicInfo deviceHandle = .ok vendorId) :
    (∃ b, isAmdDevice amdVendorId amdsmiGetGpuAsicInfo deviceHandle = .ok b ∧
      (b = true ↔ ∃ s, vendorId = some (.str s) ∧
        ∃ lit : HexLiteral, lit.render = transformDecimalAndSpaceToAscii s.toList ∧ lit.value = amdVendorId)) ∧
    ∀ k v : Nat, vendorId = some (.str ⟨'0' :: 'x' :: (List.replicate k '0' ++ Nat.toDigits 16 v)⟩) →
      isAmdDevice amdVendorId amdsmiGetGpuAsicInfo deviceHandle = .ok (decide ((v : Int) = amdVendorId)) := by
  have hok : isAmdDevice amdVendorId amdsmiGetGpuAsicInfo deviceHandle = .ok (vendorMatches amdVendorId vendorId) := by
    simp [isAmdDevice, h, bind, Except.bind, pure, Except.pure]
  refine ⟨⟨_, hok, vendorMatches_eq_true_iff amdVendorId vendorId⟩, fun k v hv => ?_⟩
  have hp : pyIntBase16 ⟨'0' :: 'x' :: (List.replicate k '0' ++ Nat.toDigits 16 v)⟩ = some (v : Int) := by
    rw [← HexLiteral.ofNat_render, ← HexLiteral.ofNat_value k v]
    exact pyIntBase16_render _
  rw [hok, hv]
  simp only [vendorMatches, hp]
  rfl

/-- A GPU whose vendor id reads `0x1002`, AMD's: `True`. -/
theorem is_amd_device_0x1002 :
    let query : Handle → Except PyExc (Option VendorId) := fun _ => .ok (some (.str "0x1002"))
    query ⟨0⟩ = .ok (some (.str "0x1002")) ∧ isAmdDevice 0x1002 query ⟨0⟩ = .ok true := by
  intro query
  exact ⟨rfl, ((is_amd_device_vendor 0x1002 query ⟨0⟩ _ rfl).2 0 0x1002 (by decide)).trans (by decide)⟩

end AmdSmiCli
