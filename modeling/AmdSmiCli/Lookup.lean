import AmdSmiCli.Choices

/-!
# The reverse lookups

`get_{gpu,nic,switch,cpu,core}_id_from_device_handle` give the position of a handle, compared by `.value`, in an
enumeration of the library, and raise `AmdSmiParameterException` when it is absent (`idFromDeviceHandle`).

The catalogs key each record by its position in their own enumeration (`Choices.lean`). The NIC, switch, CPU and
core lookups search that same enumeration, the GPU lookup `amdsmi_get_processor_handles()` where the GPU catalog
enumerates `get_gpu_handles()`. So a record's key is the ID its handle reads back as for the NIC, switch, CPU and core
catalogs (`device_id_of_key`), and for the GPU catalog when the two enumerations agree
(`gpu_id_of_key_same_enumeration`). When they differ, a GPU's key is its position in `get_gpu_handles()` but its
ID its position in `amdsmi_get_processor_handles()`, the list that the comment of `get_gpu_choices` and the
docstring of `get_gpu_id_from_device_handle` name as the order of GPU IDs (`gpu_id_other_enumeration`).
-/

namespace AmdSmiCli

/-- The loop `for index, device_handle in enumerate(device_handles)` of the reverse lookups, from position `i`:
the first position whose handle has the value of the input. -/
def indexOfValue (input : Handle) : Nat → List Handle → Option Nat
  | _, [] => none
  | i, h :: hs => if input.value = h.value then some i else indexOfValue input (i + 1) hs

/-- The body shared by the five reverse lookups; `msg` is the text of the exception. -/
def idFromDeviceHandle (enumerate : Except PyExc (List Handle)) (msg : String) (input : Handle) :
    Except PyExc Nat := do
  let deviceHandles ← enumerate
  match indexOfValue input 0 deviceHandles with
  | some i => return i
  | none => throw (.amdSmiParameterException input msg)

/-- `get_gpu_id_from_device_handle`. -/
def getGpuIdFromDeviceHandle (lib : Lib) : Handle → Except PyExc Nat :=
  idFromDeviceHandle lib.amdsmiGetProcessorHandles "Unable to find gpu ID from device_handle"

/-- `get_nic_id_from_device_handle`. -/
def getNicIdFromDeviceHandle (lib : Lib) : Handle → Except PyExc Nat :=
  idFromDeviceHandle lib.getNicHandles "Unable to find nic ID from device_handle"

/-- `get_switch_id_from_device_handle`. -/
def getSwitchIdFromDeviceHandle (lib : Lib) : Handle → Except PyExc Nat :=
  idFromDeviceHandle lib.getSwitchHandles "Unable to find switch ID from device_handle"

/-- `get_cpu_id_from_device_handle`. -/
def getCpuIdFromDeviceHandle (lib : Lib) : Handle → Except PyExc Nat :=
  idFromDeviceHandle lib.amdsmiGetCpusocketHandles "Unable to find cpu ID from device_handle"

/-- `get_core_id_from_device_handle`. -/
def getCoreIdFromDeviceHandle (lib : Lib) : Handle → Except PyExc Nat :=
  idFromDeviceHandle lib.amdsmiGetCpucoreHandles "Unable to find core ID from device_handle"

/-! ## Positions read back -/

/-- With distinct values, the handle at position `i` is found at `i`. -/
theorem indexOfValue_of_mem : ∀ {j : Nat} {hs : List Handle} {i : Nat} {x : Handle},
    (i, x) ∈ hs.enumFrom j → (hs.map Handle.value).Nodup → indexOfValue x j hs = some i
  | _, [], _, _, h, _ => absurd h (List.not_mem_nil _)
  | j, y :: ys, i, x, h, hnd => by
    rw [List.enumFrom_cons, List.mem_cons] at h
    rw [List.map_cons, List.nodup_cons] at hnd
    rcases h with h | h
    · obtain ⟨rfl, rfl⟩ := Prod.mk.inj h
      simp [indexOfValue]
    · have hne : x.value ≠ y.value := fun he => hnd.1 (he ▸ List.mem_map_of_mem _ (List.snd_mem_of_mem_enumFrom h))
      simp [indexOfValue, hne, indexOfValue_of_mem h hnd.2]

theorem idFromDeviceHandle_of_mem {hs : List Handle} {i : Nat} {x : Handle} (msg : String)
    (h : (i, x) ∈ hs.enum) (hnd : (hs.map Handle.value).Nodup) : idFromDeviceHandle (.ok hs) msg x = .ok i := by
  simp [idFromDeviceHandle, indexOfValue_of_mem h hnd, bind, Except.bind, pure, Except.pure]

section Built

variable {α : Type} {e : Handle → Except PyExc (Option α)} {handle : α → Handle}

/-- **A built catalog against the lookup over its own enumeration**: every record's key is `str` of the position
the lookup gives for its handle, when the body stores each handle's own record and the values are distinct. -/
theorem id_of_buildChoices (hpres : ∀ h r, entryValue e h = some r → handle r = h)
    {enumerate : Except PyExc (List Handle)} {hs : List Handle} (henum : enumerate = .ok hs)
    (hnd : (hs.map Handle.value).Nodup) {C : Choices α} (hC : buildChoices enumerate e = .ok C) (msg : String) :
    ∀ p ∈ C.records, ∃ i, p.1 = toString i ∧ idFromDeviceHandle (.ok hs) msg (handle p.2) = .ok i := by
  intro p hp
  rw [records_of_buildChoices henum hC] at hp
  obtain ⟨j, x, hm, hv, hk⟩ := mem_storedRecords hp
  exact ⟨j, hk, by rw [hpres x p.2 hv]; exact idFromDeviceHandle_of_mem msg hm hnd⟩

end Built

theorem infoEntry_handle {getBdf getUuid : Handle → Except PyExc String} {h : Handle} {r : DeviceInfo}
    (hr : entryValue (infoEntry getBdf getUuid) h = some r) : r.deviceHandle = h := by
  cases hb : getBdf h <;> cases hu : getUuid h <;>
    simp [entryValue, infoEntry, hb, hu, bind, Except.bind, pure, Except.pure] at hr
  cases hr; rfl

theorem gpuEntry_handle {lib : Lib} {h : Handle} {r : DeviceInfo} (hr : entryValue (gpuEntry lib) h = some r) :
    r.deviceHandle = h := by
  simp only [entryValue, gpuEntry, bind, Except.bind] at hr
  cases ht : lib.amdsmiGetProcessorType h with
  | error _ => simp [ht] at hr
  | ok t =>
    by_cases hg : t = "AMDSMI_PROCESSOR_TYPE_AMD_GPU"
    · simp only [ht, hg, if_true] at hr
      exact infoEntry_handle hr
    · simp [ht, hg, pure, Except.pure] at hr

/-- **The ID of a selected NIC, switch, CPU or core is the index it was selected by.** For every state whose
enumeration gives handles of distinct values, the key of every record of the NIC, switch, CPU and core catalogs is
`str` of the ID the reverse lookup gives for its handle. -/
theorem device_id_of_key :
    (∀ (lib : Lib) (hs : List Handle) (C : Choices DeviceInfo), lib.getNicHandles = .ok hs →
      (hs.map Handle.value).Nodup → getNicChoices lib = .ok C →
      ∀ p ∈ C.records, ∃ i, p.1 = toString i ∧ getNicIdFromDeviceHandle lib p.2.deviceHandle = .ok i) ∧
    (∀ (lib : Lib) (hs : List Handle) (C : Choices DeviceInfo), lib.getSwitchHandles = .ok hs →
      (hs.map Handle.value).Nodup → getSwitchChoices lib = .ok C →
      ∀ p ∈ C.records, ∃ i, p.1 = toString i ∧ getSwitchIdFromDeviceHandle lib p.2.deviceHandle = .ok i) ∧
    (∀ (lib : Lib) (hs : List Handle) (C : Choices CpuInfo), lib.amdsmiGetCpusocketHandles = .ok hs →
      (hs.map Handle.value).Nodup → getCpuChoices lib = .ok C →
      ∀ p ∈ C.records, ∃ i, p.1 = toString i ∧ getCpuIdFromDeviceHandle lib p.2.deviceHandle = .ok i) ∧
    (∀ (lib : Lib) (hs : List Handle) (C : Choices CpuInfo), lib.amdsmiGetCpucoreHandles = .ok hs →
      (hs.map Handle.value).Nodup → getCoreChoices lib = .ok C →
      ∀ p ∈ C.records, ∃ i, p.1 = toString i ∧ getCoreIdFromDeviceHandle lib p.2.deviceHandle = .ok i) := by
  have cpu : ∀ h r, entryValue (fun h => .ok (some (⟨h⟩ : CpuInfo))) h = some r → r.deviceHandle = h := by
    rintro h r hr; cases hr; rfl
  refine ⟨fun lib hs C he hnd hC => ?_, fun lib hs C he hnd hC => ?_, fun lib hs C he hnd hC => ?_,
    fun lib hs C he hnd hC => ?_⟩
  · rw [getNicIdFromDeviceHandle, he]
    exact id_of_buildChoices (fun _ _ => infoEntry_handle) he hnd hC _
  · rw [getSwitchIdFromDeviceHandle, he]
    exact id_of_buildChoices (fun _ _ => infoEntry_handle) he hnd hC _
  · rw [getCpuIdFromDeviceHandle, he]
    exact id_of_buildChoices cpu he hnd hC _
  · rw [getCoreIdFromDeviceHandle, he]
    exact id_of_buildChoices cpu he hnd hC _

/-- **A GPU's key reads back when the two enumerations agree.** When `amdsmi_get_processor_handles()` returns the
list `get_gpu_handles()` returns, with distinct values, the key of every record of the GPU catalog is `str` of the
ID `get_gpu_id_from_device_handle` gives for its handle. -/
theorem gpu_id_of_key_same_enumeration (lib : Lib) (hs : List Handle) (C : Choices DeviceInfo)
    (he : lib.getGpuHandles = .ok hs) (hp : lib.amdsmiGetProcessorHandles = .ok hs) (hnd : (hs.map Handle.value).Nodup)
    (hC : getGpuChoices lib = .ok C) :
    ∀ p ∈ C.records, ∃ i, p.1 = toString i ∧ getGpuIdFromDeviceHandle lib p.2.deviceHandle = .ok i := by
  rw [getGpuIdFromDeviceHandle, hp]
  exact id_of_buildChoices (fun _ _ => gpuEntry_handle) he hnd hC _

/-- One GPU, which both enumerations list. -/
theorem gpu_id_one_gpu_same_enumeration :
    let lib : Lib := { Lib.idle with
      amdsmiGetProcessorHandles := .ok [⟨1⟩]
      getGpuHandles := .ok [⟨1⟩]
      amdsmiGetProcessorType := fun _ => .ok "AMDSMI_PROCESSOR_TYPE_AMD_GPU"
      amdsmiGetGpuDeviceBdf := fun _ => .ok "0000:24:00.0"
      amdsmiGetGpuDeviceUuid := fun _ => .ok "ffffffff-0000-1000-0000-000000000001" }
    ∃ C, getGpuChoices lib = .ok C ∧ lib.getGpuHandles = .ok [⟨1⟩] ∧
      lib.amdsmiGetProcessorHandles = .ok [⟨1⟩] ∧
      ([⟨1⟩].map Handle.value).Nodup ∧
      ∀ p ∈ C.records, ∃ i, p.1 = toString i ∧ getGpuIdFromDeviceHandle lib p.2.deviceHandle = .ok i := by
  intro lib
  obtain ⟨C, hC⟩ : ∃ C, getGpuChoices lib = .ok C := ⟨_, rfl⟩
  exact ⟨C, hC, rfl, rfl, by decide, gpu_id_of_key_same_enumeration lib [⟨1⟩] C rfl rfl (by decide) hC⟩

/-- `amdsmi_get_processor_handles()` lists a NIC before the only GPU, `get_gpu_handles()` the GPU alone: the GPU
is keyed `"0"` and its ID reads back as `1`. -/
theorem gpu_id_other_enumeration :
    let lib : Lib := { Lib.idle with
      amdsmiGetProcessorHandles := .ok [⟨0⟩, ⟨1⟩]
      getGpuHandles := .ok [⟨1⟩]
      amdsmiGetProcessorType := fun h =>
        .ok (if h.value = 1 then "AMDSMI_PROCESSOR_TYPE_AMD_GPU" else "AMDSMI_PROCESSOR_TYPE_BRCM_NIC")
      amdsmiGetGpuDeviceBdf := fun _ => .ok "0000:24:00.0"
      amdsmiGetGpuDeviceUuid := fun _ => .ok "ffffffff-0000-1000-0000-000000000001" }
    (getGpuChoices lib).map (fun C => C.records.map fun p => (p.1, getGpuIdFromDeviceHandle lib p.2.deviceHandle)) =
      .ok [("0", .ok 1)] := by
  decide

end AmdSmiCli
