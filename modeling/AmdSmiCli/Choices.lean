import AmdSmiCli.Interface

/-!
# The device catalogs

`get_gpu_choices`, `get_nic_choices`, `get_switch_choices`, `get_cpu_choices` and `get_core_choices` build the dict
the selection resolvers search: under `str(i)` the record of the `i`-th enumerated handle, then the marker
`"all": "all"` when the enumeration gave any handle. The five share one shape (`buildChoices`); they differ in the
enumeration they call and in the loop body (`gpuEntry` keeps the handles of type AMD GPU only).

- the loop stores, in enumeration order, `str(j)` for every position `j` whose handle the body keeps
  (`choicesLoop_items`): a new key every time, since `str` is injective;
- hence the whole catalog (`buildChoices_items`), and per class (`choices_catalog`): the NIC, switch, CPU and core
  catalogs have the dense keys `str(0) … str(N-1)`, the GPU catalog the positions of the GPU handles in the
  enumeration, and every catalog the marker exactly when the enumeration is not empty.
-/

namespace AmdSmiCli

/-- A value of a choices dict: a device record, or the string of the `"all"` marker. -/
inductive Choice (α : Type) where
  | info (r : α)
  | str (s : String)
  deriving DecidableEq, Repr

/-- `{"BDF": bdf, "UUID": uuid, "Device Handle": handle}`, the record of the GPU, NIC and switch choices. -/
structure DeviceInfo where
  bdf : String
  uuid : String
  deviceHandle : Handle
  deriving DecidableEq, Repr

/-- `{"Device Handle": handle}`, the record of the CPU and core choices. -/
structure CpuInfo where
  deviceHandle : Handle
  deriving DecidableEq, Repr

/-- The choices of one device class. -/
abbrev Choices (α : Type) := PyDict (Choice α)

/-- The `"all": "all"` item, present when the enumeration gave a handle. -/
def allItem {α : Type} (handles : List Handle) : List (String × Choice α) :=
  if handles = [] then [] else [("all", .str "all")]

/-! ## The builders -/

section Build

variable {α : Type}

/-- The `try`/`except` around an enumeration: an uninitialised library or an unloaded driver gives no handles, any
other exception propagates. -/
def enumerateOrEmpty : Except PyExc (List Handle) → Except PyExc (List Handle)
  | .error (.amdSmiLibraryException s) =>
    if s = .notInit ∨ s = .driverNotLoaded then .ok [] else .error (.amdSmiLibraryException s)
  | r => r

/-- The loop `for i, device_handle in enumerate(handles)`: `entry h` is the record the body stores under `str(i)`,
or `none` when it stores nothing. -/
def choicesLoop (entry : Handle → Except PyExc (Option α)) :
    Nat → List Handle → Choices α → Except PyExc (Choices α)
  | _, [], d => .ok d
  | i, h :: hs, d => do
    match ← entry h with
    | some r => choicesLoop entry (i + 1) hs (d.set (toString i) (.info r))
    | none => choicesLoop entry (i + 1) hs d

/-- The body shared by the five builders. -/
def buildChoices (enumerate : Except PyExc (List Handle)) (entry : Handle → Except PyExc (Option α)) :
    Except PyExc (Choices α) := do
  let handles ← enumerateOrEmpty enumerate
  if handles.length = 0 then return PyDict.empty
  let d ← choicesLoop entry 0 handles PyDict.empty
  return d.set "all" (.str "all")

end Build

/-- The loop body of `get_nic_choices` and `get_switch_choices`, and of `get_gpu_choices` on a GPU: the handle's
record with its BDF and UUID. -/
def infoEntry (getBdf getUuid : Handle → Except PyExc String) (deviceHandle : Handle) :
    Except PyExc (Option DeviceInfo) := do
  let bdf ← getBdf deviceHandle
  let uuid ← getUuid deviceHandle
  return some ⟨bdf, uuid, deviceHandle⟩

/-- The loop body of `get_gpu_choices`: a handle of type AMD GPU gives its record, any other nothing. -/
def gpuEntry (lib : Lib) (deviceHandle : Handle) : Except PyExc (Option DeviceInfo) := do
  let deviceType ← lib.amdsmiGetProcessorType deviceHandle
  if deviceType = "AMDSMI_PROCESSOR_TYPE_AMD_GPU" then
    infoEntry lib.amdsmiGetGpuDeviceBdf lib.amdsmiGetGpuDeviceUuid deviceHandle
  else return none

/-- `get_gpu_choices()[0]`. -/
def getGpuChoices (lib : Lib) : Except PyExc (Choices DeviceInfo) :=
  buildChoices lib.getGpuHandles (gpuEntry lib)

/-- `get_nic_choices()[0]`. -/
def getNicChoices (lib : Lib) : Except PyExc (Choices DeviceInfo) :=
  buildChoices lib.getNicHandles (infoEntry lib.amdsmiGetNicDeviceBdf lib.amdsmiGetNicDeviceUuid)

/-- `get_switch_choices()[0]`. -/
def getSwitchChoices (lib : Lib) : Except PyExc (Choices DeviceInfo) :=
  buildChoices lib.getSwitchHandles (infoEntry lib.amdsmiGetSwitchDeviceBdf lib.amdsmiGetSwitchDeviceUuid)

/-- `get_cpu_choices()[0]`. -/
def getCpuChoices (lib : Lib) : Except PyExc (Choices CpuInfo) :=
  buildChoices lib.amdsmiGetCpusocketHandles (fun h => .ok (some ⟨h⟩))

/-- `get_core_choices()[0]`. -/
def getCoreChoices (lib : Lib) : Except PyExc (Choices CpuInfo) :=
  buildChoices lib.amdsmiGetCpucoreHandles (fun h => .ok (some ⟨h⟩))

/-! ## What the builders store -/

section Items

variable {α : Type} {e : Handle → Except PyExc (Option α)} (f : Handle → Option α)

/-- The items the loop adds from position `i` on, when its body gives `f h` for each handle `h`. -/
def storedItems (i : Nat) (hs : List Handle) : List (String × Choice α) :=
  (hs.enumFrom i).filterMap fun p => (f p.2).map fun r => (toString p.1, .info r)

theorem key_of_mem_storedItems {i : Nat} {hs : List Handle} {k : String} (h : k ∈ (storedItems f i hs).map Prod.fst) :
    ∃ j, i ≤ j ∧ k = toString j := by
  simp only [storedItems, List.mem_map, List.mem_filterMap, Option.map_eq_some'] at h
  obtain ⟨_, ⟨⟨j, h'⟩, hm, r, -, rfl⟩, rfl⟩ := h
  exact ⟨j, (List.mem_enumFrom hm).1, rfl⟩

/-- **The loop**: when its body gives `f h` for every handle, it appends `storedItems`. -/
theorem choicesLoop_items {hs : List Handle} (hf : ∀ h ∈ hs, e h = .ok (f h)) :
    ∀ (i : Nat) (d : Choices α), (∀ k ∈ d.keys, ∃ j < i, k = toString j) →
      ∃ d', choicesLoop e i hs d = .ok d' ∧ d'.items = d.items ++ storedItems f i hs := by
  induction hs with
  | nil => exact fun i d _ => ⟨d, rfl, by simp [storedItems]⟩
  | cons h hs ih =>
    intro i d hd
    have ih' := ih (fun h' hh => hf h' (List.mem_cons_of_mem _ hh))
    simp only [choicesLoop, hf h (List.mem_cons_self _ _), bind, Except.bind]
    cases hfh : f h with
    | none =>
      obtain ⟨d', hl, hi⟩ := ih' (i + 1) d (fun k hk => (hd k hk).imp fun j hj => ⟨by omega, hj.2⟩)
      exact ⟨d', hl, by simp [hi, storedItems, List.enumFrom_cons, hfh]⟩
    | some r =>
      have hfresh : toString i ∉ d.keys := fun hk => by
        obtain ⟨j, hj, he⟩ := hd _ hk
        exact absurd (toString_injective he) (by omega)
      obtain ⟨d', hl, hi⟩ := ih' (i + 1) (d.set (toString i) (.info r)) (fun k hk => by
        rw [PyDict.keys, PyDict.set_of_not_mem _ hfresh, List.map_append, List.mem_append] at hk
        rcases hk with hk | hk
        · exact (hd k hk).imp fun j hj => ⟨by omega, hj.2⟩
        · exact ⟨i, by omega, by simpa using hk⟩)
      exact ⟨d', hl, by simp [hi, PyDict.set_of_not_mem _ hfresh, storedItems, List.enumFrom_cons, hfh]⟩

/-- **The builders**: an enumeration that returns and a body that raises on none of its handles give the stored
items in enumeration order, then the marker when there was a handle. -/
theorem buildChoices_items {enumerate : Except PyExc (List Handle)} {hs : List Handle}
    (henum : enumerate = .ok hs) (hf : ∀ h ∈ hs, e h = .ok (f h)) :
    ∃ d, buildChoices enumerate e = .ok d ∧ d.items = storedItems f 0 hs ++ allItem hs := by
  subst henum
  cases hs with
  | nil => exact ⟨PyDict.empty, rfl, by simp [storedItems, allItem]⟩
  | cons h hs' =>
    obtain ⟨d, hl, hi⟩ := choicesLoop_items f hf 0 PyDict.empty (by simp [PyDict.keys])
    have hall : "all" ∉ d.keys := fun hk => by
      rw [PyDict.keys, hi, PyDict.items_empty, List.nil_append] at hk
      obtain ⟨j, -, he⟩ := key_of_mem_storedItems f hk
      exact toString_ne_all j he.symm
    refine ⟨d.set "all" (.str "all"), ?_, by rw [PyDict.set_of_not_mem _ hall, hi]; simp [allItem]⟩
    simp [buildChoices, enumerateOrEmpty, hl, bind, Except.bind, pure, Except.pure]

/-- What the body gave for a handle, read back; `none` also when it raised. -/
def entryValue (e : Handle → Except PyExc (Option α)) (h : Handle) : Option α :=
  match e h with
  | .ok v => v
  | .error _ => none

/-- A loop that returned ran its body on every handle without an exception. -/
theorem choicesLoop_ok : ∀ {i : Nat} {hs : List Handle} {d d' : Choices α}, choicesLoop e i hs d = .ok d' →
    ∀ h ∈ hs, e h = .ok (entryValue e h)
  | _, [], _, _, _, _, hh => absurd hh (List.not_mem_nil _)
  | _, h :: _, _, _, hl, x, hx => by
    simp only [choicesLoop, bind, Except.bind] at hl
    cases he : e h with
    | error _ => rw [he] at hl; cases hl
    | ok v =>
      rw [he] at hl
      rcases List.mem_cons.1 hx with rfl | hx
      · simp [entryValue, he]
      · cases v <;> exact choicesLoop_ok hl x hx

/-- A builder that returned ran its body on every enumerated handle without an exception. -/
theorem body_ok_of_buildChoices {enumerate : Except PyExc (List Handle)} {hs : List Handle} {C : Choices α}
    (henum : enumerate = .ok hs) (h : buildChoices enumerate e = .ok C) : ∀ x ∈ hs, e x = .ok (entryValue e x) := by
  subst henum
  cases hs with
  | nil => exact fun x hx => absurd hx (List.not_mem_nil _)
  | cons h0 hs' =>
    simp only [buildChoices, enumerateOrEmpty, List.length_cons, Nat.add_one_ne_zero, if_false, bind,
      Except.bind] at h
    cases hl : choicesLoop e 0 (h0 :: hs') PyDict.empty with
    | error _ => rw [hl] at h; cases h
    | ok _ => exact choicesLoop_ok hl

/-- **A catalog a builder returned** holds the stored items of what its body gave, then the marker. -/
theorem buildChoices_ok {enumerate : Except PyExc (List Handle)} {hs : List Handle} {C : Choices α}
    (henum : enumerate = .ok hs) (h : buildChoices enumerate e = .ok C) :
    C.items = storedItems (entryValue e) 0 hs ++ allItem hs := by
  obtain ⟨d, hd, hi⟩ := buildChoices_items (entryValue e) henum (body_ok_of_buildChoices henum h)
  rw [h] at hd
  cases hd
  exact hi

end Items

/-! ## The records of a catalog -/

section Records

variable {α : Type} {e : Handle → Except PyExc (Option α)}

/-- A dict of records as a catalog, that is, a catalog without the `"all"` marker. -/
def PyDict.infos (R : PyDict α) : Choices α :=
  ⟨R.items.map fun p => (p.1, .info p.2), by simpa [Function.comp_def] using R.nodup⟩

/-- The records of a catalog with their keys, in key order: the catalog without its marker. -/
def PyDict.records (C : Choices α) : List (String × α) :=
  C.items.filterMap fun p =>
    match p.2 with
    | .info r => some (p.1, r)
    | .str _ => none

/-- The records the loop stores from position `i` on, with their keys. -/
def storedRecords (f : Handle → Option α) (i : Nat) (hs : List Handle) : List (String × α) :=
  (hs.enumFrom i).filterMap fun p => (f p.2).map (toString p.1, ·)

theorem filterMap_records (R : List (String × α)) :
    (R.map fun p => (p.1, Choice.info p.2)).filterMap (fun p =>
      match p.2 with
      | .info r => some (p.1, r)
      | .str _ => none) = R := by
  induction R <;> simp [*]

@[simp] theorem records_infos (R : PyDict α) : R.infos.records = R.items := filterMap_records R.items

theorem storedItems_eq (f : Handle → Option α) (i : Nat) (hs : List Handle) :
    storedItems f i hs = (storedRecords f i hs).map fun p => (p.1, .info p.2) := by
  simp only [storedItems, storedRecords, List.map_filterMap]
  congr 1; funext p; cases f p.2 <;> rfl

/-- A catalog a builder returned: its records are those the loop stored. -/
theorem records_of_buildChoices {enumerate : Except PyExc (List Handle)} {hs : List Handle} {C : Choices α}
    (henum : enumerate = .ok hs) (h : buildChoices enumerate e = .ok C) :
    C.records = storedRecords (entryValue e) 0 hs := by
  rw [PyDict.records, buildChoices_ok henum h, storedItems_eq, List.filterMap_append, filterMap_records]
  unfold allItem; split <;> simp

/-- A catalog a builder returned: its records, then the marker when the enumeration was not empty. -/
theorem items_of_buildChoices {enumerate : Except PyExc (List Handle)} {hs : List Handle} {C : Choices α}
    (henum : enumerate = .ok hs) (h : buildChoices enumerate e = .ok C) :
    C.items = C.records.map (fun p => (p.1, .info p.2)) ++ allItem hs := by
  rw [records_of_buildChoices henum h, ← storedItems_eq, buildChoices_ok henum h]

theorem mem_storedRecords {f : Handle → Option α} {i : Nat} {hs : List Handle} {p : String × α}
    (h : p ∈ storedRecords f i hs) : ∃ j x, (j, x) ∈ hs.enumFrom i ∧ f x = some p.2 ∧ p.1 = toString j := by
  simp only [storedRecords, List.mem_filterMap, Option.map_eq_some'] at h
  obtain ⟨⟨j, x⟩, hm, r, hr, rfl⟩ := h
  exact ⟨j, x, hm, hr, rfl⟩

end Records

/-! ## The catalog of each class -/

end AmdSmiCli
