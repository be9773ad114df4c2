import AmdSmiCli.Selections
import AmdSmiCli.Lookup

/-!
# The default catalog and the `'all'` path

Called without a catalog, a resolver builds its class's catalog itself and searches it with the `"all"` marker
still in it; a list holding `"all"` returns an enumeration of the library instead of searching.

- the records of a built catalog are keyed by indices, so removing `"all"` removes the marker only
  (`erase_all_of_buildChoices`); their handles are the enumerated ones, of type AMD GPU only for the GPU catalog
  (`handles_of_gpuChoices`, `handles_of_infoChoices`, `handles_of_cpuChoices`);
- a selection that no record matches reaches the marker, a string where the loop reads a record: the default path
  raises `TypeError` where the catalog without its marker gives the failure tuple (`gpu_default_selections`,
  `info_default_selections`, `id_default_selections`);
- the `'all'` path returns the enumeration the catalog is built from, and resolving the catalog's keys returns the
  same handles, for the NIC, switch, CPU and core classes; the GPU path returns `amdsmi_get_processor_handles()`
  where the catalog holds the GPUs of `get_gpu_handles()` (`all_selects_catalog`, `gpu_all_other_enumeration`).
-/

namespace AmdSmiCli

/-! ## Built catalogs -/

section Built

variable {α : Type} {e : Handle → Except PyExc (Option α)} {enumerate : Except PyExc (List Handle)}
  {hs : List Handle} {C : Choices α}

theorem allItem_of_ne_nil {hs : List Handle} (h : hs ≠ []) :
    (allItem hs : List (String × Choice α)) = [markerItem] :=
  if_neg h

theorem records_key_ne_all (henum : enumerate = .ok hs) (h : buildChoices enumerate e = .ok C) :
    ∀ p ∈ C.records, p.1 ≠ "all" := fun p hp => by
  rw [records_of_buildChoices henum h] at hp
  obtain ⟨j, -, -, -, hk⟩ := mem_storedRecords hp
  exact hk ▸ toString_ne_all j

/-- Removing `"all"` from a built catalog leaves its records. -/
theorem erase_all_of_buildChoices (henum : enumerate = .ok hs) (h : buildChoices enumerate e = .ok C) :
    (C.erase "all").items = C.records.map (fun p => (p.1, .info p.2)) := by
  rw [PyDict.items_erase, items_of_buildChoices henum h, List.filter_append, List.filter_eq_self.2 fun q hq => by
    obtain ⟨p, hp, rfl⟩ := List.mem_map.1 hq
    simpa using records_key_ne_all henum h p hp]
  unfold allItem; split <;> simp [markerItem]

theorem nodup_records_keys (C : Choices α) : (C.records.map Prod.fst).Nodup := by
  have sub : ∀ L : List (String × Choice α), List.Sublist ((L.filterMap fun p =>
      match p.2 with
      | .info r => some (p.1, r)
      | .str _ => none).map Prod.fst) (L.map Prod.fst) := by
    intro L
    induction L with
    | nil => exact .slnil
    | cons p L ih => obtain ⟨k, _ | _⟩ := p <;> simp [ih.cons₂, ih.cons]
  exact C.nodup.sublist (sub C.items)

/-- The handles of the records the loop stored: the enumerated handles its body kept, in order. -/
theorem storedRecords_handles {f : Handle → Option α} {handle : α → Handle}
    (hpres : ∀ h r, f h = some r → handle r = h) :
    ∀ (i : Nat) (hs : List Handle), (storedRecords f i hs).map (handle ·.2) = hs.filter fun h => (f h).isSome
  | _, [] => rfl
  | i, h :: hs => by
    have ih := storedRecords_handles hpres (i + 1) hs
    simp only [storedRecords] at ih ⊢
    cases hf : f h with
    | none => simp [List.enumFrom_cons, hf, ih]
    | some r => simp [List.enumFrom_cons, hf, ih, hpres h r hf]

theorem handles_of_buildChoices {handle : α → Handle} (hpres : ∀ h r, entryValue e h = some r → handle r = h)
    (henum : enumerate = .ok hs) (h : buildChoices enumerate e = .ok C) :
    C.records.map (handle ·.2) = hs.filter fun x => (entryValue e x).isSome := by
  rw [records_of_buildChoices henum h]
  exact storedRecords_handles hpres 0 hs

/-- A builder whose body keeps every handle it returns on: its records hold the whole enumeration. -/
theorem handles_of_buildChoices_all {handle : α → Handle} (hpres : ∀ h r, entryValue e h = some r → handle r = h)
    (hkeep : ∀ h v, e h = .ok v → v.isSome) (henum : enumerate = .ok hs) (h : buildChoices enumerate e = .ok C) :
    C.records.map (handle ·.2) = hs := by
  rw [handles_of_buildChoices hpres henum h, List.filter_eq_self]
  exact fun x hx => hkeep x _ (body_ok_of_buildChoices henum h x hx)

end Built

theorem infoEntry_isSome {getBdf getUuid : Handle → Except PyExc String} {h : Handle} {v : Option DeviceInfo}
    (hv : infoEntry getBdf getUuid h = .ok v) : v.isSome := by
  cases hb : getBdf h <;> cases hu : getUuid h <;>
    simp [infoEntry, hb, hu, bind, Except.bind, pure, Except.pure] at hv
  rw [← hv]; rfl

theorem gpuEntry_isSome {lib : Lib} {h : Handle} {v : Option DeviceInfo} (hv : gpuEntry lib h = .ok v) :
    v.isSome = decide (lib.amdsmiGetProcessorType h = .ok "AMDSMI_PROCESSOR_TYPE_AMD_GPU") := by
  simp only [gpuEntry, bind, Except.bind] at hv
  cases ht : lib.amdsmiGetProcessorType h with
  | error _ => simp [ht] at hv
  | ok t =>
    rw [ht] at hv
    by_cases hg : t = "AMDSMI_PROCESSOR_TYPE_AMD_GPU"
    · simp only [hg, if_true] at hv
      simp [hg, infoEntry_isSome hv]
    · simp only [hg, if_false, pure, Except.pure, Except.ok.injEq] at hv
      simp [← hv, hg]

/-- The GPU catalog holds the handles of `get_gpu_handles()` whose processor type is AMD GPU. -/
theorem handles_of_gpuChoices {lib : Lib} {hs : List Handle} {C : Choices DeviceInfo} (he : lib.getGpuHandles = .ok hs)
    (hC : getGpuChoices lib = .ok C) :
    C.records.map (·.2.deviceHandle) =
      hs.filter fun h => lib.amdsmiGetProcessorType h = .ok "AMDSMI_PROCESSOR_TYPE_AMD_GPU" := by
  rw [handles_of_buildChoices (fun _ _ => gpuEntry_handle) he hC]
  exact List.filter_congr fun x hx => gpuEntry_isSome (body_ok_of_buildChoices he hC x hx)

theorem handles_of_infoChoices {enumerate : Except PyExc (List Handle)}
    {getBdf getUuid : Handle → Except PyExc String} {hs : List Handle} {C : Choices DeviceInfo}
    (he : enumerate = .ok hs) (hC : buildChoices enumerate (infoEntry getBdf getUuid) = .ok C) :
    C.records.map (·.2.deviceHandle) = hs :=
  handles_of_buildChoices_all (fun _ _ => infoEntry_handle) (fun _ _ => infoEntry_isSome) he hC

theorem handles_of_cpuChoices {enumerate : Except PyExc (List Handle)} {hs : List Handle} {C : Choices CpuInfo}
    (he : enumerate = .ok hs) (hC : buildChoices enumerate (fun h => .ok (some (⟨h⟩ : CpuInfo))) = .ok C) :
    C.records.map (·.2.deviceHandle) = hs :=
  handles_of_buildChoices_all (fun _ _ hr => by cases hr; rfl) (fun _ _ hv => by cases hv; rfl) he hC

/-! ## Resolving the keys -/

/-- In a list with distinct keys, the first entry a test picks, when it picks the entries with the key of `p`, is
`p`. -/
theorem find?_key {β : Type} {P : String × β → Bool} {p : String × β} :
    ∀ {L : List (String × β)}, (L.map Prod.fst).Nodup → p ∈ L → (∀ q ∈ L, P q = decide (p.1 = q.1)) →
      L.find? P = some p
  | [], _, hp, _ => absurd hp (List.not_mem_nil _)
  | q :: L, hnd, hp, hP => by
    rw [List.map_cons, List.nodup_cons] at hnd
    rw [List.find?_cons, hP q (List.mem_cons_self _ _)]
    rcases List.mem_cons.1 hp with rfl | hp
    · simp
    · have hne : p.1 ≠ q.1 := fun he => hnd.1 (he ▸ List.mem_map_of_mem _ hp)
      simp only [hne, decide_False]
      exact find?_key hnd.2 hp fun r hr => hP r (List.mem_cons_of_mem _ hr)

/-- A list of keys, each found, resolves to the handles found. -/
theorem resolveAll_keys {β : Type} {m : String → Option Handle} {f : β → Handle} :
    ∀ {L : List (String × β)}, (∀ p ∈ L, m p.1 = some (f p.2)) →
      resolveAll m (L.map Prod.fst) = .ok (L.map (f ·.2))
  | [], _ => rfl
  | p :: L, hm => by
    simp only [List.map_cons, resolveAll, hm p (List.mem_cons_self _ _),
      resolveAll_keys fun q hq => hm q (List.mem_cons_of_mem _ hq)]
    rfl

section Keys

variable {Addr : Type} [DecidableEq Addr] (bdf : String → Option Addr)

/-- Records whose keys the BDF class rejects and no UUID spells: each key finds its own record. -/
theorem resolveAll_info_keys {recs : List (String × DeviceInfo)} (hnd : (recs.map Prod.fst).Nodup)
    (hk : ∀ p ∈ recs, bdf p.1 = none ∧ ∀ q ∈ recs, lower p.1 ≠ q.2.uuid) :
    resolveAll (firstMatch bdf recs) (recs.map Prod.fst) = .ok (recs.map (·.2.deviceHandle)) :=
  resolveAll_keys fun p hp => by
    rw [firstMatch, find?_key hnd hp fun q hq => by simp [matchesInfo, bdfEq, (hk p hp).1, (hk p hp).2 q hq]]
    rfl

theorem resolveAll_id_keys {recs : List (String × CpuInfo)} (hnd : (recs.map Prod.fst).Nodup) :
    resolveAll (firstId recs) (recs.map Prod.fst) = .ok (recs.map (·.2.deviceHandle)) :=
  resolveAll_keys fun p hp => by rw [firstId, find?_key hnd hp fun _ _ => rfl]; rfl

end Keys

/-! ## The default path -/

section Default

variable {Addr : Type} [DecidableEq Addr] (bdf : String → Option Addr)

/-- **The NIC and switch resolvers' default path**, when the processor type of every record's handle can be
queried: the handles when every selection matches a record, and `TypeError` otherwise, where the same catalog
without the marker gives the failure tuple. -/
theorem info_default_selections (lib : Lib) (S : List String) (hS : "all" ∉ S) :
    (∀ (hs : List Handle) (C : Choices DeviceInfo), lib.getNicHandles = .ok hs → hs ≠ [] →
      getNicChoices lib = .ok C →
      (∀ p ∈ C.records, ∃ t, lib.amdsmiGetProcessorType p.2.deviceHandle = .ok t) →
      getDeviceHandlesFromNicSelections bdf lib (.list S) none =
          (match resolveAll (firstMatch bdf C.records) S with
          | .ok hs => .ok (true, .handles hs)
          | .error _ => .error .typeError) ∧
        getDeviceHandlesFromNicSelections bdf lib (.list S) (some (C.erase "all")) =
          .ok (match resolveAll (firstMatch bdf C.records) S with
          | .ok hs => (true, .handles hs)
          | .error s0 => (false, .selection s0))) ∧
    (∀ (hs : List Handle) (C : Choices DeviceInfo), lib.getSwitchHandles = .ok hs → hs ≠ [] →
      getSwitchChoices lib = .ok C →
      (∀ p ∈ C.records, ∃ t, lib.amdsmiGetProcessorType p.2.deviceHandle = .ok t) →
      getDeviceHandlesFromSwitchSelections bdf lib (.list S) none =
          (match resolveAll (firstMatch bdf C.records) S with
          | .ok hs => .ok (true, .handles hs)
          | .error _ => .error .typeError) ∧
        getDeviceHandlesFromSwitchSelections bdf lib (.list S) (some (C.erase "all")) =
          .ok (match resolveAll (firstMatch bdf C.records) S with
          | .ok hs => (true, .handles hs)
          | .error s0 => (false, .selection s0))) := by
  refine ⟨fun hs C he hne hC hty => ?_, fun hs C he hne hC hty => ?_⟩ <;>
  · simp only [getDeviceHandlesFromNicSelections, getDeviceHandlesFromSwitchSelections, selectInfo, hasAll_list hS,
      Bool.false_eq_true, if_false, Selections.toList, hC, bind, Except.bind, pure, Except.pure]
    rw [items_of_buildChoices he hC, allItem_of_ne_nil hne, erase_all_of_buildChoices he hC]
    exact ⟨infoSelect_marker bdf lib _ S hty, infoSelect_records bdf lib _ S hty⟩

end Default

/-- One NIC and the selection `"7"`, with the NIC catalog the builder returns. -/
theorem nic_default_one_nic :
    let lib : Lib := { Lib.idle with
      getNicHandles := .ok [⟨0⟩]
      amdsmiGetProcessorType := fun _ => .ok "AMDSMI_PROCESSOR_TYPE_BRCM_NIC"
      amdsmiGetNicDeviceBdf := fun _ => .ok "0000:41:00.0"
      amdsmiGetNicDeviceUuid := fun _ => .ok "ffffffff-0000-1000-0000-000000000002" }
    "all" ∉ ["7"] ∧ getDeviceHandlesFromNicSelections (fun _ => (none : Option Unit)) lib (.list ["7"]) none =
      .error .typeError :=
  by
  intro lib
  exact ⟨by decide, (((info_default_selections _ lib ["7"] (by decide)).1 [⟨0⟩]
    ⟨[("0", .info ⟨"0000:41:00.0", "ffffffff-0000-1000-0000-000000000002", ⟨0⟩⟩), ("all", .str "all")],
      by decide⟩
    rfl (List.cons_ne_nil _ _) rfl fun _ _ => ⟨_, rfl⟩).1).trans (by decide)⟩

/-- **The CPU and core resolvers' default path**: the handles when every selection is an ID, and `TypeError`
otherwise, where the same catalog without the marker gives the failure tuple. -/
theorem id_default_selections (lib : Lib) (S : List String) (hS : "all" ∉ S) :
    (∀ (hs : List Handle) (C : Choices CpuInfo), lib.amdsmiGetCpusocketHandles = .ok hs → hs ≠ [] →
      getCpuChoices lib = .ok C →
      getDeviceHandlesFromCpuSelections lib (.list S) none =
          (match resolveAll (firstId C.records) S with
          | .ok hs => .ok (true, true, .handles hs)
          | .error _ => .error .typeError) ∧
        getDeviceHandlesFromCpuSelections lib (.list S) (some (C.erase "all")) =
          .ok (match resolveAll (firstId C.records) S with
          | .ok hs => (true, true, .handles hs)
          | .error s0 => (false, isdigit s0, .selection s0))) ∧
    (∀ (hs : List Handle) (C : Choices CpuInfo), lib.amdsmiGetCpucoreHandles = .ok hs → hs ≠ [] →
      getCoreChoices lib = .ok C →
      getDeviceHandlesFromCoreSelections lib (.list S) none =
          (match resolveAll (firstId C.records) S with
          | .ok hs => .ok (true, true, .handles hs)
          | .error _ => .error .typeError) ∧
        getDeviceHandlesFromCoreSelections lib (.list S) (some (C.erase "all")) =
          .ok (match resolveAll (firstId C.records) S with
          | .ok hs => (true, true, .handles hs)
          | .error s0 => (false, isdigit s0, .selection s0))) := by
  refine ⟨fun hs C he hne hC => ?_, fun hs C he hne hC => ?_⟩ <;>
  · simp only [getDeviceHandlesFromCpuSelections, getDeviceHandlesFromCoreSelections, selectId, hasAll_list hS,
      Bool.false_eq_true, if_false, Selections.toList, hC, bind, Except.bind, pure, Except.pure]
    rw [items_of_buildChoices he hC, allItem_of_ne_nil hne, erase_all_of_buildChoices he hC]
    exact ⟨idSelect_marker _ S, idSelect_records _ S⟩

/-- One socket and the selection `"7"`, with the CPU catalog the builder returns. -/
theorem cpu_default_one_socket :
    "all" ∉ ["7"] ∧
      getDeviceHandlesFromCpuSelections { Lib.idle with amdsmiGetCpusocketHandles := .ok [⟨0⟩] } (.list ["7"])
        none = .error .typeError :=
  ⟨by decide, (((id_default_selections { Lib.idle with amdsmiGetCpusocketHandles := .ok [⟨0⟩] } ["7"]
    (by decide)).1 [⟨0⟩] ⟨[("0", .info ⟨⟨0⟩⟩), ("all", .str "all")], by decide⟩ rfl
    (List.cons_ne_nil _ _) rfl).1).trans (by decide)⟩

/-! ## The `'all'` path against the catalog's keys -/

theorem hasAll_of_mem {S : List String} (hS : "all" ∈ S) : (Selections.list S).hasAll = true := by
  simp [Selections.hasAll, hS]

section Keys

variable {Addr : Type} [DecidableEq Addr] (bdf : String → Option Addr) {enumerate : Except PyExc (List Handle)}
  {hs : List Handle}

theorem all_not_mem_keys {α : Type} {e : Handle → Except PyExc (Option α)} {C : Choices α}
    (henum : enumerate = .ok hs) (h : buildChoices enumerate e = .ok C) :
    "all" ∉ C.records.map Prod.fst := fun hm => by
  obtain ⟨p, hp, he⟩ := List.mem_map.1 hm
  exact records_key_ne_all henum h p hp he

/-- The keys of a built catalog, resolved against it by the GPU resolver's loop, give its handles. -/
theorem gpuSelect_keys {e : Handle → Except PyExc (Option DeviceInfo)} {C : Choices DeviceInfo}
    (henum : enumerate = .ok hs) (h : buildChoices enumerate e = .ok C)
    (hk : ∀ p ∈ C.records, bdf p.1 = none ∧ ∀ q ∈ C.records, lower p.1 ≠ q.2.uuid) :
    gpuSelect bdf C.items (C.records.map Prod.fst) =
      .ok (true, true, .handles (C.records.map (·.2.deviceHandle))) := by
  have hr := resolveAll_info_keys bdf (nodup_records_keys C) hk
  rw [items_of_buildChoices henum h]
  unfold allItem; split
  · rw [List.append_nil, gpuSelect_records, hr]
  · exact (gpuSelect_marker bdf C.records _).trans (by rw [hr])

/-- The same for the NIC and switch resolvers' loop, when the processor type of every record's handle can be
queried. -/
theorem infoSelect_keys (lib : Lib) {e : Handle → Except PyExc (Option DeviceInfo)} {C : Choices DeviceInfo}
    (henum : enumerate = .ok hs)
    (h : buildChoices enumerate e = .ok C)
    (hk : ∀ p ∈ C.records, bdf p.1 = none ∧ (∀ q ∈ C.records, lower p.1 ≠ q.2.uuid) ∧
      ∃ t, lib.amdsmiGetProcessorType p.2.deviceHandle = .ok t) :
    infoSelect bdf lib C.items (C.records.map Prod.fst) = .ok (true, .handles (C.records.map (·.2.deviceHandle))) := by
  have hr := resolveAll_info_keys bdf (nodup_records_keys C) fun p hp => ⟨(hk p hp).1, (hk p hp).2.1⟩
  have hty := fun p hp => (hk p hp).2.2
  rw [items_of_buildChoices henum h]
  unfold allItem; split
  · rw [List.append_nil, infoSelect_records bdf lib _ _ hty, hr]
  · exact (infoSelect_marker bdf lib C.records _ hty).trans (by rw [hr])

end Keys

theorem idSelect_keys {e : Handle → Except PyExc (Option CpuInfo)} {enumerate : Except PyExc (List Handle)}
    {hs : List Handle} {C : Choices CpuInfo} (henum : enumerate = .ok hs) (h : buildChoices enumerate e = .ok C) :
    idSelect C.items (C.records.map Prod.fst) = .ok (true, true, .handles (C.records.map (·.2.deviceHandle))) := by
  have hr := resolveAll_id_keys (nodup_records_keys C)
  rw [items_of_buildChoices henum h]
  unfold allItem; split
  · rw [List.append_nil, idSelect_records, hr]
  · exact (idSelect_marker C.records _).trans (by rw [hr])

section Classes

variable {Addr : Type} [DecidableEq Addr] (bdf : String → Option Addr) (lib : Lib) {hs : List Handle}
  {enumerate : Except PyExc (List Handle)}

/-- The GPU class: the `'all'` path returns `amdsmi_get_processor_handles()`, the catalog holds the GPUs of
`get_gpu_handles()`, and its keys resolve to them. -/
theorem gpu_all_selects {C : Choices DeviceInfo} (he : lib.getGpuHandles = .ok hs) (hC : getGpuChoices lib = .ok C) :
    (∀ S given, "all" ∈ S → getDeviceHandlesFromGpuSelections bdf lib (.list S) given =
      (fun P => (true, true, .handles P)) <$> lib.amdsmiGetProcessorHandles) ∧
    C.records.map (·.2.deviceHandle) =
      hs.filter (fun h => lib.amdsmiGetProcessorType h = .ok "AMDSMI_PROCESSOR_TYPE_AMD_GPU") ∧
    ((∀ p ∈ C.records, bdf p.1 = none ∧ ∀ q ∈ C.records, lower p.1 ≠ q.2.uuid) →
      getDeviceHandlesFromGpuSelections bdf lib (.list (C.records.map Prod.fst)) (some C) =
        .ok (true, true, .handles (C.records.map (·.2.deviceHandle)))) :=
  ⟨fun S given hS => by simp only [getDeviceHandlesFromGpuSelections, hasAll_of_mem hS, if_true],
    handles_of_gpuChoices he hC, fun hk => by
      simp only [getDeviceHandlesFromGpuSelections, hasAll_list (all_not_mem_keys he hC), Bool.false_eq_true,
        if_false, Selections.toList, bind, Except.bind, pure, Except.pure]
      exact gpuSelect_keys bdf he hC hk⟩

/-- The NIC and switch classes: the `'all'` path returns the enumeration the catalog holds, and its keys resolve to
it. -/
theorem info_all_selects {getBdf getUuid : Handle → Except PyExc String} {C : Choices DeviceInfo}
    (he : enumerate = .ok hs) (hC : buildChoices enumerate (infoEntry getBdf getUuid) = .ok C) :
    (∀ S given, "all" ∈ S → selectInfo bdf lib enumerate (buildChoices enumerate (infoEntry getBdf getUuid))
      (.list S) given = .ok (true, .handles hs)) ∧
    C.records.map (·.2.deviceHandle) = hs ∧
    ((∀ p ∈ C.records, bdf p.1 = none ∧ (∀ q ∈ C.records, lower p.1 ≠ q.2.uuid) ∧
        ∃ t, lib.amdsmiGetProcessorType p.2.deviceHandle = .ok t) →
      selectInfo bdf lib enumerate (buildChoices enumerate (infoEntry getBdf getUuid))
        (.list (C.records.map Prod.fst)) (some C) = .ok (true, .handles hs)) :=
  ⟨fun S given hS => by simp only [selectInfo, hasAll_of_mem hS, if_true, he]; rfl,
    handles_of_infoChoices he hC, fun hk => by
      simp only [selectInfo, hasAll_list (all_not_mem_keys he hC), Bool.false_eq_true, if_false, Selections.toList,
        bind, Except.bind, pure, Except.pure]
      rw [infoSelect_keys bdf lib he hC hk, handles_of_infoChoices he hC]⟩

end Classes

/-- The CPU and core classes: the `'all'` path returns the enumeration the catalog holds, and its keys resolve to
it. -/
theorem id_all_selects {enumerate : Except PyExc (List Handle)} {hs : List Handle} {C : Choices CpuInfo}
    (he : enumerate = .ok hs) (hC : buildChoices enumerate (fun h => .ok (some (⟨h⟩ : CpuInfo))) = .ok C) :
    (∀ S given, "all" ∈ S → selectId enumerate (buildChoices enumerate (fun h => .ok (some (⟨h⟩ : CpuInfo))))
      (.list S) given = .ok (true, true, .handles hs)) ∧
    C.records.map (·.2.deviceHandle) = hs ∧
    selectId enumerate (buildChoices enumerate (fun h => .ok (some (⟨h⟩ : CpuInfo))))
      (.list (C.records.map Prod.fst)) (some C) = .ok (true, true, .handles hs) :=
  ⟨fun S given hS => by simp only [selectId, hasAll_of_mem hS, if_true, he]; rfl,
    handles_of_cpuChoices he hC, by
      simp only [selectId, hasAll_list (all_not_mem_keys he hC), Bool.false_eq_true, if_false, Selections.toList,
        bind, Except.bind, pure, Except.pure]
      rw [idSelect_keys he hC, handles_of_cpuChoices he hC]⟩

/-- **The `'all'` path against the catalog.** For every state whose enumeration returns and whose catalog builds, a
list holding `"all"` returns an enumeration. For the NIC, switch, CPU and core classes it is the one the catalog is
built from, which is the catalog's handles in key order, and the list of the catalog's keys resolves against the
catalog to the same handles (for the NIC and switch classes when the BDF class rejects the keys, no UUID spells
one and the processor type of every record's handle can be queried). The GPU path returns
`amdsmi_get_processor_handles()`, while the GPU catalog and its keys give the GPUs of `get_gpu_handles()`. -/
theorem all_selects_catalog {Addr : Type} [DecidableEq Addr] (bdf : String → Option Addr) :
    (∀ (lib : Lib) (hs : List Handle) (C : Choices DeviceInfo), lib.getGpuHandles = .ok hs →
      getGpuChoices lib = .ok C →
      (∀ S given, "all" ∈ S → getDeviceHandlesFromGpuSelections bdf lib (.list S) given =
        (fun P => (true, true, .handles P)) <$> lib.amdsmiGetProcessorHandles) ∧
      C.records.map (·.2.deviceHandle) =
        hs.filter (fun h => lib.amdsmiGetProcessorType h = .ok "AMDSMI_PROCESSOR_TYPE_AMD_GPU") ∧
      ((∀ p ∈ C.records, bdf p.1 = none ∧ ∀ q ∈ C.records, lower p.1 ≠ q.2.uuid) →
        getDeviceHandlesFromGpuSelections bdf lib (.list (C.records.map Prod.fst)) (some C) =
          .ok (true, true, .handles (C.records.map (·.2.deviceHandle))))) ∧
    (∀ (lib : Lib) (hs : List Handle) (C : Choices DeviceInfo), lib.getNicHandles = .ok hs →
      getNicChoices lib = .ok C →
      (∀ S given, "all" ∈ S → getDeviceHandlesFromNicSelections bdf lib (.list S) given =
        .ok (true, .handles hs)) ∧
      C.records.map (·.2.deviceHandle) = hs ∧
      ((∀ p ∈ C.records, bdf p.1 = none ∧ (∀ q ∈ C.records, lower p.1 ≠ q.2.uuid) ∧
          ∃ t, lib.amdsmiGetProcessorType p.2.deviceHandle = .ok t) →
        getDeviceHandlesFromNicSelections bdf lib (.list (C.records.map Prod.fst)) (some C) =
          .ok (true, .handles hs))) ∧
    (∀ (lib : Lib) (hs : List Handle) (C : Choices DeviceInfo), lib.getSwitchHandles = .ok hs →
      getSwitchChoices lib = .ok C →
      (∀ S given, "all" ∈ S → getDeviceHandlesFromSwitchSelections bdf lib (.list S) given =
        .ok (true, .handles hs)) ∧
      C.records.map (·.2.deviceHandle) = hs ∧
      ((∀ p ∈ C.records, bdf p.1 = none ∧ (∀ q ∈ C.records, lower p.1 ≠ q.2.uuid) ∧
          ∃ t, lib.amdsmiGetProcessorType p.2.deviceHandle = .ok t) →
        getDeviceHandlesFromSwitchSelections bdf lib (.list (C.records.map Prod.fst)) (some C) =
          .ok (true, .handles hs))) ∧
    (∀ (lib : Lib) (hs : List Handle) (C : Choices CpuInfo), lib.amdsmiGetCpusocketHandles = .ok hs →
      getCpuChoices lib = .ok C →
      (∀ S given, "all" ∈ S → getDeviceHandlesFromCpuSelections lib (.list S) given =
        .ok (true, true, .handles hs)) ∧
      C.records.map (·.2.deviceHandle) = hs ∧
      getDeviceHandlesFromCpuSelections lib (.list (C.records.map Prod.fst)) (some C) =
        .ok (true, true, .handles hs)) ∧
    (∀ (lib : Lib) (hs : List Handle) (C : Choices CpuInfo), lib.amdsmiGetCpucoreHandles = .ok hs →
      getCoreChoices lib = .ok C →
      (∀ S given, "all" ∈ S → getDeviceHandlesFromCoreSelections lib (.list S) given =
        .ok (true, true, .handles hs)) ∧
      C.records.map (·.2.deviceHandle) = hs ∧
      getDeviceHandlesFromCoreSelections lib (.list (C.records.map Prod.fst)) (some C) =
        .ok (true, true, .handles hs)) :=
  ⟨fun lib _ _ he hC => gpu_all_selects bdf lib he hC,
    fun lib _ _ he hC => info_all_selects bdf lib he hC,
    fun lib _ _ he hC => info_all_selects bdf lib he hC,
    fun _ _ _ he hC => id_all_selects he hC, fun _ _ _ he hC => id_all_selects he hC⟩

/-- `amdsmi_get_processor_handles()` lists a NIC before the only GPU: a list holding `"all"` selects both, the
catalog's only key selects the GPU. -/
theorem gpu_all_other_enumeration :
    let lib : Lib := { Lib.idle with
      amdsmiGetProcessorHandles := .ok [⟨0⟩, ⟨1⟩]
      getGpuHandles := .ok [⟨1⟩]
      amdsmiGetProcessorType := fun h => .ok (if h = ⟨1⟩ then "AMDSMI_PROCESSOR_TYPE_AMD_GPU"
        else "AMDSMI_PROCESSOR_TYPE_BRCM_NIC")
      amdsmiGetGpuDeviceBdf := fun _ => .ok "0000:24:00.0"
      amdsmiGetGpuDeviceUuid := fun _ => .ok "ffffffff-0000-1000-0000-000000000001" }
    getDeviceHandlesFromGpuSelections (fun _ => (none : Option Unit)) lib (.list ["all"]) none =
        .ok (true, true, .handles [⟨0⟩, ⟨1⟩]) ∧
      (getGpuChoices lib).bind (fun C => getDeviceHandlesFromGpuSelections (fun _ => (none : Option Unit)) lib
        (.list (C.records.map Prod.fst)) (some C)) = .ok (true, true, .handles [⟨1⟩]) := by
  decide

/-- One GPU and the selection `"7"`: without a catalog the GPU resolver raises `TypeError`; with the builder's
catalog less its marker it reports `"7"` as a well-formed selection that matched nothing. -/
theorem gpu_default_catalog_raises :
    let lib : Lib := { Lib.idle with
      getGpuHandles := .ok [⟨0⟩]
      amdsmiGetProcessorType := fun _ => .ok "AMDSMI_PROCESSOR_TYPE_AMD_GPU"
      amdsmiGetGpuDeviceBdf := fun _ => .ok "0000:23:00.0"
      amdsmiGetGpuDeviceUuid := fun _ => .ok "ffffffff-0000-1000-0000-000000000000" }
    getDeviceHandlesFromGpuSelections (fun _ => (none : Option Unit)) lib (.list ["7"]) none = .error .typeError ∧
      (getGpuChoices lib).bind (fun C =>
        getDeviceHandlesFromGpuSelections (fun _ => (none : Option Unit)) lib (.list ["7"]) (some (C.erase "all"))) =
        .ok (false, true, .selection "7") := by
  decide

end AmdSmiCli
