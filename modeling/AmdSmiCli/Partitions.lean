import AmdSmiCli.Interface

/-!
# The accelerator partition profiles

`get_accelerator_partition_profile_config` reads the partition profiles of one processor: its loop over the devices
breaks after the first, whether that device's query returned or raised `AmdSmiLibraryException`. For each
`p in range(num_profiles)` it appends the index (as a string), the type and the memory caps of `profiles[p]` to
three lists (`profilesLoop`). `get_accelerator_choices_types_indices` joins the types and then the indices into the
choices text, or gives `"N/A"` when there is no type.

- `profilesLoop_eq`: the inner loop appends the fields of the first `num_profiles` profiles, and raises `IndexError`
  exactly when `num_profiles` exceeds the profiles listed;
- `accelerator_choices_first_device`: hence the choices are those of the first `num_profiles` profiles of the first
  device (`profileChoices`), `"N/A"` when the first device has none or its query fails, and `IndexError` when it
  reports more profiles than it lists.
-/

namespace AmdSmiCli

/-- A profile of `amdsmi_get_gpu_accelerator_partition_profile_config(dev)['profiles']`, by the keys the helper
reads. -/
structure PartitionProfile where
  profileType : String
  profileIndex : Nat
  memoryCaps : Nat
  deriving DecidableEq, Repr

/-- `amdsmi_get_gpu_accelerator_partition_profile_config(dev)`, by the keys the helper reads. -/
structure PartitionProfileConfig where
  numProfiles : Nat
  profiles : List PartitionProfile
  deriving DecidableEq, Repr

/-- `accelerator_partition_profiles`: `{'profile_indices': [...], 'profile_types': [...], 'memory_caps': [...]}`. -/
structure PartitionProfiles where
  profileIndices : List String
  profileTypes : List String
  memoryCaps : List Nat
  deriving DecidableEq, Repr

namespace PartitionProfiles

/-- `{'profile_indices':[], 'profile_types':[], 'memory_caps': []}`. -/
def empty : PartitionProfiles := ⟨[], [], []⟩

/-- The three appends of the body of `for p in range(num_profiles):`, for `profile['profiles'][p]`. -/
def push (acc : PartitionProfiles) (profile : PartitionProfile) : PartitionProfiles :=
  ⟨acc.profileIndices ++ [toString profile.profileIndex], acc.profileTypes ++ [profile.profileType],
    acc.memoryCaps ++ [profile.memoryCaps]⟩

/-- The three lists of the profiles `ps`, each field in its own list, in order. -/
def ofProfiles (ps : List PartitionProfile) : PartitionProfiles :=
  ⟨ps.map (toString ·.profileIndex), ps.map (·.profileType), ps.map (·.memoryCaps)⟩

end PartitionProfiles

/-! ## The helpers -/

/-- `for p in range(num_profiles):`, walking `profile['profiles']` from `p` on: `IndexError` when `p` passes its
end, before any append of that pass. -/
def profilesLoop : Nat → List PartitionProfile → PartitionProfiles → Except PyError PartitionProfiles
  | 0, _, acc => .ok acc
  | _ + 1, [], _ => .error .indexError
  | n + 1, profile :: rest, acc => profilesLoop n rest (acc.push profile)

/-- `for dev in device_handles:`, `query` being the call under `try`: both the body and the handler of
`AmdSmiLibraryException` end with `break`, so only the first device is read. -/
def profileConfigLoop (query : Handle → Except PyExc PartitionProfileConfig) :
    List Handle → PartitionProfiles → Except PyError PartitionProfiles
  | [], acc => .ok acc
  | dev :: _, acc =>
    match query dev with
    | .ok profile => profilesLoop profile.numProfiles profile.profiles acc
    | .error (.amdSmiLibraryException _) => .ok acc
    | .error e => .error (.raised e)

/-- `get_accelerator_partition_profile_config`, `query` being
`amdsmi_get_gpu_accelerator_partition_profile_config`. -/
def getAcceleratorPartitionProfileConfig (lib : Lib) (query : Handle → Except PyExc PartitionProfileConfig) :
    Except PyError PartitionProfiles := do
  let deviceHandles ← lib.amdsmiGetProcessorHandles.mapError .raised
  profileConfigLoop query deviceHandles .empty

/-- `get_accelerator_choices_types_indices`: the choices text and the profiles; `none` stands for the dict
`{'profile_indices':[], 'profile_types':[]}` returned with `"N/A"`. -/
def getAcceleratorChoicesTypesIndices (lib : Lib) (query : Handle → Except PyExc PartitionProfileConfig) :
    Except PyError (String × Option PartitionProfiles) := do
  let profiles ← getAcceleratorPartitionProfileConfig lib query
  return if profiles.profileTypes.length ≠ 0 then
    (", ".intercalate (profiles.profileTypes ++ profiles.profileIndices), some profiles)
  else ("N/A", none)

/-! ## What the choices are for -/

/-- The choices of the profiles `ps`: their types, then their indices, joined by `", "`, with the three lists of
their fields; `"N/A"` when there is none. -/
def profileChoices (ps : List PartitionProfile) : String × Option PartitionProfiles :=
  if ps = [] then ("N/A", none)
  else (", ".intercalate (ps.map (·.profileType) ++ ps.map (toString ·.profileIndex)),
    some (PartitionProfiles.ofProfiles ps))

@[simp] theorem PartitionProfiles.ofProfiles_append (ps qs : List PartitionProfile) :
    PartitionProfiles.ofProfiles (ps ++ qs) =
      ⟨(PartitionProfiles.ofProfiles ps).profileIndices ++ (PartitionProfiles.ofProfiles qs).profileIndices,
        (PartitionProfiles.ofProfiles ps).profileTypes ++ (PartitionProfiles.ofProfiles qs).profileTypes,
        (PartitionProfiles.ofProfiles ps).memoryCaps ++ (PartitionProfiles.ofProfiles qs).memoryCaps⟩ := by
  simp [PartitionProfiles.ofProfiles]

/-- **The inner loop** appends the fields of the first `n` profiles, and raises `IndexError` exactly when `n`
exceeds the profiles listed. -/
theorem profilesLoop_eq : ∀ (n : Nat) (ps : List PartitionProfile) (ps₀ : List PartitionProfile),
    profilesLoop n ps (.ofProfiles ps₀) =
      if n ≤ ps.length then .ok (.ofProfiles (ps₀ ++ ps.take n)) else .error .indexError
  | 0, _, _ => by simp [profilesLoop]
  | n + 1, [], _ => by simp [profilesLoop]
  | n + 1, p :: ps, ps₀ => by
    have hpush : (PartitionProfiles.ofProfiles ps₀).push p = .ofProfiles (ps₀ ++ [p]) := by
      simp [PartitionProfiles.push, PartitionProfiles.ofProfiles]
    simp only [profilesLoop, hpush, profilesLoop_eq n ps, List.length_cons, Nat.add_le_add_iff_right,
      List.take_succ_cons, List.append_assoc, List.singleton_append]

/-- **The choices** are those of the first `num_profiles` profiles of the first device: `"N/A"` when there is no
device, when its query raises `AmdSmiLibraryException` (the other devices are not asked), or when it has no
profile; `IndexError` when it reports more profiles than it lists. -/
theorem accelerator_choices_first_device (lib : Lib) (query : Handle → Except PyExc PartitionProfileConfig)
    (hs : List Handle) (he : lib.amdsmiGetProcessorHandles = .ok hs) :
    getAcceleratorChoicesTypesIndices lib query =
      match hs with
      | [] => .ok ("N/A", none)
      | dev :: _ =>
        match query dev with
        | .ok profile =>
          if profile.numProfiles ≤ profile.profiles.length then
            .ok (profileChoices (profile.profiles.take profile.numProfiles))
          else .error .indexError
        | .error (.amdSmiLibraryException _) => .ok ("N/A", none)
        | .error e => .error (.raised e) := by
  have hempty : PartitionProfiles.empty = .ofProfiles [] := rfl
  cases hs with
  | nil => simp [getAcceleratorChoicesTypesIndices, getAcceleratorPartitionProfileConfig, he, profileConfigLoop,
      Except.mapError, bind, Except.bind, pure, Except.pure, PartitionProfiles.empty]
  | cons dev rest =>
    cases hq : query dev with
    | ok profile =>
      simp only [getAcceleratorChoicesTypesIndices, getAcceleratorPartitionProfileConfig, he, profileConfigLoop,
        hq, hempty, profilesLoop_eq, List.nil_append, Except.mapError, bind, Except.bind]
      by_cases hn : profile.numProfiles ≤ profile.profiles.length
      · rw [if_pos hn, if_pos hn]
        cases profile.profiles.take profile.numProfiles <;>
          simp [profileChoices, PartitionProfiles.ofProfiles, pure, Except.pure]
      · rw [if_neg hn, if_neg hn]
    | error e =>
      cases e <;> simp [getAcceleratorChoicesTypesIndices, getAcceleratorPartitionProfileConfig, he,
        profileConfigLoop, hq, Except.mapError, bind, Except.bind, pure, Except.pure, PartitionProfiles.empty]

/-- One GPU listing two profiles but reporting three: `IndexError`. -/
theorem accelerator_choices_short_profiles :
    let lib : Lib := { Lib.idle with amdsmiGetProcessorHandles := .ok [⟨0⟩] }
    let query : Handle → Except PyExc PartitionProfileConfig :=
      fun _ => .ok ⟨3, [⟨"SPX", 0, 1⟩, ⟨"DPX", 1, 1⟩]⟩
    lib.amdsmiGetProcessorHandles = .ok [⟨0⟩] ∧
      getAcceleratorChoicesTypesIndices lib query = .error .indexError := by
  intro lib query
  exact ⟨rfl, (accelerator_choices_first_device lib query _ rfl).trans (by decide)⟩

end AmdSmiCli
