import AmdSmiCli.Interface

/-!
# The library's enums: clock types, levels, profiles and partitions

Several helpers list the members of one of the library's enums (`AmdSmiClkType`, `AmdSmiDevPerfLevel`,
`AmdSmiPowerProfilePresetMasks`, `AmdSmiMemoryPartitionType`): their names, their values, or their names without
`UNKNOWN`. An enum is taken as Python iterates it (`PyEnum`): aliases are skipped, so its names and its values are
distinct. `validate_clock_type` looks a string up among the clock types' names, ignoring case, and an integer among
their values.

- `validate_clock_type_canonical`: when no two clock types' names differ only in case, every case variant of a name
  validates to that name, every value to its member, and anything else is returned unchanged as invalid; the
  helper never raises.
-/

namespace AmdSmiCli

/-- A member of one of the library's enums: its `name` and `value`. -/
structure EnumMember where
  name : String
  value : Nat
  deriving DecidableEq, Repr

/-- The members of a Python `Enum` in the order iterating it gives: aliases are skipped, so no two members share a
name or a value. -/
structure PyEnum where
  members : List EnumMember
  names_nodup : (members.map (·.name)).Nodup
  values_nodup : (members.map (·.value)).Nodup

/-! ## The helpers -/

/-- `[m.name for m in enum]` and `list(set(m.value for m in enum))`, the set's order being one nothing reads. -/
def enumNamesValues (enum : PyEnum) : List String × List Nat :=
  (enum.members.map (·.name), enum.members.map (·.value))

/-- `get_clock_types`, over `AmdSmiClkType`. -/
def getClockTypes (amdSmiClkType : PyEnum) : List String × List Nat := enumNamesValues amdSmiClkType

/-- `get_perf_levels`, over `AmdSmiDevPerfLevel`. -/
def getPerfLevels (amdSmiDevPerfLevel : PyEnum) : List String × List Nat := enumNamesValues amdSmiDevPerfLevel

/-- `names = [m.name for m in enum]`, then `if 'UNKNOWN' in names: names.remove('UNKNOWN')`. -/
def namesWithoutUnknown (enum : PyEnum) : List String := (enum.members.map (·.name)).erase "UNKNOWN"

/-- `get_memory_partition_types`, over `AmdSmiMemoryPartitionType`. -/
def getMemoryPartitionTypes (amdSmiMemoryPartitionType : PyEnum) : List String :=
  namesWithoutUnknown amdSmiMemoryPartitionType

/-- `get_power_profiles`, over `AmdSmiPowerProfilePresetMasks`. -/
def getPowerProfiles (amdSmiPowerProfilePresetMasks : PyEnum) : List String :=
  namesWithoutUnknown amdSmiPowerProfilePresetMasks

/-- `get_perf_det_levels`, over `AmdSmiDevPerfLevel`. -/
def getPerfDetLevels (amdSmiDevPerfLevel : PyEnum) : List String := namesWithoutUnknown amdSmiDevPerfLevel

/-- `is_valid_profile(profile)` over the dict `amdsmi_power_profile_preset_masks_t__enumvalues` from values to
names: `(True, name)` for a present value, `(False, profile_presets.values())` otherwise. -/
def isValidProfile (profilePresets : List (Nat × String)) (profile : Nat) : Bool × (String ⊕ List String) :=
  match profilePresets.lookup profile with
  | some name => (true, .inl name)
  | none => (false, .inr (profilePresets.map Prod.snd))

/-- The argument of `validate_clock_type`: a `str`, an `int`, or any other object. -/
inductive ClockTypeInput where
  | str (s : String)
  | int (n : Int)
  | other
  deriving DecidableEq, Repr

/-- What `validate_clock_type` returns as `input_clock_type`: a plain value, or a member of `AmdSmiClkType`. -/
inductive ClockTypeResult where
  | input (x : ClockTypeInput)
  | member (m : EnumMember)
  deriving DecidableEq, Repr

/-- `AmdSmiClkType(value)`: the member of that value; `ValueError` when there is none. -/
def enumOfValue (enum : PyEnum) (value : Int) : Except PyExc EnumMember :=
  match enum.members.find? (fun m => value = m.value) with
  | some m => .ok m
  | none => .error .valueError

/-- `validate_clock_type(input_clock_type)`: the loop over the names with its `break` is the search `find?`. -/
def validateClockType (amdSmiClkType : PyEnum) (inputClockType : ClockTypeInput) :
    Except PyExc (Bool × ClockTypeResult) :=
  let (validClockTypesStr, validClockTypesInt) := getClockTypes amdSmiClkType
  match inputClockType with
  | .str s =>
    match validClockTypesStr.find? (fun clockType => lower s = lower clockType) with
    | some clockType => .ok (true, .input (.str clockType))
    | none => .ok (false, .input (.str s))
  | .int n =>
    if n ∈ validClockTypesInt.map Int.ofNat then do
      let member ← enumOfValue amdSmiClkType n
      return (true, .member member)
    else .ok (false, .input (.int n))
  | .other => .ok (false, .input .other)

/-! ## Validation -/

/-- In a list whose keys are distinct, the search for the key of one of its elements finds that element. -/
theorem find?_eq_of_key_nodup {α β : Type} [DecidableEq β] {f : α → β} {l : List α} (hl : (l.map f).Nodup)
    {a : α} (ha : a ∈ l) : l.find? (fun x => f a = f x) = some a := by
  cases h : l.find? (fun x => f a = f x) with
  | none => exact absurd (List.find?_eq_none.1 h a ha) (by simp)
  | some b =>
    have hb : f a = f b := by simpa using List.find?_some h
    rw [List.inj_on_of_nodup_map hl (List.mem_of_find?_eq_some h) ha hb.symm]

theorem enumOfValue_value (enum : PyEnum) {m : EnumMember} (hm : m ∈ enum.members) :
    enumOfValue enum m.value = .ok m := by
  simp [enumOfValue, find?_eq_of_key_nodup enum.values_nodup hm]

/-- **Validating a clock type**: when no two clock types' names differ only in case, every case variant of a name
validates to that name, and every value to its member; any other string or integer, and any other object, is
returned unchanged as invalid. The helper never raises. -/
theorem validate_clock_type_canonical (amdSmiClkType : PyEnum)
    (hlower : (amdSmiClkType.members.map fun m => lower m.name).Nodup) :
    (∀ m ∈ amdSmiClkType.members, ∀ s, lower s = lower m.name →
      validateClockType amdSmiClkType (.str s) = .ok (true, .input (.str m.name))) ∧
    (∀ s, (∀ m ∈ amdSmiClkType.members, lower s ≠ lower m.name) →
      validateClockType amdSmiClkType (.str s) = .ok (false, .input (.str s))) ∧
    (∀ m ∈ amdSmiClkType.members, validateClockType amdSmiClkType (.int m.value) = .ok (true, .member m)) ∧
    (∀ n : Int, (∀ m ∈ amdSmiClkType.members, (m.value : Int) ≠ n) →
      validateClockType amdSmiClkType (.int n) = .ok (false, .input (.int n))) ∧
    validateClockType amdSmiClkType .other = .ok (false, .input .other) := by
  have hnames : ((amdSmiClkType.members.map (·.name)).map lower).Nodup := by simpa [List.map_map] using hlower
  refine ⟨fun m hm s hs => ?_, fun s hs => ?_, fun m hm => ?_, fun n hn => ?_, rfl⟩
  · have hfind := find?_eq_of_key_nodup hnames (List.mem_map_of_mem (·.name) hm)
    simp only [← hs] at hfind
    simp [validateClockType, getClockTypes, enumNamesValues, hfind]
  · have hnone : (amdSmiClkType.members.map (·.name)).find? (fun clockType => lower s = lower clockType) = none :=
      List.find?_eq_none.2 fun c hc => by
        obtain ⟨m, hm, rfl⟩ := List.mem_map.1 hc
        simpa using hs m hm
    simp [validateClockType, getClockTypes, enumNamesValues, hnone]
  · have hv : ((m.value : Nat) : Int) ∈ (amdSmiClkType.members.map (·.value)).map Int.ofNat :=
      List.mem_map_of_mem _ (List.mem_map_of_mem _ hm)
    simp only [validateClockType, getClockTypes, enumNamesValues, if_pos hv, enumOfValue_value amdSmiClkType hm]
    rfl
  · have hv : n ∉ (amdSmiClkType.members.map (·.value)).map Int.ofNat := by
      simp only [List.map_map, List.mem_map, not_exists, not_and]
      exact fun m hm h => hn m hm h
    simp only [validateClockType, getClockTypes, enumNamesValues, if_neg hv]

/-- Two clock types, `SYS` of value `0` and `DF` of value `1`. -/
def sysDf : PyEnum := ⟨[⟨"SYS", 0⟩, ⟨"DF", 1⟩], by decide, by decide⟩

/-- `SYS` and `DF` differ also ignoring case, so the law holds of them. -/
theorem validate_clock_type_sys_df :
    (sysDf.members.map fun m => lower m.name).Nodup ∧
      validateClockType sysDf (.str "df") = .ok (true, .input (.str "DF")) :=
  ⟨by decide, (validate_clock_type_canonical sysDf (by decide)).1 ⟨"DF", 1⟩ (by decide) "df" (by decide)⟩

/-- `str.lower` maps the Kelvin sign to `k`: `vcl` and a Kelvin sign and `0` validate to `VCLK0`. -/
example : validateClockType ⟨[⟨"VCLK0", 0⟩], by decide, by decide⟩ (.str "vcl\u212A0") =
    .ok (true, .input (.str "VCLK0")) := by decide

end AmdSmiCli
