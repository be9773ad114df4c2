import AmdSmiCli.Choices

/-!
# The selection resolvers

`get_device_handles_from_{gpu,nic,switch,cpu,core}_selections` turn the user's selections into handles. A list
holding `"all"` (a string holding it as a substring) returns a whole enumeration at once; otherwise each selection is
looked up in the catalog, record by record (`scanInfo`, `scanId`), until one is not found (`selectLoop`).

The `BDF` class of `BDF.py` is not in the sources: it is the parameter `bdf`, a parser that gives a bus address or
raises (`none`); `BDF(a) == BDF(b)` compares the parsed addresses.

- `scanInfo_records`: on a catalog of records, the inner loop finds the first record matching by ID, UUID or BDF
  (`firstMatch`), and leaves `is_bdf` as the last record's BDF comparison set it (`flagAfter`);
- `selectLoop_eq`: the outer loop converts every selection, or stops at the first it cannot convert
  (`resolveAll`);
- hence the five resolvers on a catalog without the `"all"` marker (`gpu_selections_of_records`,
  `info_selections_of_records`, `id_selections_of_records`).
-/

namespace AmdSmiCli

/-- The first argument of a resolver: a list of selections, or a bare string. -/
inductive Selections where
  | list (l : List String)
  | str (s : String)
  deriving DecidableEq, Repr

/-- `'all' in selections`: membership in a list, a substring test on a string. -/
def Selections.hasAll : Selections → Bool
  | .list l => decide ("all" ∈ l)
  | .str s => decide ("all".toList <:+: s.toList)

/-- `if isinstance(selections, str): selections = [selections]`. -/
def Selections.toList : Selections → List String
  | .list l => l
  | .str s => [s]

/-- The last component of a resolver's tuple: the handles, or the selection that failed. -/
inductive Selected where
  | handles (hs : List Handle)
  | selection (s : String)
  deriving DecidableEq, Repr

/-- How the outer loop over the selections ends. -/
inductive LoopEnd where
  | converted (hs : List Handle)
  | failed (selection : String) (isBdf : Option Bool)
  deriving DecidableEq, Repr

/-- The outer `for selection in selections`: `scan s isBdf` runs the inner loop for `s` with the current value of
`is_bdf`, a local of the whole function. -/
def selectLoop (scan : String → Option Bool → Except PyExc (Option Handle × Option Bool)) :
    List String → List Handle → Option Bool → Except PyExc LoopEnd
  | [], selected, _ => .ok (.converted selected)
  | s :: rest, selected, isBdf => do
    match ← scan s isBdf with
    | (some h, isBdf') => selectLoop scan rest (selected ++ [h]) isBdf'
    | (none, isBdf') => .ok (.failed s isBdf')

/-- The inner `for` of the CPU and core resolvers: the handle of the first record whose ID is the selection. -/
def scanId (selection : String) : List (String × Choice CpuInfo) → Except PyExc (Option Handle)
  | [] => .ok none
  | (_, .str _) :: _ => .error .typeError
  | (id, .info r) :: rest => if selection = id then .ok (some r.deviceHandle) else scanId selection rest

/-- `valid_cpu_format`, `valid_core_format`. -/
def validIdFormat (selection : String) : Bool := isdigit selection

/-- The CPU and core resolvers once the catalog is chosen: the outer loop over its items, then the tuple. -/
def idSelect (items : List (String × Choice CpuInfo)) (selections : List String) :
    Except PyExc (Bool × Bool × Selected) := do
  match ← selectLoop (fun s b => (·, b) <$> scanId s items) selections [] none with
  | .converted hs => return (true, true, .handles hs)
  | .failed s _ => return (false, validIdFormat s, .selection s)

/-- The body shared by the CPU and core resolvers: `enumerate` is the call of the `'all'` path, `choices` the
builder of the default catalog. -/
def selectId (enumerate : Except PyExc (List Handle)) (choices : Except PyExc (Choices CpuInfo))
    (selections : Selections) (given : Option (Choices CpuInfo)) : Except PyExc (Bool × Bool × Selected) :=
  if selections.hasAll then (fun hs => (true, true, .handles hs)) <$> enumerate
  else do
    let c ← match given with
      | some c => pure c
      | none => choices
    idSelect c.items selections.toList

/-- `get_device_handles_from_cpu_selections`. -/
def getDeviceHandlesFromCpuSelections (lib : Lib) : Selections → Option (Choices CpuInfo) →
    Except PyExc (Bool × Bool × Selected) :=
  selectId lib.amdsmiGetCpusocketHandles (getCpuChoices lib)

/-- `get_device_handles_from_core_selections`. -/
def getDeviceHandlesFromCoreSelections (lib : Lib) : Selections → Option (Choices CpuInfo) →
    Except PyExc (Bool × Bool × Selected) :=
  selectId lib.amdsmiGetCpucoreHandles (getCoreChoices lib)

section Bdf

variable {Addr : Type} [DecidableEq Addr] (bdf : String → Option Addr)

/-- `BDF(selection) == BDF(record_bdf)`; `none` when a `BDF` constructor raises. -/
def bdfEq (selection recordBdf : String) : Option Bool := do
  let a ← bdf selection
  let b ← bdf recordBdf
  return decide (a = b)

/-- The inner `for` of the GPU, NIC and switch resolvers over the catalog's items, for one selection: the handle
of the first record it matches by ID, UUID or BDF, and the value it leaves in `is_bdf`. `onId` is what the body
calls on a match by ID or UUID before appending the handle. -/
def scanInfo (onId : Handle → Except PyExc Unit) (selection : String) :
    Option Bool → List (String × Choice DeviceInfo) → Except PyExc (Option Handle × Option Bool)
  | isBdf, [] => .ok (none, isBdf)
  | _, (_, .str _) :: _ => .error .typeError
  | _, (id, .info r) :: rest =>
    if selection = id ∨ lower selection = r.uuid then do
      onId r.deviceHandle
      return (some r.deviceHandle, some true)
    else match bdfEq bdf selection r.bdf with
      | some true => .ok (some r.deviceHandle, some true)
      | some false => scanInfo onId selection (some true) rest
      | none => scanInfo onId selection (some false) rest

/-- `valid_gpu_format`: `not is_UUID(s) and not s.isdigit() and not is_bdf` makes it false. `is_bdf` is read
only when both tests fail, and raises when no inner loop ever assigned it. -/
def validGpuFormat (selection : String) (isBdf : Option Bool) : Except PyExc Bool :=
  if isUUID selection || isdigit selection then .ok true
  else match isBdf with
    | some b => .ok b
    | none => .error (.unboundLocalError "is_bdf")

/-- The GPU resolver once the catalog is chosen: the outer loop over its items, then the tuple. -/
def gpuSelect (items : List (String × Choice DeviceInfo)) (selections : List String) :
    Except PyExc (Bool × Bool × Selected) := do
  match ← selectLoop (fun s b => scanInfo bdf (fun _ => pure ()) s b items) selections [] none with
  | .converted hs => return (true, true, .handles hs)
  | .failed s isBdf => return (false, ← validGpuFormat s isBdf, .selection s)

/-- `get_device_handles_from_gpu_selections`. -/
def getDeviceHandlesFromGpuSelections (lib : Lib) (gpuSelections : Selections)
    (gpuChoices : Option (Choices DeviceInfo)) : Except PyExc (Bool × Bool × Selected) :=
  if gpuSelections.hasAll then (fun hs => (true, true, .handles hs)) <$> lib.amdsmiGetProcessorHandles
  else do
    let c ← match gpuChoices with
      | some c => pure c
      | none => getGpuChoices lib
    gpuSelect bdf c.items gpuSelections.toList

/-- The NIC and switch resolvers once the catalog is chosen. On a match by ID or UUID the body queries the
processor type and drops it. -/
def infoSelect (lib : Lib) (items : List (String × Choice DeviceInfo)) (selections : List String) :
    Except PyExc (Bool × Selected) := do
  let onId h := discard (lib.amdsmiGetProcessorType h)
  match ← selectLoop (fun s b => scanInfo bdf onId s b items) selections [] none with
  | .converted hs => return (true, .handles hs)
  | .failed s _ => return (false, .selection s)

/-- The body shared by the NIC and switch resolvers: `enumerate` is the call of the `'all'` path, `choices` the
builder of the default catalog. -/
def selectInfo (lib : Lib) (enumerate : Except PyExc (List Handle)) (choices : Except PyExc (Choices DeviceInfo))
    (selections : Selections) (given : Option (Choices DeviceInfo)) : Except PyExc (Bool × Selected) :=
  if selections.hasAll then (fun hs => (true, .handles hs)) <$> enumerate
  else do
    let c ← match given with
      | some c => pure c
      | none => choices
    infoSelect bdf lib c.items selections.toList

/-- `get_device_handles_from_nic_selections`. -/
def getDeviceHandlesFromNicSelections (lib : Lib) : Selections → Option (Choices DeviceInfo) →
    Except PyExc (Bool × Selected) :=
  selectInfo bdf lib lib.getNicHandles (getNicChoices lib)

/-- `get_device_handles_from_switch_selections`. -/
def getDeviceHandlesFromSwitchSelections (lib : Lib) : Selections → Option (Choices DeviceInfo) →
    Except PyExc (Bool × Selected) :=
  selectInfo bdf lib lib.getSwitchHandles (getSwitchChoices lib)

end Bdf

/-! ## The outer loop -/

section Loop

variable {f : String → Option Bool → Except PyExc (Option Handle × Option Bool)}
  {m : String → Option Handle} {g : String → Option Bool → Option Bool}

/-- How the resolvers are meant to resolve a list: every selection's handle, or the first selection without one. -/
def resolveAll (m : String → Option Handle) : List String → Except String (List Handle)
  | [] => .ok []
  | s :: rest =>
    match m s with
    | some h => (h :: ·) <$> resolveAll m rest
    | none => .error s

/-- The end of the outer loop when the selections resolve as `r` and `flag s` is `is_bdf` at a failing `s`. -/
def loopEnd (flag : String → Option Bool) (acc : List Handle) : Except String (List Handle) → LoopEnd
  | .ok hs => .converted (acc ++ hs)
  | .error s => .failed s (flag s)

/-- **The outer loop** resolves as `resolveAll`, when the inner loop finds `m s` for each selection `s` and sets
the flag to `g s b`, and a found selection does not change what a later failing one leaves in the flag. -/
theorem selectLoop_eq (hg : ∀ s s' b, (m s').isSome → g s (g s' b) = g s b) :
    ∀ (S : List String), (∀ s ∈ S, ∀ b, f s b = .ok (m s, g s b)) → ∀ (acc : List Handle) (b : Option Bool),
      selectLoop f S acc b = .ok (loopEnd (g · b) acc (resolveAll m S))
  | [], _, acc, b => by simp [selectLoop, loopEnd, resolveAll]
  | s :: rest, hscan, acc, b => by
    have ih := selectLoop_eq hg rest fun s' hs' => hscan s' (List.mem_cons_of_mem _ hs')
    cases hm : m s with
    | none => simp [selectLoop, hscan s (List.mem_cons_self _ _), hm, bind, Except.bind, resolveAll, loopEnd]
    | some h =>
      simp only [selectLoop, hscan s (List.mem_cons_self _ _), hm, bind, Except.bind, resolveAll, ih]
      cases resolveAll m rest with
      | ok hs => simp [loopEnd, Functor.map, Except.map]
      | error s0 => simp [loopEnd, Functor.map, Except.map, hg s0 s b (by simp [hm])]

end Loop

/-! ## The inner loops on a catalog of records -/

section Records

variable {Addr : Type} [DecidableEq Addr] (bdf : String → Option Addr)

/-- A record matches a selection by its ID, by its UUID (the selection lowercased) or by its BDF. -/
def matchesInfo (selection : String) (p : String × DeviceInfo) : Bool :=
  selection = p.1 || lower selection = p.2.uuid || bdfEq bdf selection p.2.bdf = some true

/-- The handle of the first record matching the selection. -/
def firstMatch (recs : List (String × DeviceInfo)) (selection : String) : Option Handle :=
  (recs.find? (matchesInfo bdf selection)).map (·.2.deviceHandle)

/-- The handle of the first CPU or core record whose ID is the selection. -/
def firstId (recs : List (String × CpuInfo)) (selection : String) : Option Handle :=
  (recs.find? fun p => selection = p.1).map (·.2.deviceHandle)

/-- What `is_bdf` holds after an inner loop over `recs` that matched nothing: whether the last record's BDF
comparison ran without raising, or, with no record, what it held before. -/
def flagAfter (selection : String) (isBdf : Option Bool) (recs : List (String × DeviceInfo)) : Option Bool :=
  match recs.getLast? with
  | none => isBdf
  | some p => some (bdfEq bdf selection p.2.bdf).isSome

theorem flagAfter_cons (s : String) (b : Option Bool) (p : String × DeviceInfo) (rest : List (String × DeviceInfo)) :
    flagAfter bdf s b (p :: rest) = flagAfter bdf s (some (bdfEq bdf s p.2.bdf).isSome) rest := by
  cases rest <;> simp [flagAfter, List.getLast?_cons]

theorem flagAfter_of_ne_nil (s : String) (b b' : Option Bool) {recs : List (String × DeviceInfo)} (h : recs ≠ []) :
    flagAfter bdf s b recs = flagAfter bdf s b' recs := by
  simp [flagAfter, List.getLast?_eq_getLast _ h]

theorem ne_nil_of_firstMatch {recs : List (String × DeviceInfo)} {s : String} (h : (firstMatch bdf recs s).isSome) :
    recs ≠ [] := by
  rintro rfl; simp [firstMatch] at h

/-- **The inner loop on records**: the first record matching by ID, UUID or BDF; `is_bdf` true after a match, and
otherwise as the last comparison left it. -/
theorem scanInfo_records (s : String) : ∀ (b : Option Bool) (recs : List (String × DeviceInfo)),
    scanInfo bdf (fun _ => pure ()) s b (recs.map fun p => (p.1, .info p.2)) =
      .ok (firstMatch bdf recs s, if (firstMatch bdf recs s).isSome then some true else flagAfter bdf s b recs)
  | b, [] => rfl
  | b, (k, r) :: rest => by
    simp only [List.map_cons, scanInfo]
    by_cases hid : s = k ∨ lower s = r.uuid
    · have hm : matchesInfo bdf s (k, r) = true := by simp [matchesInfo, hid]
      simp [hid, firstMatch, hm, pure, Except.pure, bind, Except.bind]
    · have hk : ¬ s = k := fun h => hid (.inl h)
      have hu : ¬ lower s = r.uuid := fun h => hid (.inr h)
      rcases hb : bdfEq bdf s r.bdf with _ | _ | _
      · have hm : matchesInfo bdf s (k, r) = false := by simp [matchesInfo, hk, hu, hb]
        simp only [hid, if_false, hb, scanInfo_records s (some false) rest, firstMatch, List.find?_cons, hm,
          flagAfter_cons bdf s b (k, r), Option.isSome_none]
      · have hm : matchesInfo bdf s (k, r) = false := by simp [matchesInfo, hk, hu, hb]
        simp only [hid, if_false, hb, scanInfo_records s (some true) rest, firstMatch, List.find?_cons, hm,
          flagAfter_cons bdf s b (k, r), Option.isSome_some]
      · have hm : matchesInfo bdf s (k, r) = true := by simp [matchesInfo, hb]
        simp [hid, hb, firstMatch, hm]

theorem scanId_records (s : String) : ∀ recs : List (String × CpuInfo),
    scanId s (recs.map fun p => (p.1, .info p.2)) = .ok (firstId recs s)
  | [] => rfl
  | (k, r) :: rest => by
    by_cases hk : s = k
    · simp [scanId, firstId, hk]
    · simp [scanId, hk, scanId_records s rest, firstId, List.find?_cons]

/-- The NIC and switch body's query of the processor type changes nothing when the query returns. -/
theorem scanInfo_onId {lib : Lib} (s : String) : ∀ (b : Option Bool) (items : List (String × Choice DeviceInfo)),
    (∀ k r, (k, .info r) ∈ items → ∃ t, lib.amdsmiGetProcessorType r.deviceHandle = .ok t) →
    scanInfo bdf (fun h => discard (lib.amdsmiGetProcessorType h)) s b items =
      scanInfo bdf (fun _ => pure ()) s b items
  | _, [], _ => rfl
  | _, (_, .str _) :: _, _ => rfl
  | b, (k, .info r) :: rest, hty => by
    obtain ⟨t, ht⟩ := hty k r (List.mem_cons_self _ _)
    have ih := fun b => scanInfo_onId s b rest fun k r h => hty k r (List.mem_cons_of_mem _ h)
    simp only [scanInfo, ih]
    simp [ht, discard, Functor.mapConst, Except.map, Function.const, pure, Except.pure]

/-- The inner loop over two parts: the second is scanned when the first matched nothing. -/
theorem scanInfo_append (onId : Handle → Except PyExc Unit) (s : String) :
    ∀ (b : Option Bool) (xs ys : List (String × Choice DeviceInfo)),
      scanInfo bdf onId s b (xs ++ ys) = (scanInfo bdf onId s b xs).bind fun r =>
        match r.1 with
        | some _ => .ok r
        | none => scanInfo bdf onId s r.2 ys
  | _, [], _ => rfl
  | _, (_, .str _) :: _, _ => rfl
  | b, (k, .info r) :: rest, ys => by
    simp only [List.cons_append, scanInfo]
    split
    · cases onId r.deviceHandle <;> rfl
    · split <;> first | rfl | exact scanInfo_append onId s _ rest ys

theorem scanId_append (s : String) : ∀ xs ys : List (String × Choice CpuInfo),
    scanId s (xs ++ ys) = (scanId s xs).bind fun r =>
      match r with
      | some _ => .ok r
      | none => scanId s ys
  | [], _ => rfl
  | (_, .str _) :: _, _ => rfl
  | (k, .info r) :: rest, ys => by
    simp only [List.cons_append, scanId]
    split
    · rfl
    · exact scanId_append s rest ys

/-- The `"all": "all"` item the builders put last. -/
def markerItem {α : Type} : String × Choice α := ("all", .str "all")

/-- **The inner loop on records then the marker**: a selection no record matches reaches the marker and raises
`TypeError`. -/
theorem scanInfo_marker (s : String) (b : Option Bool) (recs : List (String × DeviceInfo)) :
    scanInfo bdf (fun _ => pure ()) s b (recs.map (fun p => (p.1, .info p.2)) ++ [markerItem]) =
      if (firstMatch bdf recs s).isSome then .ok (firstMatch bdf recs s, some true) else .error .typeError := by
  rw [scanInfo_append, scanInfo_records]
  cases firstMatch bdf recs s <;> rfl

theorem scanId_marker (s : String) (recs : List (String × CpuInfo)) :
    scanId s (recs.map (fun p => (p.1, .info p.2)) ++ [markerItem]) =
      if (firstId recs s).isSome then .ok (firstId recs s) else .error .typeError := by
  rw [scanId_append, scanId_records]
  cases firstId recs s <;> rfl

end Records

/-! ## The outer loop, with and without the marker -/

section Marker

variable {f f' : String → Option Bool → Except PyExc (Option Handle × Option Bool)}

/-- A scan that raises where `f` finds nothing: the loop raises where the loop of `f` fails. -/
theorem selectLoop_marker
    (hf : ∀ s b, f' s b = (f s b).bind fun r => if r.1.isSome then .ok r else .error .typeError) :
    ∀ (S : List String) (acc : List Handle) (b : Option Bool),
      selectLoop f' S acc b = (selectLoop f S acc b).bind fun e =>
        match e with
        | .converted hs => .ok (.converted hs)
        | .failed _ _ => .error .typeError
  | [], _, _ => rfl
  | s :: rest, acc, b => by
    simp only [selectLoop, hf, bind, Except.bind]
    cases f s b with
    | error _ => rfl
    | ok r =>
      obtain ⟨_ | h, b'⟩ := r
      · rfl
      · exact selectLoop_marker hf rest _ _

end Marker

/-! ## The resolvers once the catalog is chosen -/

section Resolvers

variable {Addr : Type} [DecidableEq Addr] (bdf : String → Option Addr)

theorem resolveAll_error {m : String → Option Handle} {s0 : String} :
    ∀ {S : List String}, resolveAll m S = .error s0 → m s0 = none
  | [], h => nomatch h
  | s :: rest, h => by
    simp only [resolveAll] at h
    cases hm : m s with
    | none => rw [hm] at h; cases h; exact hm
    | some _ =>
      rw [hm] at h
      cases hr : resolveAll m rest with
      | ok _ => rw [hr] at h; cases h
      | error _ => rw [hr] at h; cases h; exact resolveAll_error hr

/-- The outer loop of the GPU, NIC and switch resolvers on records. -/
theorem infoLoop_records (recs : List (String × DeviceInfo)) (S : List String) :
    selectLoop (fun s b => scanInfo bdf (fun _ => pure ()) s b (recs.map fun p => (p.1, .info p.2))) S [] none =
      .ok (loopEnd (fun s => if (firstMatch bdf recs s).isSome then some true else flagAfter bdf s none recs) []
        (resolveAll (firstMatch bdf recs) S)) :=
  selectLoop_eq (g := fun s b => if (firstMatch bdf recs s).isSome then some true else flagAfter bdf s b recs)
    (fun s s' b hs' => by dsimp only; rw [flagAfter_of_ne_nil bdf s _ b (ne_nil_of_firstMatch bdf hs')]) S
    (fun s _ b => scanInfo_records bdf s b recs) [] none

/-- The outer loop of the CPU and core resolvers on records. -/
theorem idLoop_records (recs : List (String × CpuInfo)) (S : List String) :
    selectLoop (fun s b => (·, b) <$> scanId s (recs.map fun p => (p.1, .info p.2))) S [] none =
      .ok (loopEnd (fun _ => none) [] (resolveAll (firstId recs) S)) :=
  selectLoop_eq (m := firstId recs) (g := fun _ b => b) (fun _ _ _ _ => rfl) S
    (fun s _ b => by simp [scanId_records, Functor.map, Except.map]) [] none

/-- **The GPU resolver on records**: the handles of the first matching records, or the first selection matching
none, with `valid_gpu_format` computed from the `is_bdf` the last record left. -/
theorem gpuSelect_records (recs : List (String × DeviceInfo)) (S : List String) :
    gpuSelect bdf (recs.map fun p => (p.1, .info p.2)) S =
      match resolveAll (firstMatch bdf recs) S with
      | .ok hs => .ok (true, true, .handles hs)
      | .error s0 => (fun v => (false, v, .selection s0)) <$> validGpuFormat s0 (flagAfter bdf s0 none recs) := by
  simp only [gpuSelect, bind, Except.bind, pure, Except.pure] at *
  have h := infoLoop_records bdf recs S
  simp only [pure, Except.pure] at h
  rw [h]
  cases hr : resolveAll (firstMatch bdf recs) S with
  | ok hs => rfl
  | error s0 =>
    simp only [loopEnd, resolveAll_error hr, Option.isSome_none, Bool.false_eq_true, if_false]
    cases validGpuFormat s0 (flagAfter bdf s0 none recs) <;> rfl

/-- The outer loop of the GPU, NIC and switch resolvers on records and the marker: it converts every selection, or
raises `TypeError`. -/
theorem infoLoop_marker (recs : List (String × DeviceInfo)) (S : List String) :
    selectLoop (fun s b => scanInfo bdf (fun _ => pure ()) s b (recs.map (fun p => (p.1, .info p.2)) ++ [markerItem]))
        S [] none =
      match resolveAll (firstMatch bdf recs) S with
      | .ok hs => .ok (.converted hs)
      | .error _ => .error .typeError := by
  rw [selectLoop_marker (f := fun s b => scanInfo bdf (fun _ => pure ()) s b (recs.map fun p => (p.1, .info p.2)))
    (fun s b => by simp only [scanInfo_marker, scanInfo_records]; cases firstMatch bdf recs s <;> rfl),
    infoLoop_records]
  cases resolveAll (firstMatch bdf recs) S <;> rfl

/-- The outer loop of the CPU and core resolvers on records and the marker. -/
theorem idLoop_marker (recs : List (String × CpuInfo)) (S : List String) :
    selectLoop (fun s b => (·, b) <$> scanId s (recs.map (fun p => (p.1, .info p.2)) ++ [markerItem])) S [] none =
      match resolveAll (firstId recs) S with
      | .ok hs => .ok (.converted hs)
      | .error _ => .error .typeError := by
  rw [selectLoop_marker (f := fun s b => (·, b) <$> scanId s (recs.map fun p => (p.1, .info p.2)))
    (fun s b => by simp only [scanId_marker, scanId_records]; cases firstId recs s <;> rfl), idLoop_records]
  cases resolveAll (firstId recs) S <;> rfl

/-- **The GPU resolver on records and the marker**: the handles when every selection matches a record, and
`TypeError` otherwise. -/
theorem gpuSelect_marker (recs : List (String × DeviceInfo)) (S : List String) :
    gpuSelect bdf (recs.map (fun p => (p.1, .info p.2)) ++ [markerItem]) S =
      match resolveAll (firstMatch bdf recs) S with
      | .ok hs => .ok (true, true, .handles hs)
      | .error _ => .error .typeError := by
  simp only [gpuSelect, infoLoop_marker]
  cases resolveAll (firstMatch bdf recs) S <;> rfl

/-- On items whose record handles all have a processor type, the NIC and switch resolvers are the loop without the
query. -/
theorem infoSelect_eq (lib : Lib) (items : List (String × Choice DeviceInfo)) (S : List String)
    (hty : ∀ k r, (k, .info r) ∈ items → ∃ t, lib.amdsmiGetProcessorType r.deviceHandle = .ok t) :
    infoSelect bdf lib items S =
      (selectLoop (fun s b => scanInfo bdf (fun _ => pure ()) s b items) S [] none).bind fun e =>
        match e with
        | .converted hs => .ok (true, .handles hs)
        | .failed s _ => .ok (false, .selection s) := by
  simp only [infoSelect, fun s b => scanInfo_onId bdf s b items hty]
  rfl

/-- **The NIC and switch resolvers on records**, when the processor type of every record's handle can be queried:
the handles of the first matching records, or the first selection matching none. -/
theorem infoSelect_records (lib : Lib) (recs : List (String × DeviceInfo)) (S : List String)
    (hty : ∀ p ∈ recs, ∃ t, lib.amdsmiGetProcessorType p.2.deviceHandle = .ok t) :
    infoSelect bdf lib (recs.map fun p => (p.1, .info p.2)) S =
      .ok (match resolveAll (firstMatch bdf recs) S with
        | .ok hs => (true, .handles hs)
        | .error s0 => (false, .selection s0)) := by
  rw [infoSelect_eq bdf lib _ S fun k r h => by
    obtain ⟨p, hp, he⟩ := List.mem_map.1 h
    cases he
    exact hty p hp, infoLoop_records]
  cases resolveAll (firstMatch bdf recs) S <;> rfl

/-- **The NIC and switch resolvers on records and the marker**: the handles when every selection matches a record,
and `TypeError` otherwise. -/
theorem infoSelect_marker (lib : Lib) (recs : List (String × DeviceInfo)) (S : List String)
    (hty : ∀ p ∈ recs, ∃ t, lib.amdsmiGetProcessorType p.2.deviceHandle = .ok t) :
    infoSelect bdf lib (recs.map (fun p => (p.1, .info p.2)) ++ [markerItem]) S =
      match resolveAll (firstMatch bdf recs) S with
      | .ok hs => .ok (true, .handles hs)
      | .error _ => .error .typeError := by
  rw [infoSelect_eq bdf lib _ S fun k r h => by
    rcases List.mem_append.1 h with h | h
    · obtain ⟨p, hp, he⟩ := List.mem_map.1 h
      cases he
      exact hty p hp
    · simp [markerItem] at h, infoLoop_marker bdf recs S]
  cases resolveAll (firstMatch bdf recs) S <;> rfl

/-- **The CPU and core resolvers on records**: the handles of the first records with the selection as ID, or the
first selection that is none of them, valid when it is digits. -/
theorem idSelect_records (recs : List (String × CpuInfo)) (S : List String) :
    idSelect (recs.map fun p => (p.1, .info p.2)) S =
      .ok (match resolveAll (firstId recs) S with
        | .ok hs => (true, true, .handles hs)
        | .error s0 => (false, isdigit s0, .selection s0)) := by
  simp only [idSelect, bind, Except.bind, idLoop_records, pure, Except.pure]
  cases resolveAll (firstId recs) S <;> rfl

/-- **The CPU and core resolvers on records and the marker**: the handles when every selection is an ID, and
`TypeError` otherwise. -/
theorem idSelect_marker (recs : List (String × CpuInfo)) (S : List String) :
    idSelect (recs.map (fun p => (p.1, .info p.2)) ++ [markerItem]) S =
      match resolveAll (firstId recs) S with
      | .ok hs => .ok (true, true, .handles hs)
      | .error _ => .error .typeError := by
  simp only [idSelect, idLoop_marker]
  cases resolveAll (firstId recs) S <;> rfl

theorem hasAll_list {S : List String} (hS : "all" ∉ S) : (Selections.list S).hasAll = false := by
  simp [Selections.hasAll, hS]

/-! ## The five resolvers on a catalog without the marker -/

/-- **The GPU resolver** on a catalog without the marker and a list without `"all"`. -/
theorem gpu_selections_of_records (lib : Lib) (C : PyDict DeviceInfo) (S : List String) (hS : "all" ∉ S) :
    getDeviceHandlesFromGpuSelections bdf lib (.list S) (some C.infos) =
      match resolveAll (firstMatch bdf C.items) S with
      | .ok hs => .ok (true, true, .handles hs)
      | .error s0 => (fun v => (false, v, .selection s0)) <$> validGpuFormat s0 (flagAfter bdf s0 none C.items) := by
  simp only [getDeviceHandlesFromGpuSelections, hasAll_list hS, Bool.false_eq_true, if_false, Selections.toList]
  exact gpuSelect_records bdf C.items S

/-- One record keyed `"0"`: `"0"` is found, `"7"` is not and is digits. -/
theorem gpu_selections_id_then_digits :
    "all" ∉ ["0", "7"] ∧
      getDeviceHandlesFromGpuSelections (fun _ => (none : Option Unit)) Lib.idle (.list ["0", "7"])
        (some (PyDict.infos
          ⟨[("0", ⟨"0000:23:00.0", "ffffffff-0000-1000-0000-000000000000", ⟨0⟩⟩)], by decide⟩)) =
        .ok (false, true, .selection "7") :=
  ⟨by decide, (gpu_selections_of_records (fun _ => (none : Option Unit)) Lib.idle _ ["0", "7"] (by decide)).trans
    (by decide)⟩

/-- A full-width three is digits to `str.isdigit`, so it misses with the flag `True`. -/
example : getDeviceHandlesFromGpuSelections (fun _ => (none : Option Unit)) Lib.idle (.list ["\uFF13"])
    (some (PyDict.infos
      ⟨[("0", ⟨"0000:23:00.0", "ffffffff-0000-1000-0000-000000000000", ⟨0⟩⟩)], by decide⟩)) =
    .ok (false, true, .selection "\uFF13") := by decide

/-- **The NIC and switch resolvers** on a catalog without the marker and a list without `"all"`, when the
processor type of every record's handle can be queried. -/
theorem info_selections_of_records (lib : Lib) (C : PyDict DeviceInfo) (S : List String) (hS : "all" ∉ S)
    (hty : ∀ p ∈ C.items, ∃ t, lib.amdsmiGetProcessorType p.2.deviceHandle = .ok t) :
    getDeviceHandlesFromNicSelections bdf lib (.list S) (some C.infos) =
        .ok (match resolveAll (firstMatch bdf C.items) S with
          | .ok hs => (true, .handles hs)
          | .error s0 => (false, .selection s0)) ∧
      getDeviceHandlesFromSwitchSelections bdf lib (.list S) (some C.infos) =
        .ok (match resolveAll (firstMatch bdf C.items) S with
          | .ok hs => (true, .handles hs)
          | .error s0 => (false, .selection s0)) := by
  simp only [getDeviceHandlesFromNicSelections, getDeviceHandlesFromSwitchSelections, selectInfo, hasAll_list hS,
    Bool.false_eq_true, if_false, Selections.toList]
  exact ⟨infoSelect_records bdf lib C.items S hty, infoSelect_records bdf lib C.items S hty⟩

/-- One NIC record keyed `"0"` whose processor type can be queried: `"0"` is found, `"7"` is not. -/
theorem nic_selections_id_then_digits :
    "all" ∉ ["0", "7"] ∧
      getDeviceHandlesFromNicSelections (fun _ => (none : Option Unit))
        { Lib.idle with amdsmiGetProcessorType := fun _ => .ok "AMDSMI_PROCESSOR_TYPE_BRCM_NIC" } (.list ["0", "7"])
        (some (PyDict.infos
          ⟨[("0", ⟨"0000:41:00.0", "ffffffff-0000-1000-0000-000000000002", ⟨0⟩⟩)], by decide⟩)) =
        .ok (false, .selection "7") :=
  ⟨by decide, ((info_selections_of_records (fun _ => (none : Option Unit))
    { Lib.idle with amdsmiGetProcessorType := fun _ => .ok "AMDSMI_PROCESSOR_TYPE_BRCM_NIC" } _ ["0", "7"]
    (by decide) fun _ _ => ⟨_, rfl⟩).1).trans (by decide)⟩

/-- **The CPU and core resolvers** on a catalog without the marker and a list without `"all"`. -/
theorem id_selections_of_records (lib : Lib) (C : PyDict CpuInfo) (S : List String) (hS : "all" ∉ S) :
    getDeviceHandlesFromCpuSelections lib (.list S) (some C.infos) =
        .ok (match resolveAll (firstId C.items) S with
          | .ok hs => (true, true, .handles hs)
          | .error s0 => (false, isdigit s0, .selection s0)) ∧
      getDeviceHandlesFromCoreSelections lib (.list S) (some C.infos) =
        .ok (match resolveAll (firstId C.items) S with
          | .ok hs => (true, true, .handles hs)
          | .error s0 => (false, isdigit s0, .selection s0)) := by
  simp only [getDeviceHandlesFromCpuSelections, getDeviceHandlesFromCoreSelections, selectId, hasAll_list hS,
    Bool.false_eq_true, if_false, Selections.toList]
  exact ⟨idSelect_records C.items S, idSelect_records C.items S⟩

/-- One socket keyed `"0"`: `"0"` is found, `"x"` is not and is not digits. -/
theorem cpu_selections_id_then_word :
    "all" ∉ ["0", "x"] ∧
      getDeviceHandlesFromCpuSelections Lib.idle (.list ["0", "x"])
        (some (PyDict.infos ⟨[("0", ⟨⟨0⟩⟩)], by decide⟩)) =
        .ok (false, false, .selection "x") :=
  ⟨by decide, ((id_selections_of_records Lib.idle _ ["0", "x"] (by decide)).1).trans (by decide)⟩

/-- An Arabic-Indic three is digits to `str.isdigit`: it misses with the flag `True`. -/
example : getDeviceHandlesFromCpuSelections Lib.idle (.list ["\u0663"])
    (some (PyDict.infos ⟨[("0", ⟨⟨0⟩⟩)], by decide⟩)) = .ok (false, true, .selection "\u0663") := by decide

end Resolvers

/-- With an empty catalog the inner loop never runs and `is_bdf` is never assigned: a selection that is neither a
UUID nor digits makes the GPU resolver raise `UnboundLocalError`. -/
theorem gpu_selection_unbound_is_bdf {Addr : Type} [DecidableEq Addr] (bdf : String → Option Addr) (lib : Lib) :
    getDeviceHandlesFromGpuSelections bdf lib (.list ["xyz"]) (some PyDict.empty) =
      .error (.unboundLocalError "is_bdf") := by
  rfl

/-- A bare string holding `"all"` as a substring takes the `'all'` path; the same string in a list is looked up. -/
theorem gpu_bare_string_all_substring (lib : Lib) :
    getDeviceHandlesFromGpuSelections (fun _ => (none : Option Unit)) lib (.str "ball")
        (some (PyDict.infos
          ⟨[("0", ⟨"0000:23:00.0", "ffffffff-0000-1000-0000-000000000000", ⟨0⟩⟩)], by decide⟩)) =
      (fun hs => (true, true, .handles hs)) <$> lib.amdsmiGetProcessorHandles ∧
    getDeviceHandlesFromGpuSelections (fun _ => (none : Option Unit)) lib (.list ["ball"])
        (some (PyDict.infos
          ⟨[("0", ⟨"0000:23:00.0", "ffffffff-0000-1000-0000-000000000000", ⟨0⟩⟩)], by decide⟩)) =
      .ok (false, false, .selection "ball") :=
  ⟨rfl, rfl⟩

end AmdSmiCli
