import AmdSmiCli.Interface

/-!
# The platform an `AMDSMIHelpers` object detects

The constructor of `AMDSMIHelpers` reads the machine (`Host`): on a system whose name starts with `Linux`, a
`/proc/cpuinfo` mentioning `hypervisor` makes a virtual OS and anything else bare metal (`linuxCheck`). A virtual OS
is then checked for passthrough, first by the PCI device ids of five GPUs (`pciCheck`, `get_pci_device_ids`), then,
with the GPUs initialised, by asking each device for its virtualization mode until one is in passthrough mode
(`drmCheck`, `passthroughLoop`). `os_info` reads the flags back.

What the constructor is for is the kind of machine (`PlatformKind`) that the machine's readings show (`Detected`).

- `passthroughLoop_eq_true_iff`: the scan, with its `break`, finds passthrough exactly when a device reports it and
  every device before it answers;
- `init_detects`: the object the constructor returns holds exactly the flags of the detected kind, so `os_info`
  reports that kind, and never `Windows` nor `Hypervisor`; the constructor raises only on a Linux guest;
- `init_raises_type_error`: there, a library exception of the scan reaches a handler that adds the integer error code
  to a string, and the constructor raises `TypeError` instead of giving up on the scan.
-/

namespace AmdSmiCli

/-! ## The machine and the object -/

/-- `amdsmi_interface.AmdSmiVirtualizationMode`. -/
inductive VirtualizationMode where
  | unknown
  | baremetal
  | host
  | guest
  | passthrough
  deriving DecidableEq, Repr

/-- What the constructor reads of the machine, besides the device enumeration of the library. -/
structure Host where
  /-- `platform.system()`. -/
  system : String
  /-- The text of `/proc/cpuinfo`; `none` when opening or reading it raises `IOError`. -/
  procCpuinfo : Option String
  /-- `os.listdir("/sys/bus/pci/devices")`, as the text of each entry's `device` file (`none` when reading it
  raises); `none` when listing the directory raises `OSError`. -/
  pciDevices : Option (List (Option String))
  /-- `AMDSMI_INIT_FLAG & AMDSMI_INIT_AMD_GPUS` is not zero. -/
  amdgpuInitialized : Bool
  /-- `amdsmi_get_gpu_virtualization_mode_info(dev)['mode']`. -/
  virtualizationMode : Handle → Except PyExc VirtualizationMode

/-- The attributes of an `AMDSMIHelpers` object; `is_linux()`, `is_virtual_os()` and the other getters read them. -/
structure AMDSMIHelpers where
  operatingSystem : String
  isHypervisor : Bool
  isVirtualOs : Bool
  isBaremetal : Bool
  isPassthrough : Bool
  isLinux : Bool
  isWindows : Bool
  countOfSetsCalled : Nat
  deriving DecidableEq, Repr

namespace AMDSMIHelpers

/-- The attributes set before any check: the system's name, every flag `False`, no set counted. -/
def start (operatingSystem : String) : AMDSMIHelpers :=
  ⟨operatingSystem, false, false, false, false, false, false, 0⟩

/-- The three assignments made when passthrough is detected. -/
def setPassthrough (h : AMDSMIHelpers) : AMDSMIHelpers :=
  { h with isBaremetal := true, isVirtualOs := false, isPassthrough := true }

/-- `increment_set_count`. -/
def incrementSetCount (h : AMDSMIHelpers) : AMDSMIHelpers :=
  { h with countOfSetsCalled := h.countOfSetsCalled + 1 }

end AMDSMIHelpers

/-! ## The constructor -/

/-- `'hypervisor' in f.read()` on `/proc/cpuinfo`, with the `IOError` of `open` or `read` passed over. -/
def cpuinfoMentionsHypervisor (host : Host) : Bool :=
  match host.procCpuinfo with
  | some text => decide ("hypervisor".toList <:+: text.toList)
  | none => false

/-- The Linux block: a `/proc/cpuinfo` mentioning `hypervisor` makes a virtual OS, and bare metal is the rest. -/
def linuxCheck (host : Host) (h : AMDSMIHelpers) : AMDSMIHelpers :=
  if startswith h.operatingSystem "Linux" then
    let h := { h with isLinux := true }
    let h := if cpuinfoMentionsHypervisor host then { h with isVirtualOs := true } else h
    { h with isBaremetal := !h.isVirtualOs }
  else h

/-- `get_pci_device_ids`: the stripped text of every `device` file that could be read (a set: only membership is
read); `none` when `os.listdir` raises. -/
def getPciDeviceIds (host : Host) : Option (List String) :=
  host.pciDevices.map fun files => files.filterMap fun file => file.map strip

/-- `passthrough_device_ids`. -/
def passthroughDeviceIds : List String := ["7460", "73c8", "74a0", "74a1", "74a2"]

/-- The PCI check: `'0x' + device_id` among the PCI devices for a passthrough device id makes a passthrough
system; `none` when listing the devices raises. -/
def pciCheck (host : Host) (h : AMDSMIHelpers) : Option AMDSMIHelpers :=
  (getPciDeviceIds host).map fun output =>
    if passthroughDeviceIds.any fun deviceId => decide (("0x" ++ deviceId) ∈ output) then h.setPassthrough else h

/-- `for dev in device_handles:` of the DRM check: `True` at the first device in passthrough mode, where the loop
breaks. -/
def passthroughLoop (virtualizationMode : Handle → Except PyExc VirtualizationMode) :
    List Handle → Except PyExc Bool
  | [] => .ok false
  | dev :: rest => virtualizationMode dev >>= fun mode =>
    if mode = .passthrough then .ok true else passthroughLoop virtualizationMode rest

/-- The DRM check under `try`: with the GPUs initialised and no passthrough found yet, a device in passthrough mode
makes a passthrough system. An `AmdSmiLibraryException` reaches the handler, whose message
`"Unable to determine virtualization status: " + e.get_error_code()` adds the integer error code to a string and
raises `TypeError`. -/
def drmCheck (lib : Lib) (host : Host) (h : AMDSMIHelpers) : Except PyError AMDSMIHelpers :=
  if host.amdgpuInitialized && !h.isPassthrough then
    match lib.amdsmiGetProcessorHandles >>= passthroughLoop host.virtualizationMode with
    | .ok true => .ok h.setPassthrough
    | .ok false => .ok h
    | .error (.amdSmiLibraryException _) => .error (.raised .typeError)
    | .error e => .error (.raised e)
  else .ok h

/-- `AMDSMIHelpers()`. -/
def AMDSMIHelpers.init (lib : Lib) (host : Host) : Except PyError AMDSMIHelpers :=
  let h := linuxCheck host (start host.system)
  if h.isVirtualOs then
    match pciCheck host h with
    | some h => drmCheck lib host h
    | none => .error .osError
  else .ok h

/-- `os_info(string_format)`: `f"{operating_system} {operating_system_type}"`, or the pair. -/
def AMDSMIHelpers.osInfo (h : AMDSMIHelpers) (stringFormat : Bool) : String ⊕ (String × String) :=
  let operatingSystem := if h.isLinux then "Linux" else if h.isWindows then "Windows" else "Unknown"
  let operatingSystemType :=
    if h.isBaremetal then "Baremetal" else if h.isVirtualOs then "Guest"
    else if h.isHypervisor then "Hypervisor" else "Unknown"
  let operatingSystemType := if h.isPassthrough then "Guest (Passthrough)" else operatingSystemType
  if stringFormat then .inl (operatingSystem ++ " " ++ operatingSystemType)
  else .inr (operatingSystem, operatingSystemType)

/-! ## What the constructor is for -/

/-- The kinds of machine the constructor tells apart. -/
inductive PlatformKind where
  | unknown
  | baremetal
  | guest
  | passthroughGuest
  deriving DecidableEq, Repr

/-- The attributes of an object on a machine of kind `k` named `operatingSystem`. -/
def PlatformKind.state (k : PlatformKind) (operatingSystem : String) : AMDSMIHelpers :=
  match k with
  | .unknown => AMDSMIHelpers.start operatingSystem
  | .baremetal => { AMDSMIHelpers.start operatingSystem with isLinux := true, isBaremetal := true }
  | .guest => { AMDSMIHelpers.start operatingSystem with isLinux := true, isVirtualOs := true }
  | .passthroughGuest =>
    { AMDSMIHelpers.start operatingSystem with isLinux := true, isBaremetal := true, isPassthrough := true }

/-- The pair `os_info` should report on a machine of kind `k`. -/
def PlatformKind.osInfo : PlatformKind → String × String
  | .unknown => ("Unknown", "Unknown")
  | .baremetal => ("Linux", "Baremetal")
  | .guest => ("Linux", "Guest")
  | .passthroughGuest => ("Linux", "Guest (Passthrough)")

/-- `os_info` reads the kind back from its attributes. -/
theorem PlatformKind.osInfo_state (k : PlatformKind) (operatingSystem : String) :
    (k.state operatingSystem).osInfo false = .inr k.osInfo := by
  cases k <;> rfl

/-- A device reports passthrough mode, and every device before it answers. -/
def PassthroughFound (virtualizationMode : Handle → Except PyExc VirtualizationMode) (hs : List Handle) : Prop :=
  ∃ pre dev post, hs = pre ++ dev :: post ∧ (∀ d ∈ pre, ∃ m, virtualizationMode d = .ok m) ∧
    virtualizationMode dev = .ok .passthrough

/-- A passthrough device id is among the PCI devices. -/
def PciPassthrough (host : Host) : Prop :=
  ∃ ids, getPciDeviceIds host = some ids ∧ ∃ deviceId ∈ passthroughDeviceIds, "0x" ++ deviceId ∈ ids

/-- The machine shows itself a passthrough guest: by a PCI device id, or, with the GPUs initialised, by a device in
passthrough mode found before any query fails. -/
def PassthroughShown (lib : Lib) (host : Host) : Prop :=
  PciPassthrough host ∨ host.amdgpuInitialized = true ∧
    ∃ hs, lib.amdsmiGetProcessorHandles = .ok hs ∧ PassthroughFound host.virtualizationMode hs

/-- The kind of machine the readings of `host` and `lib` show. -/
inductive Detected (lib : Lib) (host : Host) : PlatformKind → Prop
  | unknown : startswith host.system "Linux" = false → Detected lib host .unknown
  | baremetal : startswith host.system "Linux" = true → cpuinfoMentionsHypervisor host = false →
      Detected lib host .baremetal
  | passthroughGuest : startswith host.system "Linux" = true → cpuinfoMentionsHypervisor host = true →
      PassthroughShown lib host → Detected lib host .passthroughGuest
  | guest : startswith host.system "Linux" = true → cpuinfoMentionsHypervisor host = true →
      ¬ PassthroughShown lib host → Detected lib host .guest

/-- The readings show one kind only. -/
theorem Detected.unique {lib : Lib} {host : Host} {k k' : PlatformKind} (h : Detected lib host k)
    (h' : Detected lib host k') : k = k' := by
  cases h <;> cases h' <;> first | rfl | simp_all

/-! ## The passthrough scan -/

section Scan

variable {virtualizationMode : Handle → Except PyExc VirtualizationMode}

theorem passthroughFound_cons {dev : Handle} {rest : List Handle} :
    PassthroughFound virtualizationMode (dev :: rest) ↔ virtualizationMode dev = .ok .passthrough ∨
      (∃ m, virtualizationMode dev = .ok m) ∧ PassthroughFound virtualizationMode rest := by
  constructor
  · rintro ⟨pre, dev', post, heq, hpre, hdev⟩
    cases pre with
    | nil =>
      obtain ⟨rfl, -⟩ := List.cons_eq_cons.1 heq
      exact .inl hdev
    | cons d pre =>
      obtain ⟨rfl, rfl⟩ := List.cons_eq_cons.1 heq
      exact .inr ⟨hpre _ (List.mem_cons_self _ _), pre, dev', post, rfl,
        fun x hx => hpre x (List.mem_cons_of_mem _ hx), hdev⟩
  · rintro (hdev | ⟨hd, pre, dev', post, rfl, hpre, hdev⟩)
    · exact ⟨[], dev, rest, rfl, fun _ h => absurd h (List.not_mem_nil _), hdev⟩
    · refine ⟨dev :: pre, dev', post, rfl, fun x hx => ?_, hdev⟩
      rcases List.mem_cons.1 hx with rfl | hx
      exacts [hd, hpre x hx]

/-- **The scan** returns `True` exactly when a device reports passthrough mode and every device before it answers:
the `break` stops it at that device, and a failing query before it stops the scan with the failure. -/
theorem passthroughLoop_eq_true_iff (hs : List Handle) :
    passthroughLoop virtualizationMode hs = .ok true ↔ PassthroughFound virtualizationMode hs := by
  induction hs with
  | nil => simp [passthroughLoop, PassthroughFound]
  | cons dev rest ih =>
    rw [passthroughFound_cons, ← ih]
    cases hd : virtualizationMode dev with
    | error e => simp [passthroughLoop, hd, bind, Except.bind]
    | ok m => by_cases hm : m = .passthrough <;> simp [passthroughLoop, hd, hm, bind, Except.bind]

/-- A failing query after devices in other modes stops the scan with its failure. -/
theorem passthroughLoop_raises {dev : Handle} {e : PyExc} (hd : virtualizationMode dev = .error e) :
    ∀ {pre : List Handle}, (∀ d ∈ pre, ∃ m, m ≠ .passthrough ∧ virtualizationMode d = .ok m) →
      ∀ post, passthroughLoop virtualizationMode (pre ++ dev :: post) = .error e
  | [], _, post => by simp [passthroughLoop, hd, bind, Except.bind]
  | d :: pre, hpre, post => by
    obtain ⟨m, hm, hdm⟩ := hpre d (List.mem_cons_self _ _)
    simp [passthroughLoop, hdm, hm, bind, Except.bind,
      passthroughLoop_raises hd fun x hx => hpre x (List.mem_cons_of_mem _ hx)]

end Scan

/-! ## The constructor detects the kind of machine -/

section Init

variable {lib : Lib} {host : Host}

/-- A passthrough device id shows among the PCI devices `ids` that were listed. -/
def pciHit (ids : List String) : Bool := passthroughDeviceIds.any fun deviceId => decide (("0x" ++ deviceId) ∈ ids)

/-- The Linux block leaves an object of kind unknown, bare metal or guest. -/
theorem linuxCheck_start (s : String) : linuxCheck host (AMDSMIHelpers.start s) =
    if startswith s "Linux" then
      if cpuinfoMentionsHypervisor host then PlatformKind.guest.state s else PlatformKind.baremetal.state s
    else PlatformKind.unknown.state s := by
  show (if startswith s "Linux" then _ else _) = _
  cases startswith s "Linux" <;> cases cpuinfoMentionsHypervisor host <;> rfl

/-- **The constructor**, once the Linux block has run: the checks for passthrough run on a Linux guest only. -/
theorem init_eq (lib : Lib) (host : Host) : AMDSMIHelpers.init lib host =
    if startswith host.system "Linux" ∧ cpuinfoMentionsHypervisor host then
      match (getPciDeviceIds host).map fun ids =>
          if pciHit ids then PlatformKind.passthroughGuest.state host.system else PlatformKind.guest.state host.system
        with
      | some h => drmCheck lib host h
      | none => .error .osError
    else .ok (if startswith host.system "Linux" then PlatformKind.baremetal.state host.system
      else PlatformKind.unknown.state host.system) := by
  show (if (linuxCheck host (AMDSMIHelpers.start host.system)).isVirtualOs then _ else _) = _
  rw [linuxCheck_start]
  cases startswith host.system "Linux" <;> cases cpuinfoMentionsHypervisor host <;> rfl

theorem pciPassthrough_iff {ids : List String} (hids : getPciDeviceIds host = some ids) :
    PciPassthrough host ↔ pciHit ids = true := by
  simp [PciPassthrough, hids, pciHit, List.any_eq_true]

theorem scan_eq_true_iff : (lib.amdsmiGetProcessorHandles >>= passthroughLoop host.virtualizationMode) = .ok true ↔
    ∃ hs, lib.amdsmiGetProcessorHandles = .ok hs ∧ PassthroughFound host.virtualizationMode hs := by
  cases lib.amdsmiGetProcessorHandles <;> simp [bind, Except.bind, passthroughLoop_eq_true_iff]

/-- The DRM check passes over an object already found passthrough. -/
theorem drmCheck_passthroughGuest (s : String) :
    drmCheck lib host (PlatformKind.passthroughGuest.state s) = .ok (PlatformKind.passthroughGuest.state s) := by
  show (if host.amdgpuInitialized && false then _ else _) = _
  rw [Bool.and_false]
  rfl

/-- The DRM check on a guest: with the GPUs initialised, the scan decides. -/
theorem drmCheck_guest_eq (s : String) : drmCheck lib host (PlatformKind.guest.state s) =
    if host.amdgpuInitialized then
      match lib.amdsmiGetProcessorHandles >>= passthroughLoop host.virtualizationMode with
      | .ok true => .ok (PlatformKind.passthroughGuest.state s)
      | .ok false => .ok (PlatformKind.guest.state s)
      | .error (.amdSmiLibraryException _) => .error (.raised .typeError)
      | .error e => .error (.raised e)
    else .ok (PlatformKind.guest.state s) := by
  show (if host.amdgpuInitialized && true then _ else _) = _
  cases host.amdgpuInitialized <;> rfl

/-- On a Linux guest whose PCI devices show no passthrough id, the DRM check leaves a passthrough guest when the
scan finds one, and a guest when it does not look or finds none. -/
theorem drmCheck_guest (s : String) (hpci : ¬ PciPassthrough host) {h : AMDSMIHelpers}
    (hd : drmCheck lib host (PlatformKind.guest.state s) = .ok h) :
    PassthroughShown lib host ∧ h = PlatformKind.passthroughGuest.state s ∨
      ¬ PassthroughShown lib host ∧ h = PlatformKind.guest.state s := by
  rw [drmCheck_guest_eq] at hd
  simp only [PassthroughShown, hpci, false_or, ← scan_eq_true_iff]
  cases hg : host.amdgpuInitialized
  · simp only [hg, Bool.false_eq_true, if_false, Except.ok.injEq] at hd
    exact .inr ⟨by simp, hd.symm⟩
  · simp only [hg, if_true] at hd
    cases hs : lib.amdsmiGetProcessorHandles >>= passthroughLoop host.virtualizationMode with
    | error e => rcases e with _ | _ | _ | _ | _ <;> simp [hs] at hd
    | ok found =>
      cases found <;> simp only [hs, Except.ok.injEq] at hd
      exacts [.inr ⟨by simp, hd.symm⟩, .inl ⟨⟨rfl, rfl⟩, hd.symm⟩]

/-- The object a returning constructor gives is the object of the detected kind. -/
theorem init_ok {h : AMDSMIHelpers} (hi : AMDSMIHelpers.init lib host = .ok h) :
    ∃ k, Detected lib host k ∧ h = k.state host.system := by
  rw [init_eq] at hi
  by_cases hlm : startswith host.system "Linux" = true ∧ cpuinfoMentionsHypervisor host = true
  · rw [if_pos hlm] at hi
    cases hids : getPciDeviceIds host with
    | none => rw [hids] at hi; cases hi
    | some ids =>
      rw [hids] at hi
      change drmCheck lib host (if pciHit ids then PlatformKind.passthroughGuest.state host.system
        else PlatformKind.guest.state host.system) = .ok h at hi
      by_cases hit : pciHit ids = true
      · rw [if_pos hit, drmCheck_passthroughGuest, Except.ok.injEq] at hi
        exact ⟨.passthroughGuest, .passthroughGuest hlm.1 hlm.2 (.inl ((pciPassthrough_iff hids).2 hit)), hi.symm⟩
      · rw [if_neg hit] at hi
        rcases drmCheck_guest _ (fun hp => hit ((pciPassthrough_iff hids).1 hp)) hi with ⟨hs, rfl⟩ | ⟨hs, rfl⟩
        exacts [⟨_, .passthroughGuest hlm.1 hlm.2 hs, rfl⟩, ⟨_, .guest hlm.1 hlm.2 hs, rfl⟩]
  · rw [if_neg hlm, Except.ok.injEq] at hi
    cases hl : startswith host.system "Linux"
    · exact ⟨.unknown, .unknown hl, by simpa [hl] using hi.symm⟩
    · have hm : cpuinfoMentionsHypervisor host = false := by simpa [hl] using hlm
      exact ⟨.baremetal, .baremetal hl hm, by simpa [hl] using hi.symm⟩

/-- **The detected platform**: a constructor that returns leaves exactly the attributes of the kind of machine its
readings show, so `os_info` reports that kind, never `Windows` and never `Hypervisor`; and it raises only on a Linux
machine whose `/proc/cpuinfo` mentions `hypervisor`. -/
theorem init_detects (lib : Lib) (host : Host) :
    (∀ h, AMDSMIHelpers.init lib host = .ok h →
      ∃ k, Detected lib host k ∧ h = k.state host.system ∧ h.osInfo false = .inr k.osInfo) ∧
    (∀ e, AMDSMIHelpers.init lib host = .error e →
      startswith host.system "Linux" = true ∧ cpuinfoMentionsHypervisor host = true) := by
  refine ⟨fun h hi => ?_, fun e hi => ?_⟩
  · obtain ⟨k, hk, rfl⟩ := init_ok hi
    exact ⟨k, hk, rfl, k.osInfo_state _⟩
  · rw [init_eq] at hi
    by_contra hlm
    rw [if_neg hlm] at hi
    cases hi

/-- A Linux guest whose second device reports passthrough mode: `os_info` says so. -/
example : (AMDSMIHelpers.init { Lib.idle with amdsmiGetProcessorHandles := .ok [⟨0⟩, ⟨1⟩] }
    ⟨"Linux", some "flags : fpu hypervisor", some [some "0x1002"], true,
      fun h => .ok (if h = ⟨1⟩ then .passthrough else .guest)⟩).map (·.osInfo true) =
    .ok (.inl "Linux Guest (Passthrough)") := by
  decide

/-- **The handler raises**: on a Linux guest whose PCI devices show no passthrough id and whose GPUs are
initialised, a library exception of the enumeration, or of a device's query after devices in other modes, makes
the constructor raise `TypeError`. -/
theorem init_raises_type_error (lib : Lib) (host : Host) (ids : List String) (c : AmdSmiStatus)
    (hl : startswith host.system "Linux" = true) (hm : cpuinfoMentionsHypervisor host = true)
    (hids : getPciDeviceIds host = some ids) (hno : ∀ deviceId ∈ passthroughDeviceIds, "0x" ++ deviceId ∉ ids)
    (hg : host.amdgpuInitialized = true)
    (hscan : lib.amdsmiGetProcessorHandles = .error (.amdSmiLibraryException c) ∨
      ∃ pre dev post, lib.amdsmiGetProcessorHandles = .ok (pre ++ dev :: post) ∧
        (∀ d ∈ pre, ∃ m, m ≠ .passthrough ∧ host.virtualizationMode d = .ok m) ∧
        host.virtualizationMode dev = .error (.amdSmiLibraryException c)) :
    AMDSMIHelpers.init lib host = .error (.raised .typeError) := by
  have hs : (lib.amdsmiGetProcessorHandles >>= passthroughLoop host.virtualizationMode) =
      .error (.amdSmiLibraryException c) := by
    rcases hscan with he | ⟨pre, dev, post, he, hpre, hd⟩
    · simp [he, bind, Except.bind]
    · simp [he, bind, Except.bind, passthroughLoop_raises hd hpre]
  have hit : pciHit ids = false := by simpa [pciHit] using hno
  rw [init_eq, if_pos ⟨hl, hm⟩]
  simp [hids, hit, drmCheck, hg, hs, PlatformKind.state, AMDSMIHelpers.start]

/-- A Linux guest with one GPU, no passthrough id among its PCI devices, whose virtualization query fails. -/
theorem init_type_error_one_gpu :
    let host : Host := ⟨"Linux", some "flags : fpu hypervisor", some [some "0x1002\n"], true,
      fun _ => .error (.amdSmiLibraryException .notInit)⟩
    AMDSMIHelpers.init { Lib.idle with amdsmiGetProcessorHandles := .ok [⟨0⟩] } host =
      .error (.raised .typeError) := by
  intro host
  exact init_raises_type_error _ host ["0x1002"] .notInit (by decide) (by decide) (by decide) (by decide) rfl
    (.inr ⟨[], ⟨0⟩, [], rfl, by simp, rfl⟩)

end Init

end AmdSmiCli
