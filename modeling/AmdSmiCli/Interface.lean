import AmdSmiCli.Python

/-!
# The device library the helpers call

`amdsmi_interface` is the collaborator: the helpers enumerate handles, classify them and query their bus
location, unique id and power and policy data through it. Its state is `Lib`, one field per call the helpers make,
each returning a value or raising. The exceptions are `PyExc`: the library's own (`AmdSmiLibraryException` with its
status code, `AmdSmiParameterException`) and those Python raises in the helpers' bodies.
-/

namespace AmdSmiCli

/-- The `AMDSMI_STATUS_*` code of a failed library call; the helpers tell apart only the two below. -/
inductive AmdSmiStatus where
  | notInit
  | driverNotLoaded
  | other (code : Nat)
  deriving DecidableEq, Repr

/-- A processor handle; the helpers compare handles by `.value`. -/
structure Handle where
  value : Nat
  deriving DecidableEq, Repr

/-- The exceptions that reach the helpers' callers. -/
inductive PyExc where
  | amdSmiLibraryException (errCode : AmdSmiStatus)
  | amdSmiParameterException (handle : Handle) (msg : String)
  | typeError
  | unboundLocalError (name : String)
  | valueError
  deriving DecidableEq, Repr

/-- An exception leaving the later helpers: one of `PyExc`, or an `OSError`, `IndexError` or `ZeroDivisionError`
that Python raises in their bodies. -/
inductive PyError where
  | osError
  | indexError
  | zeroDivisionError
  | raised (e : PyExc)
  deriving DecidableEq, Repr

/-- Results compared as values, so that the model's outcomes can be decided. -/
instance decEqExcept {ε α : Type} [DecidableEq ε] [DecidableEq α] : DecidableEq (Except ε α)
  | .ok a, .ok b => if h : a = b then isTrue (h ▸ rfl) else isFalse fun e => h (Except.ok.inj e)
  | .error a, .error b => if h : a = b then isTrue (h ▸ rfl) else isFalse fun e => h (Except.error.inj e)
  | .ok _, .error _ => isFalse Except.noConfusion
  | .error _, .ok _ => isFalse Except.noConfusion

/-- The two fields of `amdsmi_get_power_cap_info` that `get_power_caps` reads. -/
structure PowerCapInfo where
  minPowerCap : Nat
  maxPowerCap : Nat
  deriving DecidableEq, Repr

/-- A policy of `amdsmi_get_soc_pstate` or `amdsmi_get_xgmi_plpd`. -/
structure Policy where
  policyId : Nat
  policyDescription : String
  deriving DecidableEq, Repr

/-- What each call of `amdsmi_interface` the helpers make gives in one state of the library. -/
structure Lib where
  amdsmiGetProcessorHandles : Except PyExc (List Handle)
  getGpuHandles : Except PyExc (List Handle)
  getNicHandles : Except PyExc (List Handle)
  getSwitchHandles : Except PyExc (List Handle)
  amdsmiGetCpusocketHandles : Except PyExc (List Handle)
  amdsmiGetCpucoreHandles : Except PyExc (List Handle)
  /-- `amdsmi_get_processor_type(h)["processor_type"]`. -/
  amdsmiGetProcessorType : Handle → Except PyExc String
  amdsmiGetGpuDeviceBdf : Handle → Except PyExc String
  amdsmiGetGpuDeviceUuid : Handle → Except PyExc String
  amdsmiGetNicDeviceBdf : Handle → Except PyExc String
  amdsmiGetNicDeviceUuid : Handle → Except PyExc String
  amdsmiGetSwitchDeviceBdf : Handle → Except PyExc String
  amdsmiGetSwitchDeviceUuid : Handle → Except PyExc String
  amdsmiGetPowerCapInfo : Handle → Except PyExc PowerCapInfo
  /-- `amdsmi_get_soc_pstate(h)["policies"]`. -/
  amdsmiGetSocPstate : Handle → Except PyExc (List Policy)
  /-- `amdsmi_get_xgmi_plpd(h)["plpds"]`. -/
  amdsmiGetXgmiPlpd : Handle → Except PyExc (List Policy)

/-- A library with no devices, whose per-handle queries all fail as uninitialised. -/
def Lib.idle : Lib where
  amdsmiGetProcessorHandles := .ok []
  getGpuHandles := .ok []
  getNicHandles := .ok []
  getSwitchHandles := .ok []
  amdsmiGetCpusocketHandles := .ok []
  amdsmiGetCpucoreHandles := .ok []
  amdsmiGetProcessorType _ := .error (.amdSmiLibraryException .notInit)
  amdsmiGetGpuDeviceBdf _ := .error (.amdSmiLibraryException .notInit)
  amdsmiGetGpuDeviceUuid _ := .error (.amdSmiLibraryException .notInit)
  amdsmiGetNicDeviceBdf _ := .error (.amdSmiLibraryException .notInit)
  amdsmiGetNicDeviceUuid _ := .error (.amdSmiLibraryException .notInit)
  amdsmiGetSwitchDeviceBdf _ := .error (.amdSmiLibraryException .notInit)
  amdsmiGetSwitchDeviceUuid _ := .error (.amdSmiLibraryException .notInit)
  amdsmiGetPowerCapInfo _ := .error (.amdSmiLibraryException .notInit)
  amdsmiGetSocPstate _ := .error (.amdSmiLibraryException .notInit)
  amdsmiGetXgmiPlpd _ := .error (.amdSmiLibraryException .notInit)

end AmdSmiCli
