import AmdSmiCli.Unicode
import AmdSmiCli.Python
import AmdSmiCli.Interface
import AmdSmiCli.Choices
import AmdSmiCli.Selections
import AmdSmiCli.Lookup
import AmdSmiCli.Defaults
import AmdSmiCli.Dispatch
import AmdSmiCli.Watch
import AmdSmiCli.PowerCaps
import AmdSmiCli.Policies
import AmdSmiCli.Platform
import AmdSmiCli.Partitions
import AmdSmiCli.Units
import AmdSmiCli.Output
import AmdSmiCli.Enums
import AmdSmiCli.IntBase16
import AmdSmiCli.Devices
