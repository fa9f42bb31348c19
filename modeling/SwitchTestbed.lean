import SwitchTestbed.Http.Client
import SwitchTestbed.Main
import SwitchTestbed.Proofs.Binding.Accounting
import SwitchTestbed.Proofs.Binding.Agreement
import SwitchTestbed.Proofs.Console
import SwitchTestbed.Proofs.Context.Lineage
import SwitchTestbed.Proofs.Dial.Deadline
import SwitchTestbed.Proofs.Error
import SwitchTestbed.Proofs.Expiry
import SwitchTestbed.Proofs.Gnmi.HalfClose
import SwitchTestbed.Proofs.Gnmi.Wrapping
import SwitchTestbed.Proofs.Document.Models
import SwitchTestbed.Proofs.Remote.Overlong
import SwitchTestbed.Proofs.Remote.Timeouts
import SwitchTestbed.Proofs.Simulated.Shape
import SwitchTestbed.Proofs.Wire.Schemas
import SwitchTestbed.Proofs.Config
import SwitchTestbed.Proofs.Context.Polling
import SwitchTestbed.Proofs.Remote.Conversation
import SwitchTestbed.Proofs.Rpc.Gaps
import SwitchTestbed.Proofs.Daemon.Arguments
import SwitchTestbed.Proofs.Placement.SearchOrder
import SwitchTestbed.Proofs.Placement.TableSearch
import SwitchTestbed.Proofs.Remote.Reading
