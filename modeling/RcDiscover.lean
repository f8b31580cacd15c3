import RcDiscover.Utils
import RcDiscover.Gvcp.RoundTrip
import RcDiscover.Gvcp.Release
import RcDiscover.Gvcp.Source
import RcDiscover.Gvcp.PartialWrite
import RcDiscover.Discover
import RcDiscover.Cli.InterfaceFilter
import RcDiscover.Cli.Identity
import RcDiscover.Cli.Discover
import RcDiscover.Cli.ForcedAddresses
import RcDiscover.Cli.Main
import RcDiscover.Gui.DeviceList
import RcDiscover.Gui.RowCount
import RcDiscover.Gui.Selection
import RcDiscover.Gui.Inputs
import RcDiscover.Gui.Config
import RcDiscover.Gui.LockBalance
import RcDiscover.Wildcard
import RcDiscover.RequestCounter.Threads
import RcDiscover.Collecting
import RcDiscover.DeviceInfo.Reads
import RcDiscover.Gui.Aggregation
import RcDiscover.Gui.SortColumn
import RcDiscover.Gui.DeviceChoice
import RcDiscover.Gui.AcceptedInputs
import RcDiscover.Gui.ResetWindow
import RcDiscover.Addresses.Split
import RcDiscover.Gui.IndexOrder
import RcDiscover.Gui.SubnetMask
import RcDiscover.Gui.CollectingThread
import RcDiscover.Socket.Handles
import RcDiscover.Socket.Destination
import RcDiscover.Discover.RaceFreedom
import RcDiscover.Discover.Destruction
import RcDiscover.Discover.Acknowledgements
import RcDiscover.Socket.Wire
import RcDiscover.Gui.RowCommands
import RcDiscover.Gui.ResetRuns
import RcDiscover.Gui.FormOnDevice
