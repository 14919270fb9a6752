import Libusbp.Lib.Machine
import Libusbp.Lib.Fifo
import Libusbp.Lib.Sim
import Libusbp.ErrorChain
import Libusbp.PipeDrain
import Libusbp.Linux.Reports
import Libusbp.Linux.Ownership
import Libusbp.ErrorAlike
import Libusbp.PipeAlike
import Libusbp.Linux.Sharing
import Libusbp.Windows.AsyncInTransfer
import Libusbp.Outcome
import Libusbp.Windows.Contract
import Libusbp.Mac.AsyncInTransfer
import Libusbp.Mac.Contract
import Libusbp.Mac.Pipes
import Libusbp.Windows.Pipes
import Libusbp.Lifecycle
import Libusbp.Reports
import Libusbp.Lib.Local
import Libusbp.ErrorLedger
import Libusbp.ErrorStore
import Libusbp.Ends
import Libusbp.Strings
import Libusbp.Lib.Scan
import Libusbp.Linux.Udev
import Libusbp.Lib.First
import Libusbp.Linux.UdevSpec
import Libusbp.Linux.Device
import Libusbp.Linux.Usbfd
import Libusbp.Linux.GenericInterface
import Libusbp.Linux.SerialPort
import Libusbp.Linux.Constructors
import Libusbp.Linux.GenericHandle
import Libusbp.Linux.Unplug
import Libusbp.Linux.Polling
import Libusbp.DeviceList
import Libusbp.Linux.Listing
import Libusbp.Windows.SetupApi
import Libusbp.Windows.Device
import Libusbp.Windows.Listing
import Libusbp.Mac.IOKit
import Libusbp.Mac.Device
import Libusbp.Mac.Listing
import Libusbp.Listings
import Libusbp.Windows.CompositeSearch
import Libusbp.Mac.SerialPort
import Libusbp.Mac.SerialSearch
import Libusbp.FindDevice
import Libusbp.Enumeration
import Libusbp.Lib.Owners
import Libusbp.PointerWrapper
import Libusbp.PipeTransfers
import Libusbp.Windows.HardwareIds
import Libusbp.Windows.GenericInterface
import Libusbp.Windows.NodeSearch
import Libusbp.Windows.HandleDiscipline
import Libusbp.Windows.SerialPort
import Libusbp.Windows.RegistryStrings
import Libusbp.SerialPortNames
import Libusbp.Lib.Since
import Libusbp.PipeLedger
import Libusbp.Allocation
import Libusbp.Linux.Outputs
import Libusbp.Linux.EventLoop
import Libusbp.Mac.GenericInterface
import Libusbp.NotReady
import Libusbp.CopyContract
import Libusbp.Linux.Copying
import Libusbp.Windows.Copying
import Libusbp.Mac.Copying
import Libusbp.Copying
import Libusbp.Lib.Numbering
import Libusbp.Mac.PipeIndex
import Libusbp.Lib.CString
import Libusbp.Windows.HardwareIdWalk
import Libusbp.PipeAccounts
import Libusbp.Linux.Accounts
import Libusbp.Windows.Accounts
import Libusbp.Mac.Accounts
import Libusbp.Leaks
import Libusbp.Lib.Kinds
import Libusbp.Among
import Libusbp.Windows.GenericHandle
import Libusbp.Mac.GenericHandle
import Libusbp.Shutdown
import Libusbp.Lib.Delivery
import Libusbp.Mac.EventLoop
import Libusbp.Lib.Settings
import Libusbp.Timeouts
import Libusbp.Client
import Libusbp.ClientCalls
import Libusbp.ClientHoldings
import Libusbp.Linux.Client
import Libusbp.Mac.Client
import Libusbp.Windows.Constructors
import Libusbp.Windows.Client
import Libusbp.Clients
