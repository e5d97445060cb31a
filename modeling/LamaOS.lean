import LamaOS.Desktop.Desktop
import LamaOS.Desktop.DesktopCommand
import LamaOS.Desktop.DesktopLabels
import LamaOS.Desktop.DesktopPass
import LamaOS.Desktop.DesktopDiscipline
import LamaOS.Drivers.Common.IoPort
import LamaOS.Drivers.Common.IoPortLocks
import LamaOS.Drivers.Common.IoPortRuns
import LamaOS.Drivers.Common.IoPortSteps
import LamaOS.Drivers.Common.IoPortIndependence
import LamaOS.Boot.Boot
import LamaOS.Boot.Screen
import LamaOS.Boot.LoadKernel
import LamaOS.Boot.KernelFile
import LamaOS.Boot.LoadDomain
import LamaOS.Boot.BootSequence
import LamaOS.Boot.LoadConfined
import LamaOS.Boot.Fat32BootSector
import LamaOS.Boot.BootSectorImage
import LamaOS.Drivers.DriverSystem
import LamaOS.Drivers.DriverChanges
import LamaOS.Drivers.DriverSeparation
import LamaOS.Drivers.PortConfigs
import LamaOS.Drivers.PortTraces
import LamaOS.Drivers.PeripheralRequests
import LamaOS.Drivers.Peripherals
import LamaOS.Drivers.Acpi.AcpiDriver
import LamaOS.Drivers.Acpi.AcpiTables
import LamaOS.Drivers.Acpi.AcpiEntries
import LamaOS.Drivers.Acpi.AcpiInit
import LamaOS.Drivers.Acpi.AcpiRsdp
import LamaOS.Drivers.Acpi.AcpiScan
import LamaOS.Drivers.Acpi.AcpiChecksum
import LamaOS.Drivers.Acpi.AcpiRuns
import LamaOS.Drivers.Acpi.AcpiRegistry
import LamaOS.Drivers.Acpi.AcpiLifecycle
import LamaOS.Drivers.Mouse.MouseDevice
import LamaOS.Drivers.Mouse.MouseMovements
import LamaOS.Drivers.Mouse.MouseReplies
import LamaOS.Drivers.Mouse.MouseRuns
import LamaOS.Drivers.Mouse.MouseLocked
import LamaOS.Drivers.Mouse.MouseCoordinates
import LamaOS.Drivers.Mouse.MouseCommands
import LamaOS.Drivers.Mouse.MouseInputFull
import LamaOS.Drivers.Mouse.MouseConversation
import LamaOS.Drivers.Mouse.MouseLeftover
import LamaOS.Drivers.Mouse.MouseReporting
import LamaOS.Drivers.Mouse.MouseResync
import LamaOS.Drivers.Mouse.MouseBringUp
import LamaOS.Drivers.Mouse.MouseSurplus
import LamaOS.Drivers.Network.NetworkDriver
import LamaOS.Drivers.Network.NetworkTable
import LamaOS.Drivers.Network.NetworkPackets
import LamaOS.Drivers.PortSuccess
import LamaOS.Drivers.Usb.UsbTable
import LamaOS.Drivers.Usb.UsbAddresses
import LamaOS.Drivers.Usb.UsbSlots
import LamaOS.Drivers.Usb.UsbListener
import LamaOS.Drivers.Usb.UsbDetachOrder
import LamaOS.Drivers.Usb.UsbRequests
import LamaOS.Misc.CallDepth
import LamaOS.Monitor.FileTree
import LamaOS.Monitor.AnalyzeElf
import LamaOS.Monitor.PidFile
import LamaOS.Monitor.PidFileNumbers
import LamaOS.Monitor.PidFileTexts
import LamaOS.Monitor.ScanDirectory
import LamaOS.Monitor.ScanFiles
import LamaOS.Monitor.ElfLog
import LamaOS.Monitor.MonitorPass
import LamaOS.Monitor.MonitorMain
