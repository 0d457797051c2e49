import NginLink.ByteLayout
import NginLink.BoundedChannel
import NginLink.WordBits
import NginLink.Machine
import NginLink.Progress
import NginLink.WrappedClock
import NginLink.MessageStages
import NginLink.Correlation
import NginLink.GsUsbTypes
import NginLink.CanProtocol
import NginLink.ControlHandler
import NginLink.BspCan
import NginLink.AppContext
import NginLink.CanDriver
import NginLink.UsbTasks
import NginLink.Firmware
import NginLink.DriverSteps
import NginLink.FirmwareSteps
import NginLink.Supervision
import NginLink.Translation
import NginLink.BusMode
import NginLink.DriverState
import NginLink.CommandQueue
import NginLink.HostAgreement
import NginLink.TransmitLedger
import NginLink.Echoes
import NginLink.Mailboxes
import NginLink.Accounting
import NginLink.DriverCounters
import NginLink.HostFlags
import NginLink.Reception
import NginLink.BusErrors
import NginLink.ErrorMetric
import NginLink.ControlRequests
import NginLink.ControlAnswers
import NginLink.BitTiming
import NginLink.AdvertisedModes
import NginLink.HostFrames
import NginLink.HostMessages
import NginLink.Sniffer
import NginLink.Lifecycle
import NginLink.Quiescence
import NginLink.Panics
import NginLink.Transparency
import NginLink.Delivery
import NginLink.Standstill
import NginLink.BusSide
import NginLink.HostNoise
import NginLink.FlowControl
import NginLink.ExactlyOnce
import NginLink.EchoTable
import NginLink.RequestOrder
import NginLink.SharedBus
import NginLink.Exchange
import NginLink.Clocks
import NginLink.HostClock
import NginLink.Recovery
import NginLink.ErrorReports
import NginLink.HealthReports
import NginLink.StartupLog
