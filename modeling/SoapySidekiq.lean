import SoapySidekiq.Foundations.FloorSum
import SoapySidekiq.Time.TimestampRate
import SoapySidekiq.Foundations.Word64
import SoapySidekiq.Time.TimestampExact
import SoapySidekiq.Foundations.Interleaved
import SoapySidekiq.Foundations.LossyFifo
import SoapySidekiq.Rx.QueueInvariant
import SoapySidekiq.Rx.QueueRun
import SoapySidekiq.Rx.Conservation
import SoapySidekiq.Rx.QueueTime
import SoapySidekiq.Foundations.Transition
import SoapySidekiq.Rx.Session
import SoapySidekiq.Rx.Ownership
import SoapySidekiq.Rx.Device
import SoapySidekiq.Rx.Isolation
import SoapySidekiq.Tx.Device
import SoapySidekiq.Tx.WriteStream
import SoapySidekiq.Tx.Lifecycle
import SoapySidekiq.Tx.StreamStatus
import SoapySidekiq.Tx.System
import SoapySidekiq.Foundations.ThreadPool
import SoapySidekiq.Tx.Calls
import SoapySidekiq.Tx.Admission
import SoapySidekiq.Tx.Trace
import SoapySidekiq.Tx.Drain
import SoapySidekiq.Foundations.Monitor
import SoapySidekiq.Tx.Gate
import SoapySidekiq.Tx.Slots
import SoapySidekiq.Tx.Packets
import SoapySidekiq.Time.TimestampConversion
import SoapySidekiq.Time.Trapping
import SoapySidekiq.Time.ConversionExact
import SoapySidekiq.Time.HardwareTime
import SoapySidekiq.Foundations.Binary64
import SoapySidekiq.Time.ActualRate
import SoapySidekiq.Time.Deadline
import SoapySidekiq.Rx.BlockedReader
import SoapySidekiq.Tx.Underruns
import SoapySidekiq.Rx.ReceiveLoop
import SoapySidekiq.Time.PortableDivision
import SoapySidekiq.Rx.Copies
import SoapySidekiq.Controls.Settings
import SoapySidekiq.Controls.Channels
import SoapySidekiq.Controls.DcOffset
import SoapySidekiq.Controls.Gain
import SoapySidekiq.Construction.Options
import SoapySidekiq.Construction.Discovery
import SoapySidekiq.Rx.ParkedReaders
import SoapySidekiq.Foundations.Potential
import SoapySidekiq.Tx.WriteCall
import SoapySidekiq.Tx.Submissions
import SoapySidekiq.Tx.ExactlyOnce
import SoapySidekiq.Tx.BackPressure
import SoapySidekiq.Tx.Progress
import SoapySidekiq.Foundations.WaitGraph
import SoapySidekiq.Tx.Waits
import SoapySidekiq.Tx.Activation
import SoapySidekiq.Tx.LifecycleContract
import SoapySidekiq.Foundations.Procedure
import SoapySidekiq.Controls.Rates
import SoapySidekiq.Lifetime.Calls
import SoapySidekiq.Lifetime.Constructor
import SoapySidekiq.Lifetime.Device
import SoapySidekiq.Tx.Holding
import SoapySidekiq.Lifetime.Session
import SoapySidekiq.Lifetime.Contract
import SoapySidekiq.Lifetime.Shutdown
import SoapySidekiq.Lifetime.Release
import SoapySidekiq.Streaming.Statements
import SoapySidekiq.Streaming.TxCalls
import SoapySidekiq.Streaming.RxCalls
import SoapySidekiq.Streaming.Diagnostics
import SoapySidekiq.Foundations.Ledger
import SoapySidekiq.Tx.Blocks
import SoapySidekiq.Foundations.Binary32
import SoapySidekiq.Samples.SampleConversion
import SoapySidekiq.Samples.Loopback
import SoapySidekiq.Rx.Backend
import SoapySidekiq.Rx.Pipeline
