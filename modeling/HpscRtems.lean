import HpscRtems.Machine.Run
import HpscRtems.Machine.Ring
import HpscRtems.Rtems
import HpscRtems.HpscMsg
import HpscRtems.Command.Queue
import HpscRtems.Command.QueueTheorems
import HpscRtems.Mbox.Connect
import HpscRtems.Mbox.ClaimTheorems
import HpscRtems.Link.Request
import HpscRtems.Link.RequestTheorems
import HpscRtems.Link.ReplyTheorems
import HpscRtems.Link.AckTheorems
import HpscRtems.Link.Exchange
import HpscRtems.Link.ExchangeTheorems
import HpscRtems.Link.Medium
import HpscRtems.Shmem.Region
import HpscRtems.Mbox.Channel
import HpscRtems.Link.OneWay
import HpscRtems.Link.SendTheorems
import HpscRtems.Link.DeliveryTheorems
import HpscRtems.Link.StuckTheorems
import HpscRtems.Link.AtomicTheorems
import HpscRtems.Mbox.Registers
import HpscRtems.Mbox.RegistersTheorems
import HpscRtems.Link.Service
import HpscRtems.Link.ServiceTheorems
import HpscRtems.Command.Handler
import HpscRtems.Link.QuiescentTheorems
import HpscRtems.Command.HandlerSteps
import HpscRtems.Command.HandlerTheorems
import HpscRtems.Command.LifecycleTheorems
import HpscRtems.Command.EnqueueTheorems
import HpscRtems.Mbox.CoherenceTheorems
import HpscRtems.Mbox.RemoveTheorems
import HpscRtems.Mbox.ConfigTheorems
import HpscRtems.Watchdog
import HpscRtems.WatchdogTheorems
import HpscRtems.Shmem.Poll
import HpscRtems.Shutdown
import HpscRtems.ShutdownTheorems
import HpscRtems.Gic
import HpscRtems.Mbox.ClientTheorems
import HpscRtems.Mbox.DataTheorems
import HpscRtems.Shmem.Bytes
import HpscRtems.Command.Flush
import HpscRtems.Command.FlushTheorems
import HpscRtems.Server
import HpscRtems.Shmem.Request
import HpscRtems.Shmem.PingTheorems
import HpscRtems.Mbox.Isr
import HpscRtems.Mbox.IsrTheorems
import HpscRtems.Shmem.Link
import HpscRtems.Shmem.CloseTheorems
import HpscRtems.Shmem.ConnectTheorems
import HpscRtems.Link.Store
import HpscRtems.Link.StoreHistoryTheorems
import HpscRtems.Shmem.Words
import HpscRtems.Shmem.WordsTheorems
import HpscRtems.Shmem.SendTheorems
import HpscRtems.Devices.Drivers
import HpscRtems.Devices.DriversTheorems
import HpscRtems.Machine.Rank
import HpscRtems.Link.ReturnTheorems
import HpscRtems.Shmem.ReturnTheorems
import HpscRtems.Mbox.ReturnTheorems
import HpscRtems.Command.LedgerTheorems
import HpscRtems.Command.DrainTheorems
