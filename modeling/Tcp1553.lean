import Tcp1553.DirectionProofs
import Tcp1553.SessionProofs
import Tcp1553.ControllerProofs
import Tcp1553.CountProofs
import Tcp1553.ClientFdProofs
import Tcp1553.ShutdownProofs
import Tcp1553.DeadlockProofs
import Tcp1553.RemovalProofs
import Tcp1553.ResyncProofs
import Tcp1553.ReplyProofs
import Tcp1553.ExtractProofs
import Tcp1553.BatchProofs
import Tcp1553.FlushProofs
import Tcp1553.DataTextProofs
import Tcp1553.FrameProofs
import Tcp1553.SegmentProofs
import Tcp1553.IndeterminateProofs
import Tcp1553.WritesProofs
import Tcp1553.HandleProofs
import Tcp1553.StaleStopProofs
import Tcp1553.RelayProofs
import Tcp1553.FilterProofs
import Tcp1553.VerdictProofs
import Tcp1553.ReaderProofs
import Tcp1553.ReadBackProofs
import Tcp1553.LinesProofs
import Tcp1553.AllocationProofs
import Tcp1553.EditorProofs
import Tcp1553.OneThreadProofs
import Tcp1553.TreeProofs
import Tcp1553.DeliveryProofs
import Tcp1553.ViewProofs
import Tcp1553.MarkProofs
import Tcp1553.StationProofs
import Tcp1553.WindowProofs
import Tcp1553.DeskProofs
import Tcp1553.OrderProofs
import Tcp1553.SniffProofs
import Tcp1553.CardProofs
import Tcp1553.ClickProofs
import Tcp1553.SummaryProofs
import Tcp1553.ListenerProofs
import Tcp1553.HeardProofs
import Tcp1553.JoinProofs
import Tcp1553.ToggleProofs
