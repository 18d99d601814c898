import SpotExchange.Collections.OrderedMap
import SpotExchange.Collections.Precedence
import SpotExchange.Collections.IntrusiveList
import SpotExchange.Collections.Tally
import SpotExchange.Collections.Laps
import SpotExchange.Info.Order
import SpotExchange.Info.Messages
import SpotExchange.Engine.Book
import SpotExchange.Machine.Run
import SpotExchange.Bytes.LittleEndian
import SpotExchange.Engine.FifoMatching
import SpotExchange.Engine.OrderBook
import SpotExchange.Allocation.Queue
import SpotExchange.Allocation.Sweep
import SpotExchange.Engine.Chain
import SpotExchange.Engine.InLevel
import SpotExchange.Engine.InLevelPrefix
import SpotExchange.Engine.Levels
import SpotExchange.Engine.CleanStop
import SpotExchange.Engine.Fills
import SpotExchange.Engine.Attribution
import SpotExchange.Engine.PriceTimePriority
import SpotExchange.Engine.Uncrossed
import SpotExchange.Engine.View
import SpotExchange.Engine.Placement
import SpotExchange.Engine.Calls
import SpotExchange.Engine.Headed
import SpotExchange.Engine.Representation
import SpotExchange.Engine.Arrivals
import SpotExchange.Engine.TimePriority
import SpotExchange.Engine.Balance
import SpotExchange.Engine.Ledger
import SpotExchange.Engine.Bystanders
import SpotExchange.Engine.Exclusion
import SpotExchange.Engine.QueueRefinement
import SpotExchange.Engine.LiveOrders
import SpotExchange.Engine.LevelLifetimes
import SpotExchange.Engine.Modification
import SpotExchange.Client.FeedHandler
import SpotExchange.Bytes.Text
import SpotExchange.Util.EightBytes
import SpotExchange.Client.Drawing
import SpotExchange.Client.TradingClient
import SpotExchange.Client.Mirror
import SpotExchange.Client.Reconstruction
import SpotExchange.Client.TrackedSums
import SpotExchange.Client.Replay
import SpotExchange.Server.OrderBookManager
import SpotExchange.Server.LiveBooks
import SpotExchange.Server.Exceptions
import SpotExchange.Server.Rejections
import SpotExchange.Server.OrderEntryStreamConnection
import SpotExchange.Server.Ownership
import SpotExchange.Server.Isolation
import SpotExchange.Client.Acknowledgements
import SpotExchange.Server.SignedPrices
import SpotExchange.Machine.Writer
import SpotExchange.Machine.Program
import SpotExchange.Server.WriteQueues
import SpotExchange.Server.Connections
import SpotExchange.Server.ConnectionRules
import SpotExchange.Server.PendingOperations
import SpotExchange.Server.Termination
import SpotExchange.Server.ClientRegistry
import SpotExchange.DataPlatform.Serialise
import SpotExchange.Client.Packets
import SpotExchange.DataPlatform.Datagrams
import SpotExchange.DataPlatform.Sends
import SpotExchange.Logging.Queue
import SpotExchange.Logging.Delivery
import SpotExchange.Client.Subscription
import SpotExchange.Client.UserInput
import SpotExchange.Client.OrderLines
import SpotExchange.Client.LineSafety
import SpotExchange.Client.OwnBooks
import SpotExchange.Client.ReceiveBuffer
import SpotExchange.DataPlatform.Subscribers
import SpotExchange.Server.FirstRead
import SpotExchange.Engine.Fading
import SpotExchange.Engine.Telling
import SpotExchange.Engine.Reports
import SpotExchange.Engine.Newcomers
import SpotExchange.Server.Feed
import SpotExchange.Server.Answers
import SpotExchange.Server.OneReader
import SpotExchange.Server.Serial
import SpotExchange.Server.Hosting
import SpotExchange.Client.TickerViews
import SpotExchange.Client.UpperBounds
import SpotExchange.System.Pipeline
import SpotExchange.System.Settling
import SpotExchange.System.Dialogue
import SpotExchange.System.TypedOrders
