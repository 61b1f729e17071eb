import Direlera.Library.Transducer
import Direlera.Library.MirroredWindow
import Direlera.Library.Lockstep
import Direlera.Sync.InputCache
import Direlera.Sync.SimplestGameSync
import Direlera.Sync.LockstepAgreement
import Direlera.Sync.CachedGameSync
import Direlera.Sync.DelayedGameSync
import Direlera.Sync.PlainPath
import Direlera.Sync.DownstreamCache
import Direlera.Sync.UpstreamCache
import Direlera.Sync.StartupLayer
import Direlera.Sync.StartupSchedule
import Direlera.Sync.OrderIndependence
import Direlera.Sync.Progress
import Direlera.Library.Task
import Direlera.Wire.Packets
import Direlera.Lobby.Access
import Direlera.Lobby.Handlers
import Direlera.Sync.RoundShape
import Direlera.Lobby.Server
import Direlera.Lobby.View
import Direlera.Lobby.Model
import Direlera.Lobby.Refinement
import Direlera.Lobby.Membership
import Direlera.Lobby.LobbyInvariant
import Direlera.Lobby.Delivery
import Direlera.Lobby.DepartedPlayers
import Direlera.Lobby.StreamContainment
import Direlera.Lobby.LiveGame
import Direlera.Lobby.LiveTasks
import Direlera.Library.Pool
import Direlera.Lobby.OtherGames
import Direlera.Library.Outbox
import Direlera.Lobby.Rounds
import Direlera.Lobby.Interleaving
import Direlera.Library.KeyedBuffer
import Direlera.Wire.Parsing
import Direlera.Library.Reorder
import Direlera.Session.Ordering
import Direlera.Session.InOrder
import Direlera.Session.Bundles
import Direlera.Session.Gaps
import Direlera.Library.Labelled
import Direlera.Lobby.Intents
import Direlera.Lobby.Edits
import Direlera.Lobby.Checks
import Direlera.Lobby.Capacity
import Direlera.Lobby.Slots
import Direlera.Lobby.InputRouting
import Direlera.Library.EntryMap
import Direlera.Clients.Directory
import Direlera.Clients.Logins
import Direlera.Clients.Usernames
import Direlera.Clients.Searches
import Direlera.Clients.Bijection
import Direlera.Session.Teardown
import Direlera.Lobby.Statuses
import Direlera.Lobby.ReadySignal
import Direlera.Lobby.LiveRooms
import Direlera.Lobby.ReadyBarrier
import Direlera.Sync.Passthrough
import Direlera.Sync.DropFinality
import Direlera.Sync.FrameWidth
import Direlera.Wire.Reading
import Direlera.Wire.Grammar
import Direlera.Library.Faults
import Direlera.Sync.Vectors
import Direlera.Sync.Bounds
import Direlera.Clients.IdDraws
import Direlera.Clients.UserIds
import Direlera.Lobby.Occupancy
import Direlera.Lobby.DropRuns
import Direlera.Lobby.DropDelivery
import Direlera.Lobby.Bystanders
import Direlera.Library.Reader
import Direlera.Wire.ServerStatus
import Direlera.Library.Mirror
import Direlera.Lobby.Handshake
import Direlera.Lobby.Boards
import Direlera.Lobby.BoardUpkeep
import Direlera.Lobby.Legible
import Direlera.Lobby.BoardHandlers
import Direlera.Lobby.Snapshot
import Direlera.Lobby.GameLists
import Direlera.Sync.CacheWindow
import Direlera.Library.While
import Direlera.Sync.Quiescence
import Direlera.Lobby.Decoders
import Direlera.Lobby.StatusBody
import Direlera.Wire.Framing
import Direlera.Lobby.StatusFraming
import Direlera.Clients.Acks
import Direlera.Clients.AckCounts
import Direlera.Clients.Handshakes
import Direlera.Lobby.GameFrames
import Direlera.Library.Locks
import Direlera.Library.LockFlows
import Direlera.Locks.Flows
import Direlera.Locks.Deadlock
import Direlera.Library.Guarded
import Direlera.Lobby.Chat
import Direlera.Server.State
import Direlera.Server.Users
import Direlera.Server.Program
import Direlera.Server.LanPlayers
import Direlera.Server.Engines
import Direlera.Sync.EndToEnd
import Direlera.Lobby.EngineRuns
import Direlera.Server.Dispatch
import Direlera.Server.Netplay
import Direlera.Lobby.Displays
import Direlera.Lobby.Speech
import Direlera.Lobby.UserBoards
import Direlera.Lobby.UserLists
import Direlera.Server.Rolls
import Direlera.Server.UserLists
