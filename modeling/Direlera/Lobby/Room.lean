import Direlera.Lobby.State

/-!
# What a handler does to a game under its lock

The closures which the handlers run on a locked `GameInfo`, as functions.
-/

namespace Direlera.Lobby

open Direlera.Sync

namespace SyncManager

/-- An engine response as a frame of a game. -/
def frame {n : Nat} (gameId : UInt32) (output : CachedPlayerOutput n) : Frame :=
  ⟨gameId, output.playerId, output.response⟩

/-- One call on the engine of game `gameId`. -/
def call (sync : SyncManager) (gameId : UInt32) (request : Call) :
    Except GameSyncError (List Frame) × SyncManager :=
  let (result, engine) := (DelayedGameSync.machine sync.playerCount).step sync.engine request
  (result.map (List.map (frame gameId)), ⟨sync.playerCount, engine⟩)

/-- `all_players_dropped`. -/
def allPlayersDropped (sync : SyncManager) : Bool := sync.engine.allPlayersDropped

end SyncManager

namespace GameInfo

/-- The entries whose player has not left the room. -/
def inRoom (game : GameInfo) : List GamePlayerInfo :=
  game.players.filter fun player => !player.leftRoom

/-- `migrate_owner_if_needed`: the name of the new owner, if ownership moved. -/
def migrateOwnerIfNeeded (game : GameInfo) : Option Bytes × GameInfo :=
  if game.players.any fun player => !player.leftRoom && player.userId == game.ownerUserId then
    (none, game)
  else
    match game.players.find? fun player => !player.leftRoom with
    | none => (none, game)
    | some player =>
        (some player.username,
          { game with owner := player.username, ownerUserId := player.userId })

/-- Replace the players and count them. -/
def recount (game : GameInfo) (players : List GamePlayerInfo) (count : Nat) : GameInfo :=
  { game with players, numPlayers := .ofNat count }

/-- What quitting meant for the room. -/
inductive QuitOutcome where
  | playing
  | waitingOpen
  | waitingClosed
deriving DecidableEq, Repr

/-- A player leaves: a live game keeps its slot as a tombstone, a waiting one removes it. -/
def leave (game : GameInfo) (addr : SocketAddr) : (QuitOutcome × Option Bytes) × GameInfo :=
  match game.syncManager with
  | some _ =>
      let players := match game.position addr with
        | some slot => game.players.modify slot fun player => { player with leftRoom := true }
        | none => game.players
      let (newOwner, migrated) :=
        (game.recount players (players.countP fun player => !player.leftRoom)).migrateOwnerIfNeeded
      ((.playing, newOwner), migrated)
  | none =>
      let players := match game.position addr with
        | some slot => game.players.eraseIdx slot
        | none => game.players
      let (newOwner, migrated) := (game.recount players players.length).migrateOwnerIfNeeded
      ((if migrated.players.isEmpty then .waitingClosed else .waitingOpen, newOwner), migrated)

/-- The joining player is added, unless its address is listed already. -/
def seat (game : GameInfo) (player : GamePlayerInfo) : GameInfo :=
  if game.lists player.addr then game
  else { game with numPlayers := game.numPlayers + 1, players := game.players ++ [player] }

/-- Drop the tombstones and count the rest. -/
def purge (game : GameInfo) : GameInfo :=
  game.recount game.inRoom game.inRoom.length

/-- The engine is installed: `CachedGameSync::new(delays)` behind the startup warmups. -/
def begin (game : GameInfo) (delays startupWarmups : List Nat) (disableOutputCache : Bool) :
    GameInfo :=
  { game with
    gameStatus := gameStatusPlaying
    syncManager := some ⟨delays.length, DelayedGameSync.start (fun slot => delays[slot])
      (fun slot => startupWarmups.getD slot 0) disableOutputCache⟩ }

/-- Every player has dropped: the engine goes and the tombstones are purged. -/
def finish (game : GameInfo) : GameInfo :=
  ({ game with gameStatus := gameStatusWaiting, syncManager := none } : GameInfo).purge
    |>.migrateOwnerIfNeeded.2

/-- A response with the address of its slot, where the slot is listed. -/
def target (game : GameInfo) (frame : Frame) : Option TargetOutput :=
  game.players[frame.slot]?.map fun player => ⟨player.addr, frame⟩

end GameInfo

end Direlera.Lobby
