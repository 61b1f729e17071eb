import Direlera.Wire.ServerStatus

/-!
# Records of a status

`SERVER_STATUS` in the order of its description: an empty text, two counts, then the users
and the games. Whoever reads it so gets every field of every record.
-/

namespace Direlera.Wire

open Direlera.Library Direlera.Library.Reader Direlera.Sync

/-- The record of a game. -/
structure GameRecord where
  gameName : Bytes
  gameId : UInt32
  emulatorName : Bytes
  owner : Bytes
  players : Bytes
  gameStatus : UInt8
deriving DecidableEq, Repr

/-- What is written of a game. -/
def StatusGame.record (game : StatusGame) : GameRecord :=
  ⟨game.gameName, game.gameId, game.emulatorName, game.owner, game.players,
    gameStatusToByte game.gameStatus⟩

/-! ## Reading in the order of the description -/

def readUserRecord : Reader UInt8 StatusUser := do
  let username ← readText
  let ping ← readU32Le
  let playerStatus ← readU8
  let userId ← readU16Le
  let connType ← readU8
  return ⟨username, ping, playerStatus, userId, connType⟩

def readGameRecord : Reader UInt8 GameRecord := do
  let gameName ← readText
  let gameId ← readU32Le
  let emulatorName ← readText
  let owner ← readText
  let players ← readText
  let gameStatus ← readU8
  return ⟨gameName, gameId, emulatorName, owner, players, gameStatus⟩

/-- All users and all games, as many as the counts say. -/
def readStatusRecords : Reader UInt8 (List StatusUser × List GameRecord) := do
  let _ ← readText
  let numUsers ← readU32Le
  let numGames ← readU32Le
  let users ← readUserRecord.many numUsers.toNat
  let games ← readGameRecord.many numGames.toNat
  return (users, games)

theorem reads_userRecord {user : StatusUser} (plain : 0 ∉ user.username) :
    Reads readUserRecord user.bytes user :=
  (reads_text plain).bind <| (reads_u32Le user.ping).bind <|
    (reads_u8 user.playerStatus).bind <| (reads_u16Le user.userId).bind <|
      (reads_u8 user.connType).map fun connType =>
        StatusUser.mk user.username user.ping user.playerStatus user.userId connType

theorem reads_gameRecord {game : StatusGame} (gameName : 0 ∉ game.gameName)
    (emulatorName : 0 ∉ game.emulatorName) (owner : 0 ∉ game.owner) :
    Reads readGameRecord game.bytes game.record :=
  (reads_text gameName).bind <| (reads_u32Le game.gameId).bind <|
    (reads_text emulatorName).bind <| (reads_text owner).bind <|
      (reads_text (plain_players game)).bind <|
        (reads_u8 (gameStatusToByte game.gameStatus)).map fun status =>
          GameRecord.mk game.gameName game.gameId game.emulatorName game.owner game.players status

/-- The counts are not cut, so they say how many records follow. -/
theorem reads_statusRecords {users : List StatusUser} {games : List StatusGame}
    (usersPlain : ∀ user ∈ users, 0 ∉ user.username)
    (gamesPlain : ∀ game ∈ games, 0 ∉ game.gameName ∧ 0 ∉ game.emulatorName ∧ 0 ∉ game.owner)
    (fewUsers : users.length < 4294967296) (fewGames : games.length < 4294967296) :
    Reads readStatusRecords (buildServerStatus users games)
      (users, games.map StatusGame.record) := by
  have userCount : (UInt32.ofNat users.length).toNat = users.length :=
    UInt32.toNat_ofNat_of_lt' fewUsers
  have gameCount : (UInt32.ofNat games.length).toNat = games.length :=
    UInt32.toNat_ofNat_of_lt' fewGames
  have userRecords : Reads (readUserRecord.many users.length)
      (users.map StatusUser.bytes).flatten (users.map id) :=
    Reads.many fun user member => reads_userRecord (usersPlain user member)
  have gameRecords : Reads (readGameRecord.many games.length)
      (games.map StatusGame.bytes).flatten (games.map StatusGame.record) := by
    refine Reads.many fun game member => ?_
    obtain ⟨gameName, emulatorName, owner⟩ := gamesPlain game member
    exact reads_gameRecord gameName emulatorName owner
  rw [← userCount, List.map_id] at userRecords
  rw [← gameCount] at gameRecords
  exact reads_emptyString.bind <| (reads_u32Le _).bind <| (reads_u32Le _).bind <|
    userRecords.bind (gameRecords.map fun games => (users, games))

end Direlera.Wire
