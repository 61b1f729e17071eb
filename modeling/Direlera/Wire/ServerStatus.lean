import Direlera.Library.Reader
import Direlera.Wire.Reading
import Mathlib.Algebra.BigOperators.Group.List.Basic
import Mathlib.Algebra.Ring.Nat

/-!
# Game lists on the wire

The body of `SERVER_STATUS` lists users and games; three smaller bodies tell about one game.
The readers are a client's: each takes from a body what the client keeps of it.
-/

namespace Direlera.Wire

open Direlera.Library Direlera.Library.Reader Direlera.Sync

namespace Msg

def userJoined : UInt8 := 0x02
def serverStatus : UInt8 := 0x04
def serverInformation : UInt8 := 0x17

end Msg

/-! ## Fields -/

/-- `get_u32_le`, which panics when fewer than 4 bytes remain. -/
def readU32Le (buf : Bytes) : Option (UInt32 × Bytes) := needing 4 buf (getU32Le buf)

/-- A text with its terminator. -/
def readText (buf : Bytes) : Option (Bytes × Bytes) :=
  if 0 ∈ buf then some (readStringBytes buf) else none

theorem reads_u8 (value : UInt8) : Reads readU8 [value] value := fun _ => rfl

theorem reads_u16Le (value : UInt16) : Reads readU16Le (putU16Le value) value := by
  intro rest
  have enough : 2 ≤ (putU16Le value ++ rest).length := by
    simp [putU16Le, littleEndianBytes]
  exact (needing_of_le enough).trans (congrArg some (getU16Le_putU16Le value rest))

/-- Four bytes hold the number which was split into them. -/
theorem littleEndian_bytes (value : Nat) (bound : value < 4294967296) :
    littleEndian (littleEndianBytes 4 value) = value := by
  simp only [littleEndianBytes, littleEndian, UInt8.toNat_ofNat']
  omega

theorem reads_u32Le (value : UInt32) : Reads readU32Le (putU32Le value) value := by
  intro rest
  have width : (putU32Le value).length = 4 := rfl
  have enough : 4 ≤ (putU32Le value ++ rest).length := by
    rw [List.length_append, width]
    omega
  refine (needing_of_le enough).trans (congrArg some ?_)
  rw [getU32Le, List.take_left' width, List.drop_left' width, putU32Le,
    littleEndian_bytes _ value.toNat_lt, UInt32.ofNat_toNat]

/-- The bytes up to the terminator. -/
theorem readStringBytes_text {text : Bytes} (plain : 0 ∉ text) (rest : Bytes) :
    readStringBytes (text ++ 0 :: rest) = (text, rest) := by
  induction text with
  | nil => rfl
  | cons byte text ih =>
      obtain ⟨different, plain⟩ := not_or.mp (mt List.mem_cons.mpr plain)
      rw [List.cons_append, readStringBytes, if_neg (Ne.symm different), ih plain]

theorem reads_text {text : Bytes} (plain : 0 ∉ text) :
    Reads readText (putBytesWithNull text) text := by
  intro rest
  have terminated : 0 ∈ putBytesWithNull text ++ rest := by simp [putBytesWithNull]
  refine (if_pos terminated).trans (congrArg some ?_)
  rw [putBytesWithNull, List.append_assoc]
  exact readStringBytes_text plain rest

theorem reads_emptyString : Reads readText putEmptyString [] := reads_text List.not_mem_nil

/-! ## Decimal numbers -/

/-- A number as `{}`. -/
def decimal (value : UInt8) : Bytes :=
  (Nat.toDigits 10 value.toNat).map fun digit => .ofNat digit.toNat

/-- The number which a text shows. -/
def readDecimal (text : Bytes) : UInt8 :=
  .ofNat (text.foldl (fun number digit => 10 * number + (digit.toNat - 48)) 0)

/-- A decimal is made of digits and shows its number. -/
theorem decimal_spec (value : UInt8) :
    readDecimal (decimal value) = value ∧ 0 ∉ decimal value ∧ 47 ∉ decimal value := by
  have everywhere : ∀ number < 256,
      readDecimal (decimal (.ofNat number)) = .ofNat number ∧ 0 ∉ decimal (.ofNat number) ∧
        47 ∉ decimal (.ofNat number) := by
    decide +kernel
  have here := everywhere value.toNat value.toNat_lt
  rwa [UInt8.ofNat_toNat] at here

/-! ## Bodies -/

/-- What a list of games shows of a game. -/
structure Listing where
  gameStatus : UInt8
  numPlayers : UInt8
  maxPlayers : UInt8
deriving DecidableEq, Repr

/-- A user in `make_server_status`. -/
structure StatusUser where
  username : Bytes
  ping : UInt32
  playerStatus : UInt8
  userId : UInt16
  connType : UInt8
deriving DecidableEq, Repr

/-- A game in `make_server_status`. -/
structure StatusGame where
  gameName : Bytes
  gameId : UInt32
  emulatorName : Bytes
  owner : Bytes
  numPlayers : UInt8
  maxPlayers : UInt8
  gameStatus : UInt8
deriving DecidableEq, Repr

/-- `game_status_to_byte`. -/
def gameStatusToByte (status : UInt8) : UInt8 :=
  if status = 0 then 0 else if status = 1 then 1 else if status = 2 then 2 else 0

/-- The entry of a user. -/
def StatusUser.bytes (user : StatusUser) : Bytes :=
  putBytesWithNull user.username ++ (putU32Le user.ping ++ ([user.playerStatus] ++
    (putU16Le user.userId ++ [user.connType])))

/-- `{}/{}`: how many players are in a room which holds how many. -/
def StatusGame.players (game : StatusGame) : Bytes :=
  decimal game.numPlayers ++ 47 :: decimal game.maxPlayers

/-- The entry of a game. -/
def StatusGame.bytes (game : StatusGame) : Bytes :=
  putBytesWithNull game.gameName ++ (putU32Le game.gameId ++
    (putBytesWithNull game.emulatorName ++ (putBytesWithNull game.owner ++
      (putBytesWithNull game.players ++ [gameStatusToByte game.gameStatus]))))

/-- The body of `SERVER_STATUS`; the counts are cut to 32 bits. -/
def buildServerStatus (users : List StatusUser) (games : List StatusGame) : Bytes :=
  putEmptyString ++ (putU32Le (.ofNat users.length) ++ (putU32Le (.ofNat games.length) ++
    ((users.map StatusUser.bytes).flatten ++ (games.map StatusGame.bytes).flatten)))

/-- How long the entry of a user is. -/
def StatusUser.size (user : StatusUser) : Nat := user.username.length + 9

/-- How long the entry of a game is. -/
def StatusGame.size (game : StatusGame) : Nat :=
  game.gameName.length + game.emulatorName.length + game.owner.length +
    (decimal game.numPlayers).length + (decimal game.maxPlayers).length + 10

theorem StatusUser.length_bytes (user : StatusUser) : user.bytes.length = user.size := by
  simp [StatusUser.bytes, StatusUser.size, putBytesWithNull, putU32Le, putU16Le, littleEndianBytes]

theorem StatusGame.length_bytes (game : StatusGame) : game.bytes.length = game.size := by
  simp only [StatusGame.bytes, StatusGame.size, StatusGame.players, putBytesWithNull, putU32Le,
    littleEndianBytes, List.length_append, List.length_cons, List.length_nil]
  omega

theorem length_buildServerStatus (users : List StatusUser) (games : List StatusGame) :
    (buildServerStatus users games).length =
      9 + (users.map StatusUser.size).sum + (games.map StatusGame.size).sum := by
  have userBytes : (users.map StatusUser.bytes).flatten.length = (users.map StatusUser.size).sum := by
    rw [List.length_flatten, List.map_map]
    exact congrArg List.sum (List.map_congr_left fun user _ => user.length_bytes)
  have gameBytes : (games.map StatusGame.bytes).flatten.length = (games.map StatusGame.size).sum := by
    rw [List.length_flatten, List.map_map]
    exact congrArg List.sum (List.map_congr_left fun game _ => game.length_bytes)
  simp only [buildServerStatus, putEmptyString, putU32Le, littleEndianBytes, List.length_append,
    List.length_cons, List.length_nil, userBytes, gameBytes]
  omega

/-! ## A client's readers -/

/-- A client skips the users of a list of games. -/
def readUser : Reader UInt8 Unit := do
  let _ ← readText
  let _ ← readU32Le
  let _ ← readU8
  let _ ← readU16Le
  let _ ← readU8
  return ()

/-- The two numbers of `{}/{}`. -/
def readPlayers (text : Bytes) : UInt8 × UInt8 :=
  (readDecimal (text.takeWhile (· ≠ 47)), readDecimal ((text.dropWhile (· ≠ 47)).drop 1))

/-- The entry of a game. -/
def readGame : Reader UInt8 (UInt32 × Listing) := do
  let _ ← readText
  let gameId ← readU32Le
  let _ ← readText
  let _ ← readText
  let players ← readText
  let gameStatus ← readU8
  return (gameId, ⟨gameStatus, (readPlayers players).1, (readPlayers players).2⟩)

/-- The games of `SERVER_STATUS`. -/
def readServerStatus : Reader UInt8 (List (UInt32 × Listing)) := do
  let _ ← readText
  let numUsers ← readU32Le
  let numGames ← readU32Le
  let _ ← readUser.many numUsers.toNat
  readGame.many numGames.toNat

/-- The game of `UPDATE_GAME_STATUS`. -/
def readGameStatus : Reader UInt8 (UInt32 × Listing) := do
  let _ ← readText
  let gameId ← readU32Le
  let gameStatus ← readU8
  let numPlayers ← readU8
  let maxPlayers ← readU8
  return (gameId, ⟨gameStatus, numPlayers, maxPlayers⟩)

/-- The game of `CREATE_GAME`. -/
def readNewGame : Reader UInt8 UInt32 := do
  let _ ← readText
  let _ ← readText
  let _ ← readText
  readU32Le

/-- The game of `CLOSE_GAME`. -/
def readClosedGame : Reader UInt8 UInt32 := do
  let _ ← readText
  readU32Le

/-! ## Reading what was built -/

theorem reads_user {user : StatusUser} (plain : 0 ∉ user.username) :
    Reads readUser user.bytes () :=
  (reads_text plain).bind <| (reads_u32Le user.ping).bind <|
    (reads_u8 user.playerStatus).bind <| (reads_u16Le user.userId).bind <|
      (reads_u8 user.connType).map fun _ => ()

/-- The texts of a game have no terminator inside, and its status is a known one. -/
structure StatusGame.Plain (game : StatusGame) : Prop where
  gameName : 0 ∉ game.gameName
  emulatorName : 0 ∉ game.emulatorName
  owner : 0 ∉ game.owner
  status : game.gameStatus = 0 ∨ game.gameStatus = 1

/-- What the list shows of a game. -/
def StatusGame.entry (game : StatusGame) : UInt32 × Listing :=
  (game.gameId, ⟨game.gameStatus, game.numPlayers, game.maxPlayers⟩)

theorem plain_players (game : StatusGame) : 0 ∉ game.players := by
  have numPlayers := (decimal_spec game.numPlayers).2.1
  have maxPlayers := (decimal_spec game.maxPlayers).2.1
  simp [StatusGame.players, numPlayers, maxPlayers]

theorem readPlayers_players (game : StatusGame) :
    readPlayers game.players = (game.numPlayers, game.maxPlayers) := by
  obtain ⟨shown, -, noSlash⟩ := decimal_spec game.numPlayers
  have before : ∀ digit ∈ decimal game.numPlayers, decide (digit ≠ 47) = true := by
    intro digit member
    rw [decide_eq_true_eq]
    rintro rfl
    exact noSlash member
  rw [readPlayers, StatusGame.players, List.takeWhile_append_of_pos before,
    List.dropWhile_append_of_pos before]
  simp [shown, (decimal_spec game.maxPlayers).1]

theorem reads_game {game : StatusGame} (plain : game.Plain) :
    Reads readGame game.bytes game.entry := by
  have byte : gameStatusToByte game.gameStatus = game.gameStatus := by
    rcases plain.status with known | known <;> rw [known] <;> rfl
  have entry : game.entry = (game.gameId, ⟨gameStatusToByte game.gameStatus,
      (readPlayers game.players).1, (readPlayers game.players).2⟩) := by
    rw [byte, readPlayers_players]
    rfl
  rw [entry]
  exact (reads_text plain.gameName).bind <| (reads_u32Le game.gameId).bind <|
    (reads_text plain.emulatorName).bind <| (reads_text plain.owner).bind <|
      (reads_text (plain_players game)).bind <|
        (reads_u8 (gameStatusToByte game.gameStatus)).map fun status =>
          (game.gameId,
            Listing.mk status (readPlayers game.players).1 (readPlayers game.players).2)

/-- The games of a status which fits into a message are read back: its counts are not cut. -/
theorem reads_serverStatus {users : List StatusUser} {games : List StatusGame}
    (usersPlain : ∀ user ∈ users, 0 ∉ user.username) (gamesPlain : ∀ game ∈ games, game.Plain)
    (fits : (buildServerStatus users games).length ≤ maxPayload) :
    Reads readServerStatus (buildServerStatus users games) (games.map StatusGame.entry) := by
  have fewUsers : users.length ≤ (users.map StatusUser.size).sum := by
    rw [← List.length_map (f := StatusUser.size)]
    refine List.length_le_sum_of_one_le _ fun size member => ?_
    obtain ⟨user, _, rfl⟩ := List.mem_map.mp member
    exact Nat.le_add_left 1 _
  have fewGames : games.length ≤ (games.map StatusGame.size).sum := by
    rw [← List.length_map (f := StatusGame.size)]
    refine List.length_le_sum_of_one_le _ fun size member => ?_
    obtain ⟨game, _, rfl⟩ := List.mem_map.mp member
    exact Nat.le_add_left 1 _
  rw [length_buildServerStatus, maxPayload] at fits
  have userCount : (UInt32.ofNat users.length).toNat = users.length := by
    rw [UInt32.toNat_ofNat']
    omega
  have gameCount : (UInt32.ofNat games.length).toNat = games.length := by
    rw [UInt32.toNat_ofNat']
    omega
  have skipped := Reads.many fun user member => reads_user (usersPlain user member)
  have listed := Reads.many fun game member => reads_game (gamesPlain game member)
  rw [← userCount] at skipped
  rw [← gameCount] at listed
  exact reads_emptyString.bind <| (reads_u32Le _).bind <|
    (reads_u32Le _).bind <| skipped.bind listed

theorem reads_gameStatus (gameId : UInt32) (gameStatus numPlayers maxPlayers : UInt8) :
    Reads readGameStatus (putEmptyString ++ putU32Le gameId ++ [gameStatus, numPlayers, maxPlayers])
      (gameId, ⟨gameStatus, numPlayers, maxPlayers⟩) := by
  rw [List.append_assoc]
  exact reads_emptyString.bind <| (reads_u32Le gameId).bind <|
    (reads_u8 gameStatus).bind <| (reads_u8 numPlayers).bind <|
      (reads_u8 maxPlayers).map fun maxPlayers =>
        (gameId, Listing.mk gameStatus numPlayers maxPlayers)

theorem reads_newGame {username gameName emulatorName : Bytes} (user : 0 ∉ username)
    (name : 0 ∉ gameName) (emulator : 0 ∉ emulatorName) (gameId : UInt32) :
    Reads readNewGame (putBytesWithNull username ++ putBytesWithNull gameName ++
      putBytesWithNull emulatorName ++ putU32Le gameId) gameId := by
  rw [List.append_assoc, List.append_assoc]
  exact (reads_text user).bind <| (reads_text name).bind <| (reads_text emulator).bind <|
    reads_u32Le gameId

theorem reads_closedGame (gameId : UInt32) :
    Reads readClosedGame (buildCloseGamePacket gameId) gameId :=
  reads_emptyString.bind (reads_u32Le gameId)

end Direlera.Wire
