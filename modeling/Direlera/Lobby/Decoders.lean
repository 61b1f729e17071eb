import Direlera.Clients.Logins
import Direlera.Wire.ServerStatus

/-!
# Decoding messages

What each handler reads from the payload of its message, read by read. Every read is guarded
by a check of what remains, so that no payload makes one panic, and what is read is what the
handlers work on.
-/

namespace Direlera.Wire

open Direlera.Library Direlera.Sync

namespace Msg

def userLogin : UInt8 := 0x03
def kickUser : UInt8 := 0x0F

end Msg

/-! ## Reads -/

/-- `buf.len()`. -/
def remaining : Reader UInt8 Nat := fun buf => some (buf.length, buf)

/-- `read_string_bytes`, which advances byte by byte. -/
def readStringReading : Reader UInt8 Bytes
  | [] => some ([], [])
  | byte :: rest => do
      let _ ← needing 1 (byte :: rest) ()
      if byte = 0 then some ([], rest)
      else
        let (text, left) ← readStringReading rest
        some (byte :: text, left)

/-- A string ends at the latest with the buffer. -/
@[simp] theorem run_readString (buf : Bytes) :
    readStringReading.run buf = some (readStringBytes buf) := by
  change readStringReading buf = _
  induction buf with
  | nil => rfl
  | cons byte rest ih =>
      have here : needing 1 (byte :: rest) () = some () := needing_of_le (by simp)
      rw [readStringReading, readStringBytes, here, ih]
      split <;> rfl

section Runs

variable {buf : Bytes}

@[simp] theorem run_remaining (buf : Bytes) : remaining.run buf = some (buf.length, buf) := rfl

theorem run_readU8 (enough : 1 ≤ buf.length) : StateT.run readU8 buf = some (getU8 buf) :=
  needing_of_le enough

theorem run_readU16Le (enough : 2 ≤ buf.length) : StateT.run readU16Le buf = some (getU16Le buf) :=
  needing_of_le enough

theorem run_readU32Le (enough : 4 ≤ buf.length) : StateT.run readU32Le buf = some (getU32Le buf) :=
  needing_of_le enough

theorem run_splitTo {count : Nat} (enough : count ≤ buf.length) :
    StateT.run (splitTo count) buf = some (buf.take count, buf.drop count) :=
  needing_of_le enough

theorem length_getU8 (nonempty : 1 ≤ buf.length) : (getU8 buf).2.length = buf.length - 1 := by
  cases buf with
  | nil => simp at nonempty
  | cons byte rest => simp [getU8]

theorem length_getU32Le (buf : Bytes) : (getU32Le buf).2.length = buf.length - 4 :=
  List.length_drop ..

end Runs

end Direlera.Wire

namespace Direlera.Lobby

open Direlera.Clients Direlera.Library Direlera.Sync Direlera.Wire

/-! ## Payloads -/

/-- What a handler takes from the payload of its message. -/
inductive Decoded where
  | login (username emulatorName : Bytes) (connType : UInt8)
  | userQuit (message : Bytes)
  | chat (message : Bytes)
  | createGame (gameName : Bytes)
  | joinGame (gameId : UInt32)
  | startGame
  | kickUser (userId : UInt16)
  | gameData (bytes : Bytes)
  | gameCache (position : UInt8)
  | readyToPlay
  | malformed
  | notRead
deriving DecidableEq, Repr

/-- The reads of `handle_user_login`. -/
def loginReads : Reader UInt8 Decoded := do
  let username ← readStringReading
  let emulatorName ← readStringReading
  if (← remaining) ≠ 0 then
    let connType ← readU8
    return .login username emulatorName connType
  else return .login username emulatorName 0

/-- The reads of `handle_user_quit`. -/
def userQuitReads : Reader UInt8 Decoded := do
  let _ ← readStringReading
  if 2 ≤ (← remaining) then
    let _ ← readU16Le
    let message ← readStringReading
    return .userQuit message
  else
    let message ← readStringReading
    return .userQuit message

/-- The reads of `handle_global_chat` and of `handle_game_chat`. -/
def chatReads : Reader UInt8 Decoded := do
  let _ ← readStringReading
  let message ← readStringReading
  return .chat message

/-- The reads of `handle_create_game`. -/
def createGameReads : Reader UInt8 Decoded := do
  let _ ← readStringReading
  let gameName ← readStringReading
  let _ ← readStringReading
  if 4 ≤ (← remaining) then
    let _ ← readU32Le
    return .createGame (gameName.take 127)
  else return .createGame (gameName.take 127)

/-- The reads of `handle_join_game`: a second string stands between two checks. -/
def joinGameReads : Reader UInt8 Decoded := do
  let _ ← readStringReading
  if (← remaining) < 11 then return .malformed
  else
    let gameId ← readU32Le
    let _ ← readStringReading
    if (← remaining) < 7 then return .malformed
    else
      let _ ← readU32Le
      let _ ← readU16Le
      let _ ← readU8
      return .joinGame gameId

/-- The reads of `handle_start_game`. -/
def startGameReads : Reader UInt8 Decoded := do
  let _ ← readStringReading
  if (← remaining) < 4 then return .malformed
  else
    let _ ← readU32Le
    return .startGame

/-- The reads of `handle_kick_user`. -/
def kickUserReads : Reader UInt8 Decoded := do
  let _ ← readStringReading
  if (← remaining) < 2 then return .malformed
  else
    let userId ← readU16Le
    return .kickUser userId

/-- The reads of `handle_game_data`. -/
def gameDataReads : Reader UInt8 Decoded := do
  if (← remaining) < 3 then return .malformed
  else
    let _ ← readU8
    let dataLength ← readU16Le
    if (← remaining) < dataLength.toNat then return .malformed
    else
      let bytes ← splitTo dataLength.toNat
      return .gameData bytes

/-- The reads of `handle_game_cache`. -/
def gameCacheReads : Reader UInt8 Decoded := do
  if (← remaining) < 2 then return .malformed
  else
    let _ ← readU8
    let position ← readU8
    return .gameCache position

/-- The reads of `handle_ready_to_play_signal`. -/
def readyToPlayReads : Reader UInt8 Decoded := do
  if (← remaining) = 0 then return .malformed
  else
    let _ ← readU8
    return .readyToPlay

/-- The reads of the handler of a message, by its type; other handlers read nothing. -/
def handlerReads (messageType : UInt8) : Reader UInt8 Decoded :=
  if messageType = Msg.userQuit then userQuitReads
  else if messageType = Msg.userLogin then loginReads
  else if messageType = Msg.globalChat ∨ messageType = Msg.gameChat then chatReads
  else if messageType = Msg.createGame then createGameReads
  else if messageType = Msg.joinGame then joinGameReads
  else if messageType = Msg.kickUser then kickUserReads
  else if messageType = Msg.startGame then startGameReads
  else if messageType = Msg.gameData then gameDataReads
  else if messageType = Msg.gameCache then gameCacheReads
  else if messageType = Msg.readyToPlay then readyToPlayReads
  else return .notRead

/-! ## No read panics -/

/-- The reader takes a value off every buffer. -/
def Takes (reader : Reader UInt8 Decoded) (value : Bytes → Decoded) : Prop :=
  ∀ buf, ∃ left, reader.run buf = some (value buf, left)

theorem takes_login : Takes loginReads fun data =>
    .login (parseLogin data).1 (parseLogin data).2.1 (parseLogin data).2.2 := by
  intro data
  simp only [loginReads, StateT.run_bind, run_readString, run_remaining, Option.bind_eq_bind,
    Option.bind_some, parseLogin]
  generalize (readStringBytes (readStringBytes data).2).2 = buf
  by_cases empty : buf.length = 0
  · have none : buf = [] := List.length_eq_zero_iff.mp empty
    subst none
    exact ⟨[], rfl⟩
  · simp only [ne_eq, empty, not_false_eq_true, if_true, StateT.run_bind,
      run_readU8 (Nat.one_le_iff_ne_zero.mpr empty)]
    exact ⟨_, rfl⟩

theorem takes_userQuit : Takes userQuitReads fun data => .userQuit (parseUserQuit data) := by
  intro data
  simp only [userQuitReads, StateT.run_bind, run_readString, run_remaining, Option.bind_eq_bind,
    Option.bind_some, parseUserQuit]
  generalize (readStringBytes data).2 = buf
  by_cases enough : 2 ≤ buf.length
  · simp only [enough, if_true, StateT.run_bind, run_readU16Le enough, run_readString,
      Option.bind_eq_bind, Option.bind_some]
    exact ⟨_, rfl⟩
  · simp only [enough, if_false, StateT.run_bind, run_readString, Option.bind_eq_bind,
      Option.bind_some]
    exact ⟨_, rfl⟩

theorem takes_chat : Takes chatReads fun data =>
    .chat (readStringBytes (readStringBytes data).2).1 := by
  intro data
  simp only [chatReads, StateT.run_bind, run_readString, Option.bind_eq_bind, Option.bind_some]
  exact ⟨_, rfl⟩

theorem takes_createGame : Takes createGameReads fun data =>
    .createGame (parseCreateGame data) := by
  intro data
  simp only [createGameReads, StateT.run_bind, run_readString, run_remaining, Option.bind_eq_bind,
    Option.bind_some, parseCreateGame]
  generalize (readStringBytes (readStringBytes (readStringBytes data).2).2).2 = buf
  by_cases enough : 4 ≤ buf.length
  · simp only [enough, if_true, StateT.run_bind, run_readU32Le enough]
    exact ⟨_, rfl⟩
  · simp only [enough, if_false]
    exact ⟨_, rfl⟩

/-- The game id lies before the second string, and the second check covers what follows it. -/
theorem takes_joinGame : Takes joinGameReads fun data =>
    (parseJoinGame data).elim .malformed .joinGame := by
  intro data
  simp only [joinGameReads, StateT.run_bind, run_readString, run_remaining, Option.bind_eq_bind,
    Option.bind_some, parseJoinGame]
  generalize (readStringBytes data).2 = buf
  by_cases short : buf.length < 11
  · simp only [short, if_true]
    exact ⟨_, rfl⟩
  · simp only [short, if_false, StateT.run_bind, run_readString, run_remaining,
      run_readU32Le (show 4 ≤ buf.length by omega), Option.bind_eq_bind, Option.bind_some]
    generalize (readStringBytes (getU32Le buf).2).2 = rest
    by_cases truncated : rest.length < 7
    · simp only [truncated, if_true]
      exact ⟨_, rfl⟩
    · have word : 2 ≤ (getU32Le rest).2.length := by rw [length_getU32Le]; omega
      have byte : 1 ≤ (getU16Le (getU32Le rest).2).2.length := by
        rw [length_getU16Le, length_getU32Le]
        omega
      simp only [truncated, if_false, StateT.run_bind, run_readU32Le (show 4 ≤ rest.length by omega),
        run_readU16Le word, run_readU8 byte, Option.bind_eq_bind, Option.bind_some]
      exact ⟨_, rfl⟩

theorem takes_startGame : Takes startGameReads fun data =>
    if (readStringBytes data).2.length < 4 then .malformed else .startGame := by
  intro data
  simp only [startGameReads, StateT.run_bind, run_readString, run_remaining, Option.bind_eq_bind,
    Option.bind_some]
  generalize (readStringBytes data).2 = buf
  by_cases short : buf.length < 4
  · simp only [short, if_true]
    exact ⟨_, rfl⟩
  · simp only [short, if_false, StateT.run_bind, run_readU32Le (Nat.not_lt.mp short)]
    exact ⟨_, rfl⟩

theorem takes_kickUser : Takes kickUserReads fun data =>
    (parseKickUser data).elim .malformed .kickUser := by
  intro data
  simp only [kickUserReads, StateT.run_bind, run_readString, run_remaining, Option.bind_eq_bind,
    Option.bind_some, parseKickUser]
  generalize (readStringBytes data).2 = buf
  by_cases short : buf.length < 2
  · simp only [short, if_true]
    exact ⟨_, rfl⟩
  · simp only [short, if_false, StateT.run_bind, run_readU16Le (Nat.not_lt.mp short)]
    exact ⟨_, rfl⟩

/-- The length in the payload is checked against what follows it. -/
theorem takes_gameData : Takes gameDataReads fun data =>
    (parseGameData data).elim .malformed .gameData := by
  intro data
  simp only [gameDataReads, StateT.run_bind, run_remaining, Option.bind_eq_bind, Option.bind_some,
    parseGameData]
  by_cases short : data.length < 3
  · simp only [short, if_true]
    exact ⟨_, rfl⟩
  · have first : 1 ≤ data.length := by omega
    have word : 2 ≤ (getU8 data).2.length := by rw [length_getU8 first]; omega
    simp only [short, if_false, StateT.run_bind, run_readU8 first, run_readU16Le word, run_remaining,
      Option.bind_eq_bind, Option.bind_some]
    generalize (getU16Le (getU8 data).2).2 = rest
    generalize (getU16Le (getU8 data).2).1 = dataLength
    by_cases truncated : rest.length < dataLength.toNat
    · simp only [truncated, if_true]
      exact ⟨_, rfl⟩
    · simp only [truncated, if_false, StateT.run_bind, run_splitTo (Nat.not_lt.mp truncated)]
      exact ⟨_, rfl⟩

theorem takes_gameCache : Takes gameCacheReads fun data =>
    (parseGameCache data).elim .malformed .gameCache := by
  intro data
  simp only [gameCacheReads, StateT.run_bind, run_remaining, Option.bind_eq_bind, Option.bind_some,
    parseGameCache]
  by_cases short : data.length < 2
  · simp only [short, if_true]
    exact ⟨_, rfl⟩
  · have first : 1 ≤ data.length := by omega
    have second : 1 ≤ (getU8 data).2.length := by rw [length_getU8 first]; omega
    simp only [short, if_false, StateT.run_bind, run_readU8 first, run_readU8 second,
      Option.bind_eq_bind, Option.bind_some]
    exact ⟨_, rfl⟩

theorem takes_readyToPlay : Takes readyToPlayReads fun data =>
    if data.isEmpty then .malformed else .readyToPlay := by
  intro data
  cases data with
  | nil => exact ⟨[], rfl⟩
  | cons byte rest => exact ⟨rest, rfl⟩

/-- Whatever the type and the payload, every read has its bytes. -/
theorem handlerReads_total (messageType : UInt8) : ∃ value, Takes (handlerReads messageType) value := by
  unfold handlerReads
  split
  next => exact ⟨_, takes_userQuit⟩
  split
  next => exact ⟨_, takes_login⟩
  split
  next => exact ⟨_, takes_chat⟩
  split
  next => exact ⟨_, takes_createGame⟩
  split
  next => exact ⟨_, takes_joinGame⟩
  split
  next => exact ⟨_, takes_kickUser⟩
  split
  next => exact ⟨_, takes_startGame⟩
  split
  next => exact ⟨_, takes_gameData⟩
  split
  next => exact ⟨_, takes_gameCache⟩
  split
  next => exact ⟨_, takes_readyToPlay⟩
  next => exact ⟨fun _ => .notRead, fun buf => ⟨buf, rfl⟩⟩

/-- No datagram makes a read panic, neither in the parser nor in the handler of any message
which it parses, whatever payload that message has. -/
theorem decoders_never_panic (datagram : Bytes) :
    ∃ parsed, parsePacketReading datagram = some parsed ∧
      (∀ messages, parsed = .ok messages → ∀ message ∈ messages,
        ((handlerReads message.messageType).run message.data).isSome = true) ∧
      ∀ messageType payload, ((handlerReads messageType).run payload).isSome = true := by
  have total : ∀ messageType payload,
      ((handlerReads messageType).run payload).isSome = true := by
    intro messageType payload
    obtain ⟨value, takes⟩ := handlerReads_total messageType
    obtain ⟨left, read⟩ := takes payload
    rw [read]
    rfl
  refine ⟨parsePacket datagram, parsePacketReading_eq datagram, ?_, total⟩
  intro messages _ message _
  exact total message.messageType message.data

end Direlera.Lobby
