import Direlera.Lobby.Boards

/-!
# Displays

What a client shows, it rebuilds from the newest messages of the datagrams which are queued for
it. A display hears messages of some types, and hearing a message twice is hearing it once, so
that a datagram which is sent again changes nothing.
-/

namespace Direlera.Lobby

open Direlera.Library Direlera.Sync Direlera.Wire

/-! ## Sending a message -/

/-- What is told of a client, and the count which decides whether it is. -/
structure Profile where
  username : Bytes
  userId : UInt16
  ping : UInt32
  connType : UInt8
  ackCount : UInt16
deriving DecidableEq, Repr

def ClientInfo.profile (client : ClientInfo) : Profile :=
  ⟨client.username, client.userId, client.ping, client.connType, client.ackCount⟩

/-- The profiles of the registered clients. -/
def AppState.profiles (state : AppState) (addr : SocketAddr) : Option Profile :=
  (state.clients.find addr).map ClientInfo.profile

/-- A datagram which was made for a message. -/
def Carries (packetType : UInt8) (data packet : Bytes) : Prop :=
  ∃ client : ClientInfo, packet = (client.makeSendPacket packetType data).1

/-- A message is sent to some addresses, and is the last one which their clients were sent. -/
structure AppState.Mails (packetType : UInt8) (data : Bytes) (recipients : List SocketAddr)
    (before after : AppState) : Prop where
  queued : ∃ sent, after.tx = before.tx ++ sent ∧
    (∀ addr, addr ∈ sent.map Message.addr ↔ addr ∈ recipients) ∧
      ∀ message ∈ sent, Carries packetType data message.data
  profiles : after.profiles = before.profiles
  others : ∀ addr, addr ∉ recipients → after.clients.find addr = before.clients.find addr
  last : ∀ addr ∈ recipients, ∀ client, after.clients.find addr = some client →
    ∃ packet, client.packetGenerator.lastSent = some packet ∧ Carries packetType data packet

section Mails

variable {state : AppState} {packetType : UInt8} {data : Bytes}

/-- Profiles hear no announcement. -/
theorem deaf_profiles : Deaf AppState.profiles where
  draws := by
    intro state session packetType data
    ext1 addr
    exact state.clients.map_find_update (by intro client; rfl) session addr
  queues := fun _ _ _ _ => rfl

/-- Packets are drawn from the generators of their recipients, and from no others. -/
theorem find_makePackets {selected : ClientInfo → Bool}
    (unmoved : ∀ client : ClientInfo,
      selected (client.makeSendPacket packetType data).2 = selected client)
    (addrs : List SocketAddr) (registry : ClientRegistry) :
    let recipients := addrs.filter fun addr => (registry.find addr).any selected
    let after := (makePackets selected packetType data addrs registry).2
    (∀ addr, addr ∉ recipients → after.find addr = registry.find addr) ∧
      ∀ addr ∈ recipients, ∀ client, after.find addr = some client →
        ∃ packet, client.packetGenerator.lastSent = some packet ∧
          Carries packetType data packet := by
  induction addrs generalizing registry with
  | nil => exact ⟨fun _ _ => rfl, fun _ member => absurd member List.not_mem_nil⟩
  | cons first rest ih =>
      intro recipients after
      simp only [recipients, after, makePackets]
      split
      next session client here found =>
        split
        next chosen =>
          let drawn := registry.update session fun client =>
            (client.makeSendPacket packetType data).2
          have changed : drawn.find = Function.update registry.find first
              (some (client.makeSendPacket packetType data).2) := by
            rw [registry.find_update here, found]
            rfl
          have same : ∀ addr, (drawn.find addr).any selected = (registry.find addr).any selected := by
            intro addr
            rw [changed]
            by_cases self : addr = first
            · rw [self, Function.update_self, found]
              exact unmoved client
            · rw [Function.update_of_ne self]
          obtain ⟨others, last⟩ := ih drawn
          simp only [same] at others last
          rw [List.filter_cons_of_pos (by simpa [found] using chosen)]
          constructor
          · intro addr outside
            obtain ⟨different, outside⟩ := not_or.mp (mt List.mem_cons.mpr outside)
            exact (others addr outside).trans (by rw [changed, Function.update_of_ne different])
          · intro addr member client' known
            by_cases again : addr ∈ rest.filter fun addr => (registry.find addr).any selected
            · exact last addr again client' known
            · obtain rfl := (List.mem_cons.mp member).resolve_right again
              rw [others addr again, changed, Function.update_self] at known
              obtain rfl := Option.some.inj known
              exact ⟨_, rfl, client, rfl⟩
        next passed =>
          rw [List.filter_cons_of_neg (by simpa [found] using passed)]
          exact ih registry
      next missing =>
        have absent : registry.find first = none := by
          cases here : registry.session first with
          | none => rw [ClientRegistry.find, here, Option.bind_none]
          | some session =>
              obtain ⟨client, found, _⟩ := registry.find_of_session here
              exact (missing session client here found).elim
        rw [List.filter_cons_of_neg (by simp [absent])]
        exact ih registry

/-- A broadcast is sent to the selected ones of the addressed clients. -/
theorem mails_broadcast {selected : ClientInfo → Bool}
    (unmoved : ∀ client : ClientInfo,
      selected (client.makeSendPacket packetType data).2 = selected client)
    (addrs : List SocketAddr) (state : AppState) :
    state.Mails packetType data
      (addrs.filter fun addr => (state.clients.find addr).any selected)
      ((broadcast selected packetType data addrs).run state).2 := by
  let drawn : AppState := { state with
    clients := (makePackets selected packetType data addrs state.clients).2 }
  obtain ⟨others, last⟩ := find_makePackets unmoved addrs state.clients
  obtain ⟨sent, queued, addresses, made⟩ := tx_broadcast_drawn unmoved addrs state
  have same : ((broadcast selected packetType data addrs).run state).2.clients = drawn.clients :=
    congrArg (fun result => result.2.clients) (run_queue _ drawn)
  refine ⟨⟨sent, queued, fun addr => by rw [addresses], fun message member =>
    (made message member).1⟩, ?_, ?_, ?_⟩
  · exact (deaf_profiles.broadcast selected packetType data addrs).keeps state
  · rw [same]
    exact others
  · rw [same]
    exact last

/-- Whoever has completed the handshake is sent a broadcast. -/
theorem mails_broadcastPacket (state : AppState) :
    state.Mails packetType data
      ((state.clients.byAddr.map Prod.fst).filter fun addr =>
        (state.clients.find addr).any ClientInfo.complete)
      ((broadcastPacket packetType data).run state).2 :=
  mails_broadcast (fun _ => rfl) _ state

/-- Drawing a packet of a client and queueing it sends it to that client. -/
theorem mails_drawn (handed : List TargetOutput) (frame : Option Frame) (addr : SocketAddr)
    (state : AppState) :
    let task : Handler Unit := do
      let packet ← updateClientLogging handed addr fun client =>
        client.makeSendPacket packetType data
      sendMessage frame addr packet
    state.clients.find addr = none ∧ (task.run state).2 = state ∨
      ∃ next, task.run state = (.ok (), next) ∧ state.Mails packetType data [addr] next := by
  intro task
  cases found : state.clients.find addr with
  | none =>
      obtain ⟨report, failed⟩ := run_updateClient_missing found handed fun client =>
        client.makeSendPacket packetType data
      exact .inl ⟨rfl, congrArg Prod.snd (Task.run_bind_error failed)⟩
  | some client =>
      obtain ⟨session, here, known⟩ := state.clients.session_of_find found
      let drawn : AppState := { state with
        clients := state.clients.update session fun client =>
          (client.makeSendPacket packetType data).2
        handed := state.handed ++ handed }
      have updated : (updateClientLogging handed addr fun client =>
          client.makeSendPacket packetType data).run state =
            (.ok (client.makeSendPacket packetType data).1, drawn) := by
        rw [updateClientLogging, Task.run_bind, Task.run_inspect, here]
        simp only [Task.run_critical, known]
        rfl
      have changed : drawn.clients.find = Function.update state.clients.find addr
          (some (client.makeSendPacket packetType data).2) := by
        rw [state.clients.find_update here, found]
        rfl
      refine .inr ⟨_, Task.run_bind_ok updated, ⟨⟨_, rfl, by simp, ?_⟩, ?_, ?_, ?_⟩⟩
      · simpa using ⟨client, rfl⟩
      · exact deaf_profiles.draws state session packetType data
      · intro other outside
        exact (congrFun changed other).trans (Function.update_of_ne (by simpa using outside) _ _)
      · intro other member client' there
        obtain rfl := List.mem_singleton.mp member
        have known := (congrFun changed other).symm.trans there
        rw [Function.update_self] at known
        obtain rfl := Option.some.inj known
        exact ⟨_, rfl, client, rfl⟩

end Mails

/-! ## What is shown -/

/-- What a client shows of one thing, and how messages change it. -/
structure Display (View : Type) where
  types : List UInt8
  blank : View
  hear : UInt8 → Bytes → View → View
  deaf : ∀ packetType, packetType ∉ types → ∀ data view, hear packetType data view = view
  again : ∀ packetType data view,
    hear packetType data (hear packetType data view) = hear packetType data view

namespace Display

variable {View : Type} (display : Display View)

/-- Messages of these types are not heard. -/
def Ignores (types : List UInt8) : Prop := ∀ packetType ∈ types, packetType ∉ display.types

instance (types : List UInt8) : Decidable (display.Ignores types) :=
  List.decidableBAll (fun packetType => packetType ∉ display.types) types

/-- A datagram is heard by its newest message. -/
def receive (view : View) (message : Message) : View :=
  match message.newest with
  | some newest => display.hear newest.messageType newest.data view
  | none => view

/-- What an address shows, from what was queued for it. -/
def shown (state : AppState) (addr : SocketAddr) : View :=
  (state.tx.filter fun message => message.addr = addr).foldl display.receive display.blank

/-- To receive the last datagram of a client once more changes nothing which it shows. -/
def Steady (state : AppState) : Prop :=
  ∀ addr client, state.clients.find addr = some client → ∀ message : Message,
    client.packetGenerator.lastSent = some message.data →
      display.receive (display.shown state addr) message = display.shown state addr

/-- Nothing else is shown. -/
structure Silent (before after : AppState) : Prop where
  shown : display.shown after = display.shown before
  steady : display.Steady before → display.Steady after

/-- Nothing else is shown, of the same clients. -/
structure Unmoved (before after : AppState) : Prop extends display.Silent before after where
  profiles : after.profiles = before.profiles

/-- A message changes what some addresses show. -/
structure Heard (packetType : UInt8) (data : Bytes) (recipients : List SocketAddr)
    (before after : AppState) : Prop where
  shown : ∀ addr, display.shown after addr =
    if addr ∈ recipients then display.hear packetType data (display.shown before addr)
    else display.shown before addr
  profiles : after.profiles = before.profiles
  steady : display.Steady before → display.Steady after

variable {display} {before middle after : AppState} {packetType : UInt8} {data : Bytes}
  {recipients : List SocketAddr}

theorem shown_of_tx (tx : after.tx = before.tx) : display.shown after = display.shown before := by
  ext1 addr
  rw [shown, tx]
  rfl

theorem Silent.trans (first : display.Silent before middle) (second : display.Silent middle after) :
    display.Silent before after :=
  ⟨second.shown.trans first.shown, second.steady ∘ first.steady⟩

theorem Unmoved.refl (state : AppState) : display.Unmoved state state := ⟨⟨rfl, id⟩, rfl⟩

theorem Unmoved.trans (first : display.Unmoved before middle) (second : display.Unmoved middle after) :
    display.Unmoved before after :=
  ⟨first.toSilent.trans second.toSilent, second.profiles.trans first.profiles⟩

/-- What a message does which fits its length field. -/
theorem receive_fits {message : Message} (carries : Carries packetType data message.data)
    (fits : data.length ≤ maxPayload) (view : View) :
    display.receive view message = display.hear packetType data view := by
  obtain ⟨client, drawn⟩ := carries
  obtain ⟨seq, reads⟩ := newest_fits drawn fits
  rw [receive, reads]
  rfl

/-- A message of another type is not heard, however long it is. -/
theorem receive_other {message : Message} (carries : Carries packetType data message.data)
    (other : packetType ∉ display.types) (view : View) : display.receive view message = view := by
  obtain ⟨client, drawn⟩ := carries
  rw [receive]
  split
  next newest reads =>
    rw [newest_type drawn reads]
    exact display.deaf packetType other newest.data view
  next => rfl

/-- Messages which each have the same effect have it together, if there are any. -/
theorem foldl_same (display : Display View) (messages : List Message) {effect : View → View}
    (each : ∀ message ∈ messages, ∀ view, display.receive view message = effect view)
    (again : ∀ view, effect (effect view) = effect view) (view : View) :
    messages.foldl display.receive view = if messages = [] then view else effect view := by
  induction messages generalizing view with
  | nil => rfl
  | cons message rest ih =>
      obtain ⟨first, others⟩ := List.forall_mem_cons.mp each
      rw [List.foldl_cons, first, ih others, if_neg (List.cons_ne_nil _ _)]
      split
      · rfl
      · exact again view

/-- What is shown after a message was sent which changes what is shown in one way. -/
theorem shown_mails (effect : View → View) (mails : before.Mails packetType data recipients after)
    (each : ∀ message : Message, Carries packetType data message.data →
      ∀ view, display.receive view message = effect view)
    (again : ∀ view, effect (effect view) = effect view) (addr : SocketAddr) :
    display.shown after addr = if addr ∈ recipients then effect (display.shown before addr)
      else display.shown before addr := by
  obtain ⟨sent, queued, addresses, carries⟩ := mails.queued
  have here := foldl_same display (sent.filter fun message => message.addr = addr)
    (fun message member => each message (carries message (List.mem_of_mem_filter member))) again
  have some_sent : (sent.filter fun message => message.addr = addr) = [] ↔ addr ∉ recipients := by
    rw [← addresses, List.filter_eq_nil_iff, List.mem_map]
    simp only [decide_eq_true_eq, not_exists, not_and]
  rw [shown, queued, List.filter_append, List.foldl_append, here]
  simp only [some_sent, ite_not]
  rfl

theorem steady_mails (effect : View → View) (mails : before.Mails packetType data recipients after)
    (each : ∀ message : Message, Carries packetType data message.data →
      ∀ view, display.receive view message = effect view)
    (again : ∀ view, effect (effect view) = effect view) (steady : display.Steady before) :
    display.Steady after := by
  intro addr client known message last
  have shown := shown_mails effect mails each again addr
  by_cases recipient : addr ∈ recipients
  · obtain ⟨packet, sent, carries⟩ := mails.last addr recipient client known
    obtain rfl := Option.some.inj (sent.symm.trans last)
    rw [if_pos recipient] at shown
    rw [shown, each message carries, again]
  · rw [if_neg recipient] at shown
    rw [shown]
    exact steady addr client ((mails.others addr recipient).symm.trans known) message last

/-- A message which fits is heard by those to whom it is sent. -/
theorem heard_of_mails (mails : before.Mails packetType data recipients after)
    (fits : data.length ≤ maxPayload) : display.Heard packetType data recipients before after where
  shown := shown_mails _ mails (fun _ carries => receive_fits carries fits) (display.again _ _)
  profiles := mails.profiles
  steady := steady_mails _ mails (fun _ carries => receive_fits carries fits) (display.again _ _)

/-- A message of another type is heard by nobody. -/
theorem unmoved_of_mails (mails : before.Mails packetType data recipients after)
    (other : packetType ∉ display.types) : display.Unmoved before after where
  shown := by
    ext1 addr
    have shown := shown_mails id mails (fun _ carries => receive_other carries other) (fun _ => rfl)
      addr
    rwa [id, ite_self] at shown
  profiles := mails.profiles
  steady := steady_mails id mails (fun _ carries => receive_other carries other) fun _ => rfl

/-- A datagram which changes nothing where it is received changes nothing. -/
theorem unmoved_of_queued {state : AppState} {addr : SocketAddr} {packet : Bytes}
    (still : ∀ message : Message, message.data = packet →
      display.receive (display.shown state addr) message = display.shown state addr) :
    display.Unmoved state ((sendMessage none addr packet).run state).2 := by
  have shown : display.shown ((sendMessage none addr packet).run state).2 = display.shown state := by
    ext1 other
    change (List.filter _ (state.tx ++ [_])).foldl _ _ = _
    rw [List.filter_append, List.foldl_append]
    by_cases same : other = addr
    · subst same
      rw [List.filter_cons_of_pos (by simp), List.filter_nil, List.foldl_cons, List.foldl_nil]
      exact still _ rfl
    · rw [List.filter_cons_of_neg (by simpa using Ne.symm same), List.filter_nil, List.foldl_nil]
      rfl
  refine ⟨⟨shown, fun steady other known here => ?_⟩, rfl⟩
  rw [shown]
  exact steady other known here

/-- To send the last datagram of a client once more changes nothing. -/
theorem unmoved_of_resend {state : AppState} (steady : display.Steady state) {addr : SocketAddr}
    {client : ClientInfo} (found : state.clients.find addr = some client) {packet : Bytes}
    (last : client.packetGenerator.lastSent = some packet) :
    display.Unmoved state ((sendMessage none addr packet).run state).2 :=
  unmoved_of_queued fun message same => steady addr client found message (same ▸ last)

/-- A datagram which was made for a message of another type changes nothing. -/
theorem unmoved_of_stray {packet : Bytes} (carries : Carries packetType data packet)
    (other : packetType ∉ display.types) (state : AppState) (addr : SocketAddr) :
    display.Unmoved state ((sendMessage none addr packet).run state).2 :=
  unmoved_of_queued fun _ same => receive_other (same ▸ carries) other _

end Display

end Direlera.Lobby
