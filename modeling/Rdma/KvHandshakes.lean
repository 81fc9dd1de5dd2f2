import Rdma.KvFailures

/-!
The key-value server and its clients in their handshakes (`AcceptConnections`,
`KVClient::Connect`), one answer of a system call at a time and in any order, over
the two byte streams of each TCP connection. Each client has been told no more
than the server offered it, and each connection that is established is programmed
with what its client tells (`Sound`); the ids of the established connections are
those of the manager's connections (`Owned`).
-/
namespace Rdma.KvHandshakes
open Rdma.Types Rdma.ConnectionManagers
open Rdma.Handshakes (Host RdmaDevice)
open Rdma.HandshakeChannels Rdma.HandshakeMessages Rdma.KvAcceptances
open Rdma.KvStores
open Rdma.KvFailures (Node Running Establishes)

/-! ### One system call -/

/-- An answer to a `write` of `Send`: what is written then, and the status if `Send` returns. -/
def sendOne (msg : HandshakeMessage) (written : List UInt8) (answer : Answer) : List UInt8 × Option Status :=
  let progress := sendLoop msg.bytes written.length written [answer]
  (progress.stream, progress.status)

/-- An answer to a `read` of `Receive`: what is received then of what was written, and the status if `Receive`
    returns. -/
def receiveOne (received written : List UInt8) (answer : Answer) : List UInt8 × Option Status :=
  let progress := receiveLoop received (written.drop received.length) [answer]
  (progress.moved, progress.status)

section Calls
variable {msg : HandshakeMessage} {written received : List UInt8}

theorem sendOne_front (front : written <+: msg.bytes) (answer : Answer) :
    (sendOne msg written answer).1 <+: msg.bytes ∧ written <+: (sendOne msg written answer).1 ∧
    ∀ status, (sendOne msg written answer).2 = some status →
      (status.ok = true ↔ (sendOne msg written answer).1 = msg.bytes) := by
  have sends := sendLoop_sends msg.bytes [] [answer] written.length
  rw [List.nil_append, ← List.prefix_iff_eq_take.mp front] at sends
  have moved : (sendOne msg written answer).1 = (sendLoop msg.bytes written.length written [answer]).moved :=
    sends.stream.trans (List.nil_append _)
  rw [moved]
  obtain ⟨consumed, -, length, -⟩ := sends.consumed
  refine ⟨sends.moved, List.prefix_of_prefix_length_le front sends.moved ?_, sends.ok⟩
  rw [length]
  exact Nat.le_min.mpr ⟨front.length_le, Nat.le_add_right ..⟩

theorem receiveOne_front (front : received <+: written) (inside : received.length ≤ handshakeMessageSize)
    (answer : Answer) :
    (receiveOne received written answer).1 <+: written ∧
    (receiveOne received written answer).1.length ≤ handshakeMessageSize ∧
    ∀ status, (receiveOne received written answer).2 = some status →
      (status.ok = true ↔ (receiveOne received written answer).1.length = handshakeMessageSize) := by
  have receives := receiveLoop_receives received (written.drop received.length) [answer] inside
  have whole : received ++ written.drop received.length = written := by
    obtain ⟨rest, rfl⟩ := front
    rw [List.drop_left]
  rw [whole] at receives
  exact ⟨⟨_, receives.stream⟩, receives.moved, receives.ok⟩

/-- `Send` can write the rest at once. -/
theorem sendOne_completes (front : written <+: msg.bytes) :
    ∃ answer, sendOne msg written answer = (msg.bytes, some Status.OK) := by
  have front' := List.prefix_iff_eq_take.mp front
  by_cases more : written.length < msg.bytes.length
  · refine ⟨.count (msg.bytes.length - written.length), ?_⟩
    have rest : written ++ (msg.bytes.drop written.length).take (msg.bytes.length - written.length) = msg.bytes := by
      rw [← List.length_drop, List.take_length]
      obtain ⟨rest, same⟩ := front
      rw [← same, List.drop_left]
    rw [sendOne, sendLoop, if_pos more, if_pos (Nat.le_refl _), rest, Nat.add_sub_cancel' (Nat.le_of_lt more),
      sendLoop_done (Nat.le_refl _)]
  · refine ⟨.count 0, ?_⟩
    rw [sendOne, sendLoop_done (Nat.le_of_not_lt more)]
    exact congrArg (·, _) (front.eq_of_length_le (Nat.le_of_not_lt more))

/-- `Receive` can read the rest at once, when a whole message was written. -/
theorem receiveOne_completes (front : received <+: msg.bytes) :
    ∃ answer, receiveOne received msg.bytes answer = (msg.bytes, some Status.OK) := by
  have size := msg.size
  by_cases more : received.length < handshakeMessageSize
  · refine ⟨.count (handshakeMessageSize - received.length), ?_⟩
    obtain ⟨rest, same⟩ := front
    have length : rest.length = handshakeMessageSize - received.length := by
      rw [← size, ← same, List.length_append]
      omega
    have some_ : ¬ handshakeMessageSize - received.length = 0 := by omega
    rw [receiveOne, receiveLoop, if_pos more, if_neg some_, ← same, List.drop_left, if_pos ⟨Nat.le_refl _, length.ge⟩,
      ← length, List.take_length, same, receiveLoop_done size.ge]
  · refine ⟨.count 0, ?_⟩
    have all := front.eq_of_length_le (size.le.trans (Nat.le_of_not_lt more))
    rw [receiveOne, receiveLoop_done (Nat.le_of_not_lt more)]
    exact congrArg (·, _) all

end Calls

/-! ### Clients -/

/-- Where a client is in `Connect`, with what it has received. -/
inductive Phase
  | receiving (received : List UInt8)
  | sending (remote : Greeting)
  | connecting (remote : Greeting)
  | connected (remote : Greeting)
  | failed

/-- A client: its connection, the message that it sends, all that it and the server have written, and whether the
    server has yet to accept it. Beside it, the connection that the server has created for it, and that connection
    while it is established. -/
structure Session where
  client : Host
  greeting : Greeting
  phase : Phase
  toServer : List UInt8 := []
  toClient : List UInt8 := []
  pending : Bool := true
  offered : Option Offered := none
  established : Option Host := none

/-- `KVClient::Connect` up to `GetLocalParams`. The id of the client's own connection stays 0. -/
def Session.arrive (attempt : Attempt) : Session :=
  let client := attempt.host (attempt.fresh 0)
  match attempt.created, client.getLocalParams with
  | .ok _, .ok qpParams => { client, greeting := { qpParams, version := 1 }, phase := .receiving [] }
  | _, _ => { client, greeting := {}, phase := .failed }

/-- A client's calls; it can also end at any time. -/
inductive ClientEvent
  | read (answer : Answer)
  | write (answer : Answer)
  | connect
  | leave

def Session.step (session : Session) : ClientEvent → Option Session
  | .read answer =>
    match session.phase with
    | .receiving received =>
      let (received, status) := receiveOne received session.toClient answer
      match status with
      | none => some { session with phase := .receiving received }
      | some status =>
        some { session with phase := if !status.ok then .failed else .sending (Greeting.read received) }
    | _ => none
  | .write answer =>
    match session.phase with
    | .sending remote =>
      let (toServer, status) := sendOne session.greeting.message session.toServer answer
      match status with
      | none => some { session with toServer }
      | some status => some { session with toServer, phase := if !status.ok then .failed else .connecting remote }
    | _ => none
  | .connect =>
    match session.phase with
    | .connecting remote =>
      let (status, client) := session.client.connect remote.qpParams
      some { session with client, phase := if !status.ok then .failed else .connected remote }
    | _ => none
  | .leave => some { session with phase := .failed }

/-! ### The server with its clients -/

/-- Where the server is: in its loop, or in a call of `AcceptConnections` on the channel of a client. -/
inductive Place
  | loop
  | sending (index : Nat) (offered : Offered)
  | receiving (index : Nat) (offered : Offered) (received : List UInt8)

structure World where
  node : Node
  place : Place
  sessions : List Session

/-- `write` and `read` are answers to the server's calls. -/
inductive Event
  | arrive (attempt : Attempt)
  | client (index : Nat) (event : ClientEvent)
  | accept (index : Nat) (attempt : Attempt)
  | write (answer : Answer)
  | read (answer : Answer)
  | request (connId : UInt16) (data : Nat → UInt8) (byteLen : UInt32)
  | sent (index : Nat)
  | failed (connId : UInt16)

def World.setSession (world : World) (index : Nat) (session : Session) : World :=
  { world with sessions := world.sessions.set index session }

/-- The server is in its loop again. -/
def World.leaveAccept (world : World) (manager : ConnectionManager) : World :=
  { world with node := { world.node with manager }, place := .loop }

def World.accept (world : World) (index : Nat) (attempt : Attempt) : Option World :=
  match world.place with
  | .loop => do
    let session ← world.sessions[index]?
    if !session.pending then none
    let (manager, offered) ← offer world.node.manager attempt
    match offered with
    | none => some ((world.setSession index { session with pending := false }).leaveAccept manager)
    | some offered =>
      some { world.setSession index { session with pending := false, offered := some offered } with
        node := { world.node with manager }, place := .sending index offered }
  | _ => none

def World.write (world : World) (answer : Answer) : Option World :=
  match world.place with
  | .sending index offered => do
    let session ← world.sessions[index]?
    let (toClient, status) := sendOne offered.greeting.message session.toClient answer
    let world := world.setSession index { session with toClient }
    match status with
    | none => some world
    | some status =>
      if !status.ok then some (world.leaveAccept (world.node.manager.removeConnection offered.connId))
      else some { world with place := .receiving index offered [] }
  | _ => none

def World.read (world : World) (answer : Answer) : Option World :=
  match world.place with
  | .receiving index offered received => do
    let session ← world.sessions[index]?
    let (received, status) := receiveOne received session.toServer answer
    match status with
    | none => some { world with place := .receiving index offered received }
    | some status =>
      match conclude world.node.manager offered (if !status.ok then none else some (Greeting.read received)) with
      | (manager, none) => some (world.leaveAccept manager)
      | (manager, some host) =>
        some { world.setSession index { session with established := some host } with
          node := ⟨manager, world.node.sys.accept { conn := host.link.connection }⟩, place := .loop }
  | _ => none

/-- The server's loop polls the completions. -/
def World.poll (world : World) (event : KvFailures.Event) : Option World :=
  match world.place with
  | .loop => (KvFailures.step world.node event).map fun (node, _) => { world with node }
  | _ => none

/-- The connection is not the client's any more. -/
def Session.lose (connId : UInt16) (session : Session) : Session :=
  { session with established := session.established.filter (·.link.connection.connId ≠ connId) }

def World.step (world : World) : Event → Option World
  | .arrive attempt => some { world with sessions := world.sessions ++ [.arrive attempt] }
  | .client index event => do
    let session ← world.sessions[index]?
    let session ← session.step event
    some (world.setSession index session)
  | .accept index attempt => world.accept index attempt
  | .write answer => world.write answer
  | .read answer => world.read answer
  | .request connId data byteLen => world.poll (.request connId data byteLen)
  | .sent index => world.poll (.sent index)
  | .failed connId =>
    (world.poll (.failed connId)).map fun world => { world with sessions := world.sessions.map (.lose connId) }

def step (world : World) (event : Event) : Option (World × List Unit) := (world.step event).map (·, [])

def World.new (store : KVStore) (all : List Buffer) : World := ⟨.new store all, .loop, []⟩

/-! ### What holds of a session -/

/-- The queue pair has not been used. -/
def Unused (host : Host) : Prop :=
  host.link.connection.state = .disconnected ∧ host.link.ibv.attr.qpState.allows .init = true

/-- The queue pair is programmed with what the peer has told of itself. -/
def Linked (near far : Host) : Prop := ∃ params, far.getLocalParams = .ok params ∧ Programmed near params

/-- A connection that was created for a client, with what the client is to know of it. -/
structure Genuine (offered : Offered) : Prop where
  unused : Unused offered.host
  params : offered.host.getLocalParams = .ok offered.greeting.qpParams
  named : offered.host.link.connection.connId = offered.connId
  told : offered.greeting.connId = offered.connId

/-- All of the message has been written to the client. -/
def Told (session : Session) (remote : Greeting) : Prop :=
  ∃ offered, session.offered = some offered ∧ offered.greeting = remote ∧ session.toClient = remote.message.bytes

def PhaseSound (session : Session) : Phase → Prop
  | .receiving received =>
    Unused session.client ∧ received <+: session.toClient ∧ received.length ≤ handshakeMessageSize
  | .sending remote => Unused session.client ∧ Told session remote
  | .connecting remote =>
    Unused session.client ∧ Told session remote ∧ session.toServer = session.greeting.message.bytes
  | .connected remote =>
    Programmed session.client remote.qpParams ∧ Told session remote ∧
      session.toServer = session.greeting.message.bytes
  | .failed => True

structure Sound (session : Session) : Prop where
  own : session.client.getLocalParams = .ok session.greeting.qpParams ∨ session.phase = .failed ∧ session.toServer = []
  told : session.toServer ≠ [] → ∃ remote, Told session remote
  written : session.toServer <+: session.greeting.message.bytes
  phase : PhaseSound session session.phase
  unoffered : session.offered = none → session.toClient = []
  offers : ∀ offered, session.offered = some offered →
    Genuine offered ∧ session.toClient <+: offered.greeting.message.bytes
  waits : session.pending = true → session.offered = none
  established : ∀ host, session.established = some host → ∃ offered, session.offered = some offered ∧
    session.toServer = session.greeting.message.bytes ∧ Programmed host session.greeting.qpParams ∧
    host.getLocalParams = .ok offered.greeting.qpParams ∧ host.link.connection.connId = offered.connId

/-- What a client leaves alone, and what it has written. -/
structure Leaves (session next : Session) : Prop where
  greeting : next.greeting = session.greeting
  toClient : next.toClient = session.toClient
  pending : next.pending = session.pending
  offered : next.offered = session.offered
  established : next.established = session.established
  toServer : session.toServer <+: next.toServer

section Sessions
variable {session next : Session}

/-- Nothing has been written and nothing offered. -/
theorem new_sound {client : Host} {greeting : Greeting} {phase : Phase}
    (own : client.getLocalParams = .ok greeting.qpParams ∨ phase = .failed)
    (start : phase = .failed ∨ phase = .receiving [] ∧ Unused client) : Sound { client, greeting, phase } where
  own := own.imp_right fun failed => ⟨failed, rfl⟩
  told := absurd rfl
  written := List.nil_prefix
  phase := by
    rcases start with rfl | ⟨rfl, unused⟩
    · trivial
    · exact ⟨unused, List.nil_prefix, Nat.zero_le _⟩
  unoffered _ := rfl
  offers _ found := by cases found
  waits _ := rfl
  established _ known := by cases known

theorem arrive_sound (attempt : Attempt) : Sound (.arrive attempt) := by
  unfold Session.arrive
  dsimp only
  split
  · rename_i qpParams created params
    exact new_sound (.inl params) (.inr ⟨rfl, rfl, rfl⟩)
  · exact new_sound (.inr rfl) (.inl rfl)

/-- The client's own fields change. -/
theorem Sound.changed (sound : Sound session) (leaves : Leaves session next)
    (own : next.client.getLocalParams = .ok next.greeting.qpParams ∨ next.phase = .failed ∧ next.toServer = [])
    (told : next.toServer ≠ [] → ∃ remote, Told next remote) (written : next.toServer <+: next.greeting.message.bytes)
    (phase : PhaseSound next next.phase) : Sound next := by
  refine ⟨own, told, written, phase, ?_, ?_, ?_, fun host known => ?_⟩
  · rw [leaves.offered, leaves.toClient]
    exact sound.unoffered
  · rw [leaves.offered, leaves.toClient]
    exact sound.offers
  · rw [leaves.offered, leaves.pending]
    exact sound.waits
  · rw [leaves.established] at known
    obtain ⟨offered, found, whole, rest⟩ := sound.established host known
    rw [leaves.offered, leaves.greeting]
    have all : next.toServer = session.greeting.message.bytes :=
      (leaves.greeting ▸ written).eq_of_length_le (whole ▸ leaves.toServer.length_le)
    exact ⟨offered, found, all, rest⟩

/-- A whole message that was received is the one that was written. -/
theorem Sound.received (sound : Sound session) {received : List UInt8} (front : received <+: session.toClient)
    (whole : received.length = handshakeMessageSize) : Told session (Greeting.read received) := by
  cases found : session.offered with
  | none =>
    rw [sound.unoffered found, List.prefix_nil] at front
    subst front
    cases whole
  | some offered =>
    have written := (sound.offers offered found).2
    have size := offered.greeting.message.size
    have same := (front.trans written).eq_of_length (whole.trans size.symm)
    have all := written.eq_of_length_le (by rw [← same]; exact front.length_le)
    refine ⟨offered, found, ?_, ?_⟩
    · rw [same, read_message]
    · rw [all, same, read_message]

theorem Leaves.same (greeting : next.greeting = session.greeting) (toClient : next.toClient = session.toClient)
    (toServer : next.toServer = session.toServer) (pending : next.pending = session.pending)
    (offered : next.offered = session.offered) (established : next.established = session.established) :
    Leaves session next :=
  ⟨greeting, toClient, pending, offered, established, toServer ▸ List.prefix_rfl⟩

/-- A step of the client. -/
theorem Session.step_sound (sound : Sound session) {event : ClientEvent} (taken : session.step event = some next) :
    Sound next ∧ Leaves session next := by
  cases event with
  | leave =>
    obtain rfl := Option.some.inj taken
    have leaves : Leaves session { session with phase := .failed } := .same rfl rfl rfl rfl rfl rfl
    exact ⟨sound.changed leaves (sound.own.imp_right fun failed => ⟨rfl, failed.2⟩) sound.told sound.written trivial,
      leaves⟩
  | read answer =>
    rw [Session.step] at taken
    split at taken
    · rename_i received phase
      obtain ⟨unused, front, inside⟩ := phase ▸ sound.phase
      obtain ⟨front, inside, whole⟩ := receiveOne_front front inside answer
      generalize receiveOne received session.toClient answer = result at taken front inside whole
      obtain ⟨received, status⟩ := result
      have own := sound.own.resolve_right fun failed => by simp [phase] at failed
      cases status with
      | none =>
        obtain rfl := Option.some.inj taken
        have leaves : Leaves session { session with phase := .receiving received } := .same rfl rfl rfl rfl rfl rfl
        exact ⟨sound.changed leaves (.inl own) sound.told sound.written ⟨unused, front, inside⟩, leaves⟩
      | some status =>
        obtain rfl := Option.some.inj taken
        let phase := if !status.ok then .failed else Phase.sending (Greeting.read received)
        have leaves : Leaves session { session with phase } := .same rfl rfl rfl rfl rfl rfl
        refine ⟨sound.changed leaves (.inl own) sound.told sound.written ?_, leaves⟩
        dsimp only [phase]
        cases ok : status.ok with
        | false => trivial
        | true => exact ⟨unused, sound.received front ((whole status rfl).mp ok)⟩
    · cases taken
  | write answer =>
    rw [Session.step] at taken
    split at taken
    · rename_i remote phase
      obtain ⟨unused, told⟩ := phase ▸ sound.phase
      obtain ⟨front, grows, whole⟩ := sendOne_front sound.written answer
      generalize sendOne session.greeting.message session.toServer answer = result at taken front grows whole
      obtain ⟨toServer, status⟩ := result
      have own := sound.own.resolve_right fun failed => by simp [phase] at failed
      cases status with
      | none =>
        obtain rfl := Option.some.inj taken
        have leaves : Leaves session { session with toServer } := ⟨rfl, rfl, rfl, rfl, rfl, grows⟩
        refine ⟨sound.changed leaves (.inl own) (fun _ => ⟨remote, told⟩) front ?_, leaves⟩
        dsimp only
        rw [phase]
        exact ⟨unused, told⟩
      | some status =>
        obtain rfl := Option.some.inj taken
        let phase := if !status.ok then .failed else Phase.connecting remote
        have leaves : Leaves session { session with toServer, phase } := ⟨rfl, rfl, rfl, rfl, rfl, grows⟩
        refine ⟨sound.changed leaves (.inl own) (fun _ => ⟨remote, told⟩) front ?_, leaves⟩
        dsimp only [phase]
        cases ok : status.ok with
        | false => trivial
        | true => exact ⟨unused, told, (whole status rfl).mp ok⟩
    · cases taken
  | connect =>
    rw [Session.step] at taken
    split at taken
    · rename_i remote phase
      obtain ⟨-, told, whole⟩ := phase ▸ sound.phase
      have own := sound.own.resolve_right fun failed => by simp [phase] at failed
      have programs := @connect_programmed session.client remote.qpParams
      have params := connect_params session.client remote.qpParams
      generalize session.client.connect remote.qpParams = result at taken programs params
      obtain ⟨status, client⟩ := result
      obtain rfl := Option.some.inj taken
      let phase := if !status.ok then .failed else Phase.connected remote
      have leaves : Leaves session { session with client, phase } := .same rfl rfl rfl rfl rfl rfl
      refine ⟨sound.changed leaves (.inl (params.trans own)) sound.told sound.written ?_, leaves⟩
      dsimp only [phase]
      cases ok : status.ok with
      | false => trivial
      | true => exact ⟨(programs ok).1, told, whole⟩
    · cases taken

/-! What the server does to a session. -/

theorem untold (unoffered : session.offered = none) (remote : Greeting) : ¬Told session remote := by
  rintro ⟨offered, found, -⟩
  rw [unoffered] at found
  cases found

/-- The server accepts the client. -/
theorem Sound.accepted (sound : Sound session) (pending : session.pending = true) (offered : Option Offered)
    (genuine : ∀ one, offered = some one → Genuine one) : Sound { session with pending := false, offered } := by
  have unoffered := sound.waits pending
  have empty := sound.unoffered unoffered
  have silent : session.toServer = [] := by
    by_contra some_
    obtain ⟨remote, told⟩ := sound.told some_
    exact untold unoffered remote told
  refine ⟨sound.own, fun some_ => absurd silent some_, sound.written, ?_, fun _ => empty,
    fun one found => ⟨genuine one found, ?_⟩, nofun, fun host known => ?_⟩
  · have phase := sound.phase
    dsimp only
    cases place : session.phase with
    | receiving received =>
      rw [place] at phase
      exact phase
    | sending remote => exact absurd (place ▸ phase).2 (untold unoffered remote)
    | connecting remote => exact absurd (place ▸ phase).2.1 (untold unoffered remote)
    | connected remote => exact absurd (place ▸ phase).2.1 (untold unoffered remote)
    | failed => trivial
  · dsimp only
    rw [empty]
    exact List.nil_prefix
  · obtain ⟨other, found, -⟩ := sound.established host known
    rw [unoffered] at found
    cases found

/-- The server writes more to the client. -/
theorem Sound.toldMore (sound : Sound session) {offered : Offered} (found : session.offered = some offered)
    {toClient : List UInt8} (front : toClient <+: offered.greeting.message.bytes)
    (grows : session.toClient <+: toClient) :    Sound { session with toClient } := by
  have still : ∀ remote, Told session remote → Told { session with toClient } remote := by
    rintro remote ⟨other, found', rfl, whole⟩
    obtain rfl := Option.some.inj (found.symm.trans found')
    exact ⟨_, found, rfl, front.eq_of_length_le (whole ▸ grows.length_le)⟩
  refine ⟨sound.own, fun some_ => (sound.told some_).imp still, sound.written, ?_, ?_, ?_, sound.waits,
    sound.established⟩
  · have phase := sound.phase
    dsimp only
    cases place : session.phase with
    | receiving received =>
      obtain ⟨unused, received_, inside⟩ := place ▸ phase
      exact ⟨unused, received_.trans grows, inside⟩
    | sending remote =>
      obtain ⟨unused, told⟩ := place ▸ phase
      exact ⟨unused, still remote told⟩
    | connecting remote =>
      obtain ⟨unused, told, whole⟩ := place ▸ phase
      exact ⟨unused, still remote told, whole⟩
    | connected remote =>
      obtain ⟨programmed, told, whole⟩ := place ▸ phase
      exact ⟨programmed, still remote told, whole⟩
    | failed => trivial
  · intro none_
    rw [found] at none_
    cases none_
  · intro other found'
    obtain rfl := Option.some.inj (found.symm.trans found')
    exact ⟨(sound.offers _ found).1, front⟩

/-- The server has the client's message, and its queue pair is connected. -/
theorem Sound.establish (sound : Sound session) {offered : Offered} (found : session.offered = some offered)
    {received : List UInt8} (front : received <+: session.toServer) (whole : received.length = handshakeMessageSize)
    (ok : (offered.host.connect (Greeting.read received).qpParams).1.ok = true) :
    Greeting.read received = session.greeting ∧
      Sound { session with established := some (offered.host.connect (Greeting.read received).qpParams).2 } := by
  have size := session.greeting.message.size
  have same := (front.trans sound.written).eq_of_length (whole.trans size.symm)
  have all := sound.written.eq_of_length_le (by rw [← same]; exact front.length_le)
  have read : Greeting.read received = session.greeting := by rw [same, read_message]
  have genuine := (sound.offers offered found).1
  obtain ⟨programmed, conn⟩ := connect_programmed ok
  refine ⟨read, sound.own, sound.told, sound.written, sound.phase, sound.unoffered, sound.offers, sound.waits, ?_⟩
  intro host known
  obtain rfl := Option.some.inj known
  refine ⟨offered, found, all, ?_, (connect_params _ _).trans genuine.params, ?_⟩
  · rw [← read]
    exact programmed
  · rw [conn]
    exact genuine.named

theorem Sound.lose (sound : Sound session) (connId : UInt16) : Sound (session.lose connId) := by
  refine ⟨sound.own, sound.told, sound.written, sound.phase, sound.unoffered, sound.offers, sound.waits, ?_⟩
  exact fun host known => sound.established host (Option.filter_eq_some_iff.mp known).1

end Sessions

/-! ### The ids -/

/-- The id of the client's connection, while it is established. -/
def Session.id (session : Session) : Option UInt16 := session.established.map (·.link.connection.connId)

def idAt (sessions : List Session) (index : Nat) : Option UInt16 := sessions[index]?.bind Session.id

/-- The manager's connections are those of the clients, each of one client. -/
structure Owned (ids : Nat → Option UInt16) (manager : ConnectionManager) : Prop where
  live : ∀ connId, manager.getConnection connId ≠ none ↔ ∃ index, ids index = some connId
  once : ∀ i j connId, ids i = some connId → ids j = some connId → i = j

section Ids
variable {sessions : List Session} {session next : Session} {index : Nat} {ids : Nat → Option UInt16}
  {before after : ConnectionManager} {connId : UInt16}

theorem idAt_set (found : sessions[index]? = some session) (next : Session) :
    idAt (sessions.set index next) = Function.update (idAt sessions) index next.id := by
  obtain ⟨inside, -⟩ := List.getElem?_eq_some_iff.mp found
  funext other
  unfold idAt
  by_cases mine : other = index
  · subst mine
    rw [List.getElem?_set_self inside, Function.update_self]
    rfl
  · rw [List.getElem?_set_ne (Ne.symm mine), Function.update_of_ne mine]

theorem idAt_same (found : sessions[index]? = some session) (same : next.established = session.established) :
    idAt (sessions.set index next) = idAt sessions := by
  rw [idAt_set found, Function.update_eq_self_iff, idAt, found, Session.id, same]
  rfl

theorem idAt_arrive (sessions : List Session) (attempt : Attempt) :
    idAt (sessions ++ [.arrive attempt]) = idAt sessions := by
  have none_ : (Session.arrive attempt).id = none := by
    unfold Session.arrive
    dsimp only
    split
    · rfl
    · rfl
  funext other
  unfold idAt
  rcases Nat.lt_trichotomy other sessions.length with inside | same | beyond
  · rw [List.getElem?_append_left inside]
  · rw [same, List.getElem?_concat_length, List.getElem?_eq_none (Nat.le_refl _)]
    exact none_
  · rw [List.getElem?_eq_none (Nat.le_of_lt beyond), List.getElem?_eq_none]
    rw [List.length_append, List.length_singleton]
    exact beyond

theorem idAt_lose (sessions : List Session) (connId : UInt16) :
    idAt (sessions.map (.lose connId)) = fun index => (idAt sessions index).filter (· ≠ connId) := by
  funext index
  unfold idAt
  rw [List.getElem?_map]
  cases sessions[index]? with
  | none => rfl
  | some session =>
    change (session.lose connId).id = session.id.filter _
    unfold Session.id Session.lose
    cases session.established with
    | none => rfl
    | some host =>
      dsimp only [Option.map_some]
      by_cases mine : host.link.connection.connId = connId
      · simp [Option.filter_some, mine]
      · simp [Option.filter_some, mine]

theorem Owned.same (owned : Owned ids before) (same : SameIds before after) : Owned ids after :=
  ⟨fun connId => (not_congr (same.2.2 connId)).trans (owned.live connId), owned.once⟩

theorem Owned.set (owned : Owned (idAt sessions) before) (found : sessions[index]? = some session)
    (same : next.established = session.established) : Owned (idAt (sessions.set index next)) before := by
  rw [idAt_same found same]
  exact owned

theorem Owned.added (owned : Owned ids before) (adds : AddsId connId before after) (free : ids index = none) :
    Owned (Function.update ids index (some connId)) after := by
  obtain ⟨-, -, fresh, added⟩ := adds
  have unused : ∀ other, ids other ≠ some connId :=
    fun other mine => (owned.live connId).mpr ⟨other, mine⟩ fresh
  have elsewhere : ∀ {other id}, other ≠ index → Function.update ids index (some connId) other = some id →
      ids other = some id := by
    intro other id apart found
    rwa [Function.update_of_ne apart] at found
  constructor
  · intro other
    rw [ne_eq, added, not_and_or, not_not]
    constructor
    · rintro (rfl | live)
      · exact ⟨index, Function.update_self ..⟩
      · obtain ⟨place, found⟩ := (owned.live other).mp live
        have apart : place ≠ index := by
          rintro rfl
          rw [free] at found
          cases found
        exact ⟨place, by rw [Function.update_of_ne apart]; exact found⟩
    · rintro ⟨place, found⟩
      by_cases mine : place = index
      · rw [mine, Function.update_self] at found
        exact .inl (Option.some.inj found).symm
      · exact .inr ((owned.live other).mpr ⟨place, elsewhere mine found⟩)
  · intro i j id first second
    by_cases here : i = index
    · by_cases there : j = index
      · rw [here, there]
      · rw [here, Function.update_self] at first
        exact absurd ((elsewhere there second).trans first.symm) (unused j)
    · by_cases there : j = index
      · rw [there, Function.update_self] at second
        exact absurd ((elsewhere here first).trans second.symm) (unused i)
      · exact owned.once i j id (elsewhere here first) (elsewhere there second)

theorem Owned.dropped (owned : Owned ids before) (drops : DropsId connId before after) :
    Owned (fun index => (ids index).filter (· ≠ connId)) after := by
  obtain ⟨-, -, dropped⟩ := drops
  constructor
  · intro other
    rw [ne_eq, dropped, not_or, ← ne_eq (before.getConnection other), owned.live]
    simp only [Option.filter_eq_some_iff, decide_eq_true_eq]
    exact ⟨fun ⟨apart, index, found⟩ => ⟨index, found, apart⟩, fun ⟨index, found, apart⟩ => ⟨apart, index, found⟩⟩
  · exact fun i j id first second =>
      owned.once i j id (Option.filter_eq_some_iff.mp first).1 (Option.filter_eq_some_iff.mp second).1

end Ids

end Rdma.KvHandshakes
