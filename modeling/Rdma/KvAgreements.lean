import Rdma.KvHandshakes

/-!
Runs of the key-value server and its clients. Where the server has established a
connection, its queue pair is programmed with what the client's `GetLocalParams`
returned and, once the client is connected, the other way round
(`handshakes_agree`). The two never wait for each other (`handshake_completes`),
but while the server waits for a client it does nothing else
(`silent_client_blocks`). To the rest of the server a handshake is one step
(`handshakes_refine`).
-/
namespace Rdma.KvAgreements
open Rdma.Types Rdma.Runs Rdma.Connections Rdma.ConnectionManagers
open Rdma.ConnectionIds (Kept create_kept)
open Rdma.Handshakes (Host)
open Rdma.HandshakeChannels Rdma.HandshakeMessages Rdma.KvAcceptances Rdma.KvHandshakes
open Rdma.KvProtocols hiding Status
open Rdma.KvStores Rdma.Observations Rdma.KvServices
open Rdma.KvBuffers hiding step Event
open Rdma.KvFailures (Node Serving)

/-! ### What a step does -/

/-- What is seen of the requests. -/
def replies (world : World) (event : Event) (next : World) : List Reply :=
  match event with
  | .request connId data byteLen => KvServices.replies world.node.sys (.request connId data byteLen) next.node.sys
  | _ => []

/-- The server is in `AcceptConnections` for a client, and was as in `before` when it entered. -/
structure Accepting (node : Node) (sessions : List Session) (before : Node) (index : Nat) (offered : Offered)
    (session : Session) : Prop where
  sys : before.sys = node.sys
  offers : ∃ attempt, offer before.manager attempt = some (node.manager, some offered)
  found : sessions[index]? = some session
  offered : session.offered = some offered
  established : session.established = none

def Placed (node : Node) (sessions : List Session) (before : Node) : Place → Prop
  | .loop => before = node
  | .sending index offered => ∃ session, Accepting node sessions before index offered session
  | .receiving index offered received => ∃ session, Accepting node sessions before index offered session ∧
      session.toClient = offered.greeting.message.bytes ∧ received <+: session.toServer ∧
      received.length ≤ handshakeMessageSize

/-- What holds of the server and its clients between two steps; `before` is the server as it is in its loop. -/
structure Inv (all : List Buffer) (world : World) (before : Node) : Prop where
  running : Serving all before
  placed : Placed world.node world.sessions before world.place
  sound : ∀ session ∈ world.sessions, Sound session
  owned : Owned (idAt world.sessions) before.manager

/-- The step is matched by steps of the server with whole handshakes. -/
def Matched (all : List Buffer) (before : Node) (seen : List Reply) (next : World) : Prop :=
  ∃ requests final, run (observe KvFailures.step KvFailures.replies) before requests = some (final, seen) ∧
    Inv all next final

section Steps
variable {all : List Buffer} {world next : World} {node before final : Node} {sessions : List Session}
  {session changed : Session} {index : Nat} {offered : Offered} {manager middle : ConnectionManager}

theorem Inv.kept (inv : Inv all world before) : Kept before.manager := by
  obtain ⟨service, posted, entries, lost, running⟩ := inv.running
  exact running.agreed.kept

theorem Inv.matched (inv : Inv all next before) : Matched all before [] next := ⟨[], before, rfl, inv⟩

theorem sound_set {sessions : List Session} (sound : ∀ session ∈ sessions, Sound session) (changed_ : Sound changed)
    (index : Nat) : ∀ session ∈ sessions.set index changed, Sound session := by
  intro session listed
  rcases List.mem_or_eq_of_mem_set listed with old | rfl
  · exact sound session old
  · exact changed_

/-- What is offered is a new connection, under an id that the manager did not have. -/
theorem offered_genuine (kept : Kept manager) {attempt : Attempt}
    (offers : offer manager attempt = some (middle, some offered)) :
    AddsId offered.connId manager middle ∧ Genuine offered := by
  obtain ⟨result, offers', case⟩ := offer_cases kept attempt
  obtain rfl := Option.some.inj (offers'.symm.trans offers)
  cases case with
  | offered adds params => exact ⟨adds, ⟨rfl, rfl⟩, params, rfl, rfl⟩

/-- How an attempt ends that has come to the exchange of messages. -/
theorem accept_concludes (kept : Kept before.manager) {attempt : Attempt}
    (offers : offer before.manager attempt = some (middle, some offered)) (received : Option Greeting) :
    Concludes middle offered received (conclude middle offered received) ∧
      before.acceptConnections attempt received = match conclude middle offered received with
        | (manager, none) => some { before with manager }
        | (manager, some host) => some ⟨manager, before.sys.accept { conn := host.link.connection }⟩ := by
  obtain ⟨adds, genuine⟩ := offered_genuine kept offers
  have live : middle.getConnection offered.connId ≠ none := fun none_ => ((adds.2.2.2 _).mp none_).1 rfl
  refine ⟨conclude_cases adds.1 live genuine.named received, ?_⟩
  unfold Node.acceptConnections
  rw [offers]
  rfl

/-- An attempt that fails leaves the ids as they were. -/
theorem accept_refused (kept : Kept before.manager) {attempt : Attempt}
    (offers : offer before.manager attempt = some (middle, some offered)) {received : Option Greeting}
    (concluded : conclude middle offered received = (manager, none)) :
    KvFailures.step before (.accept attempt received) = some ({ before with manager }, []) ∧
      SameIds before.manager manager := by
  obtain ⟨concludes, accepts⟩ := accept_concludes kept offers received
  rw [concluded] at concludes accepts
  refine ⟨by rw [KvFailures.step, accepts]; rfl, ?_⟩
  cases concludes with
  | refused drops => exact (offered_genuine kept offers).1.dropped drops

/-- An attempt that succeeds has received a message, and adds the id. -/
theorem accept_established (kept : Kept before.manager) {attempt : Attempt}
    (offers : offer before.manager attempt = some (middle, some offered)) {received : Option Greeting} {host : Host}
    (concluded : conclude middle offered received = (manager, some host)) :
    KvFailures.step before (.accept attempt received) =
        some (⟨manager, before.sys.accept { conn := host.link.connection }⟩, []) ∧
      AddsId offered.connId before.manager manager ∧
      ∃ remote, received = some remote ∧ (offered.host.connect remote.qpParams).1.ok = true ∧
        host = (offered.host.connect remote.qpParams).2 := by
  obtain ⟨concludes, accepts⟩ := accept_concludes kept offers received
  rw [concluded] at concludes accepts
  refine ⟨by rw [KvFailures.step, accepts]; rfl, ?_⟩
  obtain ⟨-, config, fresh, added⟩ := (offered_genuine kept offers).1
  cases concludes with
  | @established _ remote came ok same =>
    exact ⟨⟨same.1, same.2.1.trans config, fresh, fun other => (same.2.2 other).trans (added other)⟩, remote, came, ok,
      rfl⟩

theorem Accepting.set (accepting : Accepting node sessions before index offered session) {other : Nat}
    {old : Session} (found : sessions[other]? = some old) (leaves : Leaves old changed) :
    ∃ after, Accepting node (sessions.set other changed) before index offered after ∧ Leaves session after := by
  obtain ⟨sys, offers, here, offered_, established⟩ := accepting
  obtain ⟨inside, -⟩ := List.getElem?_eq_some_iff.mp found
  by_cases mine : other = index
  · subst mine
    obtain rfl := Option.some.inj (found.symm.trans here)
    exact ⟨changed, ⟨sys, offers, List.getElem?_set_self inside, leaves.offered.trans offered_,
      leaves.established.trans established⟩, leaves⟩
  · exact ⟨session, ⟨sys, offers, (List.getElem?_set_ne mine).trans here, offered_, established⟩,
      .same rfl rfl rfl rfl rfl rfl⟩

theorem arrive_matched (inv : Inv all world before) (attempt : Attempt) :
    Inv all { world with sessions := world.sessions ++ [.arrive attempt] } before := by
  have still : ∀ {index offered session}, Accepting world.node world.sessions before index offered session →
      Accepting world.node (world.sessions ++ [.arrive attempt]) before index offered session := by
    rintro index offered session ⟨sys, offers, found, offered_, established⟩
    obtain ⟨inside, -⟩ := List.getElem?_eq_some_iff.mp found
    exact ⟨sys, offers, (List.getElem?_append_left inside).trans found, offered_, established⟩
  refine ⟨inv.running, ?_, ?_, by rw [idAt_arrive]; exact inv.owned⟩
  · have placed := inv.placed
    dsimp only
    cases place : world.place with
    | loop =>
      rw [place] at placed
      exact placed
    | sending index offered =>
      obtain ⟨session, accepting⟩ := place ▸ placed
      exact ⟨session, still accepting⟩
    | receiving index offered received =>
      obtain ⟨session, accepting, rest⟩ := place ▸ placed
      exact ⟨session, still accepting, rest⟩
  · intro session listed
    rcases List.mem_append.mp listed with old | new
    · exact inv.sound session old
    · rw [List.mem_singleton.mp new]
      exact arrive_sound attempt

theorem client_matched (inv : Inv all world before) (found : world.sessions[index]? = some session)
    {event : ClientEvent} (taken : session.step event = some changed) : Inv all (world.setSession index changed) before := by
  obtain ⟨sound, leaves⟩ := Session.step_sound (inv.sound session (List.mem_of_getElem? found)) taken
  refine ⟨inv.running, ?_, sound_set inv.sound sound index, ?_⟩
  · have placed := inv.placed
    change Placed world.node (world.sessions.set index changed) before world.place
    cases place : world.place with
    | loop =>
      rw [place] at placed
      exact placed
    | sending other offered =>
      obtain ⟨one, accepting⟩ := place ▸ placed
      exact (accepting.set found leaves).imp fun _ both => both.1
    | receiving other offered received =>
      obtain ⟨one, accepting, whole, front, inside⟩ := place ▸ placed
      obtain ⟨after, accepting, leaves⟩ := accepting.set found leaves
      exact ⟨after, accepting, leaves.toClient.trans whole, front.trans leaves.toServer, inside⟩
  · exact inv.owned.set found leaves.established

theorem accept_matched (pool : Pool all) (inv : Inv all world before) {attempt : Attempt}
    (taken : world.accept index attempt = some next) : Matched all before [] next := by
  unfold World.accept at taken
  split at taken
  · rename_i place
    have same := inv.placed
    rw [place] at same
    obtain rfl : before = world.node := same
    obtain ⟨session, found, taken⟩ := Option.bind_eq_some_iff.mp taken
    have sound := inv.sound session (List.mem_of_getElem? found)
    cases pending : session.pending with
    | false => simp [pending] at taken
    | true =>
      simp only [pending, Bool.not_true, Bool.false_eq_true, if_false, Option.bind_eq_bind] at taken
      obtain ⟨result, offers, case⟩ := offer_cases inv.kept attempt
      rw [offers, Option.bind_some] at taken
      cases case with
      | @declined after same =>
        obtain rfl := Option.some.inj taken
        have accepts : KvFailures.step world.node (.accept attempt none) =
            some ({ world.node with manager := after }, []) := by
          rw [KvFailures.step, Node.acceptConnections, offers]
          rfl
        refine ⟨_, _, run_single accepts, inv.running.step pool accepts, rfl,
          sound_set inv.sound (sound.accepted pending session.offered fun one known => ?_) index, ?_⟩
        · rw [sound.waits pending] at known
          cases known
        · exact (inv.owned.same same).set found rfl
      | @offered after connId qpParams adds params =>
        obtain rfl := Option.some.inj taken
        have genuine := (offered_genuine inv.kept offers).2
        have established : session.established = none := by
          by_contra some_
          obtain ⟨host, known⟩ := Option.ne_none_iff_exists'.mp some_
          obtain ⟨one, found', -⟩ := sound.established host known
          rw [sound.waits pending] at found'
          cases found'
        obtain ⟨inside, -⟩ := List.getElem?_eq_some_iff.mp found
        refine Inv.matched ⟨inv.running, ⟨_, rfl, ⟨attempt, offers⟩, List.getElem?_set_self inside, rfl, established⟩,
          sound_set inv.sound (sound.accepted pending (some _) fun one known => ?_) index, ?_⟩
        · obtain rfl := Option.some.inj known
          exact genuine
        · exact inv.owned.set found rfl
  · cases taken

theorem write_matched (pool : Pool all) (inv : Inv all world before) {answer : Answer}
    (taken : world.write answer = some next) : Matched all before [] next := by
  unfold World.write at taken
  split at taken
  · rename_i index offered place
    have placed := inv.placed
    rw [place] at placed
    obtain ⟨session, sys, ⟨attempt, offers⟩, found, offered_, established⟩ := placed
    have sound := inv.sound session (List.mem_of_getElem? found)
    obtain ⟨genuine, front⟩ := sound.offers offered offered_
    obtain ⟨front, grows, whole⟩ := sendOne_front front answer
    simp only [found, Option.bind_eq_bind, Option.bind_some] at taken
    generalize sendOne offered.greeting.message session.toClient answer = result at taken front grows whole
    obtain ⟨toClient, status⟩ := result
    obtain ⟨inside, -⟩ := List.getElem?_eq_some_iff.mp found
    have sounds := sound_set inv.sound (sound.toldMore offered_ front grows) index
    have accepting : Accepting world.node (world.sessions.set index { session with toClient }) before index offered
        { session with toClient } :=
      ⟨sys, ⟨attempt, offers⟩, List.getElem?_set_self inside, offered_, established⟩
    cases status with
    | none =>
      obtain rfl := Option.some.inj taken
      refine Inv.matched ⟨inv.running, ?_, sounds, inv.owned.set found rfl⟩
      change Placed world.node _ before world.place
      rw [place]
      exact ⟨_, accepting⟩
    | some status =>
      dsimp only at taken
      cases ok : status.ok with
      | false =>
        rw [ok, Bool.not_false, if_pos rfl] at taken
        obtain rfl := Option.some.inj taken
        obtain ⟨accepts, same⟩ := accept_refused inv.kept offers
          (rfl : conclude world.node.manager offered none = (world.node.manager.removeConnection offered.connId, none))
        refine ⟨_, _, run_single accepts, inv.running.step pool accepts, ?_, sounds, (inv.owned.same same).set found rfl⟩
        exact congrArg (Node.mk _) sys
      | true =>
        rw [ok, Bool.not_true, if_neg Bool.false_ne_true] at taken
        obtain rfl := Option.some.inj taken
        have all_ := (whole status rfl).mp ok
        exact Inv.matched ⟨inv.running, ⟨_, accepting, all_, List.nil_prefix, Nat.zero_le _⟩, sounds,
          inv.owned.set found rfl⟩
  · cases taken

theorem read_matched (pool : Pool all) (inv : Inv all world before) {answer : Answer}
    (taken : world.read answer = some next) : Matched all before [] next := by
  unfold World.read at taken
  split at taken
  · rename_i index offered received place
    have placed := inv.placed
    rw [place] at placed
    obtain ⟨session, ⟨sys, ⟨attempt, offers⟩, found, offered_, established⟩, told, front, within⟩ := placed
    have sound := inv.sound session (List.mem_of_getElem? found)
    obtain ⟨front, within, whole⟩ := receiveOne_front front within answer
    simp only [found, Option.bind_eq_bind, Option.bind_some] at taken
    generalize receiveOne received session.toServer answer = result at taken front within whole
    obtain ⟨received, status⟩ := result
    cases status with
    | none =>
      obtain rfl := Option.some.inj taken
      exact Inv.matched ⟨inv.running,
        ⟨session, ⟨sys, ⟨attempt, offers⟩, found, offered_, established⟩, told, front, within⟩, inv.sound, inv.owned⟩
    | some status =>
      dsimp only at taken
      generalize concluded : conclude world.node.manager offered
        (if !status.ok then none else some (Greeting.read received)) = result at taken
      obtain ⟨manager, host⟩ := result
      cases host with
      | none =>
        obtain rfl := Option.some.inj taken
        obtain ⟨accepts, same⟩ := accept_refused inv.kept offers concluded
        refine ⟨_, _, run_single accepts, inv.running.step pool accepts, ?_, inv.sound, inv.owned.same same⟩
        exact congrArg (Node.mk _) sys
      | some host =>
        obtain rfl := Option.some.inj taken
        obtain ⟨accepts, adds, remote, came, connects, rfl⟩ := accept_established inv.kept offers concluded
        cases ok : status.ok with
        | false =>
          rw [ok] at came
          cases came
        | true =>
          rw [ok] at came
          obtain rfl := Option.some.inj came
          obtain ⟨-, established_⟩ := sound.establish offered_ front ((whole status rfl).mp ok) connects
          have named : ({ session with
              established := some (offered.host.connect (Greeting.read received).qpParams).2 } : Session).id =
              some offered.connId := by
            have conn := congrArg Connection.connId (connect_programmed connects).2
            exact congrArg some (conn.trans (sound.offers offered offered_).1.named)
          have free : idAt world.sessions index = none := by
            rw [idAt, found, Option.bind_some, Session.id, established]
            rfl
          refine ⟨_, _, run_single accepts, inv.running.step pool accepts, ?_, sound_set inv.sound established_ index, ?_⟩
          · change Node.mk _ _ = Node.mk _ _
            rw [sys]
          · change Owned (idAt (world.sessions.set index _)) manager
            rw [idAt_set found, named]
            exact inv.owned.added adds free
  · cases taken

theorem poll_some {event : KvFailures.Event} (inv : Inv all world before) (taken : world.poll event = some next) :
    before = world.node ∧ ∃ node now, KvFailures.step world.node event = some (node, now) ∧
      world.place = .loop ∧ next = { world with node } := by
  unfold World.poll at taken
  split at taken
  · rename_i place
    obtain ⟨⟨node, now⟩, done, rfl⟩ := Option.map_eq_some_iff.mp taken
    have same := inv.placed
    rw [place] at same
    exact ⟨same, node, now, done, place, rfl⟩
  · cases taken

/-- A connection that failed is removed, or was. -/
theorem onError_drops (kept : Kept node.manager) (connId : UInt16) :
    DropsId connId node.manager (node.onError connId).manager := by
  have drops := removeConnection_drops kept connId
  unfold Node.onError
  dsimp only
  cases found : node.manager.getConnection connId with
  | none =>
    refine ⟨kept, rfl, fun other => ?_⟩
    by_cases mine : other = connId
    · simp [mine, found]
    · simp [mine]
  | some conn => exact drops

/-- Each step is matched by at most one of the server with whole handshakes. -/
theorem step_matched (pool : Pool all) (inv : Inv all world before) {event : Event}
    (taken : world.step event = some next) :
    Matched all before (replies world event next) next := by
  cases event with
  | arrive attempt =>
    obtain rfl := Option.some.inj taken
    exact (arrive_matched inv attempt).matched
  | client index event =>
    obtain ⟨session, found, taken⟩ := Option.bind_eq_some_iff.mp taken
    obtain ⟨changed, stepped, same⟩ := Option.bind_eq_some_iff.mp taken
    obtain rfl := Option.some.inj same
    exact (client_matched inv found stepped).matched
  | accept index attempt => exact accept_matched pool inv taken
  | write answer => exact write_matched pool inv taken
  | read answer => exact read_matched pool inv taken
  | request connId data byteLen =>
    obtain ⟨rfl, node, now, done, place, rfl⟩ := poll_some inv taken
    obtain ⟨sys, handled, same⟩ := Option.map_eq_some_iff.mp done
    obtain ⟨rfl, rfl⟩ := Prod.mk.inj same
    refine ⟨_, _, run_single done, inv.running.step pool done, ?_, inv.sound, inv.owned⟩
    rw [place]
    rfl
  | sent index =>
    obtain ⟨rfl, node, now, done, place, rfl⟩ := poll_some inv taken
    obtain ⟨sys, handled, same⟩ := Option.map_eq_some_iff.mp done
    obtain ⟨rfl, rfl⟩ := Prod.mk.inj same
    refine ⟨_, _, run_single done, inv.running.step pool done, ?_, inv.sound, inv.owned⟩
    rw [place]
    rfl
  | failed connId =>
    obtain ⟨middle, polled, rfl⟩ := Option.map_eq_some_iff.mp taken
    obtain ⟨rfl, node, now, done, place, rfl⟩ := poll_some inv polled
    obtain ⟨rfl, rfl⟩ := Prod.mk.inj (Option.some.inj done)
    refine ⟨_, _, run_single done, inv.running.step pool done, ?_, ?_, ?_⟩
    · dsimp only
      rw [place]
      rfl
    · intro session listed
      obtain ⟨old, member, rfl⟩ := List.mem_map.mp listed
      exact (inv.sound old member).lose connId
    · dsimp only
      rw [idAt_lose]
      exact inv.owned.dropped (onError_drops inv.kept connId)

end Steps

/-! ### Runs -/

section Runs
variable {base : UInt64} {lkey : UInt32} {storage : Nat → UInt8} {store : KVStore} {events : List Event} {last : World}

theorem new_inv (all : List Buffer) {width : Nat} {service : Service serverSlots}
    (serves : Serves width store service) : Inv all (.new store all) (.new store all) where
  running := ⟨service, _, _, _, KvFailures.new_running all serves⟩
  placed := rfl
  sound session listed := by cases listed
  owned := by
    have none_ : ∀ index connId, idAt (World.new store all).sessions index ≠ some connId := by
      rintro index connId ⟨⟩
    exact ⟨fun connId => iff_of_false (fun live => live (ite_self _)) fun ⟨index, found⟩ => none_ index connId found,
      fun i _ connId found => absurd found (none_ i connId)⟩

section Reached
variable (null : base ≠ 0) (fits : base.toNat + 512 * MAX_REQUEST_SIZE ≤ 2 ^ 64)
  (initialized : KVStore.new.initializeWith {} (some storage) = some (true, store))
include null fits initialized

theorem run_inv {seen : List Reply}
    (ran : run (observe step replies) (.new store (poolBuffers base lkey)) events = some (last, seen)) :
    ∃ requests before, run (observe KvFailures.step KvFailures.replies) (.new store (poolBuffers base lkey)) requests =
        some (before, seen) ∧ Inv (poolBuffers base lkey) last before := by
  have pool := poolBuffers_pool lkey null fits
  obtain ⟨width, serves⟩ := initialize_serves initialized
  refine refined_run (observe step replies) ?_ (new_inv _ serves) ran
  rintro world before event next now inv stepped
  obtain ⟨⟨now, taken⟩, rfl⟩ := observe_some.mp stepped
  obtain ⟨middle, done, same⟩ := Option.map_eq_some_iff.mp taken
  obtain ⟨rfl, -⟩ := Prod.mk.inj same
  exact step_matched pool inv done

theorem reached_inv {outputs : List Unit}
    (ran : run step (.new store (poolBuffers base lkey)) events = some (last, outputs)) :
    ∃ before, Inv (poolBuffers base lkey) last before := by
  obtain ⟨seen, ran⟩ := (run_observe replies).mpr ⟨outputs, ran⟩
  obtain ⟨requests, before, -, inv⟩ := run_inv null fits initialized ran
  exact ⟨before, inv⟩

end Reached

/-- The server as its loop sees it. -/
theorem Inv.sys {all : List Buffer} {world : World} {before : Node} (inv : Inv all world before) :
    before.sys = world.node.sys := by
  have placed := inv.placed
  cases place : world.place with
  | loop =>
    rw [place] at placed
    rw [show before = world.node from placed]
  | sending index offered =>
    obtain ⟨session, accepting⟩ := place ▸ placed
    exact accepting.sys
  | receiving index offered received =>
    obtain ⟨session, accepting, -⟩ := place ▸ placed
    exact accepting.sys

/-- A step of this client, or of the server in `AcceptConnections`. -/
def Between (index : Nat) : Event → Prop
  | .client other _ => other = index
  | .write _ => True
  | .read _ => True
  | _ => False

/-- The two get from one state to the other by themselves. -/
def Goes (index : Nat) (world next : World) : Prop :=
  ∃ events, (∀ event ∈ events, Between index event) ∧ run step world events = some (next, [])

end Runs

section Completing
variable {all : List Buffer} {world next : World} {before : Node} {session : Session} {index : Nat} {offered : Offered}

theorem Goes.single {event : Event} (between : Between index event) (taken : world.step event = some next) :
    Goes index world next := by
  refine ⟨[event], fun other listed => List.mem_singleton.mp listed ▸ between, ?_⟩
  exact run_cons_some.mpr ⟨next, [], [], by rw [step, taken]; rfl, rfl, rfl⟩

theorem Goes.trans {middle : World} (first : Goes index world middle) (second : Goes index middle next) :
    Goes index world next := by
  obtain ⟨front, mine, ran⟩ := first
  obtain ⟨back, mine', ran'⟩ := second
  refine ⟨front ++ back, fun event listed => ?_, run_append_some.mpr ⟨middle, [], [], ran, ran', rfl⟩⟩
  exact (List.mem_append.mp listed).elim (mine event) (mine' event)

theorem Goes.refl (index : Nat) (world : World) : Goes index world world := ⟨[], List.forall_mem_nil _, rfl⟩

theorem Inv.step (pool : Pool all) (inv : Inv all world before) {event : Event} (taken : world.step event = some next) :
    ∃ after, Inv all next after := by
  obtain ⟨requests, after, -, inv⟩ := step_matched pool inv taken
  exact ⟨after, inv⟩

theorem Inv.soundAt (inv : Inv all world before) (found : world.sessions[index]? = some session) : Sound session :=
  inv.sound session (List.mem_of_getElem? found)

/-- The client can read the rest of the server's message. -/
theorem read_completes (sound : Sound session) {received : List UInt8} (phase : session.phase = .receiving received)
    {remote : Greeting} (told : session.toClient = remote.message.bytes) :
    ∃ answer next, session.step (.read answer) = some next ∧ next.phase = .sending remote ∧
      next.client = session.client := by
  obtain ⟨-, front, -⟩ := phase ▸ sound.phase
  rw [told] at front
  obtain ⟨answer, reads⟩ := receiveOne_completes front
  refine ⟨answer, { session with phase := .sending remote }, ?_, rfl, rfl⟩
  rw [Session.step, phase]
  dsimp only
  rw [told, reads]
  dsimp only
  rw [read_message]
  rfl

/-- The client can write the rest of its message. -/
theorem write_completes (sound : Sound session) {remote : Greeting} (phase : session.phase = .sending remote) :
    ∃ answer next, session.step (.write answer) = some next ∧ next.phase = .connecting remote ∧
      next.client = session.client := by
  obtain ⟨answer, writes⟩ := sendOne_completes sound.written
  refine ⟨answer, { session with toServer := session.greeting.message.bytes, phase := .connecting remote }, ?_, rfl,
    rfl⟩
  rw [Session.step, phase]
  dsimp only
  rw [writes]
  rfl

theorem connect_completes (sound : Sound session) {remote : Greeting} (phase : session.phase = .connecting remote)
    (answers : ∀ k, session.client.link.ibv.modifyAnswer k = none) :
    ∃ next, session.step .connect = some next ∧ next.phase = .connected remote := by
  obtain ⟨unused, -⟩ := phase ▸ sound.phase
  have ok : (session.client.connect remote.qpParams).1.ok = true := connect_ok unused.1 unused.2 answers
  rw [Session.step, phase]
  dsimp only
  rw [ok]
  exact ⟨_, rfl, rfl⟩

/-- The server waits for the client, which can go on until it is connected. -/
def Connects (all : List Buffer) (index : Nat) (offered : Offered) (received : List UInt8) (world : World) : Prop :=
  ∃ next after changed remote, Goes index world next ∧ Inv all next after ∧
    next.place = .receiving index offered received ∧ next.sessions[index]? = some changed ∧
    changed.phase = .connected remote

section Client
variable {received : List UInt8} {remote : Greeting} (pool : Pool all) (inv : Inv all world before)
  (place : world.place = .receiving index offered received) (found : world.sessions[index]? = some session)
include pool inv place found

/-- The client takes a step while the server waits for it. -/
theorem client_goes {event : ClientEvent} {changed : Session} (taken : session.step event = some changed) :
    ∃ next after, Goes index world next ∧ Inv all next after ∧ next.place = .receiving index offered received ∧
      next.sessions[index]? = some changed := by
  have stepped : world.step (.client index event) = some (world.setSession index changed) := by
    rw [World.step, found, Option.bind_eq_bind, Option.bind_some, taken]
    rfl
  have between : Between index (.client index event) := rfl
  obtain ⟨after, inv⟩ := inv.step pool stepped
  obtain ⟨inside, -⟩ := List.getElem?_eq_some_iff.mp found
  exact ⟨_, after, .single between stepped, inv, place, List.getElem?_set_self inside⟩

variable (answers : ∀ k, session.client.link.ibv.modifyAnswer k = none)
include answers

theorem connecting_connects (phase : session.phase = .connecting remote) :
    Connects all index offered received world := by
  obtain ⟨changed, taken, phase⟩ := connect_completes (inv.soundAt found) phase answers
  obtain ⟨next, after, goes, inv, place, found⟩ := client_goes pool inv place found taken
  exact ⟨next, after, changed, remote, goes, inv, place, found, phase⟩

theorem sending_connects (phase : session.phase = .sending remote) : Connects all index offered received world := by
  obtain ⟨answer, changed, taken, phase, same⟩ := write_completes (inv.soundAt found) phase
  obtain ⟨middle, after, goes, inv, place, found⟩ := client_goes pool inv place found taken
  obtain ⟨next, after, changed, remote, goes', rest⟩ :=
    connecting_connects pool inv place found (by rw [same]; exact answers) phase
  exact ⟨next, after, changed, remote, goes.trans goes', rest⟩

theorem receiving_connects {front : List UInt8} (phase : session.phase = .receiving front) :
    Connects all index offered received world := by
  have placed := inv.placed
  rw [place] at placed
  obtain ⟨other, accepting, told, -⟩ := placed
  obtain rfl := Option.some.inj (found.symm.trans accepting.found)
  obtain ⟨answer, changed, taken, phase, same⟩ := read_completes (inv.soundAt found) phase told
  obtain ⟨middle, after, goes, inv, place, found⟩ := client_goes pool inv place found taken
  obtain ⟨next, after, changed, remote, goes', rest⟩ :=
    sending_connects pool inv place found (by rw [same]; exact answers) phase
  exact ⟨next, after, changed, remote, goes.trans goes', rest⟩

theorem client_connects (stays : session.phase ≠ .failed) : Connects all index offered received world := by
  cases phase : session.phase with
  | receiving front => exact receiving_connects pool inv place found answers phase
  | sending remote => exact sending_connects pool inv place found answers phase
  | connecting remote => exact connecting_connects pool inv place found answers phase
  | connected remote => exact ⟨world, before, session, remote, .refl index world, inv, place, found, phase⟩
  | failed => exact absurd phase stays

end Client

/-- The server can write the rest of its message. -/
theorem server_goes (pool : Pool all) (inv : Inv all world before) (place : world.place = .sending index offered)
    (found : world.sessions[index]? = some session) :
    ∃ next after, Goes index world next ∧ Inv all next after ∧ next.place = .receiving index offered [] ∧
      next.sessions[index]? = some { session with toClient := offered.greeting.message.bytes } := by
  have placed := inv.placed
  rw [place] at placed
  obtain ⟨other, accepting⟩ := placed
  obtain rfl := Option.some.inj (found.symm.trans accepting.found)
  obtain ⟨answer, writes⟩ := sendOne_completes ((inv.soundAt found).offers offered accepting.offered).2
  have stepped : world.step (.write answer) = some { world.setSession index
      { session with toClient := offered.greeting.message.bytes } with place := .receiving index offered [] } := by
    rw [World.step, World.write, place]
    simp only [found, Option.bind_eq_bind, Option.bind_some, writes]
    rfl
  have between : Between index (.write answer) := trivial
  obtain ⟨after, inv⟩ := inv.step pool stepped
  obtain ⟨inside, -⟩ := List.getElem?_eq_some_iff.mp found
  exact ⟨_, after, .single between stepped, inv, rfl, List.getElem?_set_self inside⟩

/-- When the client is connected the server can read its message and establish the connection. -/
theorem server_establishes (pool : Pool all) (inv : Inv all world before) {received : List UInt8}
    (place : world.place = .receiving index offered received) (found : world.sessions[index]? = some session)
    {remote : Greeting} (phase : session.phase = .connected remote)
    (answers : ∀ k, offered.host.link.ibv.modifyAnswer k = none) :
    ∃ next after changed host, Goes index world next ∧ Inv all next after ∧ next.place = .loop ∧
      next.sessions[index]? = some changed ∧ changed.phase = .connected remote ∧ changed.established = some host := by
  have placed := inv.placed
  rw [place] at placed
  obtain ⟨other, accepting, -, front, -⟩ := placed
  obtain rfl := Option.some.inj (found.symm.trans accepting.found)
  obtain ⟨-, -, whole⟩ := phase ▸ (inv.soundAt found).phase
  obtain ⟨unused, -⟩ := ((inv.soundAt found).offers offered accepting.offered).1
  have ok : (offered.host.connect session.greeting.qpParams).1.ok = true := connect_ok unused.1 unused.2 answers
  rw [whole] at front
  obtain ⟨answer, reads⟩ := receiveOne_completes front
  let host := (offered.host.connect session.greeting.qpParams).2
  let manager := world.node.manager.update offered.connId host.link.connection
  have stepped : world.step (.read answer) = some { world.setSession index
      { session with established := some host } with
      node := ⟨manager, world.node.sys.accept { conn := host.link.connection }⟩, place := .loop } := by
    rw [World.step, World.read, place]
    simp only [found, Option.bind_eq_bind, Option.bind_some, whole, reads, read_message, ok_OK, Bool.not_true,
      Bool.false_eq_true, if_false, conclude, ok]
    rfl
  have between : Between index (.read answer) := trivial
  obtain ⟨after, inv⟩ := inv.step pool stepped
  obtain ⟨inside, -⟩ := List.getElem?_eq_some_iff.mp found
  exact ⟨_, after, _, host, .single between stepped, inv, rfl, List.getElem?_set_self inside, phase, rfl⟩

end Completing

/-! ### Main results -/

/-- Two clients; the server accepts the second first, and their messages go through in pieces. -/
def handshakeEvents : List Event :=
  [.arrive KvFailures.goodAttempt, .arrive KvFailures.goodAttempt, .accept 1 KvFailures.goodAttempt, .write (.count 60),
    .client 1 (.read (.count 40)), .write (.count 68), .client 1 (.read (.error EINTR)), .client 1 (.read (.count 88)),
    .client 1 (.write (.count 128)), .read (.count 100), .client 1 .connect, .read (.count 28),
    .request 0 KvServices.storesFive 4112, .accept 0 KvFailures.goodAttempt, .client 0 .leave, .write (.count 128),
    .read (.count 0)]

def worldRun (events : List Event) : Option (KVStore × World × List Unit) :=
  match KVStore.new.initializeWith {} (some fun _ => 0) with
  | some (true, store) => (run step (.new store (poolBuffers 65536 7)) events).map (store, ·)
  | _ => none

theorem worldRun_spec {events : List Event} {store : KVStore} {last : World} {outputs : List Unit}
    (ran : worldRun events = some (store, last, outputs)) :
    KVStore.new.initializeWith {} (some fun _ => 0) = some (true, store) ∧
      run step (.new store (poolBuffers 65536 7)) events = some (last, outputs) := by
  unfold worldRun at ran
  split at ran
  · rename_i made initialized
    obtain ⟨result, ran, same⟩ := Option.map_eq_some_iff.mp ran
    obtain ⟨rfl, rfl⟩ := Prod.mk.inj same
    exact ⟨initialized, ran⟩
  · cases ran

theorem worldRun_some {events : List Event} (defined : (worldRun events).isSome = true) :
    ∃ store last outputs, KVStore.new.initializeWith {} (some fun _ => 0) = some (true, store) ∧
      run step (.new store (poolBuffers 65536 7)) events = some (last, outputs) := by
  obtain ⟨⟨store, last, outputs⟩, ran⟩ := Option.isSome_iff_exists.mp defined
  exact ⟨store, last, outputs, worldRun_spec ran⟩

theorem handshakeEvents_run : (worldRun handshakeEvents).isSome = true := by decide +kernel

/-- A client has arrived and the server has created a connection for it. -/
theorem entered (store : KVStore) (all : List Buffer) : ∃ last offered,
    run step (.new store all) [.arrive KvFailures.goodAttempt, .accept 0 KvFailures.goodAttempt] = some (last, []) ∧
    last.place = .sending 0 offered ∧
    (∃ session, last.sessions[0]? = some session ∧ session.phase = .receiving [] ∧ session.toServer = [] ∧
      ∀ k, session.client.link.ibv.modifyAnswer k = none) ∧
    ∀ k, offered.host.link.ibv.modifyAnswer k = none := by
  have cooperates : KvFailures.goodAttempt.Cooperates := ⟨rfl, ⟨_, rfl⟩, ⟨_, rfl⟩, fun _ => rfl⟩
  have kept : Kept (Node.new store all).manager := create_kept _
  have some_ : (ConnectionManager.create { maxConnections := 256 }).freeConnIds ≠ [] := by decide
  obtain ⟨rest, connId, stack⟩ := (List.eq_nil_or_concat (Node.new store all).manager.freeConnIds).resolve_left some_
  rw [List.concat_eq_append] at stack
  obtain ⟨manager, offered, offers, host⟩ := cooperates.offers kept stack
  let session := Session.arrive KvFailures.goodAttempt
  let arrived : World := ⟨.new store all, .loop, [session]⟩
  let last : World := { arrived.setSession 0 { session with pending := false, offered := some offered } with
    node := { Node.new store all with manager }, place := .sending 0 offered }
  have accepts : arrived.accept 0 KvFailures.goodAttempt = some last := by
    have pending : session.pending = true := rfl
    unfold World.accept
    simp only [arrived, List.getElem?_cons_zero, Option.bind_eq_bind, Option.bind_some, pending, Bool.not_true,
      Bool.false_eq_true, if_false, offers]
    rfl
  refine ⟨last, offered, ?_, rfl, ⟨_, rfl, rfl, rfl, fun _ => rfl⟩, fun k => by rw [host]; rfl⟩
  refine run_cons_some.mpr ⟨arrived, [], [], rfl, run_cons_some.mpr ⟨last, [], [], ?_, rfl, rfl⟩, rfl⟩
  rw [step, World.step, accepts]
  rfl

section Main
variable {base : UInt64} {lkey : UInt32} {storage : Nat → UInt8} {store : KVStore} {events : List Event} {last : World}
  {outputs : List Unit}

/-- To the server a handshake is one step: every run, with whatever order of the calls of all the clients and the
    server, has the requests and responses of a run in which the server establishes or refuses each connection at
    once, and which is in the same state whenever the server is in its loop. -/
theorem handshakes_refine (null : base ≠ 0) (fits : base.toNat + 512 * MAX_REQUEST_SIZE ≤ 2 ^ 64)
    (initialized : KVStore.new.initializeWith {} (some storage) = some (true, store)) {seen : List Reply}
    (ran : run (observe step replies) (.new store (poolBuffers base lkey)) events = some (last, seen)) :
    ∃ requests node, run (observe KvFailures.step KvFailures.replies) (.new store (poolBuffers base lkey)) requests =
        some (node, seen) ∧ node.sys = last.node.sys ∧ (last.place = .loop → node = last.node) := by
  obtain ⟨requests, before, same, inv⟩ := run_inv null fits initialized ran
  refine ⟨requests, before, same, inv.sys, fun place => ?_⟩
  have placed := inv.placed
  rw [place] at placed
  exact placed

theorem two_clients_refined : ∃ store last seen,
    run (observe step replies) (.new store (poolBuffers 65536 7)) handshakeEvents = some (last, seen) ∧
    ∃ requests node, run (observe KvFailures.step KvFailures.replies) (.new store (poolBuffers 65536 7)) requests =
        some (node, seen) ∧ node.sys = last.node.sys ∧ (last.place = .loop → node = last.node) := by
  obtain ⟨store, last, outputs, initialized, ran⟩ := worldRun_some handshakeEvents_run
  obtain ⟨seen, ran⟩ := (run_observe replies).mpr ⟨outputs, ran⟩
  exact ⟨store, last, seen, ran, handshakes_refine (by decide) (by decide) initialized ran⟩

/-- An established connection and a connected client have each other's parameters. -/
theorem Inv.linked {all : List Buffer} {before : Node} (inv : Inv all last before) {session : Session}
    (listed : session ∈ last.sessions) {host : Host} (known : session.established = some host) :
    Linked host session.client ∧ ∀ remote, session.phase = .connected remote →
      Linked session.client host ∧ remote.connId = host.link.connection.connId := by
  have sound := inv.sound session listed
  obtain ⟨offered, found, whole, programmed, params, named⟩ := sound.established host known
  have genuine := (sound.offers offered found).1
  have own : session.client.getLocalParams = .ok session.greeting.qpParams := by
    refine sound.own.resolve_right fun failed => ?_
    have size := session.greeting.message.size
    rw [← whole, failed.2] at size
    cases size
  refine ⟨⟨_, own, programmed⟩, fun remote phase => ?_⟩
  obtain ⟨linked, ⟨other, found', rfl, -⟩, -⟩ := phase ▸ sound.phase
  obtain rfl := Option.some.inj (found.symm.trans found')
  exact ⟨⟨_, params, linked⟩, genuine.told.trans named.symm⟩

/-- In every run, the queue pair of an established connection is programmed with what its client has told of itself,
    and the other way round as soon as the client is connected, which then knows the connection's id; the ids of the
    established connections are those that the server has contexts of, each with one client. -/
theorem handshakes_agree (null : base ≠ 0) (fits : base.toNat + 512 * MAX_REQUEST_SIZE ≤ 2 ^ 64)
    (initialized : KVStore.new.initializeWith {} (some storage) = some (true, store))
    (ran : run step (.new store (poolBuffers base lkey)) events = some (last, outputs)) :
    (∀ session ∈ last.sessions, ∀ host, session.established = some host →
      Linked host session.client ∧ ∀ remote, session.phase = .connected remote →
        Linked session.client host ∧ remote.connId = host.link.connection.connId) ∧
    (∀ connId, last.node.sys.server.connContexts connId ≠ none ↔ ∃ index, idAt last.sessions index = some connId) ∧
    ∀ i j connId, idAt last.sessions i = some connId → idAt last.sessions j = some connId → i = j := by
  obtain ⟨before, inv⟩ := reached_inv null fits initialized ran
  obtain ⟨service, posted, entries, lost, running⟩ := inv.running
  refine ⟨fun session listed host known => inv.linked listed known, fun connId => ?_, inv.owned.once⟩
  rw [← inv.sys, ← inv.owned.live]
  exact (not_congr (running.agreed.same connId)).symm

theorem two_clients_agree : ∃ store last outputs,
    run step (.new store (poolBuffers 65536 7)) handshakeEvents = some (last, outputs) ∧
    (∀ session ∈ last.sessions, ∀ host, session.established = some host →
      Linked host session.client ∧ ∀ remote, session.phase = .connected remote →
        Linked session.client host ∧ remote.connId = host.link.connection.connId) ∧
    (∀ connId, last.node.sys.server.connContexts connId ≠ none ↔ ∃ index, idAt last.sessions index = some connId) ∧
    ∀ i j connId, idAt last.sessions i = some connId → idAt last.sessions j = some connId → i = j := by
  obtain ⟨store, last, outputs, initialized, ran⟩ := worldRun_some handshakeEvents_run
  exact ⟨store, last, outputs, ran, handshakes_agree (by decide) (by decide) initialized ran⟩

/-- The second client is established; the first has left. -/
example : (run step (.new .new (poolBuffers 65536 7)) handshakeEvents).map
    (fun last => [idAt last.1.sessions 0, idAt last.1.sessions 1]) = some [none, some 0] := by
  decide +kernel

/-- The server and its client never wait for each other: wherever the exchange of messages has got to, in whatever
    pieces, the two alone can end it with both queue pairs connected, unless the client has failed or a device refuses a
    request. -/
theorem handshake_completes (null : base ≠ 0) (fits : base.toNat + 512 * MAX_REQUEST_SIZE ≤ 2 ^ 64)
    (initialized : KVStore.new.initializeWith {} (some storage) = some (true, store))
    (ran : run step (.new store (poolBuffers base lkey)) events = some (last, outputs)) {index : Nat}
    {offered : Offered} {session : Session}
    (accepting : last.place = .sending index offered ∨ ∃ received, last.place = .receiving index offered received)
    (found : last.sessions[index]? = some session) (stays : session.phase ≠ .failed)
    (serverAnswers : ∀ k, offered.host.link.ibv.modifyAnswer k = none)
    (clientAnswers : ∀ k, session.client.link.ibv.modifyAnswer k = none) :
    ∃ final changed host remote, Goes index last final ∧ final.place = .loop ∧ final.sessions[index]? = some changed ∧
      changed.established = some host ∧ changed.phase = .connected remote ∧ Linked host changed.client ∧
      Linked changed.client host := by
  have pool := poolBuffers_pool lkey null fits
  obtain ⟨before, inv⟩ := reached_inv null fits initialized ran
  have waits : ∃ received middle after session, Goes index last middle ∧ Inv (poolBuffers base lkey) middle after ∧
      middle.place = .receiving index offered received ∧ middle.sessions[index]? = some session ∧
      session.phase ≠ .failed ∧ ∀ k, session.client.link.ibv.modifyAnswer k = none := by
    rcases accepting with place | ⟨received, place⟩
    · obtain ⟨middle, after, goes, inv, place, found⟩ := server_goes pool inv place found
      exact ⟨[], middle, after, _, goes, inv, place, found, stays, clientAnswers⟩
    · exact ⟨received, last, before, session, .refl index last, inv, place, found, stays, clientAnswers⟩
  obtain ⟨received, middle, after, session, goes, inv, place, found, stays, answers⟩ := waits
  obtain ⟨near, after, changed, remote, goes', inv, place, found, phase⟩ :=
    client_connects pool inv place found answers stays
  obtain ⟨final, after, changed, host, goes'', inv, place, found, phase, known⟩ :=
    server_establishes pool inv place found phase serverAnswers
  obtain ⟨linked, back⟩ := inv.linked (List.mem_of_getElem? found) known
  exact ⟨final, changed, host, remote, (goes.trans goes').trans goes'', place, found, known, phase, linked,
    (back remote phase).1⟩

theorem entered_completes : ∃ store last offered,
    run step (.new store (poolBuffers 65536 7)) [.arrive KvFailures.goodAttempt, .accept 0 KvFailures.goodAttempt] =
      some (last, []) ∧ last.place = .sending 0 offered ∧
    ∃ final changed host remote, Goes 0 last final ∧ final.place = .loop ∧ final.sessions[0]? = some changed ∧
      changed.established = some host ∧ changed.phase = .connected remote ∧ Linked host changed.client ∧
      Linked changed.client host := by
  obtain ⟨store, -, -, initialized, -⟩ := worldRun_some handshakeEvents_run
  obtain ⟨last, offered, ran, place, ⟨session, found, phase, -, clientAnswers⟩, answers⟩ :=
    entered store (poolBuffers 65536 7)
  have stays : session.phase ≠ .failed := by
    rw [phase]
    nofun
  exact ⟨store, last, offered, ran, place,
    handshake_completes (by decide) (by decide) initialized ran (.inl place) found stays answers clientAnswers⟩

/-- Without an answer that stops it, `Receive` does not return before the whole message is written. -/
theorem receiveOne_waits {received written : List UInt8} (front : received <+: written)
    (short : written.length < handshakeMessageSize) {answer : Answer} (goes : answer.stops = false) :
    (receiveOne received written answer).2 = none := by
  have inside : received.length ≤ handshakeMessageSize := front.length_le.trans (Nat.le_of_lt short)
  have receives := receiveLoop_receives received (written.drop received.length) [answer] inside
  obtain ⟨moved, -, whole⟩ := receiveOne_front front inside answer
  obtain ⟨consumed, split, -, fails⟩ := receives.consumed
  cases returned : (receiveOne received written answer).2 with
  | none => rfl
  | some status =>
    have failed : status.ok = false := by
      refine Bool.eq_false_iff.mpr fun ok => ?_
      have length := (whole status returned).mp ok
      have within := moved.length_le
      omega
    obtain ⟨stop, member, stops⟩ := (fails status returned).mp failed
    have same : stop ∈ [answer] := by
      rw [split]
      exact List.mem_append_left _ member
    rw [List.mem_singleton.mp same, goes] at stops
    cases stops

/-- The client has not written its whole message after the step, and its channel neither ends nor fails. -/
def Unfinished (index : Nat) (world : World) (event : Event) : Prop :=
  (∀ answer, event = .read answer → answer.stops = false) ∧
  ∀ next session, world.step event = some next → next.sessions[index]? = some session →
    session.toServer.length < handshakeMessageSize

/-- As long as the client has not written its whole message and its channel is open, the server serves no request and
    accepts no other client, whatever they do. -/
theorem silent_client_blocks {index : Nat} {offered : Offered} {received : List UInt8} {session : Session}
    (null : base ≠ 0) (fits : base.toNat + 512 * MAX_REQUEST_SIZE ≤ 2 ^ 64)
    (initialized : KVStore.new.initializeWith {} (some storage) = some (true, store))
    (ran : run step (.new store (poolBuffers base lkey)) events = some (last, outputs))
    (place : last.place = .receiving index offered received) (found : last.sessions[index]? = some session)
    (short : session.toServer.length < handshakeMessageSize) {later : List Event} {final : World} {seen : List Reply}
    (silent : Meets (observe step replies) (Unfinished index) last later)
    (goes : run (observe step replies) last later = some (final, seen)) :
    final.node = last.node ∧ seen = [] ∧ ∃ received, final.place = .receiving index offered received := by
  obtain ⟨before, inv⟩ := reached_inv null fits initialized ran
  let invariant (world : World) (before : List Reply) : Prop :=
    (world.node = last.node ∧ ∃ session received, world.sessions[index]? = some session ∧ Sound session ∧
      world.place = .receiving index offered received ∧ received <+: session.toServer ∧
      session.toServer.length < handshakeMessageSize) ∧ before = []
  have start : invariant last [] := by
    have placed := inv.placed
    rw [place] at placed
    obtain ⟨other, accepting, -, front, -⟩ := placed
    obtain rfl := Option.some.inj (found.symm.trans accepting.found)
    exact ⟨⟨rfl, session, received, found, inv.soundAt found, place, front, short⟩, rfl⟩
  have stays : ∀ world before event next now, invariant world before → Unfinished index world event →
      observe step replies world event = some (next, now) → invariant next (before ++ now) := by
    rintro world _ event next _ ⟨⟨same, session, received, here, sound, place, front, short⟩, rfl⟩ ⟨open_, less⟩ stepped
    obtain ⟨⟨now, done⟩, rfl⟩ := observe_some.mp stepped
    obtain ⟨middle, taken, same'⟩ := Option.map_eq_some_iff.mp done
    obtain ⟨rfl, -⟩ := Prod.mk.inj same'
    obtain ⟨inside, -⟩ := List.getElem?_eq_some_iff.mp here
    cases event with
    | arrive attempt =>
      obtain rfl := Option.some.inj taken
      exact ⟨⟨same, session, received, (List.getElem?_append_left inside).trans here, sound, place, front, short⟩, rfl⟩
    | client one own =>
      have after := less middle
      obtain ⟨old, there, taken'⟩ := Option.bind_eq_some_iff.mp taken
      obtain ⟨changed, moved, set⟩ := Option.bind_eq_some_iff.mp taken'
      obtain rfl := Option.some.inj set
      by_cases its : one = index
      · subst its
        obtain rfl := Option.some.inj (here.symm.trans there)
        obtain ⟨sound, leaves⟩ := Session.step_sound sound moved
        have found' : (world.setSession one changed).sessions[one]? = some changed := List.getElem?_set_self inside
        exact ⟨⟨same, changed, received, found', sound, place, front.trans leaves.toServer, after changed taken found'⟩,
          rfl⟩
      · exact ⟨⟨same, session, received, (List.getElem?_set_ne its).trans here, sound, place, front, short⟩, rfl⟩
    | read answer =>
      have waits := receiveOne_waits front short (open_ answer rfl)
      obtain ⟨front', -⟩ := receiveOne_front front (front.length_le.trans (Nat.le_of_lt short)) answer
      rw [World.step, World.read, place] at taken
      simp only [here, Option.bind_eq_bind, Option.bind_some] at taken
      generalize receiveOne received session.toServer answer = result at taken waits front'
      obtain ⟨more, status⟩ := result
      obtain rfl : status = none := waits
      obtain rfl := Option.some.inj taken
      exact ⟨⟨same, session, more, here, sound, rfl, front', short⟩, rfl⟩
    | accept one attempt => simp [World.step, World.accept, place] at taken
    | write answer => simp [World.step, World.write, place] at taken
    | request connId data byteLen => simp [World.step, World.poll, place] at taken
    | sent one => simp [World.step, World.poll, place] at taken
    | failed connId => simp [World.step, World.poll, place] at taken
  obtain ⟨⟨same, _, received, -, -, place, -⟩, none_⟩ := history_of_run stays start silent goes
  exact ⟨same, none_, received, place⟩

def unfinished (index : Nat) (world : World) (event : Event) : Bool :=
  (match event with | .read answer => !answer.stops | _ => true) &&
  match world.step event with
  | none => true
  | some next => (next.sessions[index]?).all fun session => session.toServer.length < handshakeMessageSize

theorem unfinished_sound {index : Nat} {world : World} {event : Event} (checked : unfinished index world event = true) :
    Unfinished index world event := by
  obtain ⟨open_, less⟩ := Bool.and_eq_true_iff.mp checked
  refine ⟨?_, fun next session taken found => ?_⟩
  · rintro answer rfl
    simpa using open_
  · rw [taken] at less
    dsimp only at less
    rw [found] at less
    exact of_decide_eq_true less

/-- The server waits for the client, which has not written its whole message. -/
def waitsFor (index : Nat) (world : World) : Bool :=
  match world.place, world.sessions[index]? with
  | .receiving other _ _, some session => other = index && session.toServer.length < handshakeMessageSize
  | _, _ => false

theorem waitsFor_spec {index : Nat} {world : World} (waits : waitsFor index world = true) :
    ∃ offered received session, world.place = .receiving index offered received ∧
      world.sessions[index]? = some session ∧ session.toServer.length < handshakeMessageSize := by
  unfold waitsFor at waits
  split at waits
  · rename_i other offered received session place found
    obtain ⟨same, short⟩ := Bool.and_eq_true_iff.mp waits
    obtain rfl := of_decide_eq_true same
    exact ⟨offered, received, session, place, found, of_decide_eq_true short⟩
  · cases waits

/-- The client takes the server's message and writes 100 bytes of its own; another client arrives. -/
def silentEvents : List Event :=
  [.client 0 (.read (.count 128)), .client 0 (.write (.count 100)), .read (.count 60), .arrive KvFailures.goodAttempt,
    .read (.count 40), .read (.error EINTR)]

theorem silentEvents_run :
    (worldRun [.arrive KvFailures.goodAttempt, .accept 0 KvFailures.goodAttempt, .write (.count 128)]).map
      (fun (_, last, _) => waitsFor 0 last && checks (observe step replies) (unfinished 0) last silentEvents &&
        (run (observe step replies) last silentEvents).isSome) = some true := by
  decide +kernel

/-- The server has read 100 of the client's bytes and waits for the rest. -/
theorem entered_blocks : ∃ store events last outputs offered received final seen,
    run step (.new store (poolBuffers 65536 7)) events = some (last, outputs) ∧
    last.place = .receiving 0 offered received ∧
    run (observe step replies) last silentEvents = some (final, seen) ∧
    final.node = last.node ∧ seen = [] ∧ ∃ received, final.place = .receiving 0 offered received := by
  obtain ⟨⟨store, last, outputs⟩, ran, checked⟩ := Option.map_eq_some_iff.mp silentEvents_run
  obtain ⟨initialized, ran⟩ := worldRun_spec ran
  obtain ⟨⟨waits, silent⟩, defined⟩ := (Bool.and_eq_true_iff.mp checked).imp_left Bool.and_eq_true_iff.mp
  obtain ⟨offered, received, session, place, found, short⟩ := waitsFor_spec waits
  obtain ⟨⟨final, seen⟩, goes⟩ := Option.isSome_iff_exists.mp defined
  exact ⟨store, _, last, outputs, offered, received, final, seen, ran, place, goes,
    silent_client_blocks (by decide) (by decide) initialized ran place found short
      (meets_of_checks (fun _ _ => unfinished_sound) silent) goes⟩

end Main

end Rdma.KvAgreements
