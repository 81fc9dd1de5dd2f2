import Rdma.KvBuffers

/-!
Which send a completion belongs to. The server numbers the GETs and the PUTs of a
connection separately and gives every malformed request the number 0, and the id
of a response is made of the connection and the number alone. So the ids of the
responses in flight are distinct, no entry of one is overwritten and each
completion frees the buffer of its send, exactly in the runs in which no request
is answered while a response with the same number is in flight (`tracking_iff`).
-/
namespace Rdma.KvTracking
open Rdma.Types Rdma.Verbs Rdma.WrIds Rdma.Runs Rdma.QueuePairs Rdma.Connections Rdma.FiniteMaps
open Rdma.KvProtocols Rdma.KvStores Rdma.KvMaps Rdma.KvServers Rdma.KvBuffers

/-- The ids in flight are distinct, a response overwrites no entry of a send in flight, and a completion gives the
buffer of its send back. -/
def Unambiguous (sys : System) (event : Event) : Prop :=
  ∀ next now, step sys event = some (next, now) →
    (next.sends.map fun send => send.wr.wrId).Nodup ∧
      match event with
      | .accept _ _ _ _ => True
      | .request _ _ _ => ∀ send ∈ sys.sends,
          next.server.postedSendBuffers send.wr.wrId = sys.server.postedSendBuffers send.wr.wrId
      | .sent index => ∀ send, sys.sends[index]? = some send → send.wr.signaled = true →
          ∃ buf, send.wr.sgList.map Sge.addr = [buf.addr] ∧
            next.server.freeBuffers = sys.server.freeBuffers ++ [buf]

/-- Numbers are kept in 32 bits. -/
def SameNumber (request other : Request) : Prop := request.number.toNat % 2 ^ 32 = other.number.toNat % 2 ^ 32

/-- A request that is answered has another number than the responses of its connection that are in flight. -/
def Numbered (sys : System) : Event → Prop
  | .accept _ _ _ _ => True
  | .request connId data byteLen => IsAnswered sys byteLen → ∀ ctx, sys.server.connContexts connId = some ctx →
      ∀ send ∈ sys.sends, send.connId = connId → ¬SameNumber send.request (requestOf ctx data)
  | .sent _ => True

theorem sendId_eq {connId other : UInt16} {request second : Request} :
    sendId connId request = sendId other second ↔ connId = other ∧ SameNumber request second := by
  have slot : ∀ one : Request, (one.number &&& 0xFFFFFFFF).toUInt32.toNat = one.number.toNat % 2 ^ 32 := by
    intro one
    rw [UInt64.toNat_toUInt32, UInt64.toNat_and, show (0xFFFFFFFF : UInt64).toNat = 2 ^ 32 - 1 from rfl,
      Nat.and_two_pow_sub_one_eq_mod, Nat.mod_mod]
  constructor
  · intro same
    have ids := congrArg getConnId same
    have slots := congrArg getSlotIndex same
    rw [sendId, sendId, getConnId_encode, getConnId_encode] at ids
    rw [sendId, sendId, getSlotIndex_encode, getSlotIndex_encode] at slots
    refine ⟨ids, ?_⟩
    rw [SameNumber, ← slot, ← slot, slots]
  · rintro ⟨rfl, same⟩
    rw [SameNumber, ← slot, ← slot] at same
    rw [sendId, sendId, UInt32.toNat_inj.mp same]

/-- The ids in flight are distinct and each tracks the buffer of its send. -/
structure Tracked (sys : System) : Prop where
  distinct : (sys.sends.map fun send => send.wr.wrId).Nodup
  own : ∀ send ∈ sys.sends, ∃ buf, sys.server.postedSendBuffers send.wr.wrId = some buf ∧
    send.wr.sgList.map Sge.addr = [buf.addr]

section Steps
variable {all : List Buffer} {sys next : System} {posted posted' : List (UInt16 × Buffer)}
  {entries entries' : List (UInt64 × Buffer)} {lost lost' : List Buffer} {event : Event}

/-- The id of a response is none of those in flight. -/
def Fresh (sys : System) (wrId : UInt64) : Prop := ∀ send ∈ sys.sends, send.wr.wrId ≠ wrId

theorem numbered_fresh (inv : Inv all sys posted entries lost) {connId : UInt16} {request : Request} :
    Fresh sys (sendId connId request) ↔
      ∀ send ∈ sys.sends, send.connId = connId → ¬SameNumber send.request request := by
  refine forall_congr' fun send => forall_congr' fun sending => ?_
  rw [inv.numbered send sending, ne_eq, sendId_eq, not_and]

theorem responded_tracked (tracked : Tracked sys) {connId : UInt16} {ctx : ConnectionContext} {request : Request}
    {buf : Buffer} {wr : SendWr} (responded : Responded sys next connId ctx request buf wr)
    (fresh : Fresh sys (sendId connId request)) : Tracked next := by
  constructor
  · rw [responded.sends, List.map_append]
    cases ctx.conn.qp.device.nextAnswer.isNone
    · simpa using tracked.distinct
    · refine List.nodup_append.mpr ⟨tracked.distinct, by simp, ?_⟩
      intro id old other new
      obtain ⟨send, sending, rfl⟩ := List.mem_map.mp old
      obtain rfl : other = wr.wrId := by simpa using new
      rw [responded.id]
      exact fresh send sending
  · intro send sending
    rw [responded.sends] at sending
    rcases List.mem_append.mp sending with old | new
    · rw [responded.tracked, Function.update_of_ne (fresh send old)]
      exact tracked.own send old
    · obtain rfl : send = ⟨connId, wr, request⟩ := by
        split at new
        · exact List.mem_singleton.mp new
        · exact absurd new List.not_mem_nil
      refine ⟨buf, ?_, responded.address⟩
      rw [responded.tracked, responded.id, Function.update_self]

theorem sent_tracked (tracked : Tracked sys) {index : Nat} {send : InFlight} (found : sys.sends[index]? = some send)
    (sends : next.sends = sys.sends.eraseIdx index) (did : SentCase sys send entries next entries') : Tracked next := by
  have once := ((sends_split found).map fun one => one.wr.wrId).nodup_iff.mp tracked.distinct
  obtain ⟨gone, rest⟩ := List.nodup_cons.mp once
  refine ⟨sends ▸ rest, ?_⟩
  intro one left
  rw [sends] at left
  have apart : one.wr.wrId ≠ send.wr.wrId := fun same => gone (List.mem_map.mpr ⟨one, left, same⟩)
  have own := tracked.own one (List.mem_of_mem_eraseIdx left)
  cases did with
  | silent unsignaled server same => rwa [server]
  | untracked signaled missing server same => rwa [server]
  | freed buf signaled held free erased same => rwa [erased, Function.update_of_ne apart]

theorem step_tracked (inv : Inv all sys posted entries lost) (tracked : Tracked sys)
    (did : StepCase sys entries lost next entries' lost' event) (numbered : Numbered sys event) : Tracked next := by
  cases did with
  | accept sends same _ _ _ _ => exact ⟨sends ▸ tracked.distinct, by rw [sends, same]; exact tracked.own⟩
  | request known did =>
    cases did with
    | unanswered silent sends same _ _ _ _ => exact ⟨sends ▸ tracked.distinct, by rw [sends, same]; exact tracked.own⟩
    | answered buf wr answered responded _ _ _ _ =>
      exact responded_tracked tracked responded ((numbered_fresh inv).mpr (numbered answered _ known))
  | sent found sends did kept => exact sent_tracked tracked found sends did

/-- A fresh number is what keeps the entries of the sends in flight. -/
theorem responded_unambiguous (pool : Pool all) (inv : Inv all sys posted entries lost) (tracked : Tracked sys)
    {connId : UInt16} {ctx : ConnectionContext} {request : Request} {buf : Buffer} {wr : SendWr}
    (responded : Responded sys next connId ctx request buf wr) :
    (∀ send ∈ sys.sends, next.server.postedSendBuffers send.wr.wrId = sys.server.postedSendBuffers send.wr.wrId) ↔
      Fresh sys (sendId connId request) := by
  constructor
  · intro kept send sending same
    obtain ⟨old, own, -⟩ := tracked.own send sending
    have here := kept send sending
    rw [responded.tracked, same, Function.update_self, ← same, own] at here
    obtain rfl := Option.some.inj here
    have held : buf ∈ entries.map (·.2) := List.mem_map.mpr ⟨_, inv.sound.tracked.entry.mp own, rfl⟩
    have apart := (List.nodup_append.mp (List.nodup_append.mp (inv.sound.nodup pool)).2.1).2.2 buf responded.free buf
    exact apart (by simp [held]) rfl
  · intro fresh send sending
    rw [responded.tracked, Function.update_of_ne (fresh send sending)]

theorem sent_unambiguous (tracked : Tracked sys) {index : Nat} {send : InFlight}
    (found : sys.sends[index]? = some send) (did : SentCase sys send entries next entries')
    (signaled : send.wr.signaled = true) : ∃ buf, send.wr.sgList.map Sge.addr = [buf.addr] ∧
      next.server.freeBuffers = sys.server.freeBuffers ++ [buf] := by
  obtain ⟨buf, own, address⟩ := tracked.own send (List.mem_of_getElem? found)
  cases did with
  | silent unsignaled server same => exact absurd signaled (by simp [unsignaled])
  | untracked _ missing server same =>
    rw [own] at missing
    cases missing
  | freed other _ held free erased same =>
    obtain rfl := Option.some.inj (own.symm.trans held)
    exact ⟨buf, address, free⟩

theorem step_unambiguous_iff (pool : Pool all) (inv : Inv all sys posted entries lost) (tracked : Tracked sys)
    {now : List Unit} (taken : step sys event = some (next, now)) : Unambiguous sys event ↔ Numbered sys event := by
  obtain ⟨posted', entries', lost', -, did⟩ := step_cases pool inv taken
  have only : ∀ {property : System → Prop}, property next →
      ∀ other later, step sys event = some (other, later) → property other := by
    intro property holds other later again
    obtain ⟨rfl, -⟩ := Prod.mk.inj (Option.some.inj (taken.symm.trans again))
    exact holds
  constructor
  · intro unambiguous
    cases did with
    | accept _ _ _ _ _ _ => trivial
    | sent _ _ _ _ => trivial
    | @request connId data byteLen ctx known case =>
      rintro answered ctx' known'
      obtain rfl := Option.some.inj (known.symm.trans known')
      cases case with
      | unanswered silent _ _ _ _ _ _ => exact absurd answered silent
      | answered buf wr _ responded _ _ _ _ =>
        exact (numbered_fresh inv).mp
          ((responded_unambiguous pool inv tracked responded).mp (unambiguous next now taken).2)
  · intro numbered
    have later := step_tracked inv tracked did numbered
    refine only ⟨later.distinct, ?_⟩
    cases did with
    | accept _ _ _ _ _ _ => trivial
    | @sent index send found _ case _ =>
      intro other found' signaled
      obtain rfl := Option.some.inj (found.symm.trans found')
      exact sent_unambiguous tracked found case signaled
    | @request connId data byteLen ctx known case =>
      cases case with
      | unanswered _ _ same _ _ _ _ => exact fun send _ => by rw [same]
      | answered buf wr answered responded _ _ _ _ =>
        exact (responded_unambiguous pool inv tracked responded).mpr
          ((numbered_fresh inv).mpr (numbered answered ctx known))

end Steps

/-- The store that `KVServer::Initialize` makes is consistent. -/
theorem server_store {storage : Nat → UInt8} {store : KVStore}
    (initialized : KVStore.new.initializeWith {} (some storage) = some (true, store)) :
    ∃ width, Consistent hashKey width store := by
  obtain ⟨width, made, makes, consistent, -⟩ :=
    initialize_consistent hashKey {} (by decide) (by decide) (by decide) (by decide) storage
  obtain ⟨-, rfl⟩ := Prod.mk.inj (Option.some.inj (initialized.symm.trans makes))
  exact ⟨width, consistent⟩

/-- The invariant of the runs in which no number is in use twice. -/
def Tracking (all : List Buffer) (sys : System) : Prop :=
  (∃ posted entries lost, Inv all sys posted entries lost) ∧ Tracked sys

/-- In every run of the server, from a pool of 512 buffers in one block of memory, the sends in flight are told apart
and each completion frees the buffer of its send exactly if no request is answered while a response of its connection
with the same number is in flight. -/
theorem tracking_iff {base : UInt64} {lkey : UInt32} (null : base ≠ 0)
    (fits : base.toNat + 512 * MAX_REQUEST_SIZE ≤ 2 ^ 64) {storage : Nat → UInt8} {store : KVStore}
    (initialized : KVStore.new.initializeWith {} (some storage) = some (true, store)) {events : List Event}
    {last : System} {outputs : List Unit}
    (ran : run step (.new store (poolBuffers base lkey)) events = some (last, outputs)) :
    Meets step Unambiguous (.new store (poolBuffers base lkey)) events ↔
      Meets step Numbered (.new store (poolBuffers base lkey)) events := by
  obtain ⟨width, consistent⟩ := server_store initialized
  have pool := poolBuffers_pool lkey null fits
  have start : Tracking (poolBuffers base lkey) (.new store (poolBuffers base lkey)) :=
    ⟨⟨[], [], [], new_inv consistent _⟩, List.nodup_nil, by simp [System.new]⟩
  refine meets_congr ?_ ?_ start ran
  · rintro sys event next now ⟨⟨posted, entries, lost, inv⟩, tracked⟩ taken
    exact step_unambiguous_iff pool inv tracked taken
  · rintro sys event next now ⟨⟨posted, entries, lost, inv⟩, tracked⟩ numbered taken
    obtain ⟨posted', entries', lost', kept, did⟩ := step_cases pool inv taken
    exact ⟨⟨posted', entries', lost', kept⟩, step_tracked inv tracked did numbered⟩

/-- The bytes of a GET and of a PUT header that carry no value. -/
def getBytes (i : Nat) : UInt8 := if i = 0 then OpType.get.value else 0
def putBytes (i : Nat) : UInt8 := if i = 0 then OpType.put.value else 0

/-- A connection with the default configuration, whose device accepts everything. -/
def oneConnection : Event := .accept 7 {} (fun _ => none) (fun _ => none)

/-- What a run of the server from the initial state leaves. -/
def serverRun (events : List Event) : Option (KVStore × System × List Unit) :=
  match KVStore.new.initializeWith {} (some fun _ => 0) with
  | some (true, store) => (run step (.new store (poolBuffers 65536 7)) events).map (store, ·)
  | _ => none

theorem serverRun_some {events : List Event} {store : KVStore} {last : System} {outputs : List Unit}
    (ran : serverRun events = some (store, last, outputs)) :
    KVStore.new.initializeWith {} (some fun _ => 0) = some (true, store) ∧
      run step (.new store (poolBuffers 65536 7)) events = some (last, outputs) := by
  unfold serverRun at ran
  split at ran
  · rename_i made initialized
    obtain ⟨result, ran, same⟩ := Option.map_eq_some_iff.mp ran
    obtain ⟨rfl, rfl⟩ := Prod.mk.inj same
    exact ⟨initialized, ran⟩
  · cases ran

/-- A GET and a PUT in flight on one connection both have number 0. -/
theorem first_get_and_put_clash : ∃ store last outputs, serverRun [oneConnection, .request 7 getBytes 16,
      .request 7 putBytes 16] = some (store, last, outputs) ∧
    last.sends.map (fun send => send.wr.wrId) = [encode 7 .requestSend 0 0, encode 7 .requestSend 0 0] ∧
    ¬Meets step Unambiguous (.new store (poolBuffers 65536 7)) [oneConnection, .request 7 getBytes 16,
      .request 7 putBytes 16] := by
  have ids : (serverRun [oneConnection, .request 7 getBytes 16, .request 7 putBytes 16]).map
      (fun done => done.2.1.sends.map fun send => send.wr.wrId) =
        some [encode 7 .requestSend 0 0, encode 7 .requestSend 0 0] := by decide +kernel
  obtain ⟨⟨store, last, outputs⟩, ran, same⟩ := Option.map_eq_some_iff.mp ids
  refine ⟨store, last, outputs, ran, same, fun meets => ?_⟩
  obtain ⟨first, _, _, accepted, rest, -⟩ := run_cons_some.mp (serverRun_some ran).2
  obtain ⟨second, _, _, got, rest, -⟩ := run_cons_some.mp rest
  obtain ⟨third, _, _, put, rest, -⟩ := run_cons_some.mp rest
  obtain ⟨rfl, -⟩ := Prod.mk.inj (Option.some.inj rest)
  have distinct := (((meets.2 _ _ accepted).2 _ _ got).1 _ _ put).1
  rw [same] at distinct
  exact absurd distinct (by decide)

theorem lone_get_tracked : ∃ store last outputs,
    run step (.new store (poolBuffers 65536 7)) [oneConnection, .request 7 getBytes 16] = some (last, outputs) ∧
      (Meets step Unambiguous (.new store (poolBuffers 65536 7)) [oneConnection, .request 7 getBytes 16] ↔
        Meets step Numbered (.new store (poolBuffers 65536 7)) [oneConnection, .request 7 getBytes 16]) := by
  have ids : ((serverRun [oneConnection, .request 7 getBytes 16]).map fun done => done.2.1.sends.length) = some 1 := by
    decide +kernel
  obtain ⟨⟨store, last, outputs⟩, served, -⟩ := Option.map_eq_some_iff.mp ids
  obtain ⟨initialized, ran⟩ := serverRun_some served
  exact ⟨store, last, outputs, ran, tracking_iff (by decide) (by decide) initialized ran⟩

end Rdma.KvTracking
