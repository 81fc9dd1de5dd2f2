import Rdma.EndpointRuns

/-!
The receive queue of a connection under `OnWriteWithImmRecv`
(`rpc_endpoint.h`). Each write with an immediate consumes the oldest posted
receive, and the handler is to post another. It does so unless the token is
stale, the buffer pool is empty or the device refuses (`count_kept_iff`), and
what it posts is a fresh buffer: the consumed one is in neither the queue nor the
pool from then on (`consumed_lost`). Both together say how far receives are
replenished (`receives_replenished`), and a pool of `n` free buffers carries at
most `n` replenished completions (`replenished_at_most`).
-/
namespace Rdma.Receives
open Rdma.Types Rdma.Verbs Rdma.Runs Rdma.QueuePairs Rdma.Connections Rdma.BufferPools Rdma.SlotPools Rdma.Endpoints
open Rdma.EndpointRuns

/-! ### The receive queue -/

/-- The receives that the device accepted, oldest first. -/
def accepted (device : Device) : List RecvWr := (device.recvs.filter (·.2)).map (·.1)

/-- `consumed` counts the accepted receives that completions have used up. -/
structure Receiver where
  endpoint : RpcEndpoint
  consumed : Nat

abbrev Receiver.device (receiver : Receiver) : Device := receiver.endpoint.conn.qp.device
abbrev Receiver.pool (receiver : Receiver) : LocalBufferPool := receiver.endpoint.bufferPool

/-- The receives posted on the connection. -/
def Receiver.posted (receiver : Receiver) : List RecvWr := (accepted receiver.device).drop receiver.consumed

/-- The receives consumed since the count was `since`. -/
def Receiver.used (receiver : Receiver) (since : Nat) : List RecvWr :=
  ((accepted receiver.device).take receiver.consumed).drop since

/-- The addresses of the buffers of receives. -/
def addresses (wrs : List RecvWr) : List UInt64 := wrs.flatMap fun wr => wr.sgList.map (·.addr)

/-- The addresses of the free buffers of the pool. -/
def Receiver.free (receiver : Receiver) : List UInt64 := receiver.pool.freeBuffers.map (·.addr)

/-- `requests` is what the other calls on the endpoint do to its slots between two completions. -/
inductive Event
  | response (wc : Wc)
  | requests (slotPool : RpcSlotPool)

/-- Without a posted receive there is no completion. -/
def step (receiver : Receiver) : Event → Option (Receiver × List Call)
  | .response wc =>
    if receiver.consumed < (accepted receiver.device).length then do
      let (endpoint, calls) ← receiver.endpoint.onWriteWithImmRecv wc
      some (⟨endpoint, receiver.consumed + 1⟩, calls)
    else none
  | .requests slotPool => some ({ receiver with endpoint := { receiver.endpoint with slotPool } }, [])

def Event.isResponse : Event → Bool
  | .response _ => true
  | .requests _ => false

/-- How many completions the events handle. -/
def completions (events : List Event) : Nat := events.countP Event.isResponse

theorem completions_cons (event : Event) (rest : List Event) :
    completions (event :: rest) = completions [event] + completions rest := by
  rw [completions, completions, completions, ← List.countP_append, List.singleton_append]

/-! ### What is asked of the handler -/

/-- After the event as many receives are posted as before the completion consumed one. -/
def CountKept (receiver : Receiver) (event : Event) : Prop :=
  ∀ next calls, step receiver event = some (next, calls) → next.posted.length = receiver.posted.length

/-- Each receive consumed since then has a buffer that is posted or free. -/
def NothingLost (since : Nat) (receiver : Receiver) : Prop :=
  ∀ wr ∈ receiver.used since, ∃ sge ∈ wr.sgList, sge.addr ∈ addresses receiver.posted ∨ sge.addr ∈ receiver.free

/-- The token is the current generation of its slot, a buffer is free and the device accepts the next receive. -/
def Replaces (receiver : Receiver) : Event → Prop
  | .response wc =>
    receiver.endpoint.slotPool.Names (immSlotIndex wc) (immGeneration wc) ∧ receiver.pool.count ≠ 0 ∧
      receiver.device.recvAnswer receiver.device.recvs.length = none
  | .requests _ => True

/-- No buffer is posted twice, posted and free, or free twice, and the free buffers are valid. -/
structure Owned (since : Nat) (receiver : Receiver) : Prop where
  since_le : since ≤ receiver.consumed
  consumed_le : receiver.consumed ≤ (accepted receiver.device).length
  inRange : InRange receiver.pool
  aligned : Aligned receiver.pool
  valid : ∀ buf ∈ receiver.pool.freeBuffers, buf.isValid = true
  distinct : (addresses ((accepted receiver.device).drop since) ++ receiver.free).Nodup

/-- A pool as it was created serves a connection whose receives have buffers of their own. -/
theorem built_owned {receiver : Receiver} {config : BufferPoolConfig} (built : Built receiver.pool config)
    (small : receiver.pool.bufferCount.toNat < 2 ^ 63)
    (consumed_le : receiver.consumed ≤ (accepted receiver.device).length)
    (valid : ∀ buf ∈ receiver.pool.freeBuffers, buf.isValid = true)
    (distinct : (addresses ((accepted receiver.device).drop receiver.consumed) ++ receiver.free).Nodup) :
    Owned receiver.consumed receiver := by
  obtain ⟨inRange, aligned⟩ := built_aligned built small
  exact ⟨Nat.le_refl _, consumed_le, inRange, aligned, valid, distinct⟩

/-! ### One completion -/

/-- The state in which the handler leaves the receive queue and the pool: the token is stale, the pool is empty, or
    a buffer is taken from the pool and handed to the device. -/
inductive Responded (receiver : Receiver) (wc : Wc) : Receiver → Prop
  | stale {next : Receiver} (other : ¬receiver.endpoint.slotPool.Names (immSlotIndex wc) (immGeneration wc))
      (device : next.device = receiver.device) (pool : next.pool = receiver.pool)
      (consumed : next.consumed = receiver.consumed + 1) : Responded receiver wc next
  | exhausted {next : Receiver} (current : receiver.endpoint.slotPool.Names (immSlotIndex wc) (immGeneration wc))
      (none_free : receiver.pool.count = 0) (device : next.device = receiver.device)
      (pool : next.pool = receiver.pool) (consumed : next.consumed = receiver.consumed + 1) :
      Responded receiver wc next
  | handed {next : Receiver} {buf : Buffer}
      (current : receiver.endpoint.slotPool.Names (immSlotIndex wc) (immGeneration wc))
      (available : receiver.pool.count ≠ 0)
      (taken : receiver.pool.freeBuffers.Perm (buf :: next.pool.freeBuffers))
      (count : next.pool.count.toNat + 1 = receiver.pool.count.toNat) (inRange : InRange next.pool)
      (aligned : Aligned next.pool)
      (device : next.device = (receiver.device.ibvPostRecv { wrId := 0, sgList := [sgeOf buf] }).2)
      (consumed : next.consumed = receiver.consumed + 1) : Responded receiver wc next

/-- The device of the connection after a receive was posted on it. -/
theorem postRecv_device (conn : Connection) (buf : Buffer) (wrId : UInt64) :
    (conn.postRecv buf wrId).2.qp.device = (conn.qp.device.ibvPostRecv { wrId, sgList := [sgeOf buf] }).2 := by
  rw [postRecv_conn]

theorem response_inv {since : Nat} {receiver next : Receiver} {wc : Wc} {calls : List Call}
    (owned : Owned since receiver) (handled : step receiver (.response wc) = some (next, calls)) :
    receiver.consumed < (accepted receiver.device).length ∧ Responded receiver wc next := by
  by_cases posted : receiver.consumed < (accepted receiver.device).length
  · refine ⟨posted, ?_⟩
    rw [step, if_pos posted] at handled
    obtain ⟨⟨endpoint, called⟩, handling, same⟩ := Option.bind_eq_some_iff.mp handled
    obtain ⟨rfl, -⟩ := Prod.mk.inj (Option.some.inj same)
    obtain ⟨checked, read, handling⟩ := Option.bind_eq_some_iff.mp handling
    have which := getHotChecked_inv read
    by_cases names : receiver.endpoint.slotPool.Names (immSlotIndex wc) (immGeneration wc)
    · rw [if_pos names] at which
      subst which
      obtain ⟨⟨counted, called'⟩, completed, handling⟩ := Option.bind_eq_some_iff.mp handling
      obtain ⟨reposted, reposting, handling⟩ := Option.bind_eq_some_iff.mp handling
      obtain ⟨rfl, -⟩ := Prod.mk.inj (Option.some.inj handling)
      have frame := (completeWr_onPool completed).frame
      have poolSame : counted.bufferPool = receiver.pool := by rw [frame]
      have connSame : counted.conn = receiver.endpoint.conn := by rw [frame]
      obtain ⟨buf, bufferPool, allocated, rfl⟩ := repostRecvBuffer_inv reposting
      rw [poolSame] at allocated
      by_cases none_free : receiver.pool.count = 0
      · rw [allocate_exhausted none_free] at allocated
        obtain ⟨rfl, rfl⟩ := Prod.mk.inj (Option.some.inj allocated)
        refine .exhausted names none_free ?_ rfl rfl
        have invalid : ¬Buffer.empty.isValid = true := by decide
        simp only [Receiver.device, if_neg invalid, connSame]
      · obtain ⟨buf', bufferPool', allocated', taken, count, inRange, aligned⟩ :=
          allocate_takes owned.inRange owned.aligned none_free
        obtain ⟨rfl, rfl⟩ := Prod.mk.inj (Option.some.inj (allocated.symm.trans allocated'))
        have valid := owned.valid buf (taken.mem_iff.mpr List.mem_cons_self)
        refine .handed names none_free taken count inRange aligned ?_ rfl
        simp only [Receiver.device, if_pos valid, connSame, postRecv_device]
    · rw [if_neg names] at which
      subst which
      obtain ⟨rfl, -⟩ := Prod.mk.inj (Option.some.inj handling)
      exact .stale names rfl rfl rfl
  · rw [step, if_neg posted] at handled
    cases handled

/-! ### What is posted -/

theorem accepted_post (device : Device) (wr : RecvWr) :
    accepted (device.ibvPostRecv wr).2 =
      accepted device ++ if device.recvAnswer device.recvs.length = none then [wr] else [] := by
  unfold accepted Device.ibvPostRecv
  cases answer : device.recvAnswer device.recvs.length with
  | none => simp
  | some errno => simp

theorem posted_length (receiver : Receiver) :
    receiver.posted.length = (accepted receiver.device).length - receiver.consumed := List.length_drop

/-- A completion is replaced exactly where the token is current, a buffer is free and the device accepts. -/
theorem count_kept_iff {since : Nat} {receiver next : Receiver} {event : Event} {calls : List Call}
    (owned : Owned since receiver) (taken : step receiver event = some (next, calls)) :
    CountKept receiver event ↔ Replaces receiver event := by
  have only : CountKept receiver event ↔ next.posted.length = receiver.posted.length := by
    constructor
    · intro kept
      exact kept next calls taken
    · intro kept other called taken'
      obtain ⟨rfl, -⟩ := Prod.mk.inj (Option.some.inj (taken.symm.trans taken'))
      exact kept
  rw [only]
  cases event with
  | requests slotPool =>
    obtain ⟨rfl, -⟩ := Prod.mk.inj (Option.some.inj taken)
    exact iff_of_true rfl trivial
  | response wc =>
    obtain ⟨posted, responded⟩ := response_inv owned taken
    cases responded with
    | stale other device pool consumed =>
      refine iff_of_false ?_ fun replaces => other replaces.1
      rw [posted_length, posted_length, device, consumed]
      omega
    | exhausted current none_free device pool consumed =>
      refine iff_of_false ?_ fun replaces => replaces.2.1 none_free
      rw [posted_length, posted_length, device, consumed]
      omega
    | handed current available _ count inRange aligned device consumed =>
      rw [posted_length, posted_length, device, consumed, accepted_post, List.length_append]
      by_cases accepts : receiver.device.recvAnswer receiver.device.recvs.length = none
      · rw [if_pos accepts]
        refine iff_of_true ?_ ⟨current, available, accepts⟩
        simp only [List.length_singleton]
        omega
      · rw [if_neg accepts]
        refine iff_of_false ?_ fun replaces => accepts replaces.2.2
        simp only [List.length_nil]
        omega

/-! ### What is owned -/

theorem addresses_append (front back : List RecvWr) : addresses (front ++ back) = addresses front ++ addresses back :=
  List.flatMap_append

/-- A completion for which nothing is posted. -/
theorem Owned.unreplaced {since : Nat} {receiver next : Receiver} (owned : Owned since receiver)
    (posted : receiver.consumed < (accepted receiver.device).length) (device : next.device = receiver.device)
    (pool : next.pool = receiver.pool) (consumed : next.consumed = receiver.consumed + 1) : Owned since next where
  since_le := by
    have := owned.since_le
    omega
  consumed_le := by
    rw [device, consumed]
    exact posted
  inRange := by
    rw [pool]
    exact owned.inRange
  aligned := by
    rw [pool]
    exact owned.aligned
  valid := by
    rw [pool]
    exact owned.valid
  distinct := by
    rw [device, Receiver.free, pool]
    exact owned.distinct

theorem step_owned {since : Nat} {receiver next : Receiver} {event : Event} {calls : List Call}
    (owned : Owned since receiver) (taken : step receiver event = some (next, calls)) : Owned since next := by
  cases event with
  | requests slotPool =>
    obtain ⟨rfl, -⟩ := Prod.mk.inj (Option.some.inj taken)
    exact ⟨owned.since_le, owned.consumed_le, owned.inRange, owned.aligned, owned.valid, owned.distinct⟩
  | response wc =>
    obtain ⟨posted, responded⟩ := response_inv owned taken
    have since_le := owned.since_le
    cases responded with
    | stale other device pool consumed => exact owned.unreplaced posted device pool consumed
    | exhausted current none_free device pool consumed => exact owned.unreplaced posted device pool consumed
    | handed current available taking count inRange aligned device consumed =>
      rename_i buf
      have keeps : accepted next.device = accepted receiver.device ++
          if receiver.device.recvAnswer receiver.device.recvs.length = none then [⟨0, [sgeOf buf]⟩] else [] := by
        rw [device, accepted_post]
      have free : receiver.free.Perm (buf.addr :: next.free) := taking.map Buffer.addr
      have distinct : (addresses ((accepted receiver.device).drop since) ++ buf.addr :: next.free).Nodup :=
        (List.Perm.append_left _ free).nodup_iff.mp owned.distinct
      refine ⟨by omega, ?_, inRange, aligned, ?_, ?_⟩
      · rw [keeps, consumed, List.length_append]
        omega
      · intro other member
        exact owned.valid other (taking.mem_iff.mpr (List.mem_cons_of_mem _ member))
      · rw [keeps, List.drop_append_of_le_length (by omega), addresses_append]
        by_cases accepts : receiver.device.recvAnswer receiver.device.recvs.length = none
        · rw [if_pos accepts]
          have one : addresses [⟨0, [sgeOf buf]⟩] = [buf.addr] := rfl
          rw [one, List.append_assoc, List.singleton_append]
          exact distinct
        · rw [if_neg accepts]
          have nothing : addresses [] = [] := rfl
          rw [nothing, List.append_nil]
          exact distinct.sublist (List.Sublist.append_left (List.sublist_cons_self ..) _)

theorem run_owned {since : Nat} {receiver last : Receiver} {events : List Event} {calls : List Call}
    (owned : Owned since receiver) (ran : run step receiver events = some (last, calls)) : Owned since last :=
  invariant_of_run (fun _ _ _ _ kept _ taken => step_owned kept taken) owned
    (meets_of_forall fun _ _ => trivial) ran

/-- The accepted receives are those consumed and those posted. -/
theorem used_posted {since : Nat} {receiver : Receiver} (owned : Owned since receiver) :
    (accepted receiver.device).drop since = receiver.used since ++ receiver.posted := by
  have since_le := owned.since_le
  have split : (accepted receiver.device).take receiver.consumed ++ receiver.posted = accepted receiver.device :=
    List.take_append_drop ..
  have long : since ≤ ((accepted receiver.device).take receiver.consumed).length := by
    have := owned.consumed_le
    rw [List.length_take]
    omega
  rw [Receiver.used, ← List.drop_append_of_le_length long, split]

/-- The buffers of consumed receives are neither posted nor free. -/
theorem consumed_lost {since : Nat} {receiver : Receiver} (owned : Owned since receiver) {address : UInt64}
    (used : address ∈ addresses (receiver.used since)) :
    address ∉ addresses receiver.posted ∧ address ∉ receiver.free := by
  have distinct := owned.distinct
  rw [used_posted owned, addresses_append, List.append_assoc, List.nodup_append] at distinct
  have apart := fun member => distinct.2.2 address used address member rfl
  exact ⟨fun posted => apart (List.mem_append_left _ posted), fun free => apart (List.mem_append_right _ free)⟩

theorem step_consumed {since : Nat} {receiver next : Receiver} {event : Event} {calls : List Call}
    (owned : Owned since receiver) (taken : step receiver event = some (next, calls)) :
    next.consumed = receiver.consumed + completions [event] := by
  cases event with
  | requests slotPool =>
    obtain ⟨rfl, -⟩ := Prod.mk.inj (Option.some.inj taken)
    rfl
  | response wc =>
    obtain ⟨-, responded⟩ := response_inv owned taken
    cases responded with
    | stale other device pool consumed => exact consumed
    | exhausted current none_free device pool consumed => exact consumed
    | handed current available _ count inRange aligned device consumed => exact consumed

theorem run_consumed {since : Nat} {receiver last : Receiver} {events : List Event} {calls : List Call}
    (owned : Owned since receiver) (ran : run step receiver events = some (last, calls)) :
    last.consumed = receiver.consumed + completions events := by
  induction events generalizing receiver calls with
  | nil =>
    obtain ⟨rfl, -⟩ := Prod.mk.inj (Option.some.inj ran)
    rfl
  | cons event rest ih =>
    obtain ⟨next, now, later, taken, after, -⟩ := run_cons_some.mp ran
    have here := step_consumed owned taken
    have there := ih (step_owned owned taken) after
    have parts := completions_cons event rest
    omega

/-! ### Whole runs -/

/-- A run keeps the number of posted receives exactly where each completion is replaced. -/
theorem run_count_kept_iff {since : Nat} {receiver last : Receiver} {events : List Event} {calls : List Call}
    (owned : Owned since receiver) (ran : run step receiver events = some (last, calls)) :
    Meets step CountKept receiver events ↔ Meets step Replaces receiver events := by
  have same : ∀ state event next now, Owned since state → step state event = some (next, now) →
      (CountKept state event ↔ Replaces state event) := fun _ _ _ _ kept taken => count_kept_iff kept taken
  have preserves : ∀ state event next now, Owned since state → Replaces state event →
      step state event = some (next, now) → Owned since next := fun _ _ _ _ kept _ taken => step_owned kept taken
  exact meets_congr same preserves owned ran

/-- Without a completion there is nothing to replace. -/
theorem quiet_replaces {events : List Event} (quiet : completions events = 0) (receiver : Receiver) :
    Meets step Replaces receiver events := by
  induction events generalizing receiver with
  | nil => trivial
  | cons event rest ih =>
    cases event with
    | response wc => simp [completions, Event.isResponse] at quiet
    | requests slotPool =>
      have quiet : completions rest = 0 := by simpa [completions, Event.isResponse] using quiet
      exact ⟨trivial, fun next _ _ => ih quiet next⟩

/-- A buffer is lost with the first completion. -/
theorem nothing_lost_iff {since : Nat} {receiver : Receiver} (owned : Owned since receiver) :
    NothingLost since receiver ↔ receiver.consumed = since := by
  have since_le := owned.since_le
  have consumed_le := owned.consumed_le
  constructor
  · intro kept
    by_contra differ
    have some_used : receiver.used since ≠ [] := by
      intro empty
      have := congrArg List.length empty
      simp only [Receiver.used, List.length_drop, List.length_take, List.length_nil] at this
      omega
    obtain ⟨wr, member⟩ := List.exists_mem_of_ne_nil _ some_used
    obtain ⟨sge, inList, somewhere⟩ := kept wr member
    have used : sge.addr ∈ addresses (receiver.used since) :=
      List.mem_flatMap.mpr ⟨wr, member, List.mem_map_of_mem inList⟩
    obtain ⟨notPosted, notFree⟩ := consumed_lost owned used
    exact somewhere.elim notPosted notFree
  · intro same wr member
    have empty : receiver.used since = [] := by
      rw [Receiver.used, same]
      apply List.drop_eq_nil_of_le
      rw [List.length_take]
      omega
    rw [empty] at member
    cases member

/-- The number of posted receives is kept exactly where each completion carries a current token, finds a free buffer
    and a device that accepts it. A run that also loses no consumed buffer handles no completion. -/
theorem receives_replenished {receiver last : Receiver} {events : List Event} {calls : List Call}
    (owned : Owned receiver.consumed receiver) (ran : run step receiver events = some (last, calls)) :
    (Meets step CountKept receiver events ↔ Meets step Replaces receiver events) ∧
      (Meets step CountKept receiver events ∧ NothingLost receiver.consumed last ↔ completions events = 0) := by
  have consumed := run_consumed owned ran
  have kept := run_owned owned ran
  refine ⟨run_count_kept_iff owned ran, ?_⟩
  rw [nothing_lost_iff kept]
  constructor
  · rintro ⟨-, same⟩
    omega
  · intro quiet
    refine ⟨?_, by omega⟩
    rw [run_count_kept_iff owned ran]
    exact quiet_replaces quiet receiver

/-- The free buffers of the pool bound how many completions are replaced. -/
theorem replenished_at_most {since : Nat} {receiver last : Receiver} {events : List Event} {calls : List Call}
    (owned : Owned since receiver) (ran : run step receiver events = some (last, calls))
    (kept : Meets step CountKept receiver events) :
    completions events + last.pool.count.toNat = receiver.pool.count.toNat := by
  induction events generalizing receiver calls with
  | nil =>
    obtain ⟨rfl, -⟩ := Prod.mk.inj (Option.some.inj ran)
    exact Nat.zero_add _
  | cons event rest ih =>
    obtain ⟨next, now, later, taken, after, -⟩ := run_cons_some.mp ran
    have there := ih (step_owned owned taken) after (kept.2 _ _ taken)
    have parts := completions_cons event rest
    cases event with
    | requests slotPool =>
      obtain ⟨rfl, -⟩ := Prod.mk.inj (Option.some.inj taken)
      have none_here : completions [.requests slotPool] = 0 := rfl
      have same : Receiver.pool { receiver with endpoint := { receiver.endpoint with slotPool } } = receiver.pool := rfl
      rw [same] at there
      omega
    | response wc =>
      have one_here : completions [.response wc] = 1 := rfl
      obtain ⟨current, available, accepts⟩ := (count_kept_iff owned taken).mp kept.1
      obtain ⟨-, responded⟩ := response_inv owned taken
      cases responded with
      | stale other => exact absurd current other
      | exhausted _ none_free => exact absurd none_free available
      | handed _ _ _ count => omega

/-! ### A stale response -/

/-- One receive is posted on the connection and two buffers are free. -/
def oneReceive : Receiver where
  endpoint := { sampleEndpoint 7 {} with
    conn := { connId := 7, state := .connected, qp := {
      config := {}, device := ⟨fun _ => none, fun _ => none, [], [(⟨0, [⟨4096, 4096, 7⟩]⟩, true)]⟩ } } }
  consumed := 0

theorem oneReceive_owned : Owned oneReceive.consumed oneReceive := by
  have built : Built oneReceive.pool _ := create_built create_twoPool
  exact built_owned built (by decide) (Nat.zero_le _) (by decide) (by decide)

/-- A response of a request that no longer holds its slot. -/
def staleResponse : Wc := { wrId := 0, immData := htonl (immOf 0 1) }

/-- The stale response uses up the only posted receive, and none is posted in its place. -/
theorem stale_response_drains :
    Owned oneReceive.consumed oneReceive ∧
      ∃ last calls, run step oneReceive [.response staleResponse] = some (last, calls) ∧
        ¬Meets step CountKept oneReceive [.response staleResponse] ∧ last.posted = [] ∧
        ¬NothingLost oneReceive.consumed last := by
  refine ⟨oneReceive_owned, _, _, rfl, ?_, by decide, ?_⟩
  · rintro ⟨kept, -⟩
    have same := kept _ _ rfl
    exact absurd same (by decide)
  · intro kept
    obtain ⟨sge, inList, somewhere⟩ := kept ⟨0, [⟨4096, 4096, 7⟩]⟩ (by decide)
    obtain rfl := List.mem_singleton.mp inList
    exact absurd somewhere (by decide)

theorem stale_response_replenished :
    ∃ last calls, run step oneReceive [.response staleResponse] = some (last, calls) ∧
      (Meets step CountKept oneReceive [.response staleResponse] ↔
        Meets step Replaces oneReceive [.response staleResponse]) ∧
      (Meets step CountKept oneReceive [.response staleResponse] ∧ NothingLost oneReceive.consumed last ↔
        completions [.response staleResponse] = 0) :=
  ⟨_, _, rfl, receives_replenished oneReceive_owned rfl⟩

end Rdma.Receives
