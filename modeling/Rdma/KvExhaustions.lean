import Rdma.KvServices
import Rdma.Signaling
import Rdma.Spacings

/-!
How long the server answers. A response takes a buffer of the pool, even of a
correct one, which only the completion of a signaled send brings back, and the
queue pairs signal one send in so many. So the server answers a bounded number of requests, from all its
connections together (`responses_bounded`); those that come later change the
store, and get no answer.
-/
namespace Rdma.KvExhaustions
open Rdma.Types Rdma.Verbs Rdma.Runs Rdma.QueuePairs Rdma.Spacings
open Rdma.KvProtocols Rdma.KvStores Rdma.KvServers Rdma.KvBuffers Rdma.KvTracking Rdma.Observations Rdma.KvServices
open Rdma.Signaling (shouldSignal_signaled)

/-- The signaled sends of the queue pair are that far apart. -/
def Sparse (interval : Nat) (qp : QueuePair) : Prop :=
  interval ≤ qp.config.signalInterval.toNat ∧
    Spaced interval qp.unsignaledCount.toNat (fun sent => sent.1.signaled) qp.device.sends

theorem succ_le (count : UInt32) : (count + 1).toNat ≤ count.toNat + 1 := by
  rw [UInt32.toNat_add]
  exact Nat.mod_le ..

/-- Another send, signaled as the queue pair decides. -/
theorem Sparse.sent {interval : Nat} {qp after : QueuePair} (sparse : Sparse interval qp) {sent : SendWr × Bool}
    (signaled : sent.1.signaled = qp.shouldSignal.1) (sends : after.device.sends = qp.device.sends ++ [sent])
    (config : after.config = qp.config) (count : after.unsignaledCount = qp.shouldSignal.2.unsignaledCount) :
    Sparse interval after := by
  obtain ⟨apart, spaced⟩ := sparse
  refine ⟨config ▸ apart, ?_⟩
  rw [sends, count]
  cases decided : qp.shouldSignal.1 with
  | false =>
    rw [shouldSignal_unsignaled decided]
    exact spaced.skip (signaled.trans decided) (succ_le _)
  | true =>
    have due := decided
    rw [shouldSignal_eq, Bool.and_eq_true, decide_eq_true_iff] at due
    have reached := UInt32.le_iff_toNat_le.mp due.1
    rw [shouldSignal_signaled decided]
    exact spaced.next (signaled.trans decided) ((apart.trans reached).trans (succ_le _))

/-- A connection is accepted with such an interval. -/
def Sparing (interval : Nat) : Event → Prop
  | .accept _ config _ _ => interval ≤ config.signalInterval.toNat
  | _ => True

/-- The posts of each connection are what its device was handed. -/
structure Posted (interval : Nat) (sys : System) (posts : List Post) : Prop where
  unknown : ∀ connId, sys.server.connContexts connId = none → posts.filter (·.connId = connId) = []
  known : ∀ connId ctx, sys.server.connContexts connId = some ctx → Sparse interval ctx.conn.qp ∧
    (posts.filter (·.connId = connId)).map Post.wr = ctx.conn.qp.device.sends.map (·.1)

/-- Every buffer that was posted is tracked or lost, unless a signaled send has brought it back. -/
def Spent (sys : System) (posts : List Post) (entries : List (UInt64 × Buffer)) (lost : List Buffer) : Prop :=
  ∃ back, back + sys.sends.countP (·.wr.signaled) ≤ posts.countP (·.wr.signaled) ∧
    posts.length ≤ entries.length + lost.length + back

theorem Posted.spaced {interval : Nat} {sys : System} {posts : List Post} (posted : Posted interval sys posts) :
    Spaced interval 0 (fun post => post.wr.signaled) posts := by
  refine spaced_grouped Post.connId fun connId => ?_
  cases known : sys.server.connContexts connId with
  | none =>
    rw [posted.unknown connId known]
    exact spaced_nil
  | some ctx =>
    obtain ⟨⟨-, spaced⟩, same⟩ := posted.known connId ctx known
    have signals : Spaced interval ctx.conn.qp.unsignaledCount.toNat SendWr.signaled
        ((posts.filter (·.connId = connId)).map Post.wr) := by
      rw [same]
      exact spaced_map.mpr spaced
    exact (spaced_map.mp signals).weaken

section Steps
variable {all : List Buffer} {sys next : System} {posted : List (UInt16 × Buffer)} {entries : List (UInt64 × Buffer)}
  {lost : List Buffer} {interval : Nat} {before : List Post} {connId : UInt16}

/-- The posts of a step are those of one connection. -/
theorem Posted.handled (posted : Posted interval sys before) {ctx after : ConnectionContext} {data : Nat → UInt8}
    {store : KVStore} {written : UInt64 → Option Response} {sends : List (SendWr × Bool)}
    (known : sys.server.connContexts connId = some ctx)
    (handled : Handled sys next connId ctx after data store written sends)
    (sparse : Sparse interval after.conn.qp) : Posted interval next (before ++ posts sys next connId) := by
  have new : posts sys next connId = sends.map fun sent => ⟨connId, sent.1, contentOf next.server sent.1⟩ :=
    posts_handled known handled
  have others : ∀ other, other ≠ connId → (posts sys next connId).filter (·.connId = other) = [] := by
    intro other apart
    refine List.filter_eq_nil_iff.mpr fun post member => ?_
    rw [new] at member
    obtain ⟨sent, -, rfl⟩ := List.mem_map.mp member
    simpa using Ne.symm apart
  have own : (posts sys next connId).filter (·.connId = connId) = posts sys next connId := by
    refine List.filter_eq_self.mpr fun post member => ?_
    rw [new] at member
    obtain ⟨sent, -, rfl⟩ := List.mem_map.mp member
    simp
  constructor
  · intro other none_
    rw [handled.contexts] at none_
    have apart : other ≠ connId := by
      rintro rfl
      rw [Function.update_self] at none_
      cases none_
    rw [Function.update_of_ne apart] at none_
    rw [List.filter_append, posted.unknown other none_, others other apart, List.nil_append]
  · intro other found here
    rw [handled.contexts] at here
    by_cases mine : other = connId
    · subst mine
      rw [Function.update_self] at here
      obtain rfl := Option.some.inj here
      refine ⟨sparse, ?_⟩
      rw [List.filter_append, own, List.map_append, (posted.known _ _ known).2, handled.sent, List.map_append, new,
        List.map_map]
      rfl
    · rw [Function.update_of_ne mine] at here
      rw [List.filter_append, others other mine, List.append_nil]
      exact posted.known other found here

/-- A new connection has posted nothing. -/
theorem Posted.accept (posted : Posted interval sys before) (unknown : sys.server.connContexts connId = none)
    {config : QueuePairConfig} (apart : interval ≤ config.signalInterval.toNat)
    (sendAnswer recvAnswer : Nat → Option Int) :
    Posted interval (sys.accept (established connId config sendAnswer recvAnswer)) before := by
  let ctx := established connId config sendAnswer recvAnswer
  obtain ⟨free, tracked, recvs, accepts⟩ := postRecvBuffers_frame sys.server ctx 32
  have contexts : (sys.accept ctx).server.connContexts =
      Function.update sys.server.connContexts connId (some (received ctx recvs)) := by
    unfold System.accept
    rw [accepts]
    rfl
  constructor
  · intro other none_
    rw [contexts] at none_
    have elsewhere : other ≠ connId := by
      rintro rfl
      rw [Function.update_self] at none_
      cases none_
    rw [Function.update_of_ne elsewhere] at none_
    exact posted.unknown other none_
  · intro other found here
    rw [contexts] at here
    by_cases mine : other = connId
    · subst mine
      rw [Function.update_self] at here
      obtain rfl := Option.some.inj here
      refine ⟨⟨apart, spaced_nil⟩, ?_⟩
      rw [posted.unknown _ unknown]
      rfl
    · rw [Function.update_of_ne mine] at here
      exact posted.known other found here

/-- A completed send leaves the queue pairs alone. -/
theorem Posted.congr (posted : Posted interval sys before)
    (contexts : next.server.connContexts = sys.server.connContexts) : Posted interval next before :=
  ⟨contexts ▸ posted.unknown, contexts ▸ posted.known⟩

theorem Spent.sent {entries' : List (UInt64 × Buffer)} (inv : Inv all sys posted entries lost)
    (spent : Spent sys before entries lost) {index : Nat} {send : InFlight} (found : sys.sends[index]? = some send)
    (sends : next.sends = sys.sends.eraseIdx index) (did : SentCase sys send entries next entries') :
    Spent next before entries' lost := by
  obtain ⟨back, due, taken⟩ := spent
  have split := (sends_split found).countP_eq (·.wr.signaled)
  rw [List.countP_cons] at split
  cases did with
  | silent unsignaled server same => exact ⟨back, by rw [sends]; omega, by rw [same]; exact taken⟩
  | untracked signaled missing server same => exact ⟨back, by rw [sends]; omega, by rw [same]; exact taken⟩
  | freed buf signaled held free erased same =>
    have listed := inv.sound.tracked.entry.mp held
    have fewer := List.length_erase_of_mem listed
    have some_ := List.length_pos_of_mem listed
    refine ⟨back + 1, ?_, ?_⟩
    · rw [sends]
      rw [signaled, if_pos rfl] at split
      omega
    · rw [same]
      omega

/-- A response takes a buffer. -/
theorem Spent.answered {posted' : List (UInt16 × Buffer)} {entries' : List (UInt64 × Buffer)} {lost' gone : List Buffer}
    (inv : Inv all sys posted entries lost) (inv' : Inv all next posted' entries' lost')
    (spent : Spent sys before entries lost) {ctx after : ConnectionContext} {data : Nat → UInt8} {store : KVStore}
    {written : UInt64 → Option Response} {wr other : SendWr} {accepted : Bool} {buf : Buffer}
    (known : sys.server.connContexts connId = some ctx)
    (handled : Handled sys next connId ctx after data store written [(wr, accepted)])
    (responded : Responded sys next connId ctx (requestOf ctx data) buf other)
    (added : sys.server.postedSendBuffers (sendId connId (requestOf ctx data)) = none →
      entries' = (sendId connId (requestOf ctx data), buf) :: entries)
    (grown : lost' = gone ++ ((sys.server.postedSendBuffers (sendId connId (requestOf ctx data))).toList ++ lost)) :
    Spent next (before ++ posts sys next connId) entries' lost' := by
  obtain ⟨back, due, taken⟩ := spent
  have new : posts sys next connId = [⟨connId, wr, contentOf next.server wr⟩] := posts_handled known handled
  have flying : next.sends.countP (·.wr.signaled) ≤ sys.sends.countP (·.wr.signaled) + if wr.signaled then 1 else 0 := by
    rw [handled.sends, List.countP_append]
    refine Nat.add_le_add_left ?_ _
    cases accepted with
    | false => exact Nat.zero_le _
    | true => simp [List.countP_singleton]
  have more : entries.length + lost.length + 1 ≤ entries'.length + lost'.length := by
    cases found : sys.server.postedSendBuffers (sendId connId (requestOf ctx data)) with
    | none =>
      rw [added found, grown, found, List.length_cons, List.length_append, Option.toList_none, List.nil_append]
      omega
    | some old =>
      have tracked := inv'.sound.tracked
      rw [responded.tracked] at tracked
      have same := (tracked.perm (inv.sound.tracked.replace found buf)).length_eq
      have listed := inv.sound.tracked.entry.mp found
      have some_ := List.length_pos_of_mem listed
      rw [List.length_cons, List.length_erase_of_mem listed] at same
      rw [grown, found, List.length_append, Option.toList_some, List.singleton_append, List.length_cons]
      omega
  refine ⟨back, ?_, ?_⟩
  · rw [new, List.countP_append, List.countP_singleton]
    dsimp only
    omega
  · rw [new, List.length_append, List.length_singleton]
    omega

/-- Where no request is answered nothing is posted. -/
theorem posts_none {ctx after : ConnectionContext} {data : Nat → UInt8} {store : KVStore}
    {written : UInt64 → Option Response} (known : sys.server.connContexts connId = some ctx)
    (handled : Handled sys next connId ctx after data store written []) : posts sys next connId = [] :=
  posts_handled known handled

theorem Spent.unanswered {entries' : List (UInt64 × Buffer)} {lost' gone : List Buffer}
    (spent : Spent sys before entries lost) (sends : next.sends = sys.sends) (same : entries' = entries)
    (grown : lost' = gone ++ lost) : Spent next before entries' lost' := by
  obtain ⟨back, due, taken⟩ := spent
  refine ⟨back, by rw [sends]; exact due, ?_⟩
  rw [same, grown, List.length_append]
  omega

/-- What a step posts and what it takes and brings back. -/
theorem step_spent (pool : Pool all) {capacity width : Nat} {service : Service capacity}
    (inv : Inv all sys posted entries lost) (serves : Serves width sys.server.store service)
    (spent : Spent sys before entries lost) (sent : Posted interval sys before) {event : Event}
    (sparing : Sparing interval event) {now : List Unit} (taken : step sys event = some (next, now)) :
    ∃ posted' entries' lost', Inv all next posted' entries' lost' ∧
      Spent next (before ++ (replies sys event next).flatMap Reply.posts) entries' lost' ∧
      Posted interval next (before ++ (replies sys event next).flatMap Reply.posts) := by
  obtain ⟨posted', entries', lost', inv', did⟩ := step_cases pool inv taken
  refine ⟨posted', entries', lost', inv', ?_⟩
  cases did with
  | @accept connId config sendAnswer recvAnswer sends tracked same gone grown kept =>
    rw [step] at taken
    split at taken
    · cases taken
    · rename_i unknown
      obtain ⟨rfl, -⟩ := Prod.mk.inj (Option.some.inj taken)
      change Spent _ (before ++ []) .. ∧ Posted _ _ (before ++ [])
      rw [List.append_nil]
      exact ⟨spent.unanswered sends same grown,
        sent.accept (Option.not_isSome_iff_eq_none.mp unknown) sparing sendAnswer recvAnswer⟩
  | @sent index send found sends did kept =>
    obtain ⟨other, done, same⟩ := Option.map_eq_some_iff.mp taken
    obtain ⟨rfl, -⟩ := Prod.mk.inj same
    change Spent _ (before ++ []) .. ∧ Posted _ _ (before ++ [])
    rw [List.append_nil, kept]
    exact ⟨spent.sent inv found sends did, sent.congr (sent_handled inv done).2⟩
  | @request connId data byteLen ctx known did =>
    obtain ⟨store, replied, -⟩ := reply_serves serves data byteLen.toNat
    obtain ⟨other, same, view⟩ := request_view pool inv replied taken
    obtain rfl := Option.some.inj (known.symm.trans same)
    have sparse := (sent.known connId ctx known).1
    rw [replies]
    cases view with
    | short few after handled counted =>
      have silent := posts_none known handled
      rw [if_pos few, List.flatMap_nil, ← silent]
      refine ⟨?_, sent.handled known handled ⟨handled.config ▸ sparse.1, ?_⟩⟩
      · rw [silent, List.append_nil]
        cases did with
        | unanswered none_ sends tracked same gone grown kept => exact spent.unanswered sends same grown
        | answered buf wr answered => exact absurd answered.1 (Nat.not_le_of_lt few)
      · rw [handled.sent, handled.unsignaled, List.append_nil]
        exact sparse.2
    | dropped long free response other again after handled counted =>
      have silent := posts_none known handled
      rw [if_neg (Nat.not_lt.mpr long), List.flatMap_singleton]
      refine ⟨?_, sent.handled known handled ⟨handled.config ▸ sparse.1, ?_⟩⟩
      · dsimp only
        rw [silent, List.append_nil]
        cases did with
        | unanswered none_ sends tracked same gone grown kept => exact spent.unanswered sends same grown
        | answered buf wr answered => exact absurd free answered.2
      · rw [handled.sent, handled.unsignaled, List.append_nil]
        exact sparse.2
    | answered long buf rest free response other again after handled counted =>
      rw [if_neg (Nat.not_lt.mpr long), List.flatMap_singleton]
      refine ⟨?_, sent.handled known handled ?_⟩
      · cases did with
        | unanswered none_ => exact absurd ⟨long, by simp [free]⟩ none_
        | answered buf wr answered responded added gone grown kept =>
          exact spent.answered inv inv' known handled responded added grown
      · refine sparse.sent rfl handled.sent handled.config ?_
        rw [handled.unsignaled, if_neg (List.cons_ne_nil _ _)]

end Steps

/-- In every run of the server from a pool of 512 buffers, on connections that signal one send in `interval` at most,
    the responses that it hands to the devices are few. -/
theorem responses_bounded {base : UInt64} {lkey : UInt32} (null : base ≠ 0)
    (fits : base.toNat + 512 * MAX_REQUEST_SIZE ≤ 2 ^ 64) {storage : Nat → UInt8} {store : KVStore}
    (initialized : KVStore.new.initializeWith {} (some storage) = some (true, store)) {interval : Nat}
    {events : List Event} (sparing : ∀ event ∈ events, Sparing interval event) {last : System} {seen : List Reply}
    (ran : run (observe step replies) (.new store (poolBuffers base lkey)) events = some (last, seen)) :
    (interval - 1) * (seen.flatMap Reply.posts).length ≤ interval * 512 := by
  have pool := poolBuffers_pool lkey null fits
  obtain ⟨width, serves⟩ := initialize_serves initialized
  let invariant (sys : System) (seen : List Reply) : Prop := ∃ posted entries lost,
    Inv (poolBuffers base lkey) sys posted entries lost ∧
      (∃ width, ∃ service : Service serverSlots, Serves width sys.server.store service) ∧
        Spent sys (seen.flatMap Reply.posts) entries lost ∧ Posted interval sys (seen.flatMap Reply.posts)
  have preserves : ∀ sys before event next now, invariant sys before → Sparing interval event →
      observe step replies sys event = some (next, now) → invariant next (before ++ now) := by
    rintro sys before event next _ ⟨posted, entries, lost, inv, ⟨width, service, serves⟩, spent, sent⟩ sparing stepped
    obtain ⟨⟨now, taken⟩, rfl⟩ := observe_some.mp stepped
    obtain ⟨posted', entries', lost', inv', spent', sent'⟩ := step_spent pool inv serves spent sent sparing taken
    rw [← List.flatMap_append] at spent' sent'
    exact ⟨posted', entries', lost', inv', (step_serves pool inv serves taken).2.imp fun _ kept => ⟨_, kept⟩, spent', sent'⟩
  have start : invariant (.new store (poolBuffers base lkey)) [] :=
    ⟨[], [], [], new_inv serves.consistent _, ⟨width, _, serves⟩, ⟨0, by simp [System.new], by simp⟩,
      fun _ _ => rfl, fun _ _ known => by cases known⟩
  obtain ⟨posted, entries, lost, inv, -, ⟨back, due, taken⟩, sent⟩ :=
    history_of_run preserves start (meets_of_forall sparing) ran
  rw [List.nil_append] at due taken sent
  have all := inv.sound.shared.length_eq
  simp only [List.length_append, List.length_map] at all
  have size : (poolBuffers base lkey).length = 512 := by simp [poolBuffers]
  have held : entries.length + lost.length ≤ 512 := by
    rw [size] at all
    simp only [List.length_nil] at all
    omega
  have given : (seen.flatMap Reply.posts).length ≤ entries.length + lost.length +
      (seen.flatMap Reply.posts).countP (·.wr.signaled) := by omega
  exact spaced_bound sent.spaced given held

/-- On a connection with the default interval. -/
theorem default_get_bounded : ∃ store last seen,
    run (observe step replies) (.new store (poolBuffers 65536 7)) [oneConnection, .request 7 getBytes 16] =
        some (last, seen) ∧
      (16 - 1) * (seen.flatMap Reply.posts).length ≤ 16 * 512 := by
  have defined : (serverRun [oneConnection, .request 7 getBytes 16]).isSome = true := by decide +kernel
  obtain ⟨⟨store, last, outputs⟩, served⟩ := Option.isSome_iff_exists.mp defined
  obtain ⟨initialized, ran⟩ := serverRun_some served
  obtain ⟨seen, ran⟩ := (run_observe replies).mpr ⟨outputs, ran⟩
  have sparing : ∀ event ∈ [oneConnection, .request 7 getBytes 16], Sparing 16 event := by
    simp [oneConnection, Sparing]
  exact ⟨store, last, seen, ran, responses_bounded (by decide) (by decide) initialized sparing ran⟩

end Rdma.KvExhaustions
