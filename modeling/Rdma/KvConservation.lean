import Rdma.KvTracking

/-!
Whether the buffers of the server come back. A response buffer is freed by the
completion of its send alone, so it comes back if the send is posted signaled,
the device takes it and no other response in flight has its id. Where that holds
of every response, and the device takes every receive, the buffers tracked are
those of the sends in flight (`step_held`); a step that fails it leaves a buffer
that nothing brings back any more (`step_strands`, `step_stranded`). When no send is in
flight, the buffers are all free or posted exactly if no step has failed it
(`conserved_iff`).
-/
namespace Rdma.KvConservation
open Rdma.Types Rdma.Verbs Rdma.WrIds Rdma.Runs Rdma.QueuePairs Rdma.Connections Rdma.FiniteMaps
open Rdma.KvProtocols Rdma.KvStores Rdma.KvServers Rdma.KvBuffers Rdma.KvTracking

/-- No response is tracked, and the buffers are the free ones and the posted receives. -/
structure Conserved (all : List Buffer) (sys : System) : Prop where
  untracked : ∀ wrId, sys.server.postedSendBuffers wrId = none
  placed : (sys.server.freeBuffers.map Buffer.addr ++
    sys.receives.flatMap fun receive => receive.2.sgList.map Sge.addr).Perm (all.map Buffer.addr)

/-- The response gets a completion of its own: it is signaled, the device accepts it, and no response of the connection
in flight has its number. -/
structure Completes (sys : System) (connId : UInt16) (ctx : ConnectionContext) (request : Request) : Prop where
  due : ctx.conn.qp.config.signalInterval ≤ ctx.conn.qp.unsignaledCount + 1
  room : ctx.conn.qp.canPostSignaled = true
  accepted : ctx.conn.qp.device.nextAnswer = none
  numbered : ∀ send ∈ sys.sends, send.connId = connId → ¬SameNumber send.request request

/-- The device accepts the receives that are posted, and the response that is sent completes. -/
def Conserving (sys : System) : Event → Prop
  | .accept connId config sendAnswer recvAnswer =>
    RecvsAccepted (established connId config sendAnswer recvAnswer) (min 32 sys.server.freeBuffers.length)
  | .request connId data byteLen => ∀ ctx, sys.server.connContexts connId = some ctx →
      recvAccepted ctx = true ∧ (IsAnswered sys byteLen → Completes sys connId ctx (requestOf ctx data))
  | .sent _ => True

/-- Nothing is lost, and the responses tracked are those in flight, each with a completion to come. -/
structure Held (sys : System) (entries : List (UInt64 × Buffer)) (lost : List Buffer) : Prop where
  kept : lost = []
  signaled : ∀ send ∈ sys.sends, send.wr.signaled = true
  matched : (entries.map (·.1)).Perm (sys.sends.map fun send => send.wr.wrId)

/-- Some buffer is lost, or tracked under an id for which no completion is to come. -/
def Stranded (sys : System) (entries : List (UInt64 × Buffer)) (lost : List Buffer) : Prop :=
  lost ≠ [] ∨ ∃ entry ∈ entries, ∀ send ∈ sys.sends, send.wr.signaled = true → send.wr.wrId ≠ entry.1

section Steps
variable {all : List Buffer} {sys next : System} {posted : List (UInt16 × Buffer)}
  {entries entries' : List (UInt64 × Buffer)} {lost lost' : List Buffer} {event : Event}

theorem completes_iff (inv : Inv all sys posted entries lost) {connId : UInt16} {ctx : ConnectionContext}
    {request : Request} : Completes sys connId ctx request ↔
      ctx.conn.qp.shouldSignal.1 = true ∧ ctx.conn.qp.device.nextAnswer.isNone = true ∧
        Fresh sys (sendId connId request) := by
  rw [shouldSignal_eq, Bool.and_eq_true, decide_eq_true_iff, Option.isNone_iff_eq_none, numbered_fresh inv]
  constructor
  · exact fun completes => ⟨⟨completes.due, completes.room⟩, completes.accepted, completes.numbered⟩
  · rintro ⟨⟨due, room⟩, accepted, numbered⟩
    exact ⟨due, room, accepted, numbered⟩

theorem receives_addr (inv : Inv all sys posted entries lost) :
    (sys.receives.flatMap fun receive => receive.2.sgList.map Sge.addr).Perm ((posted.map (·.2)).map Buffer.addr) := by
  refine (inv.receives.flatMap_right _).trans ?_
  rw [List.flatMap_map, List.map_map]
  exact List.Perm.of_eq List.map_eq_flatMap.symm

/-! ### Steps that keep the buffers -/

theorem Held.unlisted (inv : Inv all sys posted entries lost) (held : Held sys entries lost) {wrId : UInt64} :
    sys.server.postedSendBuffers wrId = none ↔ Fresh sys wrId := by
  rw [inv.sound.tracked.unlisted, held.matched.mem_iff, List.mem_map, Fresh]
  constructor
  · exact fun unlisted send sending same => unlisted ⟨send, sending, same⟩
  · rintro fresh ⟨send, sending, same⟩
    exact fresh send sending same

theorem responded_held (inv : Inv all sys posted entries lost) (held : Held sys entries lost) {connId : UInt16}
    {ctx : ConnectionContext} {request : Request} {buf : Buffer} {wr : SendWr}
    (responded : Responded sys next connId ctx request buf wr)
    (added : sys.server.postedSendBuffers (sendId connId request) = none →
      entries' = (sendId connId request, buf) :: entries)
    (grown : lost' = (sys.server.postedSendBuffers (sendId connId request)).toList ++ lost)
    (completes : Completes sys connId ctx request) : Held next entries' lost' := by
  obtain ⟨signaled, accepted, fresh⟩ := (completes_iff inv).mp completes
  have unlisted := (held.unlisted inv).mpr fresh
  have sends := responded.sends
  rw [if_pos accepted] at sends
  refine ⟨by rw [grown, unlisted, held.kept]; rfl, ?_, ?_⟩
  · intro send sending
    rw [sends] at sending
    rcases List.mem_append.mp sending with old | new
    · exact held.signaled send old
    · obtain rfl := List.mem_singleton.mp new
      exact responded.signaled.trans signaled
  · rw [added unlisted, sends, List.map_append, List.map_cons, List.map_singleton, responded.id]
    exact (List.Perm.cons _ held.matched).trans (List.perm_append_singleton _ _).symm

/-- A completion erases the entry of its send. -/
theorem sent_held (inv : Inv all sys posted entries lost) (held : Held sys entries lost) {index : Nat} {send : InFlight}
    (found : sys.sends[index]? = some send) (sends : next.sends = sys.sends.eraseIdx index)
    (did : SentCase sys send entries next entries') : Held next entries' lost := by
  have sending := List.mem_of_getElem? found
  refine ⟨held.kept, fun one left => ?_, ?_⟩
  · rw [sends] at left
    exact held.signaled one (List.mem_of_mem_eraseIdx left)
  cases did with
  | silent unsignaled _ _ => exact absurd (held.signaled send sending) (by simp [unsignaled])
  | untracked _ missing _ _ => exact absurd rfl ((held.unlisted inv).mp missing send sending)
  | freed buf _ tracked _ _ same =>
    have listed := (List.perm_cons_erase (inv.sound.tracked.entry.mp tracked)).map (·.1)
    have matched := (listed.symm.trans held.matched).trans ((sends_split found).map _)
    rw [same, sends]
    exact List.Perm.cons_inv matched

theorem step_held (inv : Inv all sys posted entries lost) (held : Held sys entries lost)
    (did : StepCase sys entries lost next entries' lost' event) (conserving : Conserving sys event) :
    Held next entries' lost' := by
  cases did with
  | accept sends _ same gone grown kept =>
    subst grown same
    rw [kept.mpr conserving]
    exact ⟨held.kept, sends ▸ held.signaled, sends ▸ held.matched⟩
  | request known did =>
    obtain ⟨recv, completes⟩ := conserving _ known
    cases did with
    | unanswered _ sends _ same gone grown kept =>
      subst grown same
      rw [kept.mpr recv]
      exact ⟨held.kept, sends ▸ held.signaled, sends ▸ held.matched⟩
    | answered buf wr answered responded added gone grown kept =>
      rw [kept.mpr recv, List.nil_append] at grown
      exact responded_held inv held responded added grown (completes answered)
  | sent found sends did kept => exact kept ▸ sent_held inv held found sends did

/-! ### Steps that strand a buffer -/

theorem append_left_ne {gone rest : List Buffer} (lost : gone ≠ []) : gone ++ rest ≠ [] := by simp [lost]

/-- What a response that does not complete leaves behind. -/
theorem responded_strands (inv : Inv all sys posted entries lost) (held : Held sys entries lost) {connId : UInt16}
    {ctx : ConnectionContext} {request : Request} {buf : Buffer} {wr : SendWr}
    (responded : Responded sys next connId ctx request buf wr)
    (added : sys.server.postedSendBuffers (sendId connId request) = none →
      entries' = (sendId connId request, buf) :: entries) {gone : List Buffer}
    (grown : lost' = gone ++ ((sys.server.postedSendBuffers (sendId connId request)).toList ++ lost))
    (fails : ¬Completes sys connId ctx request) : Stranded next entries' lost' := by
  by_cases fresh : Fresh sys (sendId connId request)
  · have unlisted := (held.unlisted inv).mpr fresh
    refine .inr ⟨(sendId connId request, buf), added unlisted ▸ List.mem_cons_self, fun send sending signaled => ?_⟩
    rw [responded.sends] at sending
    rcases List.mem_append.mp sending with old | new
    · exact fresh send old
    · split at new
      · rename_i accepted
        obtain rfl := List.mem_singleton.mp new
        exact absurd ((completes_iff inv).mpr ⟨responded.signaled.symm.trans signaled, accepted, fresh⟩) fails
      · exact absurd new List.not_mem_nil
  · have tracked : sys.server.postedSendBuffers (sendId connId request) ≠ none := mt (held.unlisted inv).mp fresh
    obtain ⟨old, found⟩ := Option.ne_none_iff_exists'.mp tracked
    exact .inl (by simp [grown, found])

theorem step_strands (inv : Inv all sys posted entries lost) (held : Held sys entries lost)
    (did : StepCase sys entries lost next entries' lost' event) (fails : ¬Conserving sys event) :
    Stranded next entries' lost' := by
  cases did with
  | accept _ _ _ gone grown kept => exact .inl (grown ▸ append_left_ne (mt kept.mp fails))
  | @request connId data byteLen ctx known did =>
    have failed : recvAccepted ctx = true → IsAnswered sys byteLen → ¬Completes sys connId ctx (requestOf ctx data) := by
      intro recv answered completes
      refine fails fun other known' => ?_
      obtain rfl := Option.some.inj (known.symm.trans known')
      exact ⟨recv, fun _ => completes⟩
    by_cases recv : recvAccepted ctx = true
    · cases did with
      | unanswered silent _ _ _ _ _ _ =>
        refine absurd (fun other known' => ?_) fails
        obtain rfl := Option.some.inj (known.symm.trans known')
        exact ⟨recv, fun answered => absurd answered silent⟩
      | answered buf wr answered responded added gone grown kept =>
        exact responded_strands inv held responded added grown (failed recv answered)
    · cases did with
      | unanswered _ _ _ _ gone grown kept => exact .inl (grown ▸ append_left_ne (mt kept.mp recv))
      | answered _ _ _ _ _ gone grown kept => exact .inl (grown ▸ append_left_ne (mt kept.mp recv))
  | sent _ _ _ _ => exact absurd trivial fails

theorem responded_stranded (inv : Inv all sys posted entries lost) (stranded : Stranded sys entries lost)
    {connId : UInt16} {ctx : ConnectionContext} {request : Request} {buf : Buffer} {wr : SendWr}
    (responded : Responded sys next connId ctx request buf wr)
    (added : sys.server.postedSendBuffers (sendId connId request) = none →
      entries' = (sendId connId request, buf) :: entries) {gone : List Buffer}
    (grown : lost' = gone ++ ((sys.server.postedSendBuffers (sendId connId request)).toList ++ lost)) :
    Stranded next entries' lost' := by
  cases found : sys.server.postedSendBuffers (sendId connId request) with
  | some old => exact .inl (by simp [grown, found])
  | none =>
    rcases stranded with some_lost | ⟨entry, listed, silent⟩
    · exact .inl (by simp [grown, some_lost])
    · refine .inr ⟨entry, added found ▸ List.mem_cons_of_mem _ listed, fun send sending signaled => ?_⟩
      rw [responded.sends] at sending
      rcases List.mem_append.mp sending with old | new
      · exact silent send old signaled
      · obtain rfl : send = ⟨connId, wr, request⟩ := by
          split at new
          · exact List.mem_singleton.mp new
          · exact absurd new List.not_mem_nil
        intro same
        have tracked := inv.sound.tracked.entry.mpr listed
        rw [← same, responded.id, found] at tracked
        cases tracked

/-- No step brings back a buffer that is stranded. -/
theorem step_stranded (inv : Inv all sys posted entries lost) (stranded : Stranded sys entries lost)
    (did : StepCase sys entries lost next entries' lost' event) : Stranded next entries' lost' := by
  cases did with
  | accept sends _ same gone grown _ =>
    subst grown same
    exact stranded.imp (fun some_lost => by simp [some_lost]) (fun entry => sends ▸ entry)
  | request known did =>
    cases did with
    | unanswered _ sends _ same gone grown _ =>
      subst grown same
      exact stranded.imp (fun some_lost => by simp [some_lost]) (fun entry => sends ▸ entry)
    | answered buf wr _ responded added gone grown _ => exact responded_stranded inv stranded responded added grown
  | sent found sends did kept =>
    subst kept
    refine stranded.imp id ?_
    rintro ⟨entry, listed, silent⟩
    have later : ∀ send ∈ next.sends, send.wr.signaled = true → send.wr.wrId ≠ entry.1 :=
      fun send left => silent send (List.mem_of_mem_eraseIdx (sends ▸ left))
    cases did with
    | silent _ _ same => exact ⟨entry, same ▸ listed, later⟩
    | untracked _ _ _ same => exact ⟨entry, same ▸ listed, later⟩
    | freed buf signaled _ _ _ same =>
      have apart : entry ≠ (_, buf) := fun here =>
        silent _ (List.mem_of_getElem? found) signaled (congrArg Prod.fst here).symm
      exact ⟨entry, same ▸ (List.mem_erase_of_ne apart).mpr listed, later⟩

/-! ### When no send is in flight -/

theorem held_conserved (inv : Inv all sys posted entries lost) (held : Held sys entries lost) (quiet : sys.sends = []) :
    Conserved all sys := by
  have none_ : entries = [] := by simpa [quiet] using held.matched
  refine ⟨fun wrId => (held.unlisted inv).mpr (by simp [Fresh, quiet]), ?_⟩
  refine ((receives_addr inv).append_left _).trans ?_
  have shared := inv.sound.shared
  rw [none_, held.kept, List.map_nil, List.append_nil, List.append_nil, List.nil_append] at shared
  rw [← List.map_append]
  exact shared.map Buffer.addr

theorem stranded_not_conserved (inv : Inv all sys posted entries lost) (stranded : Stranded sys entries lost) :
    ¬Conserved all sys := by
  intro conserved
  have none_ : entries = [] := by
    refine List.eq_nil_iff_forall_not_mem.mpr fun entry listed => ?_
    have tracked := inv.sound.tracked.entry.mpr listed
    rw [conserved.untracked] at tracked
    cases tracked
  have shared := inv.sound.shared.length_eq
  have placed := (((receives_addr inv).append_left _).symm.trans conserved.placed).length_eq
  subst none_
  simp only [List.length_append, List.length_map, List.length_nil] at shared placed
  rcases stranded with some_lost | ⟨entry, listed, -⟩
  · exact some_lost (List.length_eq_zero_iff.mp (by omega))
  · exact absurd listed List.not_mem_nil

/-- A conserved server with a buffer that is not posted as a receive answers. -/
theorem Conserved.free (conserved : Conserved all sys) (inv : Inv all sys posted entries lost)
    (some_left : sys.receives.length < all.length) : sys.server.freeBuffers ≠ [] := by
  intro none_
  have placed := (((receives_addr inv).append_left _).symm.trans conserved.placed).length_eq
  have receives := inv.receives.length_eq
  simp only [none_, List.length_append, List.length_map, List.length_nil] at placed receives
  omega

end Steps

/-- In every run of the server, from a pool of 512 buffers in one block of memory, that ends with no send in flight,
no response is tracked and every buffer is free or posted as a receive exactly if the devices accepted all receives
and each response was posted signaled, accepted, and under a number of its own. -/
theorem conserved_iff {base : UInt64} {lkey : UInt32} (null : base ≠ 0)
    (fits : base.toNat + 512 * MAX_REQUEST_SIZE ≤ 2 ^ 64) {storage : Nat → UInt8} {store : KVStore}
    (initialized : KVStore.new.initializeWith {} (some storage) = some (true, store)) {events : List Event}
    {last : System} {outputs : List Unit}
    (ran : run step (.new store (poolBuffers base lkey)) events = some (last, outputs)) (quiet : last.sends = []) :
    Conserved (poolBuffers base lkey) last ↔ Meets step Conserving (.new store (poolBuffers base lkey)) events := by
  obtain ⟨width, consistent⟩ := server_store initialized
  have pool := poolBuffers_pool lkey null fits
  let Holds (sys : System) : Prop := ∃ posted entries lost,
    Inv (poolBuffers base lkey) sys posted entries lost ∧ Held sys entries lost
  have start : Holds (.new store (poolBuffers base lkey)) :=
    ⟨[], [], [], new_inv consistent _, rfl, by simp [System.new], by simp [System.new]⟩
  have preserves : ∀ sys event next now, Holds sys → Conserving sys event → step sys event = some (next, now) →
      Holds next := by
    rintro sys event next now ⟨posted, entries, lost, inv, held⟩ conserving taken
    obtain ⟨posted', entries', lost', kept, did⟩ := step_cases pool inv taken
    exact ⟨posted', entries', lost', kept, step_held inv held did conserving⟩
  constructor
  · intro conserved
    let Strands (sys : System) : Prop := ∃ posted entries lost,
      Inv (poolBuffers base lkey) sys posted entries lost ∧ Stranded sys entries lost
    have unstranded : ¬Strands last := by
      rintro ⟨posted, entries, lost, inv, stranded⟩
      exact stranded_not_conserved inv stranded conserved
    refine meets_of_run preserves ?_ ?_ start ran unstranded
    · rintro sys event next now ⟨posted, entries, lost, inv, held⟩ fails taken
      obtain ⟨posted', entries', lost', kept, did⟩ := step_cases pool inv taken
      exact ⟨posted', entries', lost', kept, step_strands inv held did fails⟩
    · rintro sys event next now ⟨posted, entries, lost, inv, stranded⟩ taken
      obtain ⟨posted', entries', lost', kept, did⟩ := step_cases pool inv taken
      exact ⟨posted', entries', lost', kept, step_stranded inv stranded did⟩
  · intro meets
    obtain ⟨posted, entries, lost, inv, held⟩ := invariant_of_run preserves start meets ran
    exact held_conserved inv held quiet

/-- With the default configuration the first response is posted unsignaled, and its buffer stays tracked. -/
theorem default_get_stranded : ∃ store last outputs,
    serverRun [oneConnection, .request 7 getBytes 16, .sent 0] = some (store, last, outputs) ∧ last.sends = [] ∧
      (last.server.postedSendBuffers (encode 7 .requestSend 0 0)).isSome = true ∧
      ¬Conserved (poolBuffers 65536 7) last := by
  have quiet : (serverRun [oneConnection, .request 7 getBytes 16, .sent 0]).map
      (fun done => (done.2.1.sends, (done.2.1.server.postedSendBuffers (encode 7 .requestSend 0 0)).isSome)) =
        some ([], true) := by decide +kernel
  obtain ⟨⟨store, last, outputs⟩, ran, same⟩ := Option.map_eq_some_iff.mp quiet
  obtain ⟨sends, tracked⟩ := Prod.mk.inj same
  refine ⟨store, last, outputs, ran, sends, tracked, fun conserved => ?_⟩
  dsimp only at tracked
  rw [conserved.untracked] at tracked
  cases tracked

/-- A connection that signals every send. -/
def signalingConnection : Event := .accept 7 { signalInterval := 1 } (fun _ => none) (fun _ => none)

theorem signaled_get_conserved : ∃ store last outputs,
    run step (.new store (poolBuffers 65536 7)) [signalingConnection, .request 7 getBytes 16, .sent 0] =
      some (last, outputs) ∧ last.sends = [] ∧
      (Conserved (poolBuffers 65536 7) last ↔
        Meets step Conserving (.new store (poolBuffers 65536 7)) [signalingConnection, .request 7 getBytes 16, .sent 0]) := by
  have quiet : (serverRun [signalingConnection, .request 7 getBytes 16, .sent 0]).map
      (fun done => done.2.1.sends) = some [] := by decide +kernel
  obtain ⟨⟨store, last, outputs⟩, served, sends⟩ := Option.map_eq_some_iff.mp quiet
  obtain ⟨initialized, ran⟩ := serverRun_some served
  exact ⟨store, last, outputs, ran, sends, conserved_iff (by decide) (by decide) initialized ran sends⟩

end Rdma.KvConservation
