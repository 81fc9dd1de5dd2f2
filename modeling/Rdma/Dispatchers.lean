import Rdma.Caches
import Rdma.Runs
import Rdma.Verbs
import Rdma.WrIds

/-!
The completion dispatcher (`completion_dispatcher.h`,
`completion_dispatcher.cpp`): handlers of connections in a two-level index (L2)
behind a hash cache of 64 entries (L1) and a set-associative cache of 32 sets
of 2 ways (L0). A call through a null handler is undefined, hence `none`. While
a handler is invoked it may change the dispatcher: `react` says how. In runs
without shadowed copies the dispatcher does what a plain map from connections
to handlers does (`dispatcher_refines`).
-/
namespace Rdma.Dispatchers
open Rdma.BitFields Rdma.Verbs Rdma.WrIds Rdma.Runs Rdma.Caches

/-! ### The caches and the index -/

structure L0CacheEntry where
  connId : UInt16 := 0xFFFF
  generation : UInt8 := 0
  accessCount : UInt8 := 0
  ctx : Nat := 0
  handler : Option Nat := none
  deriving DecidableEq, Repr

structure HotCacheEntry where
  connId : UInt16 := 0xFFFF
  accessCount : UInt16 := 0
  ctx : Nat := 0
  handler : Option Nat := none
  deriving DecidableEq, Repr

structure ConnectionEntry where
  ctx : Nat := 0
  handler : Option Nat := none
  deriving DecidableEq, Repr

/-- The L0 cache by set and way. A bucket of the index is `none` until it is allocated. -/
structure CompletionDispatcher where
  l0Cache : Nat × Nat → L0CacheEntry
  hotCache : Nat → HotCacheEntry
  buckets : UInt8 → Option (UInt8 → ConnectionEntry)
  errorCtx : Nat
  errorHandler : Option Nat

/-- The constructor. -/
def CompletionDispatcher.create : CompletionDispatcher where
  l0Cache _ := {}
  hotCache _ := {}
  buckets _ := none
  errorCtx := 0
  errorHandler := none

/-- A call of a handler. -/
inductive Invocation
  | completion (handler ctx : Nat) (wc : Wc)
  | error (handler ctx : Nat) (connId : UInt16) (status : UInt32)
  deriving DecidableEq, Repr

def kL0SetMask : UInt16 := 31
def kL0Ways : Nat := 2
def kHotCacheMask : UInt32 := 63

/-- The ways of the set of a connection, in the order in which they are searched. -/
def l0Places (connId : UInt16) : List (Nat × Nat) := (List.range kL0Ways).map ((connId &&& kL0SetMask).toNat, ·)

def hash (connId : UInt16) : UInt32 := (connId.toUInt32 * (0x9E3779B9 : UInt32)) &&& kHotCacheMask

/-- The positions that are probed for a connection, in their order. -/
def probes (connId : UInt16) : List Nat :=
  (List.range 4).map fun probe => ((hash connId + UInt32.ofNat probe) &&& kHotCacheMask).toNat

def bucketIdx (connId : UInt16) : UInt8 := (connId >>> 8).toUInt8
def slotIdx (connId : UInt16) : UInt8 := (connId &&& (0xFF : UInt16)).toUInt8

/-- The loops that look for the least used entry: the first of the places whose count is below the counts before it
    and below `max`, or `start`. -/
def leastUsed {Place : Type} (count : Place → Nat) (start : Place) (max : Nat) (places : List Place) : Place :=
  (places.foldl (fun best place => if count place < best.2 then (place, count place) else best) (start, max)).1

/-! ### Writing -/

def CompletionDispatcher.putL0 (dispatcher : CompletionDispatcher) (place : Nat × Nat) (entry : L0CacheEntry) :
    CompletionDispatcher :=
  { dispatcher with l0Cache := Function.update dispatcher.l0Cache place entry }

def CompletionDispatcher.putHot (dispatcher : CompletionDispatcher) (pos : Nat) (entry : HotCacheEntry) :
    CompletionDispatcher :=
  { dispatcher with hotCache := Function.update dispatcher.hotCache pos entry }

/-- An entry of the index; the bucket is allocated if need be. -/
def CompletionDispatcher.putIndex (dispatcher : CompletionDispatcher) (connId : UInt16) (entry : ConnectionEntry) :
    CompletionDispatcher :=
  let bucket := (dispatcher.buckets (bucketIdx connId)).getD fun _ => {}
  { dispatcher with
    buckets := Function.update dispatcher.buckets (bucketIdx connId)
      (some (Function.update bucket (slotIdx connId) entry)) }

/-- The last lines of `RegisterConnection` and of `MaybePromoteToL0` for L0. -/
def CompletionDispatcher.fillL0 (dispatcher : CompletionDispatcher) (place : Nat × Nat) (connId : UInt16) (ctx : Nat)
    (handler : Option Nat) : CompletionDispatcher :=
  dispatcher.putL0 place
    ⟨connId, (dispatcher.l0Cache place).generation + 1, 128, ctx, handler⟩

def CompletionDispatcher.insertHotCache (dispatcher : CompletionDispatcher) (connId : UInt16) (ctx : Nat)
    (handler : Option Nat) : CompletionDispatcher :=
  match (probes connId).find? fun pos =>
      (dispatcher.hotCache pos).connId = connId ∨ (dispatcher.hotCache pos).connId = 0xFFFF with
  | some pos =>
    if (dispatcher.hotCache pos).connId = connId then
      dispatcher.putHot pos
        { dispatcher.hotCache pos with ctx, handler, accessCount := (dispatcher.hotCache pos).accessCount + 1 }
    else dispatcher.putHot pos ⟨connId, 1, ctx, handler⟩
  | none =>
    dispatcher.putHot
      (leastUsed (fun pos => (dispatcher.hotCache pos).accessCount.toNat) (hash connId).toNat 65535 (probes connId))
      ⟨connId, 1, ctx, handler⟩

/-- The way that `RegisterConnection` writes: the first that holds the connection or nothing, else the least used. -/
def CompletionDispatcher.registerWay (dispatcher : CompletionDispatcher) (connId : UInt16) : Nat × Nat :=
  ((l0Places connId).find? fun place =>
      (dispatcher.l0Cache place).connId = connId ∨ (dispatcher.l0Cache place).connId = 0xFFFF).getD
    (leastUsed (fun place => (dispatcher.l0Cache place).accessCount.toNat) ((connId &&& kL0SetMask).toNat, 0) 255
      (l0Places connId))

def CompletionDispatcher.registerConnection (dispatcher : CompletionDispatcher) (connId : UInt16) (ctx : Nat)
    (handler : Option Nat) : CompletionDispatcher :=
  let dispatcher := dispatcher.putIndex connId ⟨ctx, handler⟩
  let dispatcher := dispatcher.fillL0 (dispatcher.registerWay connId) connId ctx handler
  dispatcher.insertHotCache connId ctx handler

/-- "Remove from L2" -/
def CompletionDispatcher.removeIndex (dispatcher : CompletionDispatcher) (connId : UInt16) : CompletionDispatcher :=
  if (dispatcher.buckets (bucketIdx connId)).isSome then dispatcher.putIndex connId {} else dispatcher

/-- "Invalidate in L0" -/
def CompletionDispatcher.invalidateL0 (dispatcher : CompletionDispatcher) (connId : UInt16) : CompletionDispatcher :=
  match (l0Places connId).find? fun place => (dispatcher.l0Cache place).connId = connId with
  | some place =>
    dispatcher.putL0 place { dispatcher.l0Cache place with connId := 0xFFFF, ctx := 0, handler := none }
  | none => dispatcher

/-- "Invalidate in L1" -/
def CompletionDispatcher.invalidateL1 (dispatcher : CompletionDispatcher) (connId : UInt16) : CompletionDispatcher :=
  match (probes connId).find? fun pos => (dispatcher.hotCache pos).connId = connId with
  | some pos => dispatcher.putHot pos { dispatcher.hotCache pos with connId := 0xFFFF, ctx := 0, handler := none }
  | none => dispatcher

def CompletionDispatcher.unregisterConnection (dispatcher : CompletionDispatcher) (connId : UInt16) :
    CompletionDispatcher :=
  ((dispatcher.removeIndex connId).invalidateL0 connId).invalidateL1 connId

def CompletionDispatcher.setErrorHandler (dispatcher : CompletionDispatcher) (ctx : Nat) (handler : Option Nat) :
    CompletionDispatcher :=
  { dispatcher with errorCtx := ctx, errorHandler := handler }

/-! ### Dispatching -/

def CompletionDispatcher.findInHotCache (dispatcher : CompletionDispatcher) (connId : UInt16) : Option Nat :=
  ((probes connId).find? fun pos =>
      (dispatcher.hotCache pos).connId = connId ∨ (dispatcher.hotCache pos).connId = 0xFFFF).filter
    fun pos => (dispatcher.hotCache pos).connId = connId

def CompletionDispatcher.maybePromoteToL0 (dispatcher : CompletionDispatcher) (connId : UInt16) (ctx : Nat)
    (handler : Option Nat) : CompletionDispatcher :=
  match (l0Places connId).find? fun place =>
      (dispatcher.l0Cache place).connId = 0xFFFF ∨ (dispatcher.l0Cache place).connId = connId with
  | some place =>
    if (dispatcher.l0Cache place).connId = 0xFFFF then dispatcher.fillL0 place connId ctx handler else dispatcher
  | none =>
    let set := (connId &&& kL0SetMask).toNat
    let way := if (dispatcher.l0Cache (set, 0)).accessCount ≤ (dispatcher.l0Cache (set, 1)).accessCount then 0 else 1
    dispatcher.fillL0 (set, way) connId ctx handler

variable (react : Invocation → CompletionDispatcher → CompletionDispatcher)

/-- A hit in the other way of a set lets this way age. -/
def CompletionDispatcher.ageL0 (dispatcher : CompletionDispatcher) (place : Nat × Nat) : CompletionDispatcher :=
  let entry := dispatcher.l0Cache place
  if 0 < entry.accessCount then dispatcher.putL0 place { entry with accessCount := entry.accessCount - 1 }
  else dispatcher

def CompletionDispatcher.dispatchFromL0 (dispatcher : CompletionDispatcher) (place other : Nat × Nat) (wc : Wc) :
    Option (CompletionDispatcher × List Invocation) := do
  let dispatcher := dispatcher.putL0 place { dispatcher.l0Cache place with accessCount := 255 }
  let handler ← (dispatcher.l0Cache place).handler
  let invocation := Invocation.completion handler (dispatcher.l0Cache place).ctx wc
  some ((react invocation dispatcher).ageL0 other, [invocation])

/-- A hit in L1; the entry is read again after the handler. -/
def CompletionDispatcher.dispatchFromL1 (dispatcher : CompletionDispatcher) (connId : UInt16) (pos : Nat) (wc : Wc) :
    Option (CompletionDispatcher × List Invocation) := do
  let handler ← (dispatcher.hotCache pos).handler
  let invocation := Invocation.completion handler (dispatcher.hotCache pos).ctx wc
  let dispatcher := react invocation dispatcher
  let entry := dispatcher.hotCache pos
  let dispatcher := dispatcher.putHot pos { entry with accessCount := entry.accessCount + 1 }
  some (dispatcher.maybePromoteToL0 connId entry.ctx entry.handler, [invocation])

/-- The entry of a connection in the index. -/
def CompletionDispatcher.indexed (dispatcher : CompletionDispatcher) (connId : UInt16) : ConnectionEntry :=
  match dispatcher.buckets (bucketIdx connId) with
  | some bucket => bucket (slotIdx connId)
  | none => {}

def CompletionDispatcher.dispatchFromL2 (dispatcher : CompletionDispatcher) (connId : UInt16) (wc : Wc) :
    CompletionDispatcher × List Invocation :=
  match (dispatcher.indexed connId).handler with
  | some handler =>
    let invocation := Invocation.completion handler (dispatcher.indexed connId).ctx wc
    let dispatcher := react invocation dispatcher
    let entry := dispatcher.indexed connId
    (dispatcher.insertHotCache connId entry.ctx entry.handler, [invocation])
  | none => (dispatcher, [])

def CompletionDispatcher.dispatch (dispatcher : CompletionDispatcher) (wc : Wc) :
    Option (CompletionDispatcher × List Invocation) :=
  let connId := getConnId wc.wrId
  let set := (connId &&& kL0SetMask).toNat
  if wc.status ≠ 0 then
    match dispatcher.errorHandler with
    | some handler =>
      let invocation := Invocation.error handler dispatcher.errorCtx connId wc.status
      some (react invocation dispatcher, [invocation])
    | none => some (dispatcher, [])
  else if (dispatcher.l0Cache (set, 0)).connId = connId then dispatcher.dispatchFromL0 react (set, 0) (set, 1) wc
  else if (dispatcher.l0Cache (set, 1)).connId = connId then dispatcher.dispatchFromL0 react (set, 1) (set, 0) wc
  else
    match dispatcher.findInHotCache connId with
    | some pos => dispatcher.dispatchFromL1 react connId pos wc
    | none => some (dispatcher.dispatchFromL2 react connId wc)

/-! ### Runs -/

inductive Event
  | register (connId : UInt16) (ctx handler : Nat)
  | unregister (connId : UInt16)
  | setErrorHandler (ctx : Nat) (handler : Option Nat)
  | dispatch (wc : Wc)
  deriving DecidableEq, Repr

/-- A handler that leaves the dispatcher alone. -/
def passive (_ : Invocation) (dispatcher : CompletionDispatcher) : CompletionDispatcher := dispatcher

/-- A step with handlers that do not call back into the dispatcher. -/
def CompletionDispatcher.step (dispatcher : CompletionDispatcher) : Event →
    Option (CompletionDispatcher × List Invocation)
  | .register connId ctx handler => some (dispatcher.registerConnection connId ctx (some handler), [])
  | .unregister connId => some (dispatcher.unregisterConnection connId, [])
  | .setErrorHandler ctx handler => some (dispatcher.setErrorHandler ctx handler, [])
  | .dispatch wc => dispatcher.dispatch passive wc

/-- What a dispatcher is for: a map from connections to their contexts and handlers. -/
structure Registry where
  handlers : UInt16 → Option (Nat × Nat)
  errorHandler : Option (Nat × Nat)

def Registry.empty : Registry := ⟨fun _ => none, none⟩

/-- The invocation of the handler of a connection, if it has one. -/
def Registry.invoke (registry : Registry) (connId : UInt16) (wc : Wc) : List Invocation :=
  match registry.handlers connId with
  | some (ctx, handler) => [.completion handler ctx wc]
  | none => []

/-- The invocation that answers a completion. -/
def Registry.answer (registry : Registry) (wc : Wc) : List Invocation :=
  if wc.status ≠ 0 then
    match registry.errorHandler with
    | some (ctx, handler) => [.error handler ctx (getConnId wc.wrId) wc.status]
    | none => []
  else registry.invoke (getConnId wc.wrId) wc

def Registry.step (registry : Registry) : Event → Registry × List Invocation
  | .register connId ctx handler =>
    ({ registry with handlers := Function.update registry.handlers connId (some (ctx, handler)) }, [])
  | .unregister connId => ({ registry with handlers := Function.update registry.handlers connId none }, [])
  | .setErrorHandler ctx handler => ({ registry with errorHandler := handler.map (ctx, ·) }, [])
  | .dispatch wc => (registry, registry.answer wc)

/-- The event names no connection, or one that a connection manager can issue. -/
def Issued : Event → Prop
  | .register connId _ _ | .unregister connId => connId ≠ 0xFFFF
  | .setErrorHandler .. => True
  | .dispatch wc => getConnId wc.wrId ≠ 0xFFFF

instance : DecidablePred Issued
  | .register connId _ _ | .unregister connId => inferInstanceAs (Decidable (connId ≠ 0xFFFF))
  | .setErrorHandler .. => inferInstanceAs (Decidable True)
  | .dispatch wc => inferInstanceAs (Decidable (getConnId wc.wrId ≠ 0xFFFF))

/-- A registration leaves no second copy of its connection behind a copy or an empty entry, and its removal none behind
    a copy. -/
def Shadowless (dispatcher : CompletionDispatcher) : Event → Prop
  | .register connId _ _ =>
    ((l0Places connId).Pairwise fun first second =>
      ((dispatcher.l0Cache first).connId = connId ∨ (dispatcher.l0Cache first).connId = 0xFFFF) →
        ¬(dispatcher.l0Cache second).connId = connId) ∧
    (probes connId).Pairwise fun first second =>
      ((dispatcher.hotCache first).connId = connId ∨ (dispatcher.hotCache first).connId = 0xFFFF) →
        ¬(dispatcher.hotCache second).connId = connId
  | .unregister connId =>
    ((l0Places connId).Pairwise fun first second =>
      (dispatcher.l0Cache first).connId = connId → ¬(dispatcher.l0Cache second).connId = connId) ∧
    (probes connId).Pairwise fun first second =>
      (dispatcher.hotCache first).connId = connId → ¬(dispatcher.hotCache second).connId = connId
  | _ => True

/-! ### What the operations leave -/

def L0CacheEntry.value (entry : L0CacheEntry) : Option (Nat × Nat) := entry.handler.map (entry.ctx, ·)
def HotCacheEntry.value (entry : HotCacheEntry) : Option (Nat × Nat) := entry.handler.map (entry.ctx, ·)
def ConnectionEntry.value (entry : ConnectionEntry) : Option (Nat × Nat) := entry.handler.map (entry.ctx, ·)

variable {dispatcher : CompletionDispatcher} {connId : UInt16}

/-- The two indices determine the connection. -/
theorem idx_inj {first second : UInt16} (bucket : bucketIdx first = bucketIdx second)
    (slot : slotIdx first = slotIdx second) : first = second := by
  have high : ∀ connId, (bucketIdx connId).toNat = connId.toNat / 256 := by
    intro connId
    have bound := connId.toNat_lt
    simp only [bucketIdx, UInt16.toNat_toUInt8, UInt16.toNat_shiftRight, Nat.shiftRight_eq_div_pow,
      UInt16.reduceToNat, Nat.reduceMod]
    omega
  have low : ∀ connId, (slotIdx connId).toNat = connId.toNat % 256 := by
    intro connId
    simp only [slotIdx, UInt16.toNat_toUInt8, UInt16.toNat_and, UInt16.reduceToNat]
    rw [mask_eq_mod 8 _ rfl]
    omega
  have bucket := congrArg UInt8.toNat bucket
  have slot := congrArg UInt8.toNat slot
  rw [high, high] at bucket
  rw [low, low] at slot
  exact UInt16.toNat_inj.mp (by omega)

theorem putIndex_indexed (dispatcher : CompletionDispatcher) (connId : UInt16) (entry : ConnectionEntry)
    (other : UInt16) :
    (dispatcher.putIndex connId entry).indexed other = if other = connId then entry else dispatcher.indexed other := by
  by_cases same : other = connId
  · subst same
    simp [CompletionDispatcher.indexed, CompletionDispatcher.putIndex]
  · rw [if_neg same]
    by_cases bucket : bucketIdx other = bucketIdx connId
    · have slot : slotIdx other ≠ slotIdx connId := fun slot => same (idx_inj bucket slot)
      simp only [CompletionDispatcher.indexed, CompletionDispatcher.putIndex, bucket, Function.update_self,
        Function.update_of_ne slot]
      cases dispatcher.buckets (bucketIdx connId) <;> rfl
    · simp only [CompletionDispatcher.indexed, CompletionDispatcher.putIndex, Function.update_of_ne bucket]

/-- Inserting writes one entry, the one found if there is one. -/
theorem insertHotCache_eq (dispatcher : CompletionDispatcher) (connId : UInt16) (ctx : Nat) (handler : Option Nat) :
    ∃ pos entry, dispatcher.insertHotCache connId ctx handler = dispatcher.putHot pos entry ∧ entry.connId = connId ∧
      entry.value = handler.map (ctx, ·) ∧
      ∀ other, ((probes connId).find? fun pos =>
        (dispatcher.hotCache pos).connId = connId ∨ (dispatcher.hotCache pos).connId = 0xFFFF) = some other →
          other = pos := by
  unfold CompletionDispatcher.insertHotCache
  split
  · rename_i pos found
    split
    · rename_i same
      exact ⟨pos, _, rfl, same, rfl, fun other found' => Option.some.inj (found'.symm.trans found)⟩
    · exact ⟨pos, _, rfl, rfl, rfl, fun other found' => Option.some.inj (found'.symm.trans found)⟩
  · rename_i missing
    exact ⟨_, _, rfl, rfl, rfl, fun other found => by rw [missing] at found; cases found⟩

theorem registerWay_found {other : Nat × Nat} (found : ((l0Places connId).find? fun place =>
    (dispatcher.l0Cache place).connId = connId ∨ (dispatcher.l0Cache place).connId = 0xFFFF) = some other) :
    other = dispatcher.registerWay connId := by
  rw [CompletionDispatcher.registerWay, found]
  rfl

theorem maybePromoteToL0_eq (dispatcher : CompletionDispatcher) (connId : UInt16) (ctx : Nat) (handler : Option Nat) :
    dispatcher.maybePromoteToL0 connId ctx handler = dispatcher ∨
      ∃ place, dispatcher.maybePromoteToL0 connId ctx handler = dispatcher.fillL0 place connId ctx handler := by
  unfold CompletionDispatcher.maybePromoteToL0
  split
  · split
    · exact .inr ⟨_, rfl⟩
    · exact .inl rfl
  · exact .inr ⟨_, rfl⟩

/-! ### The refinement -/

/-- The index is the map, and both caches agree with it. -/
structure Refines (dispatcher : CompletionDispatcher) (registry : Registry) : Prop where
  index : ∀ connId, (dispatcher.indexed connId).value = registry.handlers connId
  l0 : Agrees 0xFFFF l0Places L0CacheEntry.connId L0CacheEntry.value dispatcher.l0Cache registry.handlers
  hot : Agrees 0xFFFF probes HotCacheEntry.connId HotCacheEntry.value dispatcher.hotCache registry.handlers
  error : dispatcher.errorHandler.map (dispatcher.errorCtx, ·) = registry.errorHandler

variable {registry : Registry}

theorem create_refines : Refines .create .empty where
  index _ := rfl
  l0 := Agrees.empty fun _ => rfl
  hot := Agrees.empty fun _ => rfl
  error := rfl

/-- The index after a registration or a removal. -/
theorem index_update (refines : Refines dispatcher registry) (connId : UInt16) (entry : ConnectionEntry) :
    ∀ other, ((dispatcher.putIndex connId entry).indexed other).value =
      Function.update registry.handlers connId entry.value other := by
  intro other
  rw [putIndex_indexed]
  by_cases same : other = connId
  · rw [if_pos same, same, Function.update_self]
  · rw [if_neg same, Function.update_of_ne same]
    exact refines.index other

/-- The only copy of a connection in a window is where the search for it ends. -/
theorem only_found {Place Cell : Type} {window : UInt16 → List Place} {key : Cell → UInt16} {cells : Place → Cell}
    {stops : Place → Prop} [DecidablePred stops] (sees : ∀ place, key (cells place) = connId → stops place)
    (clear : (window connId).Pairwise fun first second => stops first → ¬key (cells second) = connId) {place : Place}
    (found : ∀ other, (window connId).find? (stops ·) = some other → other = place) :
    OnlyAt window key cells connId place :=
  fun _ member holds => found _ (find_of_pairwise sees clear member holds)

theorem register_refines (refines : Refines dispatcher registry) {ctx handler : Nat}
    (clear : Shadowless dispatcher (.register connId ctx handler)) :
    Refines (dispatcher.registerConnection connId ctx (some handler))
      (registry.step (.register connId ctx handler)).1 := by
  obtain ⟨pos, entry, inserted, named, value, found⟩ := insertHotCache_eq
    ((dispatcher.putIndex connId ⟨ctx, some handler⟩).fillL0
      ((dispatcher.putIndex connId ⟨ctx, some handler⟩).registerWay connId) connId ctx (some handler))
    connId ctx (some handler)
  rw [CompletionDispatcher.registerConnection, inserted]
  refine ⟨index_update refines connId ⟨ctx, some handler⟩, ?_, ?_, refines.error⟩
  · exact refines.l0.write (only_found (fun _ => .inl) clear.1 fun _ first => registerWay_found first)
      (.inr ⟨rfl, rfl, rfl⟩)
  · exact refines.hot.write (only_found (fun _ => .inl) clear.2 found) (.inr ⟨named, rfl, value⟩)

/-- A search for the copy of a connection that finds none. -/
theorem absent_unfound {Place Cell : Type} {window : UInt16 → List Place} {key : Cell → UInt16} {cells : Place → Cell}
    (missing : (window connId).find? (fun place => key (cells place) = connId) = none) :
    ∀ place ∈ window connId, key (cells place) ≠ connId := by
  intro place member
  simpa using List.find?_eq_none.mp missing place member

theorem removeIndex_frame (dispatcher : CompletionDispatcher) (connId : UInt16) :
    (dispatcher.removeIndex connId).l0Cache = dispatcher.l0Cache ∧
      (dispatcher.removeIndex connId).hotCache = dispatcher.hotCache ∧
      (dispatcher.removeIndex connId).errorHandler = dispatcher.errorHandler ∧
      (dispatcher.removeIndex connId).errorCtx = dispatcher.errorCtx ∧
      ∀ other, (dispatcher.removeIndex connId).indexed other =
        if other = connId then {} else dispatcher.indexed other := by
  unfold CompletionDispatcher.removeIndex
  split
  · exact ⟨rfl, rfl, rfl, rfl, putIndex_indexed dispatcher connId {}⟩
  · rename_i absent
    refine ⟨rfl, rfl, rfl, rfl, fun other => ?_⟩
    split
    · rename_i same
      rw [same, CompletionDispatcher.indexed, Option.not_isSome_iff_eq_none.mp absent]
    · rfl

theorem invalidateL0_eq (dispatcher : CompletionDispatcher) (connId : UInt16) :
    ∃ l0Cache, dispatcher.invalidateL0 connId = { dispatcher with l0Cache } ∧
      ∀ map : UInt16 → Option (Nat × Nat),
        ((l0Places connId).Pairwise fun first second =>
          (dispatcher.l0Cache first).connId = connId → ¬(dispatcher.l0Cache second).connId = connId) →
        Agrees 0xFFFF l0Places L0CacheEntry.connId L0CacheEntry.value dispatcher.l0Cache map →
        Agrees 0xFFFF l0Places L0CacheEntry.connId L0CacheEntry.value l0Cache (Function.update map connId none) := by
  unfold CompletionDispatcher.invalidateL0
  split
  · rename_i place found
    refine ⟨_, rfl, fun map clear agrees => agrees.write (only_found (fun _ => id) clear fun _ first => ?_) (.inl rfl)⟩
    exact Option.some.inj (first.symm.trans found)
  · rename_i missing
    exact ⟨_, rfl, fun map _ agrees => agrees.absent (absent_unfound missing) none⟩

theorem invalidateL1_eq (dispatcher : CompletionDispatcher) (connId : UInt16) :
    ∃ hotCache, dispatcher.invalidateL1 connId = { dispatcher with hotCache } ∧
      ∀ map : UInt16 → Option (Nat × Nat),
        ((probes connId).Pairwise fun first second =>
          (dispatcher.hotCache first).connId = connId → ¬(dispatcher.hotCache second).connId = connId) →
        Agrees 0xFFFF probes HotCacheEntry.connId HotCacheEntry.value dispatcher.hotCache map →
        Agrees 0xFFFF probes HotCacheEntry.connId HotCacheEntry.value hotCache (Function.update map connId none) := by
  unfold CompletionDispatcher.invalidateL1
  split
  · rename_i pos found
    refine ⟨_, rfl, fun map clear agrees => agrees.write (only_found (fun _ => id) clear fun _ first => ?_) (.inl rfl)⟩
    exact Option.some.inj (first.symm.trans found)
  · rename_i missing
    exact ⟨_, rfl, fun map _ agrees => agrees.absent (absent_unfound missing) none⟩

theorem unregister_refines (refines : Refines dispatcher registry) (clear : Shadowless dispatcher (.unregister connId)) :
    Refines (dispatcher.unregisterConnection connId) (registry.step (.unregister connId)).1 := by
  obtain ⟨sameL0, sameHot, handler, ctx, index⟩ := removeIndex_frame dispatcher connId
  obtain ⟨l0Cache, first, l0⟩ := invalidateL0_eq (dispatcher.removeIndex connId) connId
  obtain ⟨hotCache, second, hot⟩ := invalidateL1_eq { dispatcher.removeIndex connId with l0Cache } connId
  rw [CompletionDispatcher.unregisterConnection, first, second]
  rw [sameL0] at l0
  rw [show ({ dispatcher.removeIndex connId with l0Cache } : CompletionDispatcher).hotCache = _ from sameHot] at hot
  refine ⟨fun other => ?_, l0 _ clear.1 refines.l0, hot _ clear.2 refines.hot, ?_⟩
  · change ((dispatcher.removeIndex connId).indexed other).value = Function.update registry.handlers connId none other
    rw [index]
    by_cases same : other = connId
    · rw [if_pos same, same, Function.update_self]
      rfl
    · rw [if_neg same, Function.update_of_ne same]
      exact refines.index other
  · change (dispatcher.removeIndex connId).errorHandler.map ((dispatcher.removeIndex connId).errorCtx, ·) = _
    rw [handler, ctx]
    exact refines.error

/-! ### Dispatching -/

theorem touchL0 (refines : Refines dispatcher registry) (place : Nat × Nat) {entry : L0CacheEntry}
    (named : entry.connId = (dispatcher.l0Cache place).connId)
    (value : entry.value = (dispatcher.l0Cache place).value) : Refines (dispatcher.putL0 place entry) registry :=
  ⟨refines.index, refines.l0.touch named value, refines.hot, refines.error⟩

theorem ageL0_refines (refines : Refines dispatcher registry) (place : Nat × Nat) :
    Refines (dispatcher.ageL0 place) registry := by
  unfold CompletionDispatcher.ageL0
  dsimp only
  split
  · exact touchL0 refines place rfl rfl
  · exact refines

theorem fillL0_refines (refines : Refines dispatcher registry) (place : Nat × Nat) {ctx handler : Nat}
    (known : registry.handlers connId = some (ctx, handler)) :
    Refines (dispatcher.fillL0 place connId ctx (some handler)) registry :=
  ⟨refines.index, refines.l0.fill place (by rw [known]; rfl) (by rw [known]; rfl), refines.hot, refines.error⟩

theorem maybePromoteToL0_refines (refines : Refines dispatcher registry) {ctx handler : Nat}
    {entryHandler : Option Nat} (holds : entryHandler = some handler)
    (known : registry.handlers connId = some (ctx, handler)) :
    Refines (dispatcher.maybePromoteToL0 connId ctx entryHandler) registry := by
  subst holds
  rcases maybePromoteToL0_eq dispatcher connId ctx (some handler) with same | ⟨place, filled⟩
  · rw [same]
    exact refines
  · rw [filled]
    exact fillL0_refines refines place known

theorem insertHotCache_refines (refines : Refines dispatcher registry) {ctx handler : Nat}
    (known : registry.handlers connId = some (ctx, handler)) :
    Refines (dispatcher.insertHotCache connId ctx (some handler)) registry := by
  obtain ⟨pos, entry, inserted, rfl, value, -⟩ := insertHotCache_eq dispatcher connId ctx (some handler)
  rw [inserted]
  exact ⟨refines.index, refines.l0, refines.hot.fill pos (by rw [known]; rfl) (by rw [value, known]; rfl), refines.error⟩

theorem invoke_known {ctx handler : Nat} (known : registry.handlers connId = some (ctx, handler)) (wc : Wc) :
    registry.invoke connId wc = [.completion handler ctx wc] := by
  rw [Registry.invoke, known]

/-- An entry found under a connection holds the connection's handler. -/
theorem value_known {entryCtx : Nat} {entryHandler : Option Nat}
    (agrees : (registry.handlers connId).isSome ∧ entryHandler.map (entryCtx, ·) = registry.handlers connId) :
    ∃ handler, entryHandler = some handler ∧ registry.handlers connId = some (entryCtx, handler) := by
  obtain ⟨known, value⟩ := agrees
  rw [← value] at known ⊢
  cases entryHandler with
  | none => cases known
  | some handler => exact ⟨handler, rfl, rfl⟩

/-! ### While a handler is invoked -/

/-- Where `Dispatch` finds the handler of a connection. -/
inductive Found
  | l0 (place other : Nat × Nat)
  | l1 (pos : Nat)
  | l2

def CompletionDispatcher.find (dispatcher : CompletionDispatcher) (connId : UInt16) : Found :=
  let set := (connId &&& kL0SetMask).toNat
  if (dispatcher.l0Cache (set, 0)).connId = connId then .l0 (set, 0) (set, 1)
  else if (dispatcher.l0Cache (set, 1)).connId = connId then .l0 (set, 1) (set, 0)
  else
    match dispatcher.findInHotCache connId with
    | some pos => .l1 pos
    | none => .l2

theorem findInHotCache_some {pos : Nat} (found : dispatcher.findInHotCache connId = some pos) :
    pos ∈ probes connId ∧ (dispatcher.hotCache pos).connId = connId := by
  obtain ⟨first, same⟩ := Option.filter_eq_some_iff.mp found
  exact ⟨List.mem_of_find?_eq_some first, of_decide_eq_true same⟩

theorem find_l0 {place other : Nat × Nat} (found : dispatcher.find connId = .l0 place other) :
    place ∈ l0Places connId ∧ (dispatcher.l0Cache place).connId = connId := by
  have ways : l0Places connId = [((connId &&& kL0SetMask).toNat, 0), ((connId &&& kL0SetMask).toNat, 1)] := rfl
  rw [ways]
  unfold CompletionDispatcher.find at found
  dsimp only at found
  split at found
  · rename_i same
    obtain ⟨rfl, rfl⟩ := Found.l0.inj found
    exact ⟨List.mem_cons_self, same⟩
  · split at found
    · rename_i same
      obtain ⟨rfl, rfl⟩ := Found.l0.inj found
      exact ⟨List.mem_cons_of_mem _ List.mem_cons_self, same⟩
    · split at found <;> cases found

theorem find_l1 {pos : Nat} (found : dispatcher.find connId = .l1 pos) :
    pos ∈ probes connId ∧ (dispatcher.hotCache pos).connId = connId := by
  unfold CompletionDispatcher.find at found
  dsimp only at found
  split at found
  · cases found
  · split at found
    · cases found
    · split at found
      · rename_i pos hit
        obtain rfl := Found.l1.inj found
        exact findInHotCache_some hit
      · cases found

/-- A successful completion takes the path on which the handler is found. -/
theorem dispatch_found (react : Invocation → CompletionDispatcher → CompletionDispatcher)
    (dispatcher : CompletionDispatcher) {wc : Wc} (success : wc.status = 0) :
    dispatcher.dispatch react wc = match dispatcher.find (getConnId wc.wrId) with
      | .l0 place other => dispatcher.dispatchFromL0 react place other wc
      | .l1 pos => dispatcher.dispatchFromL1 react (getConnId wc.wrId) pos wc
      | .l2 => some (dispatcher.dispatchFromL2 react (getConnId wc.wrId) wc) := by
  unfold CompletionDispatcher.dispatch CompletionDispatcher.find
  dsimp only
  rw [if_neg (not_not_intro success)]
  split
  · rfl
  · split
    · rfl
    · cases dispatcher.findInHotCache (getConnId wc.wrId) with
      | some pos => rfl
      | none => rfl

/-- A hit in L0. -/
def CompletionDispatcher.hitL0 (dispatcher : CompletionDispatcher) (place : Nat × Nat) : CompletionDispatcher :=
  dispatcher.putL0 place { dispatcher.l0Cache place with accessCount := 255 }

theorem hitL0_reads (dispatcher : CompletionDispatcher) (place : Nat × Nat) :
    ((dispatcher.hitL0 place).l0Cache place).handler = (dispatcher.l0Cache place).handler ∧
      ((dispatcher.hitL0 place).l0Cache place).ctx = (dispatcher.l0Cache place).ctx := by
  rw [CompletionDispatcher.hitL0, CompletionDispatcher.putL0]
  simp only [Function.update_self, and_self]

/-- The state in which the handler of a connection is invoked. -/
def CompletionDispatcher.invoking (dispatcher : CompletionDispatcher) (connId : UInt16) : CompletionDispatcher :=
  match dispatcher.find connId with
  | .l0 place _ => dispatcher.hitL0 place
  | _ => dispatcher

/-- The search of `MaybePromoteToL0` meets a copy of the connection before an empty entry. -/
def CompletionDispatcher.inL0 (dispatcher : CompletionDispatcher) (connId : UInt16) : Bool :=
  ((l0Places connId).find? fun place =>
    (dispatcher.l0Cache place).connId = 0xFFFF ∨ (dispatcher.l0Cache place).connId = connId).any fun place =>
      (dispatcher.l0Cache place).connId = connId

/-- What a path asks of the state in which the handler returns: the entry in L1 is still the connection's, or nothing is
    promoted, and the connection found in L2 still has a handler. -/
def Returns (connId : UInt16) (returned : CompletionDispatcher) : Found → Prop
  | .l0 .. => True
  | .l1 pos => (returned.hotCache pos).connId = connId ∨ returned.inL0 connId = true
  | .l2 => (returned.indexed connId).handler ≠ none

theorem inL0_keeps (inL0 : dispatcher.inL0 connId = true) (named : connId ≠ 0xFFFF) (ctx : Nat) (handler : Option Nat) :
    dispatcher.maybePromoteToL0 connId ctx handler = dispatcher := by
  obtain ⟨place, found, same⟩ := (Option.any_eq_true _ _).mp inL0
  have same : (dispatcher.l0Cache place).connId = connId := of_decide_eq_true same
  rw [CompletionDispatcher.maybePromoteToL0, found]
  dsimp only
  rw [same, if_neg named]

section Reacting
variable {react} {after : Registry}

theorem dispatchFromL0_refines (refines : Refines dispatcher registry) (named : connId ≠ 0xFFFF) {place : Nat × Nat}
    (member : place ∈ l0Places connId) (found : (dispatcher.l0Cache place).connId = connId) (other : Nat × Nat) {wc : Wc}
    (reacts : ∀ ctx handler, registry.handlers connId = some (ctx, handler) →
      Refines (react (.completion handler ctx wc) (dispatcher.hitL0 place)) after) :
    ∃ next, dispatcher.dispatchFromL0 react place other wc = some (next, registry.invoke connId wc) ∧
      Refines next after := by
  obtain ⟨handler, holds, known⟩ := value_known (refines.l0 connId named place member found)
  obtain ⟨own, ctx⟩ := hitL0_reads dispatcher place
  rw [invoke_known known]
  refine ⟨_, Option.bind_eq_some_iff.mpr ⟨handler, own.trans holds, ?_⟩, ageL0_refines (reacts _ handler known) other⟩
  rw [← ctx]
  rfl

theorem dispatchFromL1_refines (refines : Refines dispatcher registry) (named : connId ≠ 0xFFFF) {pos : Nat}
    (member : pos ∈ probes connId) (found : (dispatcher.hotCache pos).connId = connId) {wc : Wc}
    (reacts : ∀ ctx handler, registry.handlers connId = some (ctx, handler) →
      Refines (react (.completion handler ctx wc) dispatcher) after ∧
        Returns connId (react (.completion handler ctx wc) dispatcher) (.l1 pos)) :
    ∃ next, dispatcher.dispatchFromL1 react connId pos wc = some (next, registry.invoke connId wc) ∧
      Refines next after := by
  obtain ⟨handler, holds, known⟩ := value_known (refines.hot connId named pos member found)
  obtain ⟨kept, returns⟩ := reacts _ handler known
  rw [invoke_known known]
  refine ⟨_, Option.bind_eq_some_iff.mpr ⟨handler, holds, rfl⟩, ?_⟩
  generalize react (.completion handler (dispatcher.hotCache pos).ctx wc) dispatcher = returned at kept returns ⊢
  have counted : Refines (returned.putHot pos
      { returned.hotCache pos with accessCount := (returned.hotCache pos).accessCount + 1 }) after :=
    ⟨kept.index, kept.l0, kept.hot.touch rfl rfl, kept.error⟩
  rcases returns with same | inL0
  · obtain ⟨handler, holds, known⟩ := value_known (kept.hot connId named pos member same)
    exact maybePromoteToL0_refines counted holds known
  · have still : (returned.putHot pos { returned.hotCache pos with
        accessCount := (returned.hotCache pos).accessCount + 1 }).inL0 connId = true := inL0
    rw [inL0_keeps still named]
    exact counted

theorem dispatchFromL2_refines (refines : Refines dispatcher registry) {wc : Wc}
    (reacts : ∀ ctx handler, registry.handlers connId = some (ctx, handler) →
      Refines (react (.completion handler ctx wc) dispatcher) after ∧
        Returns connId (react (.completion handler ctx wc) dispatcher) .l2)
    (unknown : registry.handlers connId = none → after = registry) :
    ∃ next, dispatcher.dispatchFromL2 react connId wc = (next, registry.invoke connId wc) ∧ Refines next after := by
  have index := refines.index connId
  unfold CompletionDispatcher.dispatchFromL2
  cases holds : (dispatcher.indexed connId).handler with
  | none =>
    rw [ConnectionEntry.value, holds] at index
    exact ⟨dispatcher, by rw [Registry.invoke, ← index]; rfl, by rw [unknown index.symm]; exact refines⟩
  | some handler =>
    rw [ConnectionEntry.value, holds] at index
    have known : registry.handlers connId = some ((dispatcher.indexed connId).ctx, handler) := index.symm
    obtain ⟨kept, returns⟩ := reacts _ handler known
    rw [invoke_known known]
    refine ⟨_, rfl, ?_⟩
    generalize react (.completion handler (dispatcher.indexed connId).ctx wc) dispatcher = returned at kept returns ⊢
    have index := kept.index connId
    obtain ⟨other, holds⟩ := Option.ne_none_iff_exists'.mp returns
    rw [ConnectionEntry.value, holds] at index
    rw [holds]
    exact insertHotCache_refines kept index.symm

/-- A successful completion: the registry changes as the handler changes it. -/
theorem completion_refines (refines : Refines dispatcher registry) {wc : Wc} (named : getConnId wc.wrId ≠ 0xFFFF)
    (success : wc.status = 0)
    (reacts : ∀ ctx handler, registry.handlers (getConnId wc.wrId) = some (ctx, handler) →
      Refines (react (.completion handler ctx wc) (dispatcher.invoking (getConnId wc.wrId))) after ∧
        Returns (getConnId wc.wrId) (react (.completion handler ctx wc) (dispatcher.invoking (getConnId wc.wrId)))
          (dispatcher.find (getConnId wc.wrId)))
    (unknown : registry.handlers (getConnId wc.wrId) = none → after = registry) :
    ∃ next, dispatcher.dispatch react wc = some (next, registry.invoke (getConnId wc.wrId) wc) ∧ Refines next after := by
  rw [dispatch_found react dispatcher success]
  unfold CompletionDispatcher.invoking at reacts
  cases found : dispatcher.find (getConnId wc.wrId) with
  | l0 place other =>
    obtain ⟨member, same⟩ := find_l0 found
    rw [found] at reacts
    exact dispatchFromL0_refines refines named member same other fun ctx handler known => (reacts ctx handler known).1
  | l1 pos =>
    obtain ⟨member, same⟩ := find_l1 found
    rw [found] at reacts
    exact dispatchFromL1_refines refines named member same reacts
  | l2 =>
    rw [found] at reacts
    obtain ⟨next, dispatched, kept⟩ := dispatchFromL2_refines refines reacts unknown
    exact ⟨next, congrArg some dispatched, kept⟩

/-- An error completion goes to the error handler. -/
theorem error_refines (refines : Refines dispatcher registry) {wc : Wc} (failed : wc.status ≠ 0)
    (reacts : ∀ invocation ∈ registry.answer wc, Refines (react invocation dispatcher) after)
    (unknown : registry.answer wc = [] → after = registry) :
    ∃ next, dispatcher.dispatch react wc = some (next, registry.answer wc) ∧ Refines next after := by
  have error := refines.error
  unfold CompletionDispatcher.dispatch
  dsimp only
  rw [if_pos failed]
  unfold Registry.answer at reacts unknown ⊢
  simp only [if_pos failed] at reacts unknown ⊢
  cases holds : dispatcher.errorHandler with
  | none =>
    rw [holds] at error
    rw [← error] at unknown ⊢
    exact ⟨dispatcher, rfl, by rw [unknown rfl]; exact refines⟩
  | some handler =>
    rw [holds] at error
    rw [← error] at reacts ⊢
    exact ⟨_, rfl, reacts _ (List.mem_singleton_self _)⟩

end Reacting

/-- A hit in L1 or L2 stays where it was found. -/
theorem find_returns (refines : Refines dispatcher registry) {ctx handler : Nat}
    (known : registry.handlers connId = some (ctx, handler)) :
    Refines (dispatcher.invoking connId) registry ∧
      Returns connId (dispatcher.invoking connId) (dispatcher.find connId) := by
  unfold CompletionDispatcher.invoking
  cases found : dispatcher.find connId with
  | l0 place other => exact ⟨touchL0 refines place rfl rfl, trivial⟩
  | l1 pos =>
    exact ⟨refines, .inl (find_l1 found).2⟩
  | l2 =>
    refine ⟨refines, fun none_left => ?_⟩
    have index := refines.index connId
    rw [ConnectionEntry.value, none_left, known] at index
    cases index

theorem dispatch_refines (refines : Refines dispatcher registry) {wc : Wc} (named : getConnId wc.wrId ≠ 0xFFFF) :
    ∃ next, dispatcher.dispatch passive wc = some (next, registry.answer wc) ∧ Refines next registry := by
  by_cases success : wc.status = 0
  · rw [Registry.answer, if_neg (not_not_intro success)]
    exact completion_refines refines named success (fun ctx handler known => find_returns refines known) fun _ => rfl
  · exact error_refines refines success (fun _ _ => refines) fun _ => rfl

/-- A step over an issued connection that meets no shadowed copy is a step of the map. -/
theorem step_refines (refines : Refines dispatcher registry) {event : Event} (issued : Issued event)
    (clear : Shadowless dispatcher event) :
    ∃ next, dispatcher.step event = some (next, (registry.step event).2) ∧ Refines next (registry.step event).1 := by
  cases event with
  | register connId ctx handler => exact ⟨_, rfl, register_refines refines clear⟩
  | unregister connId => exact ⟨_, rfl, unregister_refines refines clear⟩
  | setErrorHandler ctx handler => exact ⟨_, rfl, refines.index, refines.l0, refines.hot, rfl⟩
  | dispatch wc => exact dispatch_refines refines issued

/-- In every run over the connections that a manager can issue, in which no call to register or to unregister meets a
    shadowed copy, the dispatcher invokes exactly the handlers that a plain map does. -/
theorem dispatcher_refines {events : List Event} (issued : ∀ event ∈ events, Issued event)
    (clear : Meets CompletionDispatcher.step Shadowless .create events) :
    ∃ last registry invocations, run CompletionDispatcher.step .create events = some (last, invocations) ∧
      run (fun registry event => some (Registry.step registry event)) .empty events = some (registry, invocations) ∧
      Refines last registry :=
  simulates_run Registry.step Refines (fun _ _ _ refines meets => step_refines refines meets.1 meets.2) create_refines
    (meets_both (meets_of_forall issued) clear)

/-- A successful completion of a work request of the connection. -/
def sampleWc (connId : UInt16) : Wc := ⟨encode connId .requestSend 0 0, 0, 0⟩

/-- A connection is registered, hit, removed and asked for once more. -/
theorem removed_connection_quiet :
    ∃ last registry invocations,
      run CompletionDispatcher.step .create
          [.register 5 7 9, .dispatch (sampleWc 5), .unregister 5, .dispatch (sampleWc 5)] =
        some (last, invocations) ∧
      run (fun registry event => some (Registry.step registry event)) .empty
          [.register 5 7 9, .dispatch (sampleWc 5), .unregister 5, .dispatch (sampleWc 5)] =
        some (registry, invocations) ∧
      Refines last registry := by
  refine dispatcher_refines (by decide) ?_
  refine meets_cons rfl ⟨by decide, by decide⟩ (meets_cons rfl trivial ?_)
  exact meets_cons rfl ⟨by decide, by decide⟩ (meets_cons rfl trivial (meets_nil _))

def shadowingEvents : List Event :=
  [.register 0 11 1, .register 32 22 2, .unregister 0, .register 32 33 3, .unregister 32, .dispatch (sampleWc 32)]

/-- Connection 32 is registered behind the copies of connection 0, again in front of them after these are removed, and
    unregistered: the copy behind still answers. -/
theorem shadowed_copy_answers :
    (∀ event ∈ shadowingEvents, Issued event) ∧
      ((run CompletionDispatcher.step .create shadowingEvents).map Prod.snd) =
        some [.completion 2 22 (sampleWc 32)] ∧
      (run (fun registry event => some (Registry.step registry event)) .empty shadowingEvents).map Prod.snd =
        some [] := by
  exact ⟨by decide, by decide +kernel, by decide +kernel⟩

end Rdma.Dispatchers
