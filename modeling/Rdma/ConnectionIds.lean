import Rdma.ConnectionManagers
import Rdma.Runs

/-!
Runs of the connection manager. Creating a connection moves an id from the stack
into the array and removing one moves it back, so the ids of the live connections
and those on the stack are each id of the array exactly once (`ids_managed`), and
a connection is found under its own id.
-/
namespace Rdma.ConnectionIds
open Rdma.Arrays Rdma.Runs Rdma.Types Rdma.Verbs Rdma.Connections Rdma.ConnectionManagers

/-- `use` is whatever is done to a connection through the pointer to it; it does not set its id. -/
inductive Event
  | createConnection (config : ConnectionConfig) (created : Except Int Device)
  | removeConnection (connId : UInt16)
  | use (connId : UInt16) (change : Connection → Connection)

/-- The outputs are what `CreateConnection` returns. -/
def step (manager : ConnectionManager) : Event → Option (ConnectionManager × List (Except Status UInt16))
  | .createConnection config created =>
    (manager.createConnection config created).map fun (answer, manager) => (manager, [answer])
  | .removeConnection connId => some (manager.removeConnection connId, [])
  | .use connId change =>
    match manager.getConnection connId with
    | none => some (manager, [])
    | some conn => some (manager.update connId { change conn with connId := conn.connId }, [])

/-- The connections that the manager has. -/
def live (manager : ConnectionManager) : List Connection := manager.connections.values

/-- What holds of the ids of a manager of `size` connections. -/
structure Managed (size : Nat) (manager : ConnectionManager) : Prop where
  partition : (((live manager).map Connection.connId ++ manager.freeConnIds).map UInt16.toNat).Perm (List.range size)
  stored : ∀ index conn, index < size → manager.connections.cell index = some conn →
    conn.connId.toNat = index ∧ manager.getConnection conn.connId = some conn
  active : manager.activeCount = (live manager).length
  exhausted : ∀ config created,
    (∃ next, manager.createConnection config created =
      some (.error (Status.resourceExhausted "No available connection slots"), next)) ↔ (live manager).length = size
  failed : ∀ config created status next, manager.createConnection config created = some (.error status, next) →
    next = manager
  unused : ∀ connId : UInt16, (size ≤ connId.toNat ∨ manager.connections.cell connId.toNat = none) →
    manager.removeConnection connId = manager

/-- What the operations keep: each id of the array is free or that of the connection in its place. -/
structure Kept (manager : ConnectionManager) : Prop where
  size : manager.connections.size = manager.config.maxConnections.toNat
  named : ∀ index conn, index < manager.connections.size → manager.connections.cell index = some conn →
    conn.connId.toNat = index
  partition : (((live manager).map Connection.connId ++ manager.freeConnIds).map UInt16.toNat).Perm
    (List.range manager.connections.size)
  active : manager.activeCount = (live manager).length

variable {manager : ConnectionManager} {connId : UInt16} {conn : Connection} {index : Nat}

theorem Kept.once (kept : Kept manager) :
    (((live manager).map Connection.connId ++ manager.freeConnIds).map UInt16.toNat).Nodup :=
  kept.partition.nodup_iff.mpr List.nodup_range

theorem Kept.wellFormed (kept : Kept manager) : WellFormed manager where
  size := kept.size
  free := by
    intro connId member
    have listed : connId.toNat ∈ List.range manager.connections.size :=
      kept.partition.mem_iff.mp (List.mem_map_of_mem (List.mem_append_right _ member))
    have inside := List.mem_range.mp listed
    refine ⟨inside, ?_⟩
    by_contra used
    obtain ⟨conn, found⟩ := Option.ne_none_iff_exists'.mp used
    have same : conn.connId = connId := UInt16.toNat_inj.mp (kept.named _ _ inside found)
    have stored : connId ∈ (live manager).map Connection.connId :=
      List.mem_map.mpr ⟨conn, mem_values.mpr ⟨_, inside, found⟩, same⟩
    exact (List.nodup_append.mp kept.once.of_map).2.2 _ stored _ member rfl
  distinct := (List.nodup_append.mp kept.once.of_map).2.1

/-- What is in one cell changes, and the free ids with it. -/
theorem Kept.put (kept : Kept manager) (inside : index < manager.connections.size) {new : Option Connection}
    {free : List UInt16} {count : Nat} (named : ∀ conn, new = some conn → conn.connId.toNat = index)
    (balanced : (new.toList.map Connection.connId ++ free).Perm
      ((manager.connections.cell index).toList.map Connection.connId ++ manager.freeConnIds))
    (counted : count + (manager.connections.cell index).toList.length = manager.activeCount + new.toList.length) :
    Kept { manager with
      connections := manager.connections.put index new, freeConnIds := free, activeCount := count } where
  size := kept.size
  named := by
    intro other conn below found
    by_cases same : other = index
    · subst same
      rw [put_same] at found
      exact named conn found
    · rw [put_apart _ same] at found
      exact kept.named other conn below found
  partition := by
    have moved := (values_put inside new).map Connection.connId
    rw [List.map_append, List.map_append] at moved
    refine List.Perm.trans (List.Perm.map _ ?_) kept.partition
    apply (List.perm_append_left_iff ((manager.connections.cell index).toList.map Connection.connId)).mp
    have together := moved.append_right free
    rw [List.append_assoc, List.append_assoc] at together
    refine together.trans ?_
    refine (List.perm_append_comm_assoc ..).trans ?_
    refine (balanced.append_left _).trans ?_
    exact List.perm_append_comm_assoc ..
  active := by
    have moved := (values_put inside new).length_eq
    rw [List.length_append, List.length_append] at moved
    have before := kept.active
    unfold live at before ⊢
    dsimp only
    omega

/-! ### The operations -/

theorem create_kept (config : ConnectionManagerConfig) : Kept (.create config) := by
  have unused : live (.create config) = [] := List.filterMap_eq_nil_iff.mpr fun _ _ => rfl
  refine ⟨rfl, ?_, ?_, ?_⟩
  · intro index conn _ found
    cases found
  · have ids : (ConnectionManager.create config).freeConnIds.map UInt16.toNat =
        (List.range config.maxConnections.toNat).reverse := by
      rw [ConnectionManager.create, List.map_map, List.range_eq_range', List.reverse_range', ← List.range_eq_range',
        Nat.zero_add]
      exact List.map_congr_left fun _ _ => firstId_toNat config
    rw [unused, List.map_nil, List.nil_append, ids]
    exact List.reverse_perm _
  · rw [unused]
    rfl

/-- A new connection gets its id from the stack. -/
theorem placed_kept (kept : Kept manager) {rest : List UInt16} (stack : manager.freeConnIds = rest ++ [connId])
    (named : conn.connId = connId) : Kept (manager.placed rest connId conn) := by
  obtain ⟨inside, unused⟩ := kept.wellFormed.free connId (by rw [stack]; simp)
  refine kept.put inside ?_ ?_ ?_
  · rintro _ ⟨⟩
    rw [named]
  · rw [unused, stack, Option.toList_some, List.map_singleton, named]
    exact List.perm_append_comm
  · rw [unused]
    rfl

theorem getConnection_some : manager.getConnection connId = some conn ↔
    connId.toNat < manager.connections.size ∧ manager.connections.cell connId.toNat = some conn := by
  unfold ConnectionManager.getConnection
  by_cases outside : manager.connections.size ≤ connId.toNat
  · rw [if_pos outside]
    exact iff_of_false (by simp) fun stored => absurd stored.1 (Nat.not_lt.mpr outside)
  · rw [if_neg outside]
    exact ⟨fun found => ⟨Nat.lt_of_not_le outside, found⟩, And.right⟩

/-- A connection that is removed gives its id back. -/
theorem removed_kept (kept : Kept manager) (found : manager.getConnection connId = some conn) :
    Kept (manager.removeConnection connId) := by
  obtain ⟨inside, stored⟩ := getConnection_some.mp found
  have named : conn.connId = connId := UInt16.toNat_inj.mp (kept.named _ _ inside stored)
  have some_live : 0 < manager.activeCount := by
    rw [kept.active]
    exact List.length_pos_of_mem (mem_values.mpr ⟨_, inside, stored⟩)
  rw [ConnectionManager.removeConnection, found]
  refine kept.put inside ?_ ?_ ?_
  · intro other written
    cases written
  · rw [stored, Option.toList_none, Option.toList_some, List.map_nil, List.map_singleton, named]
    exact List.perm_append_singleton ..
  · rw [stored, Option.toList_some, Option.toList_none, List.length_singleton]
    exact Nat.sub_add_cancel some_live

/-- A connection that is used stays under its id. -/
theorem used_kept (kept : Kept manager) (found : manager.getConnection connId = some conn) {used : Connection}
    (same : used.connId = conn.connId) : Kept (manager.update connId used) := by
  obtain ⟨inside, stored⟩ := getConnection_some.mp found
  refine kept.put inside ?_ ?_ ?_
  · rintro _ ⟨⟩
    rw [same]
    exact kept.named _ _ inside stored
  · rw [stored, Option.toList_some, Option.toList_some, List.map_singleton, List.map_singleton, same]
  · rw [stored, Option.toList_some, Option.toList_some, List.length_singleton, List.length_singleton]

/-! ### Runs -/

theorem step_kept (manager : ConnectionManager) (event : Event) (kept : Kept manager) :
    ∃ next outputs, step manager event = some (next, outputs) ∧
      (Kept next ∧ next.config = manager.config) := by
  cases event with
  | createConnection config created =>
    rcases createConnection_cases kept.wellFormed config created with
      ⟨status, failed⟩ | ⟨device, rest, connId, -, stack, placed⟩
    · exact ⟨manager, _, Option.map_eq_some_iff.mpr ⟨_, failed, rfl⟩, kept, rfl⟩
    · exact ⟨_, _, Option.map_eq_some_iff.mpr ⟨_, placed, rfl⟩, placed_kept kept stack rfl, rfl⟩
  | removeConnection connId =>
    refine ⟨_, _, rfl, ?_⟩
    cases found : manager.getConnection connId with
    | none =>
      rw [ConnectionManager.removeConnection, found]
      exact ⟨kept, rfl⟩
    | some conn =>
      refine ⟨removed_kept kept found, ?_⟩
      rw [ConnectionManager.removeConnection, found]
      rfl
  | use connId change =>
    cases found : manager.getConnection connId with
    | none => exact ⟨manager, [], by rw [step, found], kept, rfl⟩
    | some conn =>
      refine ⟨manager.update connId { change conn with connId := conn.connId }, [], by rw [step, found], ?_, rfl⟩
      exact used_kept kept found rfl

/-- No id is left exactly when the stack is empty. -/
theorem live_full (kept : Kept manager) :
    (live manager).length = manager.connections.size ↔ manager.freeConnIds = [] := by
  have whole := kept.partition.length_eq
  rw [List.length_map, List.length_append, List.length_map, List.length_range] at whole
  rw [← List.length_eq_zero_iff]
  omega

theorem Kept.exhausted (kept : Kept manager) (config : ConnectionConfig) (created : Except Int Device) :
    (∃ next, manager.createConnection config created =
      some (.error (Status.resourceExhausted "No available connection slots"), next)) ↔
      (live manager).length = manager.connections.size := by
  rw [live_full kept]
  constructor
  · rintro ⟨next, failed⟩
    rcases List.eq_nil_or_concat manager.freeConnIds with empty | ⟨rest, connId, stack⟩
    · exact empty
    · rw [List.concat_eq_append] at stack
      cases created with
      | ok device =>
        rw [createConnection_top kept.wellFormed stack] at failed
        cases failed
      | error errno =>
        rw [createConnection_refused kept.wellFormed stack] at failed
        cases failed
  · intro empty
    exact ⟨manager, createConnection_exhausted empty config created⟩

theorem Kept.failed (kept : Kept manager) {config : ConnectionConfig} {created : Except Int Device} {status : Status}
    {next : ConnectionManager} (failed : manager.createConnection config created = some (.error status, next)) :
    next = manager := by
  rcases createConnection_cases kept.wellFormed config created with
    ⟨other, failed'⟩ | ⟨device, rest, connId, -, -, placed⟩
  · obtain ⟨-, same⟩ := Prod.mk.inj (Option.some.inj (failed.symm.trans failed'))
    exact same
  · obtain ⟨answer, -⟩ := Prod.mk.inj (Option.some.inj (failed.symm.trans placed))
    cases answer

theorem Kept.managed (kept : Kept manager) : Managed manager.connections.size manager where
  partition := kept.partition
  stored index conn inside found := by
    have named := kept.named index conn inside found
    refine ⟨named, getConnection_some.mpr ?_⟩
    rw [named]
    exact ⟨inside, found⟩
  active := kept.active
  exhausted := kept.exhausted
  failed _ _ _ _ := kept.failed
  unused connId idle := by
    have nothing : manager.getConnection connId = none := by
      refine Option.eq_none_iff_forall_ne_some.mpr fun conn found => ?_
      obtain ⟨inside, stored⟩ := getConnection_some.mp found
      rcases idle with outside | unused
      · exact absurd inside (Nat.not_lt.mpr outside)
      · exact absurd (unused.symm.trans stored) (by simp)
    rw [ConnectionManager.removeConnection, nothing]
    rfl

/-- In every run each id of the array is that of exactly one live connection or on the stack exactly once, connections
    are found under their ids and counted, ids run out only when all are given out, and calls that fail or name no
    connection change nothing. -/
theorem ids_managed (config : ConnectionManagerConfig) (events : List Event) : ∃ last answers,
    run step (.create config) events = some (last, answers) ∧ Managed config.maxConnections.toNat last := by
  have always : Meets step (fun _ _ => True) (.create config) events := meets_of_forall fun _ _ => trivial
  have progress : ∀ manager event, (Kept manager ∧ manager.config = config) → True →
      ∃ next outputs, step manager event = some (next, outputs) ∧ (Kept next ∧ next.config = config) := by
    rintro manager event ⟨kept, same⟩ -
    obtain ⟨next, outputs, stepped, after, later⟩ := step_kept manager event kept
    exact ⟨next, outputs, stepped, after, later.trans same⟩
  obtain ⟨last, answers, ran, kept, same⟩ := defined_run progress ⟨create_kept config, rfl⟩ always
  refine ⟨last, answers, ran, ?_⟩
  have managed := kept.managed
  rwa [kept.size, same] at managed

end Rdma.ConnectionIds
