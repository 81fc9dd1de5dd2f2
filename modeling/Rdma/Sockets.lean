import Mathlib.Data.List.Perm.Basic
import Rdma.HandshakeChannels
import Rdma.Runs

/-!
The sockets of the handshake (`tcp_handshake.cpp`): `Connect`, `Accept` and
`CreateListenSocket` open descriptors, try the addresses of a host one after the
other and have many ways to fail; `Close` and the destructors close them. In
every run the open descriptors are those of the channels and the servers, and
none is closed twice (`descriptors_owned`).
-/
namespace Rdma.Sockets
open Rdma.Types Rdma.Runs
open Rdma.HandshakeChannels (TcpHandshakeChannel)

/-! ### Descriptors -/

/-- The kernel hands out no descriptor that is open. -/
def opens (fds : List Int) (fd : Int) : Option (List Int) := if 0 ≤ fd ∧ fd ∉ fds then some (fd :: fds) else none

/-- Closing a descriptor that is not open is a mistake. -/
def closes (fds : List Int) (fd : Int) : Option (List Int) := if fd ∈ fds then some (fds.erase fd) else none

/-- The loop over the addresses of a host: a socket with which the attempt fails is closed. The answers of the kernel
    for an address are what `socket` returns and those to the attempt. -/
def tryEach {Attempt : Type} (succeeds : Attempt → Bool) (fds : List Int) :
    List (Int × Attempt) → Option (Int × List Int)
  | [] => some (-1, fds)
  | (fd, attempt) :: rest =>
    if fd < 0 then tryEach succeeds fds rest
    else do
      let fds ← opens fds fd
      if succeeds attempt then some (fd, fds)
      else
        let fds ← closes fds fd
        tryEach succeeds fds rest

/-! ### Channels and servers -/

def EINPROGRESS : Int := 115

def Status.connectionRefused (message : String) : Status := ⟨.connectionRefused, some message, 0⟩
def Status.timeout (message : String) : Status := ⟨.timeout, some message, 0⟩

/-- The error number of `connect`, if there is one; then what `poll` returns and the error of the socket. -/
structure ConnectAnswers where
  connect : Option Int
  poll : Int
  error : Int
  deriving DecidableEq, Repr

def ConnectAnswers.succeeds (answers : ConnectAnswers) : Bool :=
  match answers.connect with
  | none => true
  | some errno => errno = EINPROGRESS ∧ 0 < answers.poll ∧ answers.error = 0

/-- `resolved` is what `getaddrinfo` finds, unless it fails. -/
def connect (fds : List Int) (resolved : Option (List (Int × ConnectAnswers))) :
    Option (Except Status TcpHandshakeChannel × List Int) :=
  match resolved with
  | none => some (.error (.ioError "Failed to resolve host" 0), fds)
  | some addresses => do
    let (fd, fds) ← tryEach ConnectAnswers.succeeds fds addresses
    if fd < 0 then some (.error (Status.connectionRefused "Failed to connect"), fds)
    else some (.ok ⟨fd⟩, fds)

/-- What `poll` and `accept` return, with the error numbers. -/
structure AcceptAnswers where
  poll : Int
  pollErrno : Int := 0
  accept : Int := -1
  acceptErrno : Int := 0
  deriving DecidableEq, Repr

def accept (fds : List Int) (answers : AcceptAnswers) : Option (Except Status TcpHandshakeChannel × List Int) :=
  if answers.poll < 0 then some (.error (.ioError "poll failed" answers.pollErrno), fds)
  else if answers.poll = 0 then some (.error (Status.timeout "Accept timeout"), fds)
  else if answers.accept < 0 then some (.error (.ioError "accept failed" answers.acceptErrno), fds)
  else do
    let fds ← opens fds answers.accept
    some (.ok ⟨answers.accept⟩, fds)

/-- An address is tried with what `bind` returns. `listen` is the error number of `listen`, if there is one. -/
def createListenSocket (fds : List Int) (resolved : Option (List (Int × Int))) (listen : Option Int) :
    Option (Except Status Int × List Int) :=
  match resolved with
  | none => some (.error (.ioError "Failed to resolve bind address" 0), fds)
  | some addresses => do
    let (fd, fds) ← tryEach (fun bind => bind = 0) fds addresses
    if fd < 0 then some (.error (.ioError "Failed to bind socket" 0), fds)
    else
      match listen with
      | some errno => (closes fds fd).map (.error (.ioError "Failed to listen" errno), ·)
      | none => some (.ok fd, fds)

/-- `Close`: the descriptor that is left, and the open ones. -/
def closeFd (fds : List Int) (fd : Int) : Option (Int × List Int) :=
  if 0 ≤ fd then (closes fds fd).map (-1, ·) else some (fd, fds)

structure TcpHandshakeServer where
  listenFd : Int
  port : UInt16
  deriving DecidableEq, Repr

def TcpHandshakeServer.create (fds : List Int) (port : UInt16) (resolved : Option (List (Int × Int)))
    (listen : Option Int) : Option (Except Status TcpHandshakeServer × List Int) := do
  let (result, fds) ← createListenSocket fds resolved listen
  match result with
  | .error status => some (.error status, fds)
  | .ok listenFd => some (.ok ⟨listenFd, port⟩, fds)

/-! ### The process -/

structure Process where
  fds : List Int := []
  channels : List TcpHandshakeChannel := []
  servers : List TcpHandshakeServer := []

/-- `drop` and `dropServer` are the destructors. -/
inductive Event
  | connect (resolved : Option (List (Int × ConnectAnswers)))
  | create (port : UInt16) (resolved : Option (List (Int × Int))) (listen : Option Int)
  | accept (answers : AcceptAnswers)
  | close (index : Nat)
  | drop (index : Nat)
  | closeServer (index : Nat)
  | dropServer (index : Nat)

/-- A new channel, or the status of the failure. -/
def Process.opened (process : Process) : Except Status TcpHandshakeChannel × List Int → Process × List Status
  | (.ok channel, fds) => ({ process with fds, channels := process.channels ++ [channel] }, [Status.OK])
  | (.error status, fds) => ({ process with fds }, [status])

def Process.created (process : Process) : Except Status TcpHandshakeServer × List Int → Process × List Status
  | (.ok server, fds) => ({ process with fds, servers := process.servers ++ [server] }, [Status.OK])
  | (.error status, fds) => ({ process with fds }, [status])

def step (process : Process) : Event → Option (Process × List Status)
  | .connect resolved => (connect process.fds resolved).map process.opened
  | .accept answers => (accept process.fds answers).map process.opened
  | .create port resolved listen =>
    (TcpHandshakeServer.create process.fds port resolved listen).map process.created
  | .close index => do
    let channel ← process.channels[index]?
    let (fd, fds) ← closeFd process.fds channel.fd
    some ({ process with fds, channels := process.channels.set index ⟨fd⟩ }, [])
  | .drop index => do
    let channel ← process.channels[index]?
    let (_, fds) ← closeFd process.fds channel.fd
    some ({ process with fds, channels := process.channels.eraseIdx index }, [])
  | .closeServer index => do
    let server ← process.servers[index]?
    let (listenFd, fds) ← closeFd process.fds server.listenFd
    some ({ process with fds, servers := process.servers.set index { server with listenFd } }, [])
  | .dropServer index => do
    let server ← process.servers[index]?
    let (_, fds) ← closeFd process.fds server.listenFd
    some ({ process with fds, servers := process.servers.eraseIdx index }, [])

/-- The descriptors that the objects hold. -/
def Process.held (process : Process) : List Int :=
  (process.channels.map TcpHandshakeChannel.fd ++ process.servers.map TcpHandshakeServer.listenFd).filter (0 ≤ ·)

/-- Every open descriptor is held by one object. -/
structure Owned (process : Process) : Prop where
  held : process.fds.Perm process.held
  once : process.fds.Nodup

/-- The descriptors that the kernel hands out are not open, and the object is there. -/
def Possible (process : Process) : Event → Prop
  | .connect resolved => ∀ address ∈ resolved.getD [], address.1 ∉ process.fds
  | .create _ resolved _ => ∀ address ∈ resolved.getD [], address.1 ∉ process.fds
  | .accept answers => answers.accept ∉ process.fds
  | .close index => index < process.channels.length
  | .drop index => index < process.channels.length
  | .closeServer index => index < process.servers.length
  | .dropServer index => index < process.servers.length

instance (process : Process) (event : Event) : Decidable (Possible process event) :=
  match event with
  | .connect resolved => inferInstanceAs (Decidable (∀ address ∈ resolved.getD [], address.1 ∉ process.fds))
  | .create _ resolved _ => inferInstanceAs (Decidable (∀ address ∈ resolved.getD [], address.1 ∉ process.fds))
  | .accept answers => inferInstanceAs (Decidable (answers.accept ∉ process.fds))
  | .close index => inferInstanceAs (Decidable (index < process.channels.length))
  | .drop index => inferInstanceAs (Decidable (index < process.channels.length))
  | .closeServer index => inferInstanceAs (Decidable (index < process.servers.length))
  | .dropServer index => inferInstanceAs (Decidable (index < process.servers.length))

/-! ### What a call does -/

section Calls
variable {fds fds' : List Int} {fd : Int}

theorem opens_some (opened : opens fds fd = some fds') : 0 ≤ fd ∧ fd ∉ fds ∧ fds' = fd :: fds := by
  unfold opens at opened
  split at opened
  · rename_i fresh
    exact ⟨fresh.1, fresh.2, (Option.some.inj opened).symm⟩
  · cases opened

theorem closes_opened (fds : List Int) (fd : Int) : closes (fd :: fds) fd = some fds := by
  rw [closes, if_pos List.mem_cons_self, List.erase_cons_head]

variable {Attempt : Type} {succeeds : Attempt → Bool} {addresses : List (Int × Attempt)}

/-- The first address with which the attempt succeeds is kept, and the others leave nothing behind. -/
inductive Tried (succeeds : Attempt → Bool) (fds : List Int) (addresses : List (Int × Attempt)) :
    Int × List Int → Prop
  | failed {fd : Int} (none_ : fd < 0) (fails : ∀ address ∈ addresses, address.1 < 0 ∨ succeeds address.2 = false) :
    Tried succeeds fds addresses (fd, fds)
  | kept {fd : Int} {attempt : Attempt} {front back : List (Int × Attempt)} (fresh : fd ∉ fds) (valid : 0 ≤ fd)
    (first : addresses = front ++ (fd, attempt) :: back) (goes : succeeds attempt = true)
    (fails : ∀ address ∈ front, address.1 < 0 ∨ succeeds address.2 = false) :
    Tried succeeds fds addresses (fd, fd :: fds)

theorem tried_cons {address : Int × Attempt} {result : Int × List Int}
    (fails : address.1 < 0 ∨ succeeds address.2 = false) (tried : Tried succeeds fds addresses result) :
    Tried succeeds fds (address :: addresses) result := by
  cases tried with
  | failed none_ others => exact .failed none_ (List.forall_mem_cons.mpr ⟨fails, others⟩)
  | kept fresh valid first goes others =>
    exact .kept fresh valid (congrArg (address :: ·) first) goes (List.forall_mem_cons.mpr ⟨fails, others⟩)

theorem tryEach_tried {result : Int × List Int} (tries : tryEach succeeds fds addresses = some result) :
    Tried succeeds fds addresses result := by
  induction addresses with
  | nil =>
    obtain rfl := Option.some.inj tries
    exact .failed (by decide) (by simp)
  | cons address rest ih =>
    obtain ⟨fd, attempt⟩ := address
    rw [tryEach] at tries
    by_cases none_ : fd < 0
    · rw [if_pos none_] at tries
      exact tried_cons (.inl none_) (ih tries)
    rw [if_neg none_] at tries
    obtain ⟨opened, opening, tries⟩ := Option.bind_eq_some_iff.mp tries
    obtain ⟨valid, fresh, rfl⟩ := opens_some opening
    cases goes : succeeds attempt with
    | true =>
      rw [if_pos goes] at tries
      obtain rfl := Option.some.inj tries
      have first : (fd, attempt) :: rest = [] ++ (fd, attempt) :: rest := rfl
      exact .kept fresh valid first goes (by simp)
    | false =>
      rw [goes, if_neg Bool.false_ne_true, closes_opened] at tries
      exact tried_cons (.inr goes) (ih tries)

/-- The loop goes through if the kernel hands out descriptors that are not open. -/
theorem tryEach_defined (succeeds : Attempt → Bool) (fresh : ∀ address ∈ addresses, address.1 ∉ fds) :
    ∃ result, tryEach succeeds fds addresses = some result := by
  induction addresses with
  | nil => exact ⟨_, rfl⟩
  | cons address rest ih =>
    obtain ⟨here, later⟩ := List.forall_mem_cons.mp fresh
    obtain ⟨fd, attempt⟩ := address
    rw [tryEach]
    by_cases none_ : fd < 0
    · rw [if_pos none_]
      exact ih later
    have opening : opens fds fd = some (fd :: fds) := if_pos ⟨Int.not_lt.mp none_, here⟩
    rw [if_neg none_, opening, Option.bind_eq_bind, Option.bind_some]
    cases goes : succeeds attempt with
    | true => exact ⟨_, rfl⟩
    | false =>
      rw [if_neg Bool.false_ne_true, closes_opened]
      exact ih later

/-- A call that succeeds has opened a descriptor; one that fails has not changed anything. -/
inductive Opened {Object : Type} (descriptor : Object → Int) (fds : List Int) : Except Status Object × List Int → Prop
  | failed {status : Status} (error : status.ok = false) : Opened descriptor fds (.error status, fds)
  | opened {object : Object} (valid : 0 ≤ descriptor object) (fresh : descriptor object ∉ fds) :
    Opened descriptor fds (.ok object, descriptor object :: fds)

theorem connect_opened {resolved : Option (List (Int × ConnectAnswers))}
    {result : Except Status TcpHandshakeChannel × List Int} (connects : connect fds resolved = some result) :
    Opened TcpHandshakeChannel.fd fds result := by
  cases resolved with
  | none =>
    obtain rfl := Option.some.inj connects
    exact .failed rfl
  | some addresses =>
    obtain ⟨tried, tries, connects⟩ := Option.bind_eq_some_iff.mp connects
    cases tryEach_tried tries with
    | failed none_ fails =>
      dsimp only at connects
      rw [if_pos none_] at connects
      obtain rfl := Option.some.inj connects
      exact .failed rfl
    | @kept fd attempt front back fresh valid first goes fails =>
      dsimp only at connects
      rw [if_neg (Int.not_lt.mpr valid)] at connects
      obtain rfl := Option.some.inj connects
      have made : Opened TcpHandshakeChannel.fd fds (.ok ⟨fd⟩, fd :: fds) := .opened valid fresh
      exact made

theorem accept_opened {answers : AcceptAnswers} {result : Except Status TcpHandshakeChannel × List Int}
    (accepts : accept fds answers = some result) : Opened TcpHandshakeChannel.fd fds result := by
  unfold accept at accepts
  by_cases failed : answers.poll < 0
  · rw [if_pos failed] at accepts
    obtain rfl := Option.some.inj accepts
    exact .failed rfl
  by_cases late : answers.poll = 0
  · rw [if_neg failed, if_pos late] at accepts
    obtain rfl := Option.some.inj accepts
    exact .failed rfl
  by_cases none_ : answers.accept < 0
  · rw [if_neg failed, if_neg late, if_pos none_] at accepts
    obtain rfl := Option.some.inj accepts
    exact .failed rfl
  rw [if_neg failed, if_neg late, if_neg none_] at accepts
  obtain ⟨opened, opening, same⟩ := Option.bind_eq_some_iff.mp accepts
  obtain ⟨valid, fresh, rfl⟩ := opens_some opening
  obtain rfl := Option.some.inj same
  have made : Opened TcpHandshakeChannel.fd fds (.ok ⟨answers.accept⟩, answers.accept :: fds) := .opened valid fresh
  exact made

theorem create_opened {port : UInt16} {resolved : Option (List (Int × Int))} {listen : Option Int}
    {result : Except Status TcpHandshakeServer × List Int}
    (creates : TcpHandshakeServer.create fds port resolved listen = some result) :
    Opened TcpHandshakeServer.listenFd fds result := by
  obtain ⟨⟨made, left⟩, listens, creates⟩ := Option.bind_eq_some_iff.mp creates
  cases resolved with
  | none =>
    obtain ⟨rfl, rfl⟩ := Prod.mk.inj (Option.some.inj listens)
    obtain rfl := Option.some.inj creates
    exact .failed rfl
  | some addresses =>
    obtain ⟨tried, tries, listens⟩ := Option.bind_eq_some_iff.mp listens
    cases tryEach_tried tries with
    | failed none_ fails =>
      dsimp only at listens
      rw [if_pos none_] at listens
      obtain ⟨rfl, rfl⟩ := Prod.mk.inj (Option.some.inj listens)
      obtain rfl := Option.some.inj creates
      exact .failed rfl
    | @kept fd attempt front back fresh valid first goes fails =>
      dsimp only at listens
      rw [if_neg (Int.not_lt.mpr valid)] at listens
      cases listen with
      | some errno =>
        simp only [closes_opened, Option.map_some] at listens
        obtain ⟨rfl, rfl⟩ := Prod.mk.inj (Option.some.inj listens)
        obtain rfl := Option.some.inj creates
        exact .failed rfl
      | none =>
        obtain ⟨rfl, rfl⟩ := Prod.mk.inj (Option.some.inj listens)
        obtain rfl := Option.some.inj creates
        have made : Opened TcpHandshakeServer.listenFd fds (.ok ⟨fd, port⟩, fd :: fds) := .opened valid fresh
        exact made

theorem connect_defined {resolved : Option (List (Int × ConnectAnswers))}
    (fresh : ∀ address ∈ resolved.getD [], address.1 ∉ fds) :
    ∃ result, connect fds resolved = some result := by
  cases resolved with
  | none => exact ⟨_, rfl⟩
  | some addresses =>
    have fresh : ∀ address ∈ addresses, address.1 ∉ fds := fresh
    obtain ⟨⟨fd, left⟩, tries⟩ := tryEach_defined ConnectAnswers.succeeds fresh
    rw [connect, tries, Option.bind_eq_bind, Option.bind_some]
    by_cases none_ : fd < 0
    · exact ⟨_, if_pos none_⟩
    · exact ⟨_, if_neg none_⟩

theorem accept_defined {answers : AcceptAnswers} (fresh : answers.accept ∉ fds) :
    ∃ result, accept fds answers = some result := by
  unfold accept
  by_cases failed : answers.poll < 0
  · exact ⟨_, if_pos failed⟩
  by_cases late : answers.poll = 0
  · rw [if_neg failed]
    exact ⟨_, if_pos late⟩
  by_cases none_ : answers.accept < 0
  · rw [if_neg failed, if_neg late]
    exact ⟨_, if_pos none_⟩
  rw [if_neg failed, if_neg late, if_neg none_, opens, if_pos ⟨Int.not_lt.mp none_, fresh⟩]
  exact ⟨_, rfl⟩

theorem createListenSocket_defined {resolved : Option (List (Int × Int))} (listen : Option Int)
    (fresh : ∀ address ∈ resolved.getD [], address.1 ∉ fds) :
    ∃ result, createListenSocket fds resolved listen = some result := by
  cases resolved with
  | none => exact ⟨_, rfl⟩
  | some addresses =>
    have fresh : ∀ address ∈ addresses, address.1 ∉ fds := fresh
    obtain ⟨⟨fd, left⟩, tries⟩ := tryEach_defined (fun bind => bind = 0) fresh
    cases tryEach_tried tries with
    | failed none_ fails =>
      rw [createListenSocket, tries, Option.bind_eq_bind, Option.bind_some]
      exact ⟨_, if_pos none_⟩
    | kept fresh valid first goes fails =>
      rw [createListenSocket, tries, Option.bind_eq_bind, Option.bind_some]
      dsimp only
      rw [if_neg (Int.not_lt.mpr valid)]
      cases listen with
      | some errno =>
        dsimp only
        rw [closes_opened]
        exact ⟨_, rfl⟩
      | none => exact ⟨_, rfl⟩

theorem create_defined {resolved : Option (List (Int × Int))} (port : UInt16) (listen : Option Int)
    (fresh : ∀ address ∈ resolved.getD [], address.1 ∉ fds) :
    ∃ result, TcpHandshakeServer.create fds port resolved listen = some result := by
  obtain ⟨⟨result, left⟩, listens⟩ := createListenSocket_defined listen fresh
  rw [TcpHandshakeServer.create, listens, Option.bind_eq_bind, Option.bind_some]
  cases result with
  | error status => exact ⟨_, rfl⟩
  | ok listenFd => exact ⟨_, rfl⟩

theorem filter_open {others : List Int} (valid : 0 ≤ fd) :
    (fd :: others).filter (0 ≤ ·) = fd :: others.filter (0 ≤ ·) :=
  List.filter_cons_of_pos (decide_eq_true valid)

/-- An object with a closed descriptor holds nothing. -/
theorem filter_closed {others : List Int} (closed : fd < 0) :
    (fd :: others).filter (0 ≤ ·) = others.filter (0 ≤ ·) :=
  List.filter_cons_of_neg fun valid => absurd (of_decide_eq_true valid) (Int.not_le.mpr closed)

/-- Closing what an object holds leaves what the others hold. -/
theorem closeFd_held {others : List Int} (held : fds.Perm ((fd :: others).filter (0 ≤ ·))) (once : fds.Nodup) :
    ∃ left rest, closeFd fds fd = some (left, rest) ∧ left < 0 ∧ rest.Perm (others.filter (0 ≤ ·)) ∧ rest.Nodup := by
  by_cases valid : 0 ≤ fd
  · rw [filter_open valid] at held
    have open_ : fd ∈ fds := held.mem_iff.mpr List.mem_cons_self
    refine ⟨-1, fds.erase fd, ?_, by decide, ?_, once.erase fd⟩
    · rw [closeFd, if_pos valid, closes, if_pos open_, Option.map_some]
    · have erased := held.erase fd
      rwa [List.erase_cons_head] at erased
  · rw [filter_closed (Int.not_le.mp valid)] at held
    exact ⟨fd, fds, if_neg valid, Int.not_le.mp valid, held, once⟩

end Calls

/-! ### Events -/

section Events
variable {process next : Process} {fds : List Int} {now : List Status}

theorem perm_eraseIdx {Object : Type} {objects : List Object} {index : Nat} {object : Object}
    (there : objects[index]? = some object) : objects.Perm (object :: objects.eraseIdx index) := by
  obtain ⟨inside, rfl⟩ := List.getElem?_eq_some_iff.mp there
  exact (List.getElem_cons_eraseIdx_perm inside).symm

/-- What one of the objects holds and what the others hold. -/
theorem channel_descriptors {index : Nat} {channel : TcpHandshakeChannel}
    (there : process.channels[index]? = some channel) : process.held.Perm
      ((channel.fd :: ((process.channels.eraseIdx index).map TcpHandshakeChannel.fd ++
        process.servers.map TcpHandshakeServer.listenFd)).filter (0 ≤ ·)) :=
  (((perm_eraseIdx there).map TcpHandshakeChannel.fd).append_right _).filter _

theorem server_descriptors {index : Nat} {server : TcpHandshakeServer}
    (there : process.servers[index]? = some server) : process.held.Perm
      ((server.listenFd :: (process.channels.map TcpHandshakeChannel.fd ++
        (process.servers.eraseIdx index).map TcpHandshakeServer.listenFd)).filter (0 ≤ ·)) :=
  ((((perm_eraseIdx there).map TcpHandshakeServer.listenFd).append_left _).trans List.perm_middle).filter _

/-- A new descriptor is held by the new object alone. -/
theorem owned_cons {fd : Int} (owned : Owned process) (valid : 0 ≤ fd) (fresh : fd ∉ process.fds)
    (opened : next.fds = fd :: process.fds)
    (held : next.held.Perm ((fd :: (process.channels.map TcpHandshakeChannel.fd ++
      process.servers.map TcpHandshakeServer.listenFd)).filter (0 ≤ ·))) : Owned next := by
  rw [filter_open valid] at held
  refine ⟨?_, ?_⟩
  · rw [opened]
    exact (owned.held.cons fd).trans held.symm
  · rw [opened]
    exact List.nodup_cons.mpr ⟨fresh, owned.once⟩

/-- A step that keeps `Owned` and changes nothing where a call fails. -/
structure Kept (process next : Process) (now : List Status) : Prop where
  owned : Owned next
  failed : (∃ status ∈ now, status.ok = false) → next = process

theorem opened_kept {result : Except Status TcpHandshakeChannel × List Int} (owned : Owned process)
    (opened : Opened TcpHandshakeChannel.fd process.fds result) :
    Kept process (process.opened result).1 (process.opened result).2 := by
  cases opened with
  | failed error => exact ⟨owned, fun _ => rfl⟩
  | @opened channel valid fresh =>
    refine ⟨owned_cons owned valid fresh rfl ?_, ?_⟩
    · have last : (process.channels ++ [channel]).Perm (channel :: process.channels) :=
        List.perm_append_singleton channel process.channels
      exact ((last.map TcpHandshakeChannel.fd).append_right _).filter _
    · rintro ⟨status, member, failed⟩
      obtain rfl := List.mem_singleton.mp member
      cases failed

theorem created_kept {result : Except Status TcpHandshakeServer × List Int} (owned : Owned process)
    (opened : Opened TcpHandshakeServer.listenFd process.fds result) :
    Kept process (process.created result).1 (process.created result).2 := by
  cases opened with
  | failed error => exact ⟨owned, fun _ => rfl⟩
  | @opened server valid fresh =>
    refine ⟨owned_cons owned valid fresh rfl ?_, ?_⟩
    · have last : (process.servers ++ [server]).Perm (server :: process.servers) :=
        List.perm_append_singleton server process.servers
      exact (((last.map TcpHandshakeServer.listenFd).append_left _).trans List.perm_middle).filter _
    · rintro ⟨status, member, failed⟩
      obtain rfl := List.mem_singleton.mp member
      cases failed

theorem kept_silent (owned : Owned next) : Kept process next [] :=
  ⟨owned, fun ⟨_, member, _⟩ => absurd member List.not_mem_nil⟩

/-- Each possible event goes through. -/
theorem step_kept {event : Event} (owned : Owned process) (possible : Possible process event) :
    ∃ next now, step process event = some (next, now) ∧ Kept process next now := by
  cases event with
  | connect resolved =>
    obtain ⟨result, connects⟩ := connect_defined possible
    exact ⟨_, _, congrArg (Option.map process.opened) connects, opened_kept owned (connect_opened connects)⟩
  | accept answers =>
    obtain ⟨result, accepts⟩ := accept_defined possible
    exact ⟨_, _, congrArg (Option.map process.opened) accepts, opened_kept owned (accept_opened accepts)⟩
  | create port resolved listen =>
    obtain ⟨result, creates⟩ := create_defined port listen possible
    have stepped := congrArg (Option.map process.created) creates
    exact ⟨_, _, stepped, created_kept owned (create_opened creates)⟩
  | close index =>
    have there := List.getElem?_eq_getElem possible
    have split := owned.held.trans (channel_descriptors there)
    obtain ⟨left, rest, closes, closed, held, once⟩ := closeFd_held split owned.once
    refine ⟨_, _, by rw [step, there, Option.bind_eq_bind, Option.bind_some, closes]; rfl, kept_silent ⟨?_, once⟩⟩
    have set := (List.set_perm_cons_eraseIdx possible (TcpHandshakeChannel.mk left)).map TcpHandshakeChannel.fd
    have after := (set.append_right (process.servers.map TcpHandshakeServer.listenFd)).filter (fun fd => 0 ≤ fd)
    rw [List.map_cons, List.cons_append, filter_closed closed] at after
    exact held.trans after.symm
  | drop index =>
    have there := List.getElem?_eq_getElem possible
    have split := owned.held.trans (channel_descriptors there)
    obtain ⟨left, rest, closes, closed, held, once⟩ := closeFd_held split owned.once
    exact ⟨_, _, by rw [step, there, Option.bind_eq_bind, Option.bind_some, closes]; rfl, kept_silent ⟨held, once⟩⟩
  | closeServer index =>
    have there := List.getElem?_eq_getElem possible
    have split := owned.held.trans (server_descriptors there)
    obtain ⟨left, rest, closes, closed, held, once⟩ := closeFd_held split owned.once
    refine ⟨_, _, by rw [step, there, Option.bind_eq_bind, Option.bind_some, closes]; rfl, kept_silent ⟨?_, once⟩⟩
    have set := (List.set_perm_cons_eraseIdx possible
      (TcpHandshakeServer.mk left process.servers[index].port)).map TcpHandshakeServer.listenFd
    have moved := (set.append_left (process.channels.map TcpHandshakeChannel.fd)).trans List.perm_middle
    have after := moved.filter (fun fd => 0 ≤ fd)
    rw [filter_closed closed] at after
    exact held.trans after.symm
  | dropServer index =>
    have there := List.getElem?_eq_getElem possible
    have split := owned.held.trans (server_descriptors there)
    obtain ⟨left, rest, closes, closed, held, once⟩ := closeFd_held split owned.once
    exact ⟨_, _, by rw [step, there, Option.bind_eq_bind, Option.bind_some, closes]; rfl, kept_silent ⟨held, once⟩⟩

end Events

/-- From the start of the process, where nothing is open: every order of calls goes through, no call closes a descriptor
    that is not open, the open descriptors are those that the channels and servers hold, each held once, and a call that
    fails leaves everything as it was. -/
theorem descriptors_owned {events : List Event} (possible : Meets step Possible {} events) :
    ∃ last outputs, run step {} events = some (last, outputs) ∧ last.fds.Perm last.held ∧ last.fds.Nodup ∧
      ∀ event next now, Possible last event → step last event = some (next, now) →
        (∃ status ∈ now, status.ok = false) → next = last := by
  have start : Owned {} := ⟨.nil, .nil⟩
  have progress : ∀ process event, Owned process → Possible process event →
      ∃ next now, step process event = some (next, now) ∧ Owned next := by
    intro process event owned possible
    obtain ⟨next, now, stepped, kept⟩ := step_kept owned possible
    exact ⟨next, now, stepped, kept.owned⟩
  obtain ⟨last, outputs, ran, owned⟩ := defined_run progress start possible
  refine ⟨last, outputs, ran, owned.held, owned.once, ?_⟩
  intro event next now possible stepped failed
  obtain ⟨other, status, same, kept⟩ := step_kept owned possible
  obtain ⟨rfl, rfl⟩ := Prod.mk.inj (Option.some.inj (stepped.symm.trans same))
  exact kept.failed failed

/-- A server whose first address is taken accepts a client and closes it twice; no address of the next host answers. -/
def oneServed : List Event :=
  [.create 7471 (some [(3, -1), (3, 0)]) none, .accept ⟨1, 0, 4, 0⟩, .connect (some [(5, ⟨some EINPROGRESS, 0, 0⟩),
    (-1, ⟨none, 0, 0⟩), (5, ⟨some EINPROGRESS, 1, 111⟩)]), .close 0, .drop 0, .closeServer 0]

theorem one_served_owned : ∃ last outputs, run step {} oneServed = some (last, outputs) ∧ last.fds.Perm last.held ∧
    last.fds.Nodup ∧ ∀ event next now, Possible last event → step last event = some (next, now) →
      (∃ status ∈ now, status.ok = false) → next = last := by
  refine descriptors_owned ?_
  refine meets_cons rfl (by decide) (meets_cons rfl (by decide) (meets_cons rfl (by decide) ?_))
  exact meets_cons rfl (by decide) (meets_cons rfl (by decide) (meets_cons rfl (by decide) (meets_nil _)))

end Rdma.Sockets
