import HvacCache.FreshDescriptor
import HvacCache.Library.Cursors
import HvacCache.Library.Sessions

/-! A read that falls back on the local descriptor. No server ever answers `-1`: a read
reports it when the open of another thread is answered first, which sets `done` while
`read_ret` is still as the read has reset it. The request is on its way all the same, its
answer may come when a later call waits, and the local descriptor has a position of its own. -/

namespace HvacCache

open Posix Std Transition Cursors

/-! Reads of one descriptor, while other threads open files. -/

/-- What happens to a sequence of reads. A call succeeds, or it reports `-1`, or it takes the
late answer to an earlier request for its own. Between calls, the server serves a request that
no call waits for, or a late answer arrives. -/
inductive ReadTurn
  | served (count : Nat)
  | overtaken (count : Nat)
  | mistaken (count index : Nat)
  | settled (index : Nat)
  | ignored (index : Nat)
deriving DecidableEq, Repr

/-- An open by another thread: `fd` is the result of its `__real_open` and `remote` what the
server of the path answers. -/
structure OtherOpen where
  pathname : String
  flags : OpenFlags
  fd : Int
  remote : Int

/-- `memory` is what stands from the start of the caller's buffer on. -/
inductive ReadAction
  | served (count : Nat)
  | overtaken (count : Nat) (other : OtherOpen)
  | mistaken (count index : Nat) (memory : Nat → UInt8)
  | settled (index : Nat)
  | ignored (index : Nat)

def ReadAction.turn : ReadAction → ReadTurn
  | .served count => .served count
  | .overtaken count _ => .overtaken count
  | .mistaken count index _ => .mistaken count index
  | .settled index => .settled index
  | .ignored index => .ignored index

/-- The process between two calls, the server of the descriptor, and the requests and the
answers that no call waits for. -/
structure ReadState where
  client : Client
  server : Server
  left : List Request
  late : List Response

def serveOpen (contents : String → Option Bytes) (server : Server) (request : Request)
    (remote : Int) : Option Server := do
  let accepted ← serverStep contents server (.accept request)
  let redirected ← serverStep contents accepted .redirect
  serverStep contents redirected (.openFile remote)

/-- The other thread's open may go to another server than the one of the reads. -/
def serveOther (contents : String → Option Bytes) (server : Server) (address : String)
    (sent : String × Request) (remote : Int) : Option Server :=
  if sent.1 = address then serveOpen contents server sent.2 remote else some server

/-- The answer of the other thread's open wakes both threads. They share the process, so
that each runs on what the other has left, with its own place in its own call. -/
def overtakenRound (env : ClientEnv) (contents : String → Option Bytes) (self : Nat) (fd : Int)
    (state : ReadState) (count : Nat) (other : OtherOpen) : Option ReadState := do
  let (reading, outgoing) ← clientAct env contents self state.client (.readCall fd count)
  let (address, request) ← outgoing
  let (opening, sent) ← clientAct env contents self { reading with pc := .idle }
    (.openCall other.pathname other.flags other.fd)
  let server ← sent.bind (serveOther contents state.server address · other.remote)
  let informed ← receive opening
    (.openOut { client := self, callback := .openCb other.fd } other.remote)
  let returned ← wakeStep contents { informed with pc := reading.pc }
  let client ← wakeStep contents { returned with pc := informed.pc }
  some { state with client, server, left := state.left ++ [request] }

def Client.misread (client : Client) (memory : Nat → UInt8) : Client :=
  { client with buffer := (List.range client.completion.readRet.toNat).map memory }

/-- A late answer ends the wait of a call. Its data went to the buffer of the call that asked
for it, and this call returns as many bytes of its own buffer. -/
def mistakenRound (env : ClientEnv) (contents : String → Option Bytes) (self : Nat) (fd : Int)
    (state : ReadState) (count index : Nat) (memory : Nat → UInt8) : Option ReadState := do
  let (reading, outgoing) ← clientAct env contents self state.client (.readCall fd count)
  let (_, request) ← outgoing
  let answer ← state.late[index]?
  let informed ← receive reading answer
  let client ← wakeStep contents (informed.misread memory)
  some { state with
    client
    left := state.left ++ [request]
    late := state.late.eraseIdx index }

def settledRound (contents : String → Option Bytes) (state : ReadState) (index : Nat) :
    Option ReadState := do
  let request ← state.left[index]?
  let (server, response) ← serveRead contents state.server false request
  let answer ← response
  some { state with
    server
    left := state.left.eraseIdx index
    late := state.late ++ [answer] }

def ignoredRound (state : ReadState) (index : Nat) : Option ReadState := do
  let answer ← state.late[index]?
  let client ← receive state.client answer
  some { state with client, late := state.late.eraseIdx index }

def readRound (env : ClientEnv) (contents : String → Option Bytes) (self : Nat) (fd : Int)
    (state : ReadState) : ReadAction → Option ReadState
  | .served count =>
      (callRound env contents self false (state.client, state.server) (.readCall fd count)).map
        fun after => { state with client := after.1, server := after.2 }
  | .overtaken count other => overtakenRound env contents self fd state count other
  | .mistaken count index memory => mistakenRound env contents self fd state count index memory
  | .settled index => settledRound contents state index
  | .ignored index => ignoredRound state index

def localCount (count : Nat) : Nat := if count < 2 ^ 63 then min count maxTransfer else 0

def remoteCount (count : Nat) : Nat := min (int32 count).toNat maxTransfer

/-- What no call waits for after some turns: the counts of the requests, and the answers by the
places they start at and the counts of their requests. `place` is where the server's descriptor
would stand in an endless file. -/
structure Behind where
  requests : List Nat
  answers : List (Nat × Nat)
  place : Nat
deriving DecidableEq, Repr

def Behind.initial : Behind := { requests := [], answers := [], place := 0 }

/-- A server that is asked for a negative number of bytes dies. -/
def ReadTurn.pending (behind : Behind) : ReadTurn → Option Behind
  | .served count =>
      if 0 ≤ int32 count then some { behind with place := behind.place + remoteCount count }
      else none
  | .overtaken count => some { behind with requests := behind.requests ++ [count] }
  | .mistaken count index =>
      match behind.answers[index]? with
      | some _ => some { behind with
          requests := behind.requests ++ [count]
          answers := behind.answers.eraseIdx index }
      | none => none
  | .settled index =>
      match behind.requests[index]? with
      | some count =>
          if 0 ≤ int32 count then some {
            requests := behind.requests.eraseIdx index
            answers := behind.answers ++ [(behind.place, count)]
            place := behind.place + remoteCount count }
          else none
      | none => none
  | .ignored index =>
      match behind.answers[index]? with
      | some _ => some { behind with answers := behind.answers.eraseIdx index }
      | none => none

/-- The server's descriptor is the cursor `false`, the local one the cursor `true`. -/
def ReadTurn.move (behind : Behind) : ReadTurn → Move Bool
  | .served count => .take false (remoteCount count)
  | .overtaken count => .take true (localCount count)
  | .mistaken _ index =>
      let answer := behind.answers[index]?.getD (0, 0)
      .stray answer.1 (remoteCount answer.2)
  | .settled index => .skip false (remoteCount (behind.requests[index]?.getD 0))
  | .ignored _ => .skip false 0

def ReadTurn.moves (behind : Behind) : List ReadTurn → List (Move Bool)
  | [] => []
  | turn :: rest => turn.move behind :: moves ((turn.pending behind).getD behind) rest

/-! One round. -/

section
variable {env : ClientEnv} {contents : String → Option Bytes} (self : Nat) {fd : Int}
  {shared : SharedFile} {position : Bool → Nat} {client next : Client} {server after : Server}

def Server.moved (server : Server) (remote : Int) (descriptor : Descriptor) : Server :=
  { server with kernel := server.kernel.insert remote descriptor, handler := .idle }

theorem Paired.serveRead (paired : Paired env contents fd shared position (client, server))
    {count : Nat} (possible : 0 ≤ int32 count) :
    let data := slice shared.bytes (position false) (int32 count).toNat
    readFileStep contents (server.asked self count shared.remote .sequential) false =
      some (server.moved shared.remote
          { file := shared.redirPath, mode := .readOnly, position := position false + data.length },
        some (.rpcOut { client := self, callback := .readCb } data.length data)) := by
  intro data
  have upper := int32_lt count
  have size : uint64 (int32 count) = (int32 count).toNat := uint64_of_nonneg possible (by omega)
  have placed : ReadKind.sequential.Placed (int32 count).toNat :=
    show (int32 count).toNat < 2 ^ 63 by omega
  obtain ⟨_, stepped⟩ := readFileStep_of_succeeds
    (asked_handler self server count shared.remote .sequential) possible
    (size.symm ▸ paired.tracks.readSucceeds self paired.served count placed)
  have outcome := paired.tracks.handlerRead self paired.served count placed
  have whole : slice shared.bytes (position false) (int32 count).toNat = data := rfl
  have bounded : data.length ≤ maxTransfer := (slice_length_le _ _ _).2
  simp only [maxTransfer] at bounded
  have narrow : int32 data.length = data.length := int32_of_nonneg (by omega) (by omega)
  simp only [ReadKind.wire, ReadKind.start, ReadKind.table, whole] at outcome stepped
  simp only [size, outcome, delivered, narrow] at stepped
  exact stepped

structure Resumes (env : ClientEnv) (path : String) (client next : Client) : Prop where
  idle : next.pc = .idle
  fdMap : next.fdMap = client.fdMap
  fdRedirMap : next.fdRedirMap = client.fdRedirMap
  kernel : next.kernel = client.kernel
  routed : (route env next.addressCache path).isSome

theorem Paired.resumed (paired : Paired env contents fd shared position (client, server))
    (resumes : Resumes env shared.path client next) :
    Paired env contents fd shared position (next, server) := by
  refine ⟨resumes.idle, ?_, resumes.routed, ?_, ?_, paired.reads, paired.present, paired.free,
    paired.served, paired.stored⟩
  · rw [resumes.fdMap]
    exact paired.tracked
  · rw [resumes.fdRedirMap]
    exact paired.redirected
  · rw [resumes.kernel]
    exact paired.opened

theorem Paired.moved (paired : Paired env contents fd shared position (client, server))
    (place : Nat) :
    Paired env contents fd shared (Function.update position false place)
      (client, server.moved shared.remote
        { file := shared.redirPath, mode := .readOnly, position := place }) := by
  refine ⟨paired.idle, paired.tracked, paired.routed, paired.redirected, ?_, paired.reads,
    paired.present, rfl, ?_, paired.stored⟩
  · simpa using paired.opened
  · simp [Server.moved]

theorem Paired.read_local (paired : Paired env contents fd shared position (client, server))
    {table : Table} (same : table[fd]? = client.kernel[fd]?) (count : Nat) :
    let data := slice shared.bytes (position true) (localCount count)
    (Posix.read contents table fd count).1.data = data ∧
      (Posix.read contents table fd count).2[fd]? =
        some {
          file := shared.file
          mode := shared.mode
          position := position true + data.length } := by
  intro data
  have opened := same.trans paired.opened
  have visible : readable contents
      { file := shared.file, mode := shared.mode, position := position true } =
      some shared.bytes := by
    simp only [readable, if_neg paired.reads]
    exact paired.present
  by_cases small : count < 2 ^ 63
  · have whole : slice shared.bytes (position true) count = data := by
      simp only [data, localCount, if_pos small, slice, Nat.min_assoc, Nat.min_self]
    rw [read_of_readable opened visible small]
    simp [delivered, whole]
  · have nothing : data = [] := by
      simp only [data, localCount, if_neg small, slice, Nat.zero_min, List.take_zero]
    rw [read_refused contents table fd small]
    simp [failed, nothing, opened]

theorem route_kept {cache after : OrderedMap Int String} {path other address : String}
    (routed : (route env cache path).isSome)
    (looked : route env cache other = some (address, after)) :
    (route env after path).isSome := by
  unfold route at routed looked ⊢
  split at looked
  · simp at looked
  · rename_i otherRank otherHashed
    split at routed
    · simp at routed
    · rename_i rank hashed
      unfold lookupAddr at routed looked ⊢
      split at looked
      · simp only [Option.some.injEq, Prod.mk.injEq] at looked
        exact looked.2 ▸ routed
      · split at looked
        · simp only [Option.some.injEq, Prod.mk.injEq] at looked
          rw [← looked.2, OrderedMap.getElem?_insert_ite]
          by_cases same : otherRank = rank
          · simp [same]
          · rw [if_neg same]
            split
            · rfl
            · rename_i missing
              simp only [missing] at routed
              split at routed
              · simp
              · simp at routed
        · simp at looked

theorem serveOpen_kept {request : Request} {remote : Int}
    (ran : serveOpen contents server request remote = some after) :
    after.handler = .idle ∧ after.files contents = server.files contents ∧
      ∀ (other : Int) descriptor, server.kernel[other]? = some descriptor →
        after.kernel[other]? = some descriptor := by
  simp only [serveOpen, bind, Option.bind_eq_some_iff] at ran
  obtain ⟨accepted, taken, redirected, looked, opened⟩ := ran
  obtain ⟨_, acceptEffect⟩ := serverStep_effect taken
  obtain ⟨_, redirectEffect⟩ := serverStep_effect looked
  obtain ⟨_, openEffect⟩ := serverStep_effect opened
  cases redirectEffect with
  | redirect handle path opening =>
      have filesKept : accepted.files contents = server.files contents := by
        cases acceptEffect <;> rfl
      have kernelKept : accepted.kernel = server.kernel := by
        cases acceptEffect <;> rfl
      cases openEffect with
      | openFailed handle path redirPath opening =>
          exact ⟨rfl, filesKept, fun other descriptor found => kernelKept ▸ found⟩
      | opened handle path redirPath _ opening vacant present =>
          refine ⟨rfl, filesKept, ?_⟩
          intro other descriptor found
          have different : remote ≠ other := by
            rintro rfl
            have free := vacant.2
            simp [kernelKept, found] at free
          simpa [OrderedMap.getElem?_insert_ite, different, kernelKept] using found

theorem serveOther_kept {address : String} {sent : String × Request} {remote : Int}
    (free : server.handler = .idle)
    (ran : serveOther contents server address sent remote = some after) :
    after.handler = .idle ∧ after.files contents = server.files contents ∧
      ∀ (other : Int) descriptor, server.kernel[other]? = some descriptor →
        after.kernel[other]? = some descriptor := by
  unfold serveOther at ran
  split at ran
  · exact serveOpen_kept ran
  · simp only [Option.some.injEq] at ran
    exact ran ▸ ⟨free, rfl, fun _ _ found => found⟩

end

/-! Whole sequences. -/

section
variable {env : ClientEnv} {contents : String → Option Bytes} {self : Nat} {fd : Int}
  {shared : SharedFile} {places : Places Bool} {behind later : Behind} {state next : ReadState}
  {brought : Bytes}

theorem slice_clipped (bytes : Bytes) (place count : Nat) :
    slice bytes (min bytes.length place) count =
      (bytes.drop place).take (min count maxTransfer) := by
  rcases Nat.le_total place bytes.length with inside | beyond
  · rw [slice, Nat.min_eq_right inside]
  · rw [slice, Nat.min_eq_left beyond, List.drop_length, List.drop_of_length_le beyond]

theorem clipped_add (bytes : Bytes) (place count : Nat) :
    min bytes.length place + (slice bytes (min bytes.length place) count).length =
      min bytes.length (place + min count maxTransfer) := by
  rw [slice_clipped, List.length_take, List.length_drop]
  omega

theorem update_clipped (bytes : Bytes) (cursor : Bool) (count : Nat) :
    Function.update (fun other => min bytes.length (places.place other)) cursor
        (min bytes.length (places.place cursor) +
          (slice bytes (min bytes.length (places.place cursor)) count).length) =
      fun other => min bytes.length (Function.update places.place cursor
        (places.place cursor + min count maxTransfer) other) := by
  funext other
  rw [clipped_add]
  by_cases same : other = cursor
  · subst other
    simp
  · simp [Function.update_of_ne same]

def leftRequest (caller : Nat) (shared : SharedFile) (count : Nat) : Request :=
  .readRpc { client := caller, callback := .readCb } (int32 count) shared.remote (-1)

def lateData (shared : SharedFile) (answer : Nat × Nat) : Bytes :=
  (shared.bytes.drop answer.1).take (remoteCount answer.2)

def lateAnswer (caller : Nat) (shared : SharedFile) (answer : Nat × Nat) : Response :=
  .rpcOut { client := caller, callback := .readCb } (lateData shared answer).length
    (lateData shared answer)

/-- The two descriptors stand at the cursors, or at the end of the file, and what no call waits
for is that of `behind`. -/
structure Underway (env : ClientEnv) (contents : String → Option Bytes) (caller : Nat) (fd : Int)
    (shared : SharedFile) (places : Places Bool) (behind : Behind) (state : ReadState) : Prop where
  paired : Paired env contents fd shared
    (fun cursor => min shared.bytes.length (places.place cursor)) (state.client, state.server)
  place : behind.place = places.place false
  left : state.left = behind.requests.map (leftRequest caller shared)
  late : state.late = behind.answers.map (lateAnswer caller shared)

theorem lateData_short (shared : SharedFile) (answer : Nat × Nat) :
    (lateData shared answer).length < 2 ^ 31 := by
  simp only [lateData, remoteCount, maxTransfer, List.length_take]
  omega

theorem lateData_eq (shared : SharedFile) (place count : Nat) :
    lateData shared (place, count) =
      slice shared.bytes (min shared.bytes.length place) (int32 count).toNat := by
  rw [slice_clipped]
  simp only [lateData, remoteCount]

theorem Underway.serve (underway : Underway env contents self fd shared places behind state)
    {count : Nat} (possible : 0 ≤ int32 count) : ∃ served,
    readFileStep contents (state.server.asked self count shared.remote .sequential) false =
      some (served, some (lateAnswer self shared (behind.place, count))) ∧
    Paired env contents fd shared (fun cursor => min shared.bytes.length
      (Function.update places.place false (places.place false + remoteCount count) cursor))
      (state.client, served) := by
  have stepped := underway.paired.serveRead self possible
  have moved := underway.paired.moved (min shared.bytes.length (places.place false) +
    (lateData shared (behind.place, count)).length)
  simp only [← underway.place, ← lateData_eq] at stepped
  refine ⟨_, stepped, ?_⟩
  rw [lateData_eq, underway.place, update_clipped] at moved
  rw [underway.place, lateData_eq]
  exact moved

def Adds (fd : Int) (state next : ReadState) (bytes : Bytes) : Prop :=
  ∃ events, next.client.trace = state.client.trace ++ events ∧ sessionBytes fd events = bytes

theorem Adds.trans {middle : ReadState} {first second : Bytes} (before : Adds fd state middle first)
    (after : Adds fd middle next second) : Adds fd state next (first ++ second) := by
  obtain ⟨events, traced, rfl⟩ := before
  obtain ⟨others, told, rfl⟩ := after
  exact ⟨events ++ others, by rw [told, traced, List.append_assoc], by simp [sessionBytes]⟩

theorem Underway.served (underway : Underway env contents self fd shared places behind state)
    {count : Nat} (possible : 0 ≤ int32 count) : ∃ next,
    readRound env contents self fd state (.served count) = some next ∧
      Underway env contents self fd shared (places.move (.take false (remoteCount count)))
        { behind with place := behind.place + remoteCount count } next ∧
      Adds fd state next ((shared.bytes.drop (places.place false)).take (remoteCount count)) := by
  obtain ⟨served, stepped, stands⟩ := underway.serve possible
  have short := lateData_short shared (behind.place, count)
  have whole : lateData shared (behind.place, count) =
      (shared.bytes.drop (places.place false)).take (remoteCount count) := by
    rw [lateData, underway.place]
  simp only [lateAnswer, whole] at stepped short
  generalize (shared.bytes.drop (places.place false)).take (remoteCount count) = data
    at stepped short ⊢
  have leaves : ¬ ReadKind.sequential.Stays shared.remote := id
  obtain ⟨cache, routed, ran⟩ := underway.paired.tracks.answered self false count leaves
    (Int.natCast_nonneg _) (by omega) stepped
  simp only [ReadKind.action, ReadKind.event] at ran
  refine ⟨{ state with
      client := (state.client.informed cache data.length data).finish
        (.read fd count { ret := data.length, data })
      server := served }, by simp only [readRound, ran, Option.map_some],
    ⟨stands.resumed ⟨rfl, rfl, rfl, rfl, routed⟩, ?_, underway.left, underway.late⟩, _, rfl,
    sessionBytes_read _ _⟩
  simp [Places.move, underway.place]

theorem Underway.arrived (underway : Underway env contents self fd shared places behind state)
    {index : Nat} {answer : Nat × Nat} (found : behind.answers[index]? = some answer) :
    state.late[index]? = some (lateAnswer self shared answer) := by
  rw [underway.late, List.getElem?_map, found, Option.map_some]

theorem wakeStep_misread (contents : String → Option Bytes) (client : Client) (fd : Int)
    (count : Nat) (cache : OrderedMap Int String) {ret : Nat} (narrow : int32 ret = ret)
    (data : Bytes) (memory : Nat → UInt8) :
    let reading := client.blocked cache (.readBlock fd count)
    let held := (List.range ret).map memory
    wakeStep contents (Client.misread { reading with
        buffer := data
        completion := reading.completion.readCb ret } memory) =
      some ((client.informed cache ret held).finish (.read fd count { ret, data := held })) := by
  have ready : (client.completion.resetDone.resetReadRet.readCb ret).ready = true := rfl
  have returned : (client.completion.resetDone.resetReadRet.readCb ret).readRet = ret := rfl
  have succeeded : (ret : Int) ≠ -1 := by omega
  simp only [Client.misread, Client.blocked, wakeStep, ready, returned, narrow, if_neg succeeded,
    if_true, Int.toNat_natCast]
  rfl

theorem Underway.mistaken (underway : Underway env contents self fd shared places behind state)
    (count : Nat) {index : Nat} {answer : Nat × Nat} (found : behind.answers[index]? = some answer)
    (memory : Nat → UInt8) : ∃ next,
    readRound env contents self fd state (.mistaken count index memory) = some next ∧
      Underway env contents self fd shared places { behind with
        requests := behind.requests ++ [count]
        answers := behind.answers.eraseIdx index } next ∧
      Adds fd state next ((List.range (lateData shared answer).length).map memory) := by
  have leaves : ¬ ReadKind.sequential.Stays shared.remote := id
  obtain ⟨address, cache, routed, called⟩ := underway.paired.tracks.called self count leaves
  simp only [ReadKind.action, ReadKind.block, ReadKind.wire] at called
  have arrived := underway.arrived found
  have short := lateData_short shared answer
  simp only [lateAnswer] at arrived
  generalize lateData shared answer = data at arrived short ⊢
  have narrow : int32 data.length = data.length := int32_of_nonneg (by omega) (by omega)
  have woken := wakeStep_misread contents state.client fd count cache narrow data memory
  generalize (List.range data.length).map memory = held at woken ⊢
  refine ⟨{ state with
      client := (state.client.informed cache data.length held).finish
        (.read fd count { ret := data.length, data := held })
      left := state.left ++ [leftRequest self shared count]
      late := state.late.eraseIdx index }, ?_, ⟨?_, ?_, ?_, ?_⟩, _, rfl,
    sessionBytes_read _ _⟩
  · simp only [readRound, mistakenRound, called, bind, Option.bind_some]
    rw [arrived, Option.bind_some, receive, Option.bind_some, woken, Option.bind_some]
    rfl
  · exact underway.paired.resumed ⟨rfl, rfl, rfl, rfl, routed⟩
  · exact underway.place
  · simp [underway.left]
  · simp only [underway.late, List.eraseIdx_map]

theorem Underway.settled (underway : Underway env contents self fd shared places behind state)
    {index count : Nat} (found : behind.requests[index]? = some count)
    (possible : 0 ≤ int32 count) : ∃ next,
    readRound env contents self fd state (.settled index) = some next ∧
      Underway env contents self fd shared (places.move (.skip false (remoteCount count))) {
        requests := behind.requests.eraseIdx index
        answers := behind.answers ++ [(behind.place, count)]
        place := behind.place + remoteCount count } next ∧
      Adds fd state next [] := by
  obtain ⟨served, stepped, stands⟩ := underway.serve possible
  have request : state.left[index]? = some (leftRequest self shared count) := by
    rw [underway.left, List.getElem?_map, found, Option.map_some]
  have answered := serveRead_asked self contents underway.paired.free false count shared.remote
    .sequential
  rw [stepped] at answered
  simp only [ReadKind.wire] at answered
  refine ⟨{ state with
      server := served
      left := state.left.eraseIdx index
      late := state.late ++ [lateAnswer self shared (behind.place, count)] }, ?_,
    ⟨stands, ?_, ?_, ?_⟩, [], by simp, rfl⟩
  · simp only [readRound, settledRound, request, leftRequest, answered, bind, Option.bind_some]
  · simp [Places.move, underway.place]
  · simp only [underway.left, List.eraseIdx_map]
  · simp [underway.late]

theorem Underway.ignored (underway : Underway env contents self fd shared places behind state)
    {index : Nat} {answer : Nat × Nat} (found : behind.answers[index]? = some answer) : ∃ next,
    readRound env contents self fd state (.ignored index) = some next ∧
      Underway env contents self fd shared (places.move (.skip false 0))
        { behind with answers := behind.answers.eraseIdx index } next ∧
      Adds fd state next [] := by
  have arrived := underway.arrived found
  let informed := { state.client with
    buffer := lateData shared answer
    completion := state.client.completion.readCb (lateData shared answer).length }
  have resumes : Resumes env shared.path state.client informed :=
    ⟨underway.paired.idle, rfl, rfl, rfl, underway.paired.routed⟩
  refine ⟨{ state with client := informed, late := state.late.eraseIdx index }, ?_,
    ⟨?_, ?_, underway.left, ?_⟩, [], by simp [informed], rfl⟩
  · simp only [readRound, ignoredRound, arrived, lateAnswer, bind, Option.bind_some, receive]
    rfl
  · simpa [Places.move] using underway.paired.resumed resumes
  · simp [Places.move, underway.place]
  · simp only [underway.late, List.eraseIdx_map]

theorem Underway.overtaken (underway : Underway env contents self fd shared places behind state)
    {count : Nat} {other : OtherOpen}
    (ran : readRound env contents self fd state (.overtaken count other) = some next) :
    Underway env contents self fd shared (places.move (.take true (localCount count)))
        { behind with requests := behind.requests ++ [count] } next ∧
      Adds fd state next ((shared.bytes.drop (places.place true)).take (localCount count)) := by
  obtain ⟨pathname, flags, newFd, remote⟩ := other
  have leaves : ¬ ReadKind.sequential.Stays shared.remote := id
  obtain ⟨address, cache, routed, called⟩ := underway.paired.tracks.called self count leaves
  simp only [ReadKind.action, ReadKind.block, ReadKind.wire] at called
  simp only [readRound, overtakenRound, called, bind, Option.bind_some,
    Option.bind_eq_some_iff, Prod.exists, Option.some.injEq] at ran
  obtain ⟨opening, sent, calledOther, server, ⟨otherAddress, request, rfl, served⟩, informed,
    received, returned, woken, client, finished, rfl⟩ := ran
  obtain ⟨free, files, kept⟩ := serveOther_kept underway.paired.free served
  cases clientAct_effect calledOther with
  | openTracked _ _ _ path _ after idle unused present tracked looked =>
      simp only [receive, Option.some.injEq] at received
      subst informed
      have ready : Completion.ready
          state.client.completion.resetDone.resetReadRet.resetDone.openCb = true := rfl
      have reset : int32 state.client.completion.resetDone.resetReadRet.resetDone.openCb.readRet =
          -1 := int32_neg_one
      simp only [wakeStep, Client.blocked, ready, reset, if_true, Option.some.injEq] at woken
      subst returned
      simp only [wakeStep, realRead, Client.finish, ready, if_true, Option.some.injEq] at finished
      subst client
      have different : newFd ≠ fd := by
        rintro rfl
        have absent : state.client.kernel[newFd]? = none := unused.2
        exact absurd (absent.symm.trans underway.paired.opened) (by simp)
      have same : (state.client.kernel.insert newFd
          { file := env.resolve pathname, mode := flags.access, position := 0 })[fd]? =
          state.client.kernel[fd]? := by
        rw [OrderedMap.getElem?_insert_ite, if_neg different]
      obtain ⟨data, entry⟩ := underway.paired.read_local same count
      have least : min (localCount count) maxTransfer = localCount count := by
        unfold localCount
        split <;> omega
      refine ⟨⟨⟨rfl, ?_, route_kept routed looked, ?_, ?_, underway.paired.reads,
        underway.paired.present, free, ?_, ?_⟩, underway.place, ?_, underway.late⟩, _,
        List.append_assoc _ _ _, ?_⟩
      · simpa [Client.blocked, OrderedMap.getElem?_insert_ite, different] using
          underway.paired.tracked
      · simpa [Client.blocked, OrderedMap.getElem?_insert_ite, different] using
          underway.paired.redirected
      · have moved := clipped_add shared.bytes (places.place true) (localCount count)
        rw [least] at moved
        simp only [Places.move, Function.update_self, ← moved]
        exact entry
      · simpa [Places.move] using kept _ _ underway.paired.served
      · rw [files]
        exact underway.paired.stored
      · simp [underway.left, leftRequest]
      · rw [slice_clipped, least] at data
        simpa [sessionBytes, Event.advances] using data

theorem Underway.exists_overtaken
    (underway : Underway env contents self fd shared places behind state) (count : Nat)
    {pathname : String} {flags : OpenFlags}
    (tracked : trackedPath env pathname flags = some shared.path)
    (present : (contents (env.resolve pathname)).isSome) :
    ∃ other next, readRound env contents self fd state (.overtaken count other) = some next := by
  have leaves : ¬ ReadKind.sequential.Stays shared.remote := id
  obtain ⟨address, cache, routed, called⟩ := underway.paired.tracks.called self count leaves
  simp only [ReadKind.action, ReadKind.block, ReadKind.wire] at called
  obtain ⟨newFd, unused⟩ := exists_unused state.client.kernel
  obtain ⟨⟨otherAddress, after⟩, looked⟩ := Option.isSome_iff_exists.mp routed
  have positive : newFd ≠ -1 := by
    have lower := unused.1
    omega
  have served : ∃ server, serveOther contents state.server address
      (otherAddress, .openRpc { client := self, callback := .openCb newFd } shared.path) (-1) =
      some server := by
    have free : state.server.handler = .idle := underway.paired.free
    unfold serveOther
    split
    · simp [serveOpen, serverStep, serverAct, threadAct, acceptRequest, free, silent, redirectStep,
        openFileStep]
    · exact ⟨_, rfl⟩
  obtain ⟨server, served⟩ := served
  have ready : Completion.ready
      state.client.completion.resetDone.resetReadRet.resetDone.openCb = true := rfl
  have reset : int32 state.client.completion.resetDone.resetReadRet.resetDone.openCb.readRet =
      -1 := int32_neg_one
  refine ⟨{ pathname, flags, fd := newFd, remote := -1 }, ?_⟩
  simp only [readRound, overtakenRound, called, bind, Option.bind_some]
  simp only [clientAct, openCall, Client.blocked, if_neg positive,
    if_pos (And.intro unused present), tracked, genOpenRpc, looked, Option.bind_some, served,
    receive, wakeStep, realRead, Client.finish, ready, reset, if_true]
  exact ⟨_, rfl⟩

theorem Underway.step (underway : Underway env contents self fd shared places behind state)
    {action : ReadAction} (possible : action.turn.pending behind = some later)
    (ran : readRound env contents self fd state action = some next) : ∃ brought,
    Underway env contents self fd shared (places.move (action.turn.move behind)) later next ∧
      Brings shared.bytes places brought (action.turn.move behind) ∧
      Adds fd state next brought := by
  cases action with
  | served count =>
      simp only [ReadAction.turn, ReadTurn.pending, Option.ite_none_right_eq_some,
        Option.some.injEq] at possible
      obtain ⟨allowed, rfl⟩ := possible
      obtain ⟨reached, again, moved, added⟩ := underway.served allowed
      rw [ran, Option.some.injEq] at again
      exact ⟨_, again ▸ moved, rfl, again ▸ added⟩
  | overtaken count other =>
      simp only [ReadAction.turn, ReadTurn.pending, Option.some.injEq] at possible
      obtain ⟨moved, added⟩ := underway.overtaken ran
      exact ⟨_, possible ▸ moved, rfl, added⟩
  | mistaken count index memory =>
      simp only [ReadAction.turn, ReadTurn.pending] at possible
      split at possible
      · rename_i answer found
        simp only [Option.some.injEq] at possible
        obtain ⟨reached, again, moved, added⟩ := underway.mistaken count found memory
        rw [ran, Option.some.injEq] at again
        simp only [ReadAction.turn, ReadTurn.move, found, Option.getD_some]
        exact ⟨_, possible ▸ again ▸ moved, by simp [Brings, lateData], again ▸ added⟩
      · simp at possible
  | settled index =>
      simp only [ReadAction.turn, ReadTurn.pending] at possible
      split at possible
      · rename_i count found
        simp only [Option.ite_none_right_eq_some, Option.some.injEq] at possible
        obtain ⟨allowed, rfl⟩ := possible
        obtain ⟨reached, again, moved, added⟩ := underway.settled found allowed
        rw [ran, Option.some.injEq] at again
        simp only [ReadAction.turn, ReadTurn.move, found, Option.getD_some]
        exact ⟨_, again ▸ moved, rfl, again ▸ added⟩
      · simp at possible
  | ignored index =>
      simp only [ReadAction.turn, ReadTurn.pending] at possible
      split at possible
      · rename_i answer found
        simp only [Option.some.injEq] at possible
        obtain ⟨reached, again, moved, added⟩ := underway.ignored found
        rw [ran, Option.some.injEq] at again
        exact ⟨_, possible ▸ again ▸ moved, rfl, again ▸ added⟩
      · simp at possible

theorem Underway.run {actions : List ReadAction} {left : Behind} {final : ReadState}
    (underway : Underway env contents self fd shared places behind state)
    (possible : Transition.run ReadTurn.pending behind (actions.map ReadAction.turn) = some left)
    (ran : Transition.run (readRound env contents self fd) state actions = some final) :
    ∃ brought, Output shared.bytes places (ReadTurn.moves behind (actions.map ReadAction.turn))
      brought ∧ Adds fd state final brought := by
  induction actions generalizing places behind state with
  | nil =>
      simp only [Transition.run, Option.some.injEq] at ran
      exact ⟨[], .nil places, [], by simp [ran], rfl⟩
  | cons action rest ih =>
      obtain ⟨next, stepped, reached⟩ := (run_cons state action rest final).mp ran
      obtain ⟨later, allowed, followed⟩ := (run_cons _ _ _ _).mp possible
      obtain ⟨brought, moved, brings, added⟩ := underway.step allowed stepped
      obtain ⟨others, output, told⟩ := ih moved followed reached
      rw [List.map_cons, ReadTurn.moves, allowed]
      exact ⟨brought ++ others, .cons brings output, added.trans told⟩

/-- A late answer brings whatever stands in memory; every other turn brings what it must. -/
theorem Underway.exists_step {turn : ReadTurn} {pathname : String} {flags : OpenFlags}
    (underway : Underway env contents self fd shared places behind state)
    (tracked : trackedPath env pathname flags = some shared.path)
    (present : (contents (env.resolve pathname)).isSome)
    (possible : turn.pending behind = some later)
    (brings : Brings shared.bytes places brought (turn.move behind)) : ∃ action next,
    action.turn = turn ∧ readRound env contents self fd state action = some next ∧
      Adds fd state next brought := by
  cases turn with
  | served count =>
      simp only [ReadTurn.pending, Option.ite_none_right_eq_some] at possible
      obtain ⟨next, stepped, _, added⟩ := underway.served possible.1
      exact ⟨.served count, next, rfl, stepped, brings ▸ added⟩
  | overtaken count =>
      obtain ⟨other, next, stepped⟩ := underway.exists_overtaken count tracked present
      exact ⟨.overtaken count other, next, rfl, stepped, brings ▸ (underway.overtaken stepped).2⟩
  | mistaken count index =>
      simp only [ReadTurn.pending] at possible
      split at possible
      · rename_i answer found
        simp only [ReadTurn.move, found, Option.getD_some, Brings] at brings
        obtain ⟨next, stepped, _, added⟩ :=
          underway.mistaken count found fun place => brought[place]?.getD 0
        refine ⟨.mistaken count index _, next, rfl, stepped, ?_⟩
        have same : (List.range (lateData shared answer).length).map
            (fun place => brought[place]?.getD 0) = brought := by
          refine List.ext_getElem (by simp [brings, lateData]) ?_
          intro place before inside
          simp [List.getElem?_eq_getElem inside]
        exact same ▸ added
      · simp at possible
  | settled index =>
      simp only [ReadTurn.pending] at possible
      split at possible
      · rename_i count found
        simp only [Option.ite_none_right_eq_some] at possible
        obtain ⟨next, stepped, _, added⟩ := underway.settled found possible.1
        exact ⟨.settled index, next, rfl, stepped, brings ▸ added⟩
      · simp at possible
  | ignored index =>
      simp only [ReadTurn.pending] at possible
      split at possible
      · rename_i answer found
        obtain ⟨next, stepped, _, added⟩ := underway.ignored found
        exact ⟨.ignored index, next, rfl, stepped, brings ▸ added⟩
      · simp at possible

theorem Underway.exists_run {turns : List ReadTurn} {left : Behind} {pathname : String}
    {flags : OpenFlags} (underway : Underway env contents self fd shared places behind state)
    (tracked : trackedPath env pathname flags = some shared.path)
    (present : (contents (env.resolve pathname)).isSome)
    (possible : Transition.run ReadTurn.pending behind turns = some left)
    (output : Output shared.bytes places (ReadTurn.moves behind turns) brought) :
    ∃ actions final, actions.map ReadAction.turn = turns ∧
      Transition.run (readRound env contents self fd) state actions = some final ∧
      Adds fd state final brought := by
  induction turns generalizing places behind state brought with
  | nil =>
      cases output
      exact ⟨[], state, rfl, rfl, [], by simp, rfl⟩
  | cons turn rest ih =>
      obtain ⟨later, allowed, followed⟩ := (run_cons _ _ _ _).mp possible
      rw [ReadTurn.moves, allowed] at output
      cases output with
      | cons brings output =>
          obtain ⟨action, next, rfl, stepped, added⟩ :=
            underway.exists_step tracked present allowed brings
          obtain ⟨_, moved, _⟩ := underway.step allowed stepped
          obtain ⟨actions, final, rfl, ran, others⟩ := ih moved followed output
          exact ⟨action :: actions, final, rfl, (run_cons _ _ _ _).mpr ⟨next, stepped, ran⟩,
            added.trans others⟩

end

def openAgain : OtherOpen := { pathname := "/d/f", flags := readOnly, fd := 4, remote := 6 }

def fallBackFirst : List ReadAction :=
  [.overtaken 2 openAgain, .settled 0, .ignored 0, .served 2]

end HvacCache
