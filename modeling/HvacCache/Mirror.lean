import HvacCache.Descriptors

/-! What the application sees through the wrappers is a history of plain calls. The
position of a tracked file lives on its server, so the plain descriptor table is matched
with the local table for untracked descriptors and with the servers for tracked ones. -/

namespace HvacCache

open Posix Transit Transition

def Client.Forwards (client : Client) (fd : Int) : Prop :=
  (client.fdMap[fd]?).isSome ∧ (OrderedMap.index client.fdRedirMap fd).1 ≠ 0

instance (client : Client) (fd : Int) : Decidable (client.Forwards fd) :=
  inferInstanceAs (Decidable (_ ∧ _))

/-- The conditions under which the cluster runs: server calls do not fail, counts are
those a single transfer can serve, and offsets are not negative. A server's pread fails too
when its range goes beyond the largest offset. -/
def Faithful (cluster : Cluster) (action : ClusterAction) : Prop :=
  match action with
  | .serve _ (.openFile fd) => fd ≠ -1
  | .serve _ (.readFile failure) => failure = false
  | .call _ (.readCall _ count) => 1 ≤ count ∧ count ≤ 0x7ffff000
  | .call client (.preadCall fd count offset) => 1 ≤ count ∧ count ≤ 0x7ffff000 ∧ 0 ≤ offset ∧
      ((cluster.clients client).Forwards fd → offset + count < 2 ^ 63)
  | _ => True

instance (cluster : Cluster) (action : ClusterAction) : Decidable (Faithful cluster action) := by
  unfold Faithful
  split <;> infer_instance

/-- The conditions without the bounds of a single transfer: a request can carry the count. -/
def Servable (cluster : Cluster) : ClusterAction → Prop
  | .serve _ (.openFile fd) => fd ≠ -1
  | .serve _ (.readFile failure) => failure = false
  | .call _ (.readCall _ count) => count < 2 ^ 31
  | .call client (.preadCall fd count offset) => count < 2 ^ 31 ∧ 0 ≤ offset ∧
      ((cluster.clients client).Forwards fd → offset + count < 2 ^ 63)
  | _ => True

instance (cluster : Cluster) (action : ClusterAction) : Decidable (Servable cluster action) := by
  unfold Servable
  split <;> infer_instance

theorem Faithful.servable {cluster : Cluster} {action : ClusterAction}
    (faithful : Faithful cluster action) : Servable cluster action := by
  unfold Faithful at faithful
  unfold Servable
  split at faithful
  · exact faithful
  · exact faithful
  · omega
  · obtain ⟨_, upper, placed⟩ := faithful
    exact ⟨by omega, placed⟩
  · trivial

/-! The plain table. -/

def ClientPc.finished (contents : String → Option Bytes) : ClientPc → Table → Table
  | .openBlock file mode fd, table => table.insert fd { file, mode, position := 0 }
  | .readBlock fd count, table => (read contents table fd count).2
  | _, table => table

def ClientPc.result (contents : String → Option Bytes) : ClientPc → Table → Option ReadResult
  | .readBlock fd count, table => some (read contents table fd count).1
  | .preadBlock fd count offset, table => some (pread contents table fd count offset)
  | _, _ => none

def ClientPc.reading? : ClientPc → Option Int
  | .readBlock fd _ => some fd
  | .preadBlock fd _ _ => some fd
  | _ => none

def ClientPc.Placed : ClientPc → Prop
  | .readBlock _ count => count < 2 ^ 63
  | .preadBlock _ count offset => 0 ≤ offset ∧ offset + count < 2 ^ 63
  | _ => True

def Asks (env : ClientEnv) (client : Client) (address : String) (inputVal accessfd offset : Int) :
    Prop :=
  ∃ (fd : Int) (count : Nat), client.entry env fd = some (address, accessfd) ∧ inputVal = count ∧
    count < 2 ^ 31 ∧
    ((client.pc = .readBlock fd count ∧ offset = -1) ∨ client.pc = .preadBlock fd count offset)

/-- `table` is where plain calls would have led, and `shown` what the servers hold: they
differ while the open in progress is unanswered or after a server has read. -/
structure Mirror (env : Nat → ClientEnv) (contents : String → Option Bytes) (cluster : Cluster)
    (client : Nat) (table shown : Table) : Prop where
  replayed : run (replay contents) ∅ (cluster.clients client).trace = some table
  untracked : (cluster.clients client).pc ≠ .aborted → ∀ fd : Int,
    (cluster.clients client).fdMap[fd]? = none →
    table[fd]? = (cluster.clients client).kernel[fd]?
  tracked : ∀ (fd : Int) (path : String), (cluster.clients client).fdMap[fd]? = some path →
    (∀ file mode, (cluster.clients client).pc ≠ .openBlock file mode fd) →
    ∃ descriptor, table[fd]? = some descriptor ∧ descriptor.file = path ∧
      descriptor.mode ≠ .writeOnly ∧ (contents path).isSome
  opening : ∀ file mode fd, (cluster.clients client).pc = .openBlock file mode fd →
    0 ≤ fd ∧ table[fd]? = none ∧ (cluster.clients client).fdMap[fd]? = some file ∧
      mode ≠ .writeOnly ∧ (contents file).isSome
  reading : ∀ fd, (cluster.clients client).pc.reading? = some fd →
    ∃ path, (cluster.clients client).fdMap[fd]? = some path
  placed : (cluster.clients client).pc.Placed
  asks : ∀ site address handle inputVal accessfd offset,
    cluster.transit site = some (.request address (.readRpc handle inputVal accessfd offset)) →
    handle.client = client →
    Asks (env client) (cluster.clients client) address inputVal accessfd offset
  answers : ∀ site address handle ret pushed,
    cluster.transit site = some (.response address (.rpcOut handle ret pushed)) →
    handle.client = client →
    (cluster.clients client).pc.result contents table = some { ret, data := pushed }
  received : (cluster.clients client).completion.ready →
    ∀ result, (cluster.clients client).pc.result contents table = some result →
      result = { ret := (cluster.clients client).completion.readRet
                 data := (cluster.clients client).buffer }
  stage :
    (shown = table ∧ (cluster.clients client).completion.done = 0 ∧
      (cluster.clients client).pc.reading?.isSome ∧
      ∀ site address handle ret pushed,
        cluster.transit site = some (.response address (.rpcOut handle ret pushed)) →
        handle.client ≠ client) ∨
    (shown = (cluster.clients client).pc.finished contents table ∧
      ∀ site address handle inputVal accessfd offset,
        cluster.transit site = some (.request address (.readRpc handle inputVal accessfd offset)) →
        handle.client ≠ client)
  positions : ∀ fd address remote,
    (cluster.clients client).entry (env client) fd = some (address, remote) →
    ∃ descriptor place, (cluster.servers address).kernel[remote]? = some descriptor ∧
      shown[fd]? = some place ∧ descriptor.position = place.position

section
variable {env : Nat → ClientEnv} {contents : String → Option Bytes} {cluster next : Cluster}
  {table shown : Table}

def Message.reader? : Message → Option Nat
  | .request _ (.readRpc handle _ _ _) => some handle.client
  | .response _ (.rpcOut handle _ _) => some handle.client
  | _ => none

theorem Mirror.frame {client : Nat} (mirror : Mirror env contents cluster client table shown)
    (same : next.clients client = cluster.clients client)
    (messages : ∀ site message, next.transit site = some message →
      message.reader? = some client → ∃ before, cluster.transit before = some message)
    (kept : ∀ fd address remote descriptor,
      (cluster.clients client).entry (env client) fd = some (address, remote) →
      (cluster.servers address).kernel[remote]? = some descriptor →
      (next.servers address).kernel[remote]? = some descriptor) :
    Mirror env contents next client table shown := by
  refine ⟨?_, ?_, ?_, ?_, ?_, ?_, ?_, ?_, ?_, ?_, ?_⟩
  · rw [same]
    exact mirror.replayed
  · rw [same]
    exact mirror.untracked
  · rw [same]
    exact mirror.tracked
  · rw [same]
    exact mirror.opening
  · rw [same]
    exact mirror.reading
  · rw [same]
    exact mirror.placed
  · intro site address handle inputVal accessfd offset found caller
    rw [same]
    obtain ⟨before, old⟩ := messages site _ found (by simp [Message.reader?, caller])
    exact mirror.asks before address handle inputVal accessfd offset old caller
  · intro site address handle ret pushed found caller
    rw [same]
    obtain ⟨before, old⟩ := messages site _ found (by simp [Message.reader?, caller])
    exact mirror.answers before address handle ret pushed old caller
  · rw [same]
    exact mirror.received
  · rw [same]
    rcases mirror.stage with ⟨unserved, unset, reading, silent⟩ | ⟨served, silent⟩
    · refine Or.inl ⟨unserved, unset, reading, ?_⟩
      intro site address handle ret pushed found caller
      obtain ⟨before, old⟩ := messages site _ found (by simp [Message.reader?, caller])
      exact silent before address handle ret pushed old caller
    · refine Or.inr ⟨served, ?_⟩
      intro site address handle inputVal accessfd offset found caller
      obtain ⟨before, old⟩ := messages site _ found (by simp [Message.reader?, caller])
      exact silent before address handle inputVal accessfd offset old caller
  · rw [same]
    intro fd address remote held
    obtain ⟨descriptor, place, opened, matched, position⟩ := mirror.positions fd address remote held
    exact ⟨descriptor, place, kept fd address remote descriptor held opened, matched, position⟩

/-! Calls. -/

theorem Message.client?_of_reader? {message : Message} {client : Nat}
    (reader : message.reader? = some client) : message.client? = some client := by
  cases message with
  | request address request => cases request <;> simp_all [Message.reader?, Message.client?]
  | response address response =>
      cases response <;> simp_all [Message.reader?, Message.client?, Response.client]

theorem transit_post_reader {client : Nat} {state : Client} {message : Option Message}
    (noCall : NoCall cluster client)
    (unread : ∀ posted, message = some posted → posted.reader? ≠ some client) :
    ∀ site carried, ((cluster.setClient client state).post message).transit site = some carried →
      carried.reader? ≠ some client := by
  intro site carried found reader
  cases message with
  | none =>
      simp only [Cluster.post, transit_setClient] at found
      exact noCall site carried found (Message.client?_of_reader? reader)
  | some posted =>
      rcases flow_post posted site carried found with ⟨old, _⟩ | new
      · rw [transit_setClient] at old
        exact noCall site carried old (Message.client?_of_reader? reader)
      · simp only [Option.some.injEq, Prod.mk.injEq] at new
        exact unread posted rfl (new.2 ▸ reader)

theorem Mirror.returned {client : Nat} {state : Client} {message : Option Message}
    (noCall : NoCall cluster client)
    (unread : ∀ posted, message = some posted → posted.reader? ≠ some client)
    (replayed : run (replay contents) ∅ state.trace = some table)
    (ended : state.pc = .idle ∨ state.pc = .aborted)
    (untracked : state.pc ≠ .aborted → ∀ fd : Int, state.fdMap[fd]? = none →
      table[fd]? = state.kernel[fd]?)
    (tracked : ∀ (fd : Int) (path : String), state.fdMap[fd]? = some path →
      ∃ descriptor, table[fd]? = some descriptor ∧ descriptor.file = path ∧
        descriptor.mode ≠ .writeOnly ∧ (contents path).isSome)
    (positions : ∀ fd address remote, state.entry (env client) fd = some (address, remote) →
      ∃ descriptor place, (cluster.servers address).kernel[remote]? = some descriptor ∧
        table[fd]? = some place ∧ descriptor.position = place.position) :
    Mirror env contents ((cluster.setClient client state).post message) client table table := by
  have silent : ∀ site carried,
      ((cluster.setClient client state).post message).transit site = some carried →
      carried.reader? ≠ some client := transit_post_reader noCall unread
  have finished : state.pc.finished contents table = table := by
    rcases ended with ended | ended <;> simp [ended, ClientPc.finished]
  have noResult : state.pc.result contents table = none := by
    rcases ended with ended | ended <;> simp [ended, ClientPc.result]
  have here : ((cluster.setClient client state).post message).clients client = state := by simp
  refine ⟨?_, ?_, ?_, ?_, ?_, ?_, ?_, ?_, ?_, ?_, ?_⟩
  · rw [here]
    exact replayed
  · rw [here]
    exact untracked
  · rw [here]
    intro fd path found _
    exact tracked fd path found
  · rw [here]
    intro file mode fd opening
    rcases ended with ended | ended <;> simp [ended] at opening
  · rw [here]
    intro fd reading
    rcases ended with ended | ended <;> simp [ended, ClientPc.reading?] at reading
  · rw [here]
    rcases ended with ended | ended <;> simp [ended, ClientPc.Placed]
  · intro site address handle inputVal accessfd offset found caller
    exact absurd (by simp [Message.reader?, caller]) (silent site _ found)
  · intro site address handle ret pushed found caller
    exact absurd (by simp [Message.reader?, caller]) (silent site _ found)
  · rw [here]
    intro _ result some
    simp [noResult] at some
  · rw [here, finished]
    refine Or.inr ⟨rfl, ?_⟩
    intro site address handle inputVal accessfd offset found caller
    exact absurd (by simp [Message.reader?, caller]) (silent site _ found)
  · rw [here]
    simpa using positions

theorem Mirror.shown_eq {client : Nat} (mirror : Mirror env contents cluster client table shown)
    (settled : (cluster.clients client).pc = .idle ∨ (cluster.clients client).completion.ready) :
    shown = (cluster.clients client).pc.finished contents table := by
  rcases mirror.stage with ⟨_, unset, reading, _⟩ | ⟨served, _⟩
  · rcases settled with idle | ready
    · simp [idle, ClientPc.reading?] at reading
    · simp [Completion.ready, unset] at ready
  · exact served

theorem Mirror.idle_positions {client : Nat}
    (mirror : Mirror env contents cluster client table shown)
    (idle : (cluster.clients client).pc = .idle) : shown = table := by
  rw [mirror.shown_eq (Or.inl idle), idle]
  rfl

theorem Mirror.idle_tracked {client : Nat}
    (mirror : Mirror env contents cluster client table shown)
    (idle : (cluster.clients client).pc = .idle) {fd : Int} {path : String}
    (tracked : (cluster.clients client).fdMap[fd]? = some path) :
    ∃ descriptor, table[fd]? = some descriptor ∧ descriptor.file = path ∧
      descriptor.mode ≠ .writeOnly ∧ (contents path).isSome :=
  mirror.tracked fd path tracked (by simp [idle])

theorem entry_tracked {env : ClientEnv} {client : Client} {fd : Int} {name : String × Int}
    (held : client.entry env fd = some name) : ∃ path, client.fdMap[fd]? = some path := by
  obtain ⟨path, tracked, _⟩ := entry_eq_some.mp held
  exact ⟨path, tracked⟩

section
variable {client : Nat}

theorem Mirror.localCall (mirror : Mirror env contents cluster client table shown)
    (inv : Agreement env contents cluster) (idle : (cluster.clients client).pc = .idle)
    {kernel after : Table} {event : Event} (plain : replay contents table event = some after)
    (changed : ∀ fd : Int, (after[fd]? = table[fd]? ∧
        kernel[fd]? = (cluster.clients client).kernel[fd]?) ∨
      ((cluster.clients client).fdMap[fd]? = none ∧ after[fd]? = kernel[fd]?)) :
    Mirror env contents
      ((cluster.setClient client
        (Client.finish { cluster.clients client with kernel } event)).post none)
      client after after := by
  have kept : ∀ (fd : Int) (path : String), (cluster.clients client).fdMap[fd]? = some path →
      after[fd]? = table[fd]? := by
    intro fd path tracked
    rcases changed fd with ⟨same, _⟩ | ⟨untracked, _⟩
    · exact same
    · simp [untracked] at tracked
  refine Mirror.returned (inv.noCall (Or.inl idle)) (by simp)
    (replay_append mirror.replayed plain) (Or.inl rfl) ?_ ?_ ?_
  · intro _ fd untracked
    rcases changed fd with ⟨sameTable, sameKernel⟩ | ⟨_, same⟩
    · exact sameTable.trans
        ((mirror.untracked (by simp [idle]) fd untracked).trans sameKernel.symm)
    · exact same
  · intro fd path tracked
    rw [kept fd path tracked]
    exact mirror.idle_tracked idle tracked
  · intro fd address remote held
    obtain ⟨path, tracked⟩ := entry_tracked held
    rw [kept fd path tracked, ← mirror.idle_positions idle]
    exact mirror.positions fd address remote held

theorem Mirror.unchanged (mirror : Mirror env contents cluster client table shown)
    (inv : Agreement env contents cluster) (idle : (cluster.clients client).pc = .idle)
    {event : Event} (plain : replay contents table event = some table) :
    Mirror env contents
      ((cluster.setClient client ((cluster.clients client).finish event)).post none) client table
      table :=
  mirror.localCall inv idle plain fun _ => Or.inl ⟨rfl, rfl⟩

theorem Mirror.openUntracked (mirror : Mirror env contents cluster client table shown)
    (inv : Agreement env contents cluster) (idle : (cluster.clients client).pc = .idle)
    {file : String} {mode : AccessMode} {fd : Int}
    (unused : Unused (cluster.clients client).kernel fd) (present : (contents file).isSome) :
    Mirror env contents ((cluster.setClient client (Client.finish
        { cluster.clients client with
          kernel := (cluster.clients client).kernel.insert fd { file, mode, position := 0 } }
        (.opened file mode fd))).post none) client
      (table.insert fd { file, mode, position := 0 })
      (table.insert fd { file, mode, position := 0 }) := by
  have untracked := (inv.clients client).untracked_of_unused unused
  have same := mirror.untracked (by simp [idle]) fd untracked
  have plain : Unused table fd := ⟨unused.1, same.trans unused.2⟩
  refine mirror.localCall inv idle (by simp [replay, plain, present]) ?_
  intro other
  simp only [OrderedMap.getElem?_insert_ite]
  by_cases here : fd = other
  · subst other
    exact Or.inr ⟨untracked, by simp⟩
  · exact Or.inl ⟨by simp [here], by simp [here]⟩

theorem Mirror.readUntracked (mirror : Mirror env contents cluster client table shown)
    (inv : Agreement env contents cluster) (idle : (cluster.clients client).pc = .idle)
    {fd : Int} (count : Nat) (untracked : (cluster.clients client).fdMap[fd]? = none) :
    Mirror env contents
      ((cluster.setClient client (realRead contents (cluster.clients client) fd count)).post none)
      client (read contents table fd count).2 (read contents table fd count).2 := by
  have same := mirror.untracked (by simp [idle]) fd untracked
  obtain ⟨sameResult, sameAfter⟩ := read_congr contents same count
  refine mirror.localCall inv idle ?_ ?_
  · simp only [replay, sameResult, int32_read_ret, if_true]
  · intro other
    by_cases here : other = fd
    · subst other
      exact Or.inr ⟨untracked, sameAfter⟩
    · exact Or.inl ⟨read_other here, read_other here⟩

theorem Mirror.closeUntracked (mirror : Mirror env contents cluster client table shown)
    (inv : Agreement env contents cluster) (idle : (cluster.clients client).pc = .idle)
    {fd : Int} (untracked : (cluster.clients client).fdMap[fd]? = none) :
    Mirror env contents
      ((cluster.setClient client (realClose (cluster.clients client) fd)).post none)
      client (close table fd).2 (close table fd).2 := by
  have same := mirror.untracked (by simp [idle]) fd untracked
  obtain ⟨sameResult, sameAfter⟩ := close_congr same
  refine mirror.localCall inv idle ?_ ?_
  · simp only [replay, sameResult, if_true]
  · intro other
    by_cases here : other = fd
    · subst other
      exact Or.inr ⟨untracked, sameAfter⟩
    · exact Or.inl ⟨close_other here, close_other here⟩

theorem Mirror.pread_local (mirror : Mirror env contents cluster client table shown)
    (inv : Agreement env contents cluster) (idle : (cluster.clients client).pc = .idle)
    (fd : Int) (count : Nat) (offset : Int) :
    pread contents (cluster.clients client).kernel fd count offset =
      pread contents table fd count offset := by
  refine pread_congr ?_ count offset
  cases tracked : (cluster.clients client).fdMap[fd]? with
  | none => rw [mirror.untracked (by simp [idle]) fd tracked]
  | some path =>
      obtain ⟨descriptor, opened, file, mode⟩ := (inv.clients client).opened fd path tracked
      obtain ⟨plain, found, plainFile, plainMode, _⟩ := mirror.idle_tracked idle tracked
      simp [opened, found, Posix.readable, file, plainFile, mode, plainMode]

theorem Mirror.closeTracked (mirror : Mirror env contents cluster client table shown)
    (inv : Agreement env contents cluster) (idle : (cluster.clients client).pc = .idle)
    {fd remote : Int} {path address : String} {cache : OrderedMap Int String}
    (tracked : (cluster.clients client).fdMap[fd]? = some path) :
    Mirror env contents
      ((cluster.setClient client (realClose { cluster.clients client with
        addressCache := cache
        fdRedirMap := (cluster.clients client).fdRedirMap.erase fd
        fdMap := (cluster.clients client).fdMap.erase fd } fd)).post
          (some (.request address (.closeRpc remote))))
      client (table.erase fd) (table.erase fd) := by
  obtain ⟨descriptor, opened, _⟩ := (inv.clients client).opened fd path tracked
  obtain ⟨plain, found, _⟩ := mirror.idle_tracked idle tracked
  refine Mirror.returned (inv.noCall (Or.inl idle)) ?_ ?_ (Or.inl rfl) ?_ ?_ ?_
  · intro posted same
    simp only [Option.some.injEq] at same
    subst posted
    simp [Message.reader?]
  · refine replay_append mirror.replayed ?_
    simp [replay, close, opened, found]
  · intro _ other untracked
    simp only [realClose, Client.finish, close, opened] at untracked ⊢
    rw [OrderedMap.getElem?_erase_ite] at untracked ⊢
    rw [OrderedMap.getElem?_erase_ite]
    split
    · rfl
    · rename_i different
      rw [if_neg different] at untracked
      exact mirror.untracked (by simp [idle]) other untracked
  · intro other original stillTracked
    obtain ⟨different, old⟩ := OrderedMap.found_erase stillTracked
    rw [OrderedMap.getElem?_erase_ite, if_neg (Ne.symm different)]
    exact mirror.idle_tracked idle old
  · intro other otherAddress otherRemote held
    obtain ⟨original, stillTracked, redirected, located⟩ := entry_eq_some.mp held
    obtain ⟨different, old⟩ := OrderedMap.found_erase stillTracked
    rw [OrderedMap.getElem?_erase_ite, if_neg (Ne.symm different), ← mirror.idle_positions idle]
    exact mirror.positions other otherAddress otherRemote
      (entry_eq_some.mpr ⟨original, old, (OrderedMap.found_erase redirected).2, located⟩)

theorem Mirror.wakeOpen (mirror : Mirror env contents cluster client table shown)
    (inv : Agreement env contents cluster) (ready : (cluster.clients client).completion.ready)
    {file : String} {mode : AccessMode} {fd : Int}
    (blocked : (cluster.clients client).pc = .openBlock file mode fd) :
    Mirror env contents
      ((cluster.setClient client ((cluster.clients client).finish (.opened file mode fd))).post
        none)
      client (table.insert fd { file, mode, position := 0 })
      (table.insert fd { file, mode, position := 0 }) := by
  obtain ⟨lower, absent, opening, readable, present⟩ := mirror.opening file mode fd blocked
  have served : shown = table.insert fd { file, mode, position := 0 } := by
    rw [mirror.shown_eq (Or.inr ready), blocked]
    rfl
  have plain : Unused table fd := ⟨lower, absent⟩
  refine Mirror.returned (inv.noCall (Or.inr ready)) (by simp) ?_ (Or.inl rfl) ?_ ?_ ?_
  · exact replay_append mirror.replayed (by simp [replay, plain, present])
  · intro _ other untracked
    have different : fd ≠ other := by
      intro same
      subst other
      simp [Client.finish, opening] at untracked
    rw [OrderedMap.getElem?_insert_ite, if_neg different]
    exact mirror.untracked (by simp [blocked]) other untracked
  · intro other path tracked
    by_cases same : fd = other
    · subst other
      have samePath : file = path := Option.some.inj (opening.symm.trans tracked)
      exact ⟨{ file, mode, position := 0 }, by simp, samePath, readable, samePath ▸ present⟩
    · rw [OrderedMap.getElem?_insert_ite, if_neg same]
      exact mirror.tracked other path tracked (by simp [blocked, same])
  · intro other address remote held
    rw [← served]
    exact mirror.positions other address remote held

theorem Mirror.readable (mirror : Mirror env contents cluster client table shown) (fd : Int)
    (reading : (cluster.clients client).pc.reading? = some fd) :
    ∃ path descriptor bytes, (cluster.clients client).fdMap[fd]? = some path ∧
      table[fd]? = some descriptor ∧ descriptor.file = path ∧ descriptor.mode ≠ .writeOnly ∧
      contents path = some bytes ∧ Posix.readable contents descriptor = some bytes := by
  obtain ⟨path, tracked⟩ := mirror.reading fd reading
  have notOpening : ∀ file mode, (cluster.clients client).pc ≠ .openBlock file mode fd := by
    intro file mode opening
    simp [opening, ClientPc.reading?] at reading
  obtain ⟨descriptor, found, file, mode, present⟩ := mirror.tracked fd path tracked notOpening
  obtain ⟨bytes, source⟩ := Option.isSome_iff_exists.mp present
  exact ⟨path, descriptor, bytes, tracked, found, file, mode, source,
    by simp [Posix.readable, mode, file, source]⟩

theorem Mirror.result_nonneg (mirror : Mirror env contents cluster client table shown)
    {result : ReadResult}
    (plain : (cluster.clients client).pc.result contents table = some result) :
    0 ≤ result.ret := by
  cases pc : (cluster.clients client).pc with
  | readBlock fd count =>
      obtain ⟨path, descriptor, bytes, _, found, _, _, _, visible⟩ :=
        mirror.readable fd (by simp [pc, ClientPc.reading?])
      have small : (ClientPc.readBlock fd count).Placed := pc ▸ mirror.placed
      simp only [pc, ClientPc.result, read_of_readable found visible small,
        Option.some.injEq] at plain
      simp [← plain, delivered]
  | preadBlock fd count offset =>
      obtain ⟨path, descriptor, bytes, _, found, _, _, _, visible⟩ :=
        mirror.readable fd (by simp [pc, ClientPc.reading?])
      obtain ⟨lower, upper⟩ : (ClientPc.preadBlock fd count offset).Placed := pc ▸ mirror.placed
      simp only [pc, ClientPc.result, pread_of_readable found visible lower upper,
        Option.some.injEq] at plain
      simp [← plain, delivered]
  | _ => simp [pc, ClientPc.result] at plain

theorem Mirror.wakeRead (mirror : Mirror env contents cluster client table shown)
    (inv : Agreement env contents cluster) (ready : (cluster.clients client).completion.ready)
    {fd : Int} {count : Nat} (blocked : (cluster.clients client).pc = .readBlock fd count) :
    Mirror env contents
      ((cluster.setClient client ((cluster.clients client).finish (.read fd count
        { ret := int32 (cluster.clients client).completion.readRet
          data := (cluster.clients client).buffer }))).post none)
      client (read contents table fd count).2 (read contents table fd count).2 := by
  have result := mirror.received ready (read contents table fd count).1
    (by simp [blocked, ClientPc.result])
  obtain ⟨path, descriptor, bytes, tracked, found, file, mode, source, _⟩ :=
    mirror.readable fd (by simp [blocked, ClientPc.reading?])
  have fits : int32 (cluster.clients client).completion.readRet =
      (cluster.clients client).completion.readRet := by
    have kept := int32_read_ret contents table fd count
    rwa [result] at kept
  refine Mirror.returned (inv.noCall (Or.inr ready)) (by simp) ?_ (Or.inl rfl) ?_ ?_ ?_
  · refine replay_append mirror.replayed ?_
    simp only [replay, fits, result, if_true]
  · intro _ other untracked
    have different : other ≠ fd := by
      intro same
      subst other
      simp [Client.finish, tracked] at untracked
    rw [read_other different]
    exact mirror.untracked (by simp [blocked]) other untracked
  · intro other original stillTracked
    obtain ⟨plain, plainFound, plainFile, plainMode, present⟩ :=
      mirror.tracked other original stillTracked (by simp [blocked])
    obtain ⟨shifted, stays, sameFile, sameMode⟩ :=
      (read_sameFiles contents table fd count).found plainFound
    exact ⟨shifted, stays, sameFile.trans plainFile, sameMode ▸ plainMode, present⟩
  · intro other address remote held
    have served : shown = (read contents table fd count).2 := by
      rw [mirror.shown_eq (Or.inr ready), blocked]
      rfl
    rw [← served]
    exact mirror.positions other address remote held

theorem Mirror.wakePread (mirror : Mirror env contents cluster client table shown)
    (inv : Agreement env contents cluster) (ready : (cluster.clients client).completion.ready)
    {fd : Int} {count : Nat} {offset : Int}
    (blocked : (cluster.clients client).pc = .preadBlock fd count offset) :
    Mirror env contents
      ((cluster.setClient client ((cluster.clients client).finish (.pread fd count offset
        { ret := (cluster.clients client).completion.readRet
          data := (cluster.clients client).buffer }))).post none)
      client table table := by
  have result := mirror.received ready (pread contents table fd count offset)
    (by simp [blocked, ClientPc.result])
  refine Mirror.returned (inv.noCall (Or.inr ready)) (by simp) ?_ (Or.inl rfl) ?_ ?_ ?_
  · exact replay_append mirror.replayed (by simp [replay, result])
  · intro _ other untracked
    exact mirror.untracked (by simp [blocked]) other untracked
  · intro other original stillTracked
    exact mirror.tracked other original stillTracked (by simp [blocked])
  · intro other address remote held
    have served : shown = table := by
      rw [mirror.shown_eq (Or.inr ready), blocked]
      rfl
    rw [← served]
    exact mirror.positions other address remote held

theorem Mirror.openTracked (mirror : Mirror env contents cluster client table shown)
    (inv : Agreement env contents cluster) (idle : (cluster.clients client).pc = .idle)
    {pathname path address : String} {flags : OpenFlags} {fd : Int} {cache : OrderedMap Int String}
    {callback : Callback} (unused : Unused (cluster.clients client).kernel fd)
    (present : (contents ((env client).resolve pathname)).isSome)
    (tracked : trackedPath (env client) pathname flags = some path) :
    Mirror env contents
      ((cluster.setClient client { cluster.clients client with
        kernel := (cluster.clients client).kernel.insert fd
          { file := (env client).resolve pathname, mode := flags.access, position := 0 }
        fdMap := (cluster.clients client).fdMap.insert fd path
        addressCache := cache
        completion := (cluster.clients client).completion.resetDone
        pc := .openBlock ((env client).resolve pathname) flags.access fd }).post
          (some (.request address (.openRpc { client, callback } path))))
      client table (table.insert fd
        { file := (env client).resolve pathname, mode := flags.access, position := 0 }) := by
  have untracked := (inv.clients client).untracked_of_unused unused
  have unredirected := (inv.clients client).unredirected_of_untracked untracked
  have absent := (mirror.untracked (by simp [idle]) fd untracked).trans unused.2
  obtain ⟨samePath, readable⟩ := trackedPath_eq_some tracked
  have noCall := inv.noCall (Or.inl idle)
  have unread : ∀ posted, some (Message.request address (.openRpc { client, callback } path)) =
      some posted → posted.reader? ≠ some client := by
    intro posted same
    simp only [Option.some.injEq] at same
    subst posted
    simp [Message.reader?]
  refine ⟨?_, ?_, ?_, ?_, ?_, ?_, ?_, ?_, ?_, ?_, ?_⟩
  all_goals simp only [clients_post, servers_post, clients_setClient_same, servers_setClient]
  · exact mirror.replayed
  · intro _ other otherUntracked
    rw [OrderedMap.getElem?_insert_ite] at otherUntracked ⊢
    split at otherUntracked
    · simp at otherUntracked
    · rename_i different
      rw [if_neg different]
      exact mirror.untracked (by simp [idle]) other otherUntracked
  · intro other original found notOpening
    rcases OrderedMap.found_insert found with ⟨same, _⟩ | ⟨_, old⟩
    · subst other
      exact absurd rfl (notOpening _ _)
    · exact mirror.idle_tracked idle old
  · intro file mode other opening
    simp only [ClientPc.openBlock.injEq] at opening
    obtain ⟨sameFile, sameMode, sameFd⟩ := opening
    subst file mode other
    exact ⟨unused.1, absent, by simp [samePath], readable, present⟩
  · intro other reading
    simp [ClientPc.reading?] at reading
  · trivial
  · intro site otherAddress handle inputVal accessfd offset found caller
    exact absurd (by simp [Message.reader?, caller]) (transit_post_reader noCall unread site _ found)
  · intro site otherAddress handle ret pushed found caller
    exact absurd (by simp [Message.reader?, caller]) (transit_post_reader noCall unread site _ found)
  · intro ready
    simp [Completion.ready, Completion.resetDone] at ready
  · refine Or.inr ⟨rfl, ?_⟩
    intro site otherAddress handle inputVal accessfd offset found caller
    exact absurd (by simp [Message.reader?, caller]) (transit_post_reader noCall unread site _ found)
  · intro other otherAddress remote held
    obtain ⟨original, found, redirected, located⟩ := entry_eq_some.mp held
    rcases OrderedMap.found_insert found with ⟨same, _⟩ | ⟨different, old⟩
    · subst other
      simp [unredirected] at redirected
    · rw [OrderedMap.getElem?_insert_ite, if_neg (Ne.symm different),
        ← mirror.idle_positions idle]
      exact mirror.positions other otherAddress remote
        (entry_eq_some.mpr ⟨original, old, redirected, located⟩)

theorem Mirror.readRequest (mirror : Mirror env contents cluster client table shown)
    (inv : Agreement env contents cluster) (idle : (cluster.clients client).pc = .idle)
    {path address : String} {fd remote offset : Int} {count : Nat} {cache : OrderedMap Int String}
    {pc : ClientPc} (tracked : (cluster.clients client).fdMap[fd]? = some path)
    (redirected : (cluster.clients client).fdRedirMap[fd]? = some remote)
    (located : addressOf (env client) path = some address) (bound : count < 2 ^ 31)
    (blocks : (pc = .readBlock fd count ∧ offset = -1) ∨
      (pc = .preadBlock fd count offset ∧ 0 ≤ offset ∧ offset + count < 2 ^ 63)) :
    Mirror env contents
      ((cluster.setClient client { cluster.clients client with
        addressCache := cache
        completion := (cluster.clients client).completion.resetDone.resetReadRet
        pc }).post (some (.request address
          (.readRpc { client, callback := .readCb } (int32 count) remote offset))))
      client table table := by
  have noCall := inv.noCall (Or.inl idle)
  have reading : pc.reading? = some fd := by
    rcases blocks with ⟨same, _⟩ | ⟨same, _⟩ <;> simp [same, ClientPc.reading?]
  have notOpening : ∀ file mode other, pc ≠ .openBlock file mode other := by
    rcases blocks with ⟨same, _⟩ | ⟨same, _⟩ <;> simp [same]
  have notAnswered : ∀ site otherAddress handle ret pushed, ((cluster.setClient client
      { cluster.clients client with
        addressCache := cache
        completion := (cluster.clients client).completion.resetDone.resetReadRet
        pc }).post (some (.request address
          (.readRpc { client, callback := .readCb } (int32 count) remote offset)))).transit site =
      some (.response otherAddress (.rpcOut handle ret pushed)) → handle.client ≠ client := by
    intro site otherAddress handle ret pushed found caller
    rcases flow_post _ site _ found with ⟨old, _⟩ | new
    · rw [transit_setClient] at old
      exact noCall site _ old (by simp [Message.client?, Response.client, caller])
    · simp at new
  refine ⟨?_, ?_, ?_, ?_, ?_, ?_, ?_, ?_, ?_, ?_, ?_⟩
  all_goals simp only [clients_post, servers_post, clients_setClient_same, servers_setClient]
  · exact mirror.replayed
  · intro _ other untracked
    exact mirror.untracked (by simp [idle]) other untracked
  · intro other original found _
    exact mirror.idle_tracked idle found
  · intro file mode other opening
    exact absurd opening (notOpening file mode other)
  · intro other otherReading
    rw [reading, Option.some.injEq] at otherReading
    exact ⟨path, otherReading ▸ tracked⟩
  · rcases blocks with ⟨blocked, _⟩ | ⟨blocked, placed⟩
    · simp only [blocked, ClientPc.Placed]
      omega
    · rw [blocked]
      exact placed
  · intro site otherAddress handle inputVal accessfd otherOffset found caller
    rcases flow_post _ site _ found with ⟨old, _⟩ | new
    · rw [transit_setClient] at old
      exact absurd (by simp [Message.client?, caller]) (noCall site _ old)
    · simp only [Option.some.injEq, Prod.mk.injEq, Message.request.injEq,
        Request.readRpc.injEq] at new
      obtain ⟨_, sameAddress, _, sameVal, sameFd, sameOffset⟩ := new
      subst otherAddress inputVal accessfd otherOffset
      refine ⟨fd, count, entry_eq_some.mpr ⟨path, tracked, redirected, located⟩, ?_, bound,
        blocks.imp_right And.left⟩
      exact int32_of_nonneg (by omega) (by omega)
  · intro site otherAddress handle ret pushed found caller
    exact absurd caller (notAnswered site otherAddress handle ret pushed found)
  · intro ready
    simp [Completion.ready, Completion.resetDone, Completion.resetReadRet] at ready
  · exact Or.inl ⟨trivial, rfl, by simp [reading], notAnswered⟩
  · intro other otherAddress otherRemote held
    rw [← mirror.idle_positions idle]
    exact mirror.positions other otherAddress otherRemote held

theorem ClientEffect.mirror {action : ClientAction} {state : Client} {outgoing : Outgoing}
    (effect : ClientEffect (env client) contents client (cluster.clients client) action state
      outgoing) (servable : Servable cluster (.call client action))
    (inv : Agreement env contents cluster)
    (mirror : Mirror env contents cluster client table shown) :
    ∃ after seen, Mirror env contents ((cluster.setClient client state).post
      (outgoing.map fun sent => .request sent.1 sent.2)) client after seen := by
  cases effect with
  | openFailed pathname flags idle =>
      exact ⟨table, table, mirror.unchanged inv idle rfl⟩
  | openUntracked pathname flags fd idle unused present untracked =>
      exact ⟨_, _, mirror.openUntracked inv idle unused present⟩
  | openTracked pathname flags fd path address cache idle unused present tracked routed =>
      exact ⟨_, _, mirror.openTracked inv idle unused present tracked⟩
  | readUntracked fd count idle untracked =>
      exact ⟨_, _, mirror.readUntracked inv idle count untracked⟩
  | readTracked fd count path address cache idle tracked routed =>
      obtain ⟨remote, redirected, indexed⟩ := (inv.clients client).index_remote idle tracked
      obtain ⟨located, _⟩ := route_address (inv.clients client).cache routed
      simp only [indexed]
      exact ⟨_, _, mirror.readRequest inv idle tracked redirected located servable
        (Or.inl ⟨rfl, rfl⟩)⟩
  | preadUntracked fd count offset idle untracked =>
      refine ⟨table, table, mirror.unchanged inv idle ?_⟩
      simp [replay, mirror.pread_local inv idle]
  | preadLocal fd count offset path idle tracked unredirected =>
      obtain ⟨remote, redirected, indexed⟩ := (inv.clients client).index_remote idle tracked
      simp only [indexed]
      refine ⟨table, table, mirror.unchanged inv idle ?_⟩
      simp [replay, mirror.pread_local inv idle]
  | preadTracked fd count offset path address cache idle tracked remoteOpen routed =>
      obtain ⟨remote, redirected, indexed⟩ := (inv.clients client).index_remote idle tracked
      obtain ⟨located, _⟩ := route_address (inv.clients client).cache routed
      simp only [indexed]
      exact ⟨_, _, mirror.readRequest inv idle tracked redirected located servable.1
        (Or.inr ⟨rfl, servable.2.1, servable.2.2 ⟨by simp [tracked], remoteOpen⟩⟩)⟩
  | closeUntracked fd idle untracked => exact ⟨_, _, mirror.closeUntracked inv idle untracked⟩
  | closeTracked fd path address cache idle tracked routed =>
      obtain ⟨remote, redirected, indexed⟩ := (inv.clients client).index_remote idle tracked
      simp only [indexed]
      exact ⟨_, _, mirror.closeTracked inv idle tracked⟩
  | aborted action path idle unrouted =>
      refine ⟨table, table, Mirror.returned (inv.noCall (Or.inl idle)) (by simp) mirror.replayed
        (Or.inr rfl) ?_ ?_ ?_⟩
      · intro alive
        exact absurd rfl alive
      · intro fd original tracked
        simp [Client.abort, Client.initial] at tracked
      · intro fd address remote held
        simp [Client.abort, Client.initial, Client.entry] at held
  | wakeOpen file mode fd ready blocked => exact ⟨_, _, mirror.wakeOpen inv ready blocked⟩
  | wakeRead fd count ready blocked returned => exact ⟨_, _, mirror.wakeRead inv ready blocked⟩
  | wakeReadLocal fd count ready blocked failed =>
      have plain : (cluster.clients client).pc.result contents table =
          some (read contents table fd count).1 := by simp [blocked, ClientPc.result]
      have lower := mirror.result_nonneg plain
      have kept := int32_read_ret contents table fd count
      rw [mirror.received ready _ plain] at lower kept
      simp only at lower
      simp only [failed] at kept
      omega
  | wakePread fd count offset ready blocked returned =>
      exact ⟨_, _, mirror.wakePread inv ready blocked⟩
  | wakePreadLocal fd count offset ready blocked failed =>
      have plain : (cluster.clients client).pc.result contents table =
          some (pread contents table fd count offset) := by simp [blocked, ClientPc.result]
      have lower := mirror.result_nonneg plain
      rw [mirror.received ready _ plain] at lower
      simp only at lower
      omega

end

end

end HvacCache
