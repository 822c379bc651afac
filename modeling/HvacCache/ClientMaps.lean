import HvacCache.Client

/-! The descriptor maps of one client: what they hold between calls, while an open is
unanswered, and after each callback. -/

namespace HvacCache

open Posix

def Client.awaiting (client : Client) : Option Int :=
  match client.pc with
  | .openBlock _ _ fd => if client.completion.ready then none else some fd
  | _ => none

structure ClientInv (env : ClientEnv) (client : Client) : Prop where
  cache : CacheInv env client.addressCache
  opened : ∀ (fd : Int) (path : String), client.fdMap[fd]? = some path →
    ∃ descriptor, client.kernel[fd]? = some descriptor ∧ descriptor.file = path ∧
      descriptor.mode ≠ .writeOnly
  routed : ∀ (fd : Int) (path : String), client.fdMap[fd]? = some path →
    ∃ address, addressOf env path = some address
  tracked : ∀ (fd remote : Int), client.fdRedirMap[fd]? = some remote →
    ∃ path, client.fdMap[fd]? = some path
  redirected : ∀ (fd : Int) (path : String), client.fdMap[fd]? = some path →
    client.awaiting ≠ some fd → ∃ remote, client.fdRedirMap[fd]? = some remote

section
variable {env : ClientEnv} {contents : String → Option Bytes} {self : Nat} {client next : Client}

theorem clientInv_initial : ClientInv env Client.initial := by
  constructor <;> simp [Client.initial, Client.awaiting, CacheInv]

theorem clientInv_abort : ClientInv env client.abort := by
  constructor <;> simp [Client.abort, Client.initial, Client.awaiting, CacheInv]

theorem trackedPath_eq_some {pathname path : String} {flags : OpenFlags}
    (tracked : trackedPath env pathname flags = some path) :
    path = env.resolve pathname ∧ flags.access ≠ .writeOnly := by
  unfold trackedPath at tracked
  split at tracked
  · simp at tracked
  · split at tracked
    · simp at tracked
    · rename_i readable
      split at tracked
      · simp at tracked
      · split at tracked
        · rename_i file found
          split at tracked
          · simp only [Option.some.injEq] at tracked
            exact ⟨env.canonical_resolves pathname path (tracked ▸ found), readable⟩
          · simp at tracked
        · simp at tracked

theorem ClientInv.index_remote (inv : ClientInv env client) (idle : client.pc = .idle) {fd : Int}
    {path : String} (tracked : client.fdMap[fd]? = some path) :
    ∃ remote, client.fdRedirMap[fd]? = some remote ∧
      OrderedMap.index client.fdRedirMap fd = (remote, client.fdRedirMap) := by
  obtain ⟨remote, found⟩ := inv.redirected fd path tracked (by simp [Client.awaiting, idle])
  exact ⟨remote, found, OrderedMap.index_of_some found⟩

theorem ClientInv.of_same (inv : ClientInv env client) (settled : client.awaiting = none)
    (cache : CacheInv env next.addressCache) (sameMap : next.fdMap = client.fdMap)
    (sameRedir : next.fdRedirMap = client.fdRedirMap)
    (kept : ∀ (fd : Int) (path : String), client.fdMap[fd]? = some path →
      ∀ descriptor, client.kernel[fd]? = some descriptor →
        ∃ shifted, next.kernel[fd]? = some shifted ∧ shifted.file = descriptor.file ∧
          shifted.mode = descriptor.mode) : ClientInv env next := by
  refine ⟨cache, ?_, ?_, ?_, ?_⟩
  · intro fd path tracked
    rw [sameMap] at tracked
    obtain ⟨descriptor, found, file, mode⟩ := inv.opened fd path tracked
    obtain ⟨shifted, present, sameFile, sameMode⟩ := kept fd path tracked descriptor found
    exact ⟨shifted, present, sameFile.trans file, sameMode ▸ mode⟩
  · rw [sameMap]
    exact inv.routed
  · rw [sameMap, sameRedir]
    exact inv.tracked
  · rw [sameMap, sameRedir]
    intro fd path tracked _
    exact inv.redirected fd path tracked (by simp [settled])

theorem ClientInv.untracked_of_unused (inv : ClientInv env client) {fd : Int}
    (unused : Unused client.kernel fd) : client.fdMap[fd]? = none := by
  by_contra tracked
  obtain ⟨path, found⟩ := Option.ne_none_iff_exists'.mp tracked
  obtain ⟨descriptor, opened, _⟩ := inv.opened fd path found
  simp [unused.2] at opened

theorem ClientInv.unredirected_of_untracked (inv : ClientInv env client) {fd : Int}
    (untracked : client.fdMap[fd]? = none) : client.fdRedirMap[fd]? = none := by
  by_contra redirected
  obtain ⟨remote, found⟩ := Option.ne_none_iff_exists'.mp redirected
  obtain ⟨path, tracked⟩ := inv.tracked fd remote found
  simp [untracked] at tracked

theorem ClientInv.openTracked (inv : ClientInv env client) (idle : client.pc = .idle)
    {pathname path address : String} {flags : OpenFlags} {fd : Int} {cache : OrderedMap Int String}
    (tracked : trackedPath env pathname flags = some path)
    (routed : route env client.addressCache path = some (address, cache)) :
    ClientInv env { client with
      kernel := client.kernel.insert fd
        { file := env.resolve pathname, mode := flags.access, position := 0 }
      fdMap := client.fdMap.insert fd path
      addressCache := cache
      completion := client.completion.resetDone
      pc := .openBlock (env.resolve pathname) flags.access fd } := by
  obtain ⟨located, cacheInv⟩ := route_address inv.cache routed
  obtain ⟨samePath, readable⟩ := trackedPath_eq_some tracked
  refine ⟨cacheInv, ?_, ?_, ?_, ?_⟩
  · intro other original found
    rcases OrderedMap.found_insert found with ⟨same, value⟩ | ⟨different, old⟩
    · subst other original
      exact ⟨{ file := env.resolve pathname, mode := flags.access, position := 0 }, by simp,
        samePath.symm, readable⟩
    · obtain ⟨descriptor, opened, fields⟩ := inv.opened other original old
      refine ⟨descriptor, ?_, fields⟩
      rw [OrderedMap.getElem?_insert_ite, if_neg (Ne.symm different)]
      exact opened
  · intro other original found
    rcases OrderedMap.found_insert found with ⟨same, value⟩ | ⟨_, old⟩
    · subst original
      exact ⟨address, located⟩
    · exact inv.routed other original old
  · intro other remote found
    obtain ⟨original, old⟩ := inv.tracked other remote found
    rw [OrderedMap.getElem?_insert_ite]
    split
    · exact ⟨path, rfl⟩
    · exact ⟨original, old⟩
  · intro other original found answered
    rcases OrderedMap.found_insert found with ⟨same, value⟩ | ⟨_, old⟩
    · subst other
      simp [Client.awaiting, Completion.ready, Completion.resetDone] at answered
    · exact inv.redirected other original old (by simp [Client.awaiting, idle])

theorem ClientInv.closeTracked (inv : ClientInv env client) (idle : client.pc = .idle)
    {fd : Int} {cache : OrderedMap Int String} (cacheInv : CacheInv env cache) :
    ClientInv env (realClose { client with
      addressCache := cache
      fdRedirMap := client.fdRedirMap.erase fd
      fdMap := client.fdMap.erase fd } fd) := by
  refine ⟨cacheInv, ?_, ?_, ?_, ?_⟩
  · intro other path found
    obtain ⟨different, old⟩ := OrderedMap.found_erase found
    obtain ⟨descriptor, opened, fields⟩ := inv.opened other path old
    refine ⟨descriptor, ?_, fields⟩
    simp only [realClose, Client.finish, close]
    split
    · exact opened
    · rw [OrderedMap.getElem?_erase_ite, if_neg (Ne.symm different)]
      exact opened
  · intro other path found
    exact inv.routed other path (OrderedMap.found_erase found).2
  · intro other remote found
    obtain ⟨different, old⟩ := OrderedMap.found_erase found
    obtain ⟨path, tracked⟩ := inv.tracked other remote old
    refine ⟨path, ?_⟩
    simp only [realClose, Client.finish]
    rw [OrderedMap.getElem?_erase_ite, if_neg (Ne.symm different)]
    exact tracked
  · intro other path found _
    obtain ⟨different, old⟩ := OrderedMap.found_erase found
    obtain ⟨remote, redirected⟩ :=
      inv.redirected other path old (by simp [Client.awaiting, idle])
    refine ⟨remote, ?_⟩
    simp only [realClose, Client.finish]
    rw [OrderedMap.getElem?_erase_ite, if_neg (Ne.symm different)]
    exact redirected

theorem ClientEffect.clientInv {action : ClientAction} {outgoing : Outgoing}
    (effect : ClientEffect env contents self client action next outgoing)
    (inv : ClientInv env client) : ClientInv env next := by
  have stay : ∀ (fd : Int) (path : String), client.fdMap[fd]? = some path →
      ∀ descriptor, client.kernel[fd]? = some descriptor →
        ∃ shifted, client.kernel[fd]? = some shifted ∧ shifted.file = descriptor.file ∧
          shifted.mode = descriptor.mode :=
    fun _ _ _ descriptor found => ⟨descriptor, found, rfl, rfl⟩
  cases effect with
  | openFailed pathname flags idle =>
      exact inv.of_same (by simp [Client.awaiting, idle]) inv.cache rfl rfl stay
  | openUntracked pathname flags fd idle unused present untracked =>
      refine inv.of_same (by simp [Client.awaiting, idle]) inv.cache rfl rfl ?_
      intro other path tracked descriptor found
      have different : fd ≠ other := by
        intro same
        subst other
        simp [unused.2] at found
      refine ⟨descriptor, ?_, rfl, rfl⟩
      simp only [Client.finish]
      rw [OrderedMap.getElem?_insert_ite, if_neg different]
      exact found
  | openTracked pathname flags fd path address cache idle unused present tracked routed =>
      exact inv.openTracked idle tracked routed
  | readUntracked fd count idle untracked =>
      refine inv.of_same (by simp [Client.awaiting, idle]) inv.cache rfl rfl ?_
      intro other path tracked descriptor found
      exact (read_sameFiles contents client.kernel fd count).found found
  | readTracked fd count path address cache idle tracked routed =>
      obtain ⟨remote, _, indexed⟩ := inv.index_remote idle tracked
      refine inv.of_same (by simp [Client.awaiting, idle]) (route_address inv.cache routed).2 rfl ?_
        stay
      rw [indexed]
  | preadUntracked fd count offset idle untracked =>
      exact inv.of_same (by simp [Client.awaiting, idle]) inv.cache rfl rfl stay
  | preadLocal fd count offset path idle tracked unredirected =>
      obtain ⟨remote, _, indexed⟩ := inv.index_remote idle tracked
      refine inv.of_same (by simp [Client.awaiting, idle]) inv.cache rfl ?_ stay
      simp only [realPread, Client.finish, indexed]
  | preadTracked fd count offset path address cache idle tracked redirected routed =>
      obtain ⟨remote, _, indexed⟩ := inv.index_remote idle tracked
      refine inv.of_same (by simp [Client.awaiting, idle]) (route_address inv.cache routed).2 rfl ?_
        stay
      rw [indexed]
  | closeUntracked fd idle untracked =>
      refine inv.of_same (by simp [Client.awaiting, idle]) inv.cache rfl rfl ?_
      intro other path tracked descriptor found
      have different : fd ≠ other := by
        intro same
        subst other
        simp [untracked] at tracked
      refine ⟨descriptor, ?_, rfl, rfl⟩
      simp only [realClose, Client.finish, close]
      split
      · exact found
      · rw [OrderedMap.getElem?_erase_ite, if_neg different]
        exact found
  | closeTracked fd path address cache idle tracked routed =>
      obtain ⟨remote, _, indexed⟩ := inv.index_remote idle tracked
      rw [indexed]
      exact inv.closeTracked idle (route_address inv.cache routed).2
  | aborted action path idle unrouted => exact clientInv_abort
  | wakeOpen file mode fd ready blocked =>
      exact inv.of_same (by simp [Client.awaiting, blocked, ready]) inv.cache rfl rfl stay
  | wakeRead fd count ready blocked returned =>
      exact inv.of_same (by simp [Client.awaiting, blocked]) inv.cache rfl rfl stay
  | wakeReadLocal fd count ready blocked failed =>
      refine inv.of_same (by simp [Client.awaiting, blocked]) inv.cache rfl rfl ?_
      intro other path tracked descriptor found
      exact (read_sameFiles contents client.kernel fd count).found found
  | wakePread fd count offset ready blocked returned =>
      exact inv.of_same (by simp [Client.awaiting, blocked]) inv.cache rfl rfl stay
  | wakePreadLocal fd count offset ready blocked failed =>
      exact inv.of_same (by simp [Client.awaiting, blocked]) inv.cache rfl rfl stay

/-! What a client waits for. -/

def Opening (env : ClientEnv) (client : Client) (callback : Callback) (path address : String) :
    Prop :=
  ∃ file mode fd, client.pc = .openBlock file mode fd ∧ callback = .openCb fd ∧
    client.fdMap[fd]? = some path ∧ addressOf env path = some address ∧
    client.completion.done = 0

def Reading (client : Client) (callback : Callback) : Prop :=
  ((∃ fd count, client.pc = .readBlock fd count) ∨
    ∃ fd count offset, client.pc = .preadBlock fd count offset) ∧
  callback = .readCb ∧ client.completion.done = 0

def Client.entry (env : ClientEnv) (client : Client) (fd : Int) : Option (String × Int) :=
  match client.fdMap[fd]?, client.fdRedirMap[fd]? with
  | some path, some remote => (addressOf env path).map fun address => (address, remote)
  | _, _ => none

theorem entry_eq_some {fd remote : Int} {address : String} :
    client.entry env fd = some (address, remote) ↔
      ∃ path, client.fdMap[fd]? = some path ∧ client.fdRedirMap[fd]? = some remote ∧
        addressOf env path = some address := by
  unfold Client.entry
  split
  · rename_i path stored tracked redirected
    simp [tracked, redirected, Option.map_eq_some_iff, and_comm]
  · rename_i missing
    constructor
    · simp
    · rintro ⟨path, tracked, redirected, _⟩
      exact absurd redirected (missing path remote tracked)

/-! Callbacks. -/

theorem receive_effect {state : Client} {response : Response}
    (received : receive client response = some state) :
    (∃ caller fd retStatus,
      response = .openOut { client := caller, callback := .openCb fd } retStatus ∧
      state = { client with
        fdRedirMap := client.fdRedirMap.insert fd retStatus
        completion := client.completion.openCb }) ∨
    ∃ caller ret pushed, response = .rpcOut { client := caller, callback := .readCb } ret pushed ∧
      state = { client with
        buffer := pushed
        completion := client.completion.readCb ret } := by
  unfold receive at received
  split at received
  · rename_i caller fd retStatus
    simp only [Option.some.injEq] at received
    exact Or.inl ⟨caller, fd, retStatus, rfl, received.symm⟩
  · rename_i caller ret pushed
    simp only [Option.some.injEq] at received
    exact Or.inr ⟨caller, ret, pushed, rfl, received.symm⟩
  · simp at received

theorem receive_frame {state : Client} {response : Response}
    (received : receive client response = some state) :
    state.pc = client.pc ∧ state.trace = client.trace ∧ state.fdMap = client.fdMap ∧
      state.kernel = client.kernel := by
  rcases receive_effect received with ⟨_, _, _, _, after⟩ | ⟨_, _, _, _, after⟩
  · subst state
    exact ⟨rfl, rfl, rfl, rfl⟩
  · subst state
    exact ⟨rfl, rfl, rfl, rfl⟩

theorem ClientInv.receiveOpen (inv : ClientInv env client)
    {file path : String} {mode : AccessMode} {fd remote : Int}
    (blocked : client.pc = .openBlock file mode fd) (unset : client.completion.done = 0)
    (tracked : client.fdMap[fd]? = some path) :
    ClientInv env { client with
      fdRedirMap := client.fdRedirMap.insert fd remote
      completion := client.completion.openCb } := by
  refine ⟨inv.cache, inv.opened, inv.routed, ?_, ?_⟩
  · intro other otherRemote found
    rcases OrderedMap.found_insert found with ⟨same, _⟩ | ⟨_, old⟩
    · exact ⟨path, same ▸ tracked⟩
    · exact inv.tracked other otherRemote old
  · intro other original found _
    by_cases same : fd = other
    · exact ⟨remote, by simp [same]⟩
    · have before : client.awaiting ≠ some other := by
        simp [Client.awaiting, blocked, Completion.ready, unset, same]
      obtain ⟨otherRemote, redirected⟩ := inv.redirected other original found before
      refine ⟨otherRemote, ?_⟩
      simp only
      rw [OrderedMap.getElem?_insert_ite, if_neg same]
      exact redirected

theorem ClientInv.receiveRead (inv : ClientInv env client)
    {callback : Callback} (reading : Reading client callback) (ret : Int) (pushed : Bytes) :
    ClientInv env { client with buffer := pushed, completion := client.completion.readCb ret } := by
  obtain ⟨⟨fd, count, blocked⟩ | ⟨fd, count, offset, blocked⟩, _, _⟩ := reading
  · refine inv.of_same (by simp [Client.awaiting, blocked]) inv.cache rfl rfl ?_
    exact fun _ _ _ descriptor found => ⟨descriptor, found, rfl, rfl⟩
  · refine inv.of_same (by simp [Client.awaiting, blocked]) inv.cache rfl rfl ?_
    exact fun _ _ _ descriptor found => ⟨descriptor, found, rfl, rfl⟩

end

end HvacCache
