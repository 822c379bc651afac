import HvacCache.ClientCore

/-! What each call can do to a client, and what the address cache is worth. -/

namespace HvacCache

open Posix

inductive ClientEffect (env : ClientEnv) (contents : String → Option Bytes) (self : Nat)
    (client : Client) : ClientAction → Client → Outgoing → Prop
  | openFailed (pathname : String) (flags : OpenFlags) (idle : client.pc = .idle) :
      ClientEffect env contents self client (.openCall pathname flags (-1))
        (client.finish .openFailed) none
  | openUntracked (pathname : String) (flags : OpenFlags) (fd : Int) (idle : client.pc = .idle)
      (unused : Unused client.kernel fd) (present : (contents (env.resolve pathname)).isSome)
      (untracked : trackedPath env pathname flags = none) :
      ClientEffect env contents self client (.openCall pathname flags fd)
        (Client.finish { client with
            kernel := client.kernel.insert fd
              { file := env.resolve pathname, mode := flags.access, position := 0 } }
          (.opened (env.resolve pathname) flags.access fd)) none
  | openTracked (pathname : String) (flags : OpenFlags) (fd : Int) (path address : String)
      (cache : OrderedMap Int String) (idle : client.pc = .idle)
      (unused : Unused client.kernel fd) (present : (contents (env.resolve pathname)).isSome)
      (tracked : trackedPath env pathname flags = some path)
      (routed : route env client.addressCache path = some (address, cache)) :
      ClientEffect env contents self client (.openCall pathname flags fd)
        { client with
          kernel := client.kernel.insert fd
            { file := env.resolve pathname, mode := flags.access, position := 0 }
          fdMap := client.fdMap.insert fd path
          addressCache := cache
          completion := client.completion.resetDone
          pc := .openBlock (env.resolve pathname) flags.access fd }
        (some (address, .openRpc { client := self, callback := .openCb fd } path))
  | readUntracked (fd : Int) (count : Nat) (idle : client.pc = .idle)
      (untracked : client.fdMap[fd]? = none) :
      ClientEffect env contents self client (.readCall fd count)
        (realRead contents client fd count) none
  | readTracked (fd : Int) (count : Nat) (path address : String) (cache : OrderedMap Int String)
      (idle : client.pc = .idle) (tracked : client.fdMap[fd]? = some path)
      (routed : route env client.addressCache path = some (address, cache)) :
      ClientEffect env contents self client (.readCall fd count)
        { client with
          addressCache := cache
          completion := client.completion.resetDone.resetReadRet
          fdRedirMap := (OrderedMap.index client.fdRedirMap fd).2
          pc := .readBlock fd count }
        (some (address, .readRpc { client := self, callback := .readCb } (int32 count)
          (OrderedMap.index client.fdRedirMap fd).1 (-1)))
  | preadUntracked (fd : Int) (count : Nat) (offset : Int) (idle : client.pc = .idle)
      (untracked : client.fdMap[fd]? = none) :
      ClientEffect env contents self client (.preadCall fd count offset)
        (realPread contents client fd count offset) none
  | preadLocal (fd : Int) (count : Nat) (offset : Int) (path : String) (idle : client.pc = .idle)
      (tracked : client.fdMap[fd]? = some path)
      (unredirected : (OrderedMap.index client.fdRedirMap fd).1 = 0) :
      ClientEffect env contents self client (.preadCall fd count offset)
        (realPread contents
          { client with fdRedirMap := (OrderedMap.index client.fdRedirMap fd).2 } fd count offset)
        none
  | preadTracked (fd : Int) (count : Nat) (offset : Int) (path address : String)
      (cache : OrderedMap Int String) (idle : client.pc = .idle)
      (tracked : client.fdMap[fd]? = some path)
      (redirected : (OrderedMap.index client.fdRedirMap fd).1 ≠ 0)
      (routed : route env client.addressCache path = some (address, cache)) :
      ClientEffect env contents self client (.preadCall fd count offset)
        { client with
          addressCache := cache
          completion := client.completion.resetDone.resetReadRet
          fdRedirMap := (OrderedMap.index client.fdRedirMap fd).2
          pc := .preadBlock fd count offset }
        (some (address, .readRpc { client := self, callback := .readCb } (int32 count)
          (OrderedMap.index client.fdRedirMap fd).1 offset))
  | closeUntracked (fd : Int) (idle : client.pc = .idle) (untracked : client.fdMap[fd]? = none) :
      ClientEffect env contents self client (.closeCall fd) (realClose client fd) none
  | closeTracked (fd : Int) (path address : String) (cache : OrderedMap Int String)
      (idle : client.pc = .idle) (tracked : client.fdMap[fd]? = some path)
      (routed : route env client.addressCache path = some (address, cache)) :
      ClientEffect env contents self client (.closeCall fd)
        (realClose { client with
          addressCache := cache
          fdRedirMap := (OrderedMap.index client.fdRedirMap fd).2.erase fd
          fdMap := client.fdMap.erase fd } fd)
        (some (address, .closeRpc (OrderedMap.index client.fdRedirMap fd).1))
  | aborted (action : ClientAction) (path : String) (idle : client.pc = .idle)
      (unrouted : route env client.addressCache path = none) :
      ClientEffect env contents self client action client.abort none
  | wakeOpen (file : String) (mode : AccessMode) (fd : Int) (ready : client.completion.ready)
      (blocked : client.pc = .openBlock file mode fd) :
      ClientEffect env contents self client .wake (client.finish (.opened file mode fd)) none
  | wakeRead (fd : Int) (count : Nat) (ready : client.completion.ready)
      (blocked : client.pc = .readBlock fd count)
      (returned : int32 client.completion.readRet ≠ -1) :
      ClientEffect env contents self client .wake
        (client.finish (.read fd count
          { ret := int32 client.completion.readRet, data := client.buffer })) none
  | wakeReadLocal (fd : Int) (count : Nat) (ready : client.completion.ready)
      (blocked : client.pc = .readBlock fd count)
      (failed : int32 client.completion.readRet = -1) :
      ClientEffect env contents self client .wake (realRead contents client fd count) none
  | wakePread (fd : Int) (count : Nat) (offset : Int) (ready : client.completion.ready)
      (blocked : client.pc = .preadBlock fd count offset)
      (returned : client.completion.readRet ≠ -1) :
      ClientEffect env contents self client .wake
        (client.finish (.pread fd count offset
          { ret := client.completion.readRet, data := client.buffer })) none
  | wakePreadLocal (fd : Int) (count : Nat) (offset : Int) (ready : client.completion.ready)
      (blocked : client.pc = .preadBlock fd count offset)
      (failed : client.completion.readRet = -1) :
      ClientEffect env contents self client .wake (realPread contents client fd count offset) none

section
variable {env : ClientEnv} {contents : String → Option Bytes} {self : Nat} {client next : Client}
  {outgoing : Outgoing}

theorem openCall_effect {pathname : String} {flags : OpenFlags} {fd : Int}
    (idle : client.pc = .idle)
    (called : openCall env contents self client pathname flags fd = some (next, outgoing)) :
    ClientEffect env contents self client (.openCall pathname flags fd) next outgoing := by
  unfold openCall at called
  split at called
  · rename_i failed
    simp only [Option.some.injEq, Prod.mk.injEq] at called
    obtain ⟨after, sent⟩ := called
    subst next outgoing fd
    exact .openFailed pathname flags idle
  · simp only at called
    split at called
    · rename_i granted
      split at called
      · rename_i untracked
        simp only [Option.some.injEq, Prod.mk.injEq] at called
        obtain ⟨after, sent⟩ := called
        subst next outgoing
        exact .openUntracked pathname flags fd idle granted.1 granted.2 untracked
      · rename_i path tracked
        simp only [genOpenRpc] at called
        split at called
        · rename_i unrouted
          simp only [Option.some.injEq, Prod.mk.injEq] at called
          obtain ⟨after, sent⟩ := called
          subst next outgoing
          exact .aborted _ path idle unrouted
        · rename_i address cache routed
          simp only [Option.some.injEq, Prod.mk.injEq] at called
          obtain ⟨after, sent⟩ := called
          subst next outgoing
          exact .openTracked pathname flags fd path address cache idle granted.1 granted.2 tracked
            routed
    · simp at called

theorem readCall_effect {fd : Int} {count : Nat} (idle : client.pc = .idle)
    (called : readCall env contents self client fd count = (next, outgoing)) :
    ClientEffect env contents self client (.readCall fd count) next outgoing := by
  unfold readCall at called
  split at called
  · rename_i path tracked
    simp only [genReadRpc] at called
    split at called
    · rename_i unrouted
      simp only [Prod.mk.injEq] at called
      obtain ⟨after, sent⟩ := called
      subst next outgoing
      exact .aborted _ path idle unrouted
    · rename_i address cache routed
      simp only [Prod.mk.injEq] at called
      obtain ⟨after, sent⟩ := called
      subst next outgoing
      exact .readTracked fd count path address cache idle tracked routed
  · rename_i untracked
    simp only [Prod.mk.injEq] at called
    obtain ⟨after, sent⟩ := called
    subst next outgoing
    exact .readUntracked fd count idle untracked

theorem preadCall_effect {fd : Int} {count : Nat} {offset : Int} (idle : client.pc = .idle)
    (called : preadCall env contents self client fd count offset = (next, outgoing)) :
    ClientEffect env contents self client (.preadCall fd count offset) next outgoing := by
  unfold preadCall at called
  split at called
  · rename_i path tracked
    simp only at called
    split at called
    · rename_i redirected
      simp only [genReadRpc, OrderedMap.index_index] at called
      split at called
      · rename_i unrouted
        simp only [Prod.mk.injEq] at called
        obtain ⟨after, sent⟩ := called
        subst next outgoing
        exact .aborted _ path idle unrouted
      · rename_i address cache routed
        simp only [Prod.mk.injEq] at called
        obtain ⟨after, sent⟩ := called
        subst next outgoing
        exact .preadTracked fd count offset path address cache idle tracked redirected routed
    · rename_i unredirected
      simp only [Prod.mk.injEq] at called
      obtain ⟨after, sent⟩ := called
      subst next outgoing
      exact .preadLocal fd count offset path idle tracked (by omega)
  · rename_i untracked
    simp only [Prod.mk.injEq] at called
    obtain ⟨after, sent⟩ := called
    subst next outgoing
    exact .preadUntracked fd count offset idle untracked

theorem closeCall_effect {fd : Int} (idle : client.pc = .idle)
    (called : closeCall env client fd = (next, outgoing)) :
    ClientEffect env contents self client (.closeCall fd) next outgoing := by
  unfold closeCall at called
  split at called
  · rename_i path tracked
    cases routed : route env client.addressCache path with
    | none =>
        simp only [genCloseRpc, routed, Prod.mk.injEq] at called
        obtain ⟨after, sent⟩ := called
        subst next outgoing
        exact .aborted _ path idle routed
    | some target =>
        obtain ⟨address, cache⟩ := target
        simp only [genCloseRpc, routed, Prod.mk.injEq] at called
        obtain ⟨after, sent⟩ := called
        subst next outgoing
        exact .closeTracked fd path address cache idle tracked routed
  · rename_i untracked
    simp only [Prod.mk.injEq] at called
    obtain ⟨after, sent⟩ := called
    subst next outgoing
    exact .closeUntracked fd idle untracked

theorem wakeStep_effect (woken : wakeStep contents client = some next) :
    ClientEffect env contents self client .wake next none := by
  unfold wakeStep at woken
  split at woken
  · rename_i ready
    split at woken
    · rename_i file mode fd blocked
      simp only [Option.some.injEq] at woken
      exact woken ▸ .wakeOpen file mode fd ready blocked
    · rename_i fd count blocked
      simp only at woken
      split at woken
      · rename_i failed
        simp only [Option.some.injEq] at woken
        exact woken ▸ .wakeReadLocal fd count ready blocked failed
      · rename_i returned
        simp only [Option.some.injEq] at woken
        exact woken ▸ .wakeRead fd count ready blocked returned
    · rename_i fd count offset blocked
      simp only at woken
      split at woken
      · rename_i failed
        simp only [Option.some.injEq] at woken
        exact woken ▸ .wakePreadLocal fd count offset ready blocked failed
      · rename_i returned
        simp only [Option.some.injEq] at woken
        exact woken ▸ .wakePread fd count offset ready blocked returned
    · simp at woken
  · simp at woken

theorem clientAct_effect {action : ClientAction}
    (acted : clientAct env contents self client action = some (next, outgoing)) :
    ClientEffect env contents self client action next outgoing := by
  unfold clientAct at acted
  split at acted
  · rename_i idle
    exact openCall_effect idle acted
  · rename_i idle
    simp only [Option.some.injEq] at acted
    exact readCall_effect idle acted
  · rename_i idle
    simp only [Option.some.injEq] at acted
    exact preadCall_effect idle acted
  · rename_i idle
    simp only [Option.some.injEq] at acted
    exact closeCall_effect idle acted
  · simp only [Option.map_eq_some_iff, Prod.mk.injEq] at acted
    obtain ⟨after, woken, same, sent⟩ := acted
    subst after outgoing
    exact wakeStep_effect woken
  · simp at acted

theorem ClientEffect.settled {action : ClientAction}
    (effect : ClientEffect env contents self client action next outgoing) :
    client.pc = .idle ∨ client.completion.ready := by
  cases effect <;> simp [*]

theorem ClientEffect.alive {action : ClientAction}
    (effect : ClientEffect env contents self client action next outgoing) :
    client.pc ≠ .aborted := by
  cases effect <;> simp [*]

/-! Addresses. -/

def addressOf (env : ClientEnv) (path : String) : Option String :=
  (host env path).bind (scanAddr env)

def CacheInv (env : ClientEnv) (cache : OrderedMap Int String) : Prop :=
  ∀ (rank : Int) (address : String), cache[rank]? = some address → scanAddr env rank = some address

theorem route_address {cache after : OrderedMap Int String} {path address : String}
    (inv : CacheInv env cache) (routed : route env cache path = some (address, after)) :
    addressOf env path = some address ∧ CacheInv env after := by
  unfold route at routed
  split at routed
  · simp at routed
  · rename_i rank chosen
    unfold lookupAddr at routed
    split at routed
    · rename_i known cached
      simp only [Option.some.injEq, Prod.mk.injEq] at routed
      obtain ⟨sameAddress, sameCache⟩ := routed
      subst known after
      exact ⟨by simp [addressOf, chosen, inv rank address cached], inv⟩
    · split at routed
      · rename_i read scanned
        simp only [Option.some.injEq, Prod.mk.injEq] at routed
        obtain ⟨sameAddress, sameCache⟩ := routed
        subst read after
        refine ⟨by simp [addressOf, chosen, scanned], ?_⟩
        intro other stored found
        rcases OrderedMap.found_insert found with ⟨same, value⟩ | ⟨_, old⟩
        · rw [same, value, scanned]
        · exact inv other stored old
      · simp at routed

end

end HvacCache
