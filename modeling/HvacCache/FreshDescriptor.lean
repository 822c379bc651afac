import HvacCache.Descriptors
import HvacCache.ReadRounds

/-! A tracked descriptor that is open at both ends, each with a position of its own, and how
the open wrapper makes one. -/

namespace HvacCache

open Posix Std

structure SharedFile where
  path : String
  file : String
  mode : AccessMode
  redirPath : String
  remote : Int
  bytes : Bytes

/-- A descriptor that is open at both ends; `position` is the server's for `false` and the
local one for `true`. -/
structure Paired (env : ClientEnv) (contents : String → Option Bytes) (fd : Int)
    (shared : SharedFile) (position : Bool → Nat) (state : Client × Server) : Prop where
  idle : state.1.pc = .idle
  tracked : state.1.fdMap[fd]? = some shared.path
  routed : (route env state.1.addressCache shared.path).isSome
  redirected : state.1.fdRedirMap[fd]? = some shared.remote
  opened : state.1.kernel[fd]? =
    some { file := shared.file, mode := shared.mode, position := position true }
  reads : shared.mode ≠ .writeOnly
  present : contents shared.file = some shared.bytes
  free : state.2.handler = .idle
  served : state.2.kernel[shared.remote]? =
    some { file := shared.redirPath, mode := .readOnly, position := position false }
  stored : state.2.files contents shared.redirPath = some shared.bytes

theorem Paired.tracks {env : ClientEnv} {contents : String → Option Bytes} {fd : Int}
    {shared : SharedFile} {position : Bool → Nat} {client : Client} {server : Server}
    (paired : Paired env contents fd shared position (client, server)) :
    Tracks env contents fd { path := shared.path, remote := shared.remote, bytes := shared.bytes }
      client server := by
  refine ⟨paired.idle, paired.tracked, paired.routed, paired.redirected, ⟨_, paired.opened, ?_⟩,
    paired.free, ?_⟩
  · simp only [readable, if_neg paired.reads]
    exact paired.present
  · intro descriptor held
    obtain rfl := Option.some.inj (paired.served.symm.trans held)
    exact paired.stored

def openRound (env : ClientEnv) (contents : String → Option Bytes) (self : Nat)
    (state : Client × Server) (pathname : String) (flags : OpenFlags) (fd remote : Int) :
    Option (Client × Server) := do
  let (waiting, outgoing) ← clientAct env contents self state.1 (.openCall pathname flags fd)
  let (_, request) ← outgoing
  let accepted ← serverStep contents state.2 (.accept request)
  let redirected ← serverStep contents accepted .redirect
  let (server, response) ← serverAct contents redirected (.openFile remote)
  let informed ← response.bind (receive waiting)
  let client ← wakeStep contents informed
  some (client, server)

section
variable {env : ClientEnv} {contents : String → Option Bytes} (self : Nat) {fd : Int}

theorem openCb_ready (completion : Completion) : completion.resetDone.openCb.ready = true := rfl

theorem openRound_paired {state final : Client × Server} {pathname : String} {flags : OpenFlags}
    {remote : Int} (store : StoreInv contents state.2) (succeeded : remote ≠ -1)
    (opened : openRound env contents self state pathname flags fd remote = some final) :
    ∃ shared, contents (env.resolve pathname) = some shared.bytes ∧
      trackedPath env pathname flags = some shared.path ∧
      Paired env contents fd shared (fun _ => 0) final := by
  simp only [openRound, bind, Option.bind_eq_some_iff, Prod.exists, Option.some.injEq] at opened
  obtain ⟨waiting, outgoing, called, address, request, sent, accepted, taken, redirected, looked,
    server, response, answered, informed, ⟨reply, replied, received⟩, client, woken, same⟩ := opened
  subst outgoing response final
  cases clientAct_effect called with
  | openTracked _ _ _ path _ cache idle unused present tracked routed =>
      obtain ⟨_, acceptEffect⟩ := serverStep_effect taken
      obtain ⟨_, redirectEffect⟩ := serverStep_effect looked
      cases acceptEffect with
      | acceptOpen handle _ free =>
          cases redirectEffect with
          | redirect other requested opening =>
              simp only [HandlerPc.openRpc.injEq] at opening
              obtain ⟨sameHandle, samePath⟩ := opening
              subst other requested
              cases serverAct_effect answered with
              | openFailed handle path redirPath opening => exact absurd rfl succeeded
              | opened handle source redirPath fd' opening vacant stored =>
                  simp only [HandlerPc.openRedirected.injEq] at opening
                  obtain ⟨sameHandle, samePath, sameRedir⟩ := opening
                  subst handle source redirPath
                  simp only [receive, Option.some.injEq] at received
                  subst informed
                  simp only [wakeStep, openCb_ready, if_true, Option.some.injEq] at woken
                  subst client
                  obtain ⟨bytes, source⟩ := Option.isSome_iff_exists.mp present
                  obtain ⟨resolved, reads⟩ := trackedPath_eq_some tracked
                  have serves : state.2.Serves path (state.2.pathCacheMap[path]?.getD path) := by
                    cases cached : state.2.pathCacheMap[path]? with
                    | none => exact Or.inl rfl
                    | some copy => exact Or.inr (store.mapped path copy cached)
                  have visible := store.visible serves (resolved ▸ source)
                  refine ⟨{ path, file := env.resolve pathname, mode := flags.access
                            redirPath := state.2.pathCacheMap[path]?.getD path, remote, bytes },
                    source, tracked, rfl, ?_, route_again routed, ?_, ?_, reads, source, rfl, ?_,
                    visible⟩
                  all_goals simp [Client.finish]

end

theorem openRound_fresh (bytes : Bytes) : ∃ state shared,
    openRound twoServers (fun _ => some bytes) 0 (Client.initial, Server.initial) "/d/f" readOnly
      3 5 = some state ∧
    shared.bytes = bytes ∧ trackedPath twoServers "/d/f" readOnly = some shared.path ∧
    Paired twoServers (fun _ => some bytes) 3 shared (fun _ => 0) state := by
  have opens : (openRound twoServers (fun _ => some bytes) 0 (Client.initial, Server.initial)
      "/d/f" readOnly 3 5).isSome = true := rfl
  obtain ⟨state, opened⟩ := Option.isSome_iff_exists.mp opens
  obtain ⟨shared, source, tracked, paired⟩ :=
    openRound_paired 0 storeInv_initial (by decide) opened
  exact ⟨state, shared, opened, (Option.some.inj source).symm, tracked, paired⟩

theorem openRound_oneFile : ∃ state shared,
    openRound twoServers oneFile 0 (Client.initial, Server.initial) "/d/f" readOnly 3 5 =
      some state ∧
    shared.bytes = [1, 2, 3] ∧ Paired twoServers oneFile 3 shared (fun _ => 0) state := by
  have opens : (openRound twoServers oneFile 0 (Client.initial, Server.initial) "/d/f" readOnly
      3 5).isSome = true := by decide
  obtain ⟨state, opened⟩ := Option.isSome_iff_exists.mp opens
  obtain ⟨shared, source, _, paired⟩ := openRound_paired 0 storeInv_initial (by decide) opened
  have whole : oneFile (twoServers.resolve "/d/f") = some [1, 2, 3] := by decide
  rw [whole, Option.some.injEq] at source
  exact ⟨state, shared, opened, source.symm, paired⟩

end HvacCache
