import HvacCache.Library.Transition
import Mathlib.Logic.Function.Basic

/-! The multi-source read of `hvac_multi_source_read.cpp`: one request for each tier, a
callback that completes the state of its own request, and the loop that is to wait for
the first success. The callbacks interleave with every step of the reading thread. -/

namespace HvacCache

open Transition

inductive SourceTier
  | pm
  | ssd
deriving DecidableEq, Repr

structure RpcState where
  sent : Bool
  completed : Bool
  readResult : Int
deriving DecidableEq, Repr

def createRpcState : RpcState := { sent := false, completed := false, readResult := -1 }

/-- A call of `ms_read`, with the results of the real calls an untracked descriptor is
read with, and what the callback of each request records. -/
structure MsCall where
  tracked : Bool
  offset : Int
  realRead : Int
  realPread : Int
  outcome : SourceTier → Int
  recorded : ∀ tier, 0 ≤ outcome tier ∨ outcome tier = -1

inductive MsPc
  | entry
  | launchPm
  | launchSsd
  | loopTest
  | lockPm
  | lockSsd
  | decide
  | returned (result : Int)
deriving DecidableEq, Repr

/-- `seen` holds the copies of the two states that a turn of the loop decides on. -/
structure MsState where
  pc : MsPc
  request : SourceTier → RpcState
  seen : SourceTier → RpcState
  finalResult : Int
  done : Bool

def MsState.initial : MsState := {
  pc := .entry
  request := fun _ => createRpcState
  seen := fun _ => createRpcState
  finalResult := -1
  done := false
}

inductive MsAction
  | advance
  | callback (tier : SourceTier)
deriving DecidableEq, Repr

def MsState.send (state : MsState) (tier : SourceTier) (pc : MsPc) : MsState :=
  { state with
    request := Function.update state.request tier { state.request tier with sent := true }
    pc }

def MsState.copy (state : MsState) (tier : SourceTier) (pc : MsPc) : MsState :=
  { state with seen := Function.update state.seen tier (state.request tier), pc }

def decideStep (state : MsState) : MsState :=
  let pm := state.seen .pm
  let ssd := state.seen .ssd
  if pm.completed ∧ 0 ≤ pm.readResult then
    { state with finalResult := pm.readResult, done := true, pc := .loopTest }
  else if ssd.completed ∧ 0 ≤ ssd.readResult then
    { state with finalResult := ssd.readResult, done := true, pc := .loopTest }
  else if pm.completed ∧ ssd.completed then
    { state with
      finalResult := if pm.readResult < 0 ∧ ssd.readResult < 0 then -1
        else max pm.readResult ssd.readResult
      done := true
      pc := .loopTest }
  else { state with pc := .loopTest }

/-- The thread in `ms_read`. The loop is `while(done)`. -/
def msReadThread (call : MsCall) (state : MsState) : Option MsState :=
  match state.pc with
  | .entry =>
      if call.tracked then some { state with pc := .launchPm }
      else if call.offset = -1 then some { state with pc := .returned call.realRead }
      else some { state with pc := .returned call.realPread }
  | .launchPm => some (state.send .pm .launchSsd)
  | .launchSsd => some (state.send .ssd .loopTest)
  | .loopTest =>
      if state.done then some { state with pc := .lockPm }
      else some { state with pc := .returned state.finalResult }
  | .lockPm => some (state.copy .pm .lockSsd)
  | .lockSsd => some (state.copy .ssd .decide)
  | .decide => some (decideStep state)
  | .returned _ => none

def MsPc.isReturned : MsPc → Bool
  | .returned _ => true
  | _ => false

/-- `hvac_ms_read_cb`, once for each request that was sent. The states are destroyed when
`ms_read` returns. -/
def hvacMsReadCb (call : MsCall) (state : MsState) (tier : SourceTier) : Option MsState :=
  if (state.request tier).sent ∧ (state.request tier).completed = false ∧
      state.pc.isReturned = false then
    let answered :=
      { state.request tier with completed := true, readResult := call.outcome tier }
    some { state with request := Function.update state.request tier answered }
  else none

def msReadStep (call : MsCall) (state : MsState) : MsAction → Option MsState
  | .advance => msReadThread call state
  | .callback tier => hvacMsReadCb call state tier

/-! What the loop makes of the two requests. -/

structure Arbitrated (call : MsCall) (state : MsState) (result : Int) : Prop where
  success : (∃ tier, 0 ≤ call.outcome tier) →
    0 ≤ result ∧ ∃ tier, (state.request tier).completed ∧ call.outcome tier = result
  failure : result = -1 → ∀ tier, (state.request tier).completed ∧ call.outcome tier < 0

def BothFailed (call : MsCall) (state : MsState) (action : MsAction) : Prop :=
  action = .advance → state.pc = .loopTest →
    ∀ tier, (state.request tier).completed ∧ call.outcome tier < 0

/-- The loop is never entered: `done` starts false. -/
structure NeverWaits (state : MsState) : Prop where
  pc : state.pc = .entry ∨ state.pc = .launchPm ∨ state.pc = .launchSsd ∨
    state.pc = .loopTest ∨ state.pc = .returned (-1)
  done : state.done = false
  finalResult : state.finalResult = -1

section
variable {call : MsCall} {state next : MsState}

theorem neverWaits_initial : NeverWaits MsState.initial := ⟨Or.inl rfl, rfl, rfl⟩

theorem NeverWaits.step (inv : NeverWaits state) (tracked : call.tracked) {action : MsAction}
    (stepped : msReadStep call state action = some next) :
    NeverWaits next ∧ ∀ result, next.pc = .returned result →
      result = -1 ∧ action = .advance ∧ state.pc = .loopTest ∧ next.request = state.request := by
  obtain ⟨pc, done, finalResult⟩ := inv
  cases action with
  | advance =>
      simp only [msReadStep, msReadThread] at stepped
      rcases pc with pc | pc | pc | pc | pc
      · simp only [pc, tracked, if_true, Option.some.injEq] at stepped
        exact stepped ▸ ⟨⟨by simp, done, finalResult⟩, by simp⟩
      · simp only [pc, Option.some.injEq] at stepped
        exact stepped ▸ ⟨⟨by simp [MsState.send], done, finalResult⟩, by simp [MsState.send]⟩
      · simp only [pc, Option.some.injEq] at stepped
        exact stepped ▸ ⟨⟨by simp [MsState.send], done, finalResult⟩, by simp [MsState.send]⟩
      · simp only [pc, done, Bool.false_eq_true, if_false, finalResult, Option.some.injEq] at stepped
        subst next
        exact ⟨⟨by simp, rfl, rfl⟩, by simp [pc]⟩
      · simp [pc] at stepped
  | callback tier =>
      simp only [msReadStep, hvacMsReadCb] at stepped
      split at stepped
      · rename_i enabled
        simp only [Option.some.injEq] at stepped
        subst next
        refine ⟨⟨pc, done, finalResult⟩, ?_⟩
        intro result returned
        simp only at returned
        simp [returned, MsPc.isReturned] at enabled
      · simp at stepped

theorem run_neverWaits {actions : List MsAction} (tracked : call.tracked)
    (ran : run (msReadStep call) MsState.initial actions = some state) : NeverWaits state :=
  run_invariant (fun _ _ _ inv stepped => (inv.step tracked stepped).1) neverWaits_initial ran

theorem returned_stops {result : Int} (returned : state.pc = .returned result)
    (action : MsAction) : msReadStep call state action = none := by
  cases action with
  | advance => simp [msReadStep, msReadThread, returned]
  | callback tier => simp [msReadStep, hvacMsReadCb, returned, MsPc.isReturned]

theorem NeverWaits.returned (inv : NeverWaits state) (loop : state.pc = .loopTest) :
    msReadThread call state = some { state with pc := .returned (-1) } := by
  simp [msReadThread, loop, inv.done, inv.finalResult]

def MsPc.remaining : MsPc → Nat
  | .entry => 4
  | .launchPm => 3
  | .launchSsd => 2
  | .loopTest => 1
  | _ => 0

theorem ms_read_returns (tracked : call.tracked = true) {actions : List MsAction}
    (ran : run (msReadStep call) MsState.initial actions = some state) :
    Reaches (msReadStep call) (fun _ action => action = .advance)
      (fun final => NeverWaits final ∧ final.pc = .returned (-1)) state := by
  apply reaches_of_decreasing NeverWaits (fun state => state.pc.remaining) ?_
    (run_neverWaits tracked ran)
  intro state inv
  have advances : ∀ next, msReadThread call state = some next →
      next.pc.remaining < state.pc.remaining →
      ∃ action next, action = .advance ∧ msReadStep call state action = some next ∧
        NeverWaits next ∧ next.pc.remaining < state.pc.remaining := by
    intro next stepped less
    have acted : msReadStep call state .advance = some next := stepped
    exact ⟨.advance, next, rfl, acted, (inv.step tracked acted).1, less⟩
  rcases inv.pc with pc | pc | pc | pc | pc
  · exact Or.inr (advances { state with pc := .launchPm } (by simp [msReadThread, pc, tracked])
      (by simp [pc, MsPc.remaining]))
  · exact Or.inr (advances (state.send .pm .launchSsd) (by simp [msReadThread, pc])
      (by simp [pc, MsState.send, MsPc.remaining]))
  · exact Or.inr (advances (state.send .ssd .loopTest) (by simp [msReadThread, pc])
      (by simp [pc, MsState.send, MsPc.remaining]))
  · exact Or.inr (advances { state with pc := .returned (-1) } (inv.returned pc)
      (by simp [pc, MsPc.remaining]))
  · exact Or.inl pc

/-- For a tracked descriptor the result is what the two requests warrant exactly when both
have already failed as the loop is tested for the first time. -/
theorem ms_read_arbitration (call : MsCall) (actions : List MsAction) (state : MsState)
    (tracked : call.tracked = true)
    (ran : run (msReadStep call) MsState.initial actions = some state) :
    (∀ result, state.pc = .returned result → Arbitrated call state result) ↔
      Meets (msReadStep call) (BothFailed call) MsState.initial actions := by
  constructor
  · intro arbitrated
    by_contra broken
    obtain ⟨before, action, after, middle, parted, _, reached, refused⟩ := exists_of_not_meets broken
    simp only [BothFailed, not_forall] at refused
    obtain ⟨advancing, loop, tier, succeeds⟩ := refused
    subst action
    obtain ⟨next, stepped, later⟩ := run_at (parted ▸ ran) reached
    have exits : msReadThread call middle = some { middle with pc := .returned (-1) } :=
      (run_neverWaits tracked reached).returned loop
    simp only [msReadStep, exits, Option.some.injEq] at stepped
    subst next
    cases after with
    | nil =>
        simp only [run, Option.some.injEq] at later
        subst state
        exact succeeds ((arbitrated (-1) rfl).failure rfl tier)
    | cons action rest =>
        obtain ⟨next, stepped, _⟩ := (run_cons _ _ _ _).mp later
        have ended : ({ middle with pc := .returned (-1) } : MsState).pc = .returned (-1) := rfl
        rw [returned_stops ended action] at stepped
        simp at stepped
  · intro meets
    have preserved : ∀ before action after,
        NeverWaits before ∧ (∀ result, before.pc = .returned result → Arbitrated call before result) →
        BothFailed call before action → msReadStep call before action = some after →
        NeverWaits after ∧ ∀ result, after.pc = .returned result → Arbitrated call after result := by
      intro before action after inv guarded stepped
      obtain ⟨kept, returns⟩ := inv.1.step tracked stepped
      refine ⟨kept, ?_⟩
      intro result returned
      obtain ⟨failed, advancing, loop, same⟩ := returns result returned
      have both := guarded advancing loop
      rw [← same] at both
      refine ⟨?_, fun _ => both⟩
      rintro ⟨tier, succeeds⟩
      have fails := (both tier).2
      omega
    exact (run_invariant_of_meets preserved ⟨neverWaits_initial, by simp [MsState.initial]⟩ meets
      ran).2

end

def pmMisses (ssdHas : Bool) : MsCall := {
  tracked := true
  offset := 0
  realRead := -1
  realPread := -1
  outcome := fun tier => if tier = .ssd ∧ ssdHas then 3 else -1
  recorded := by
    intro tier
    split <;> decide
}

theorem ms_read_arbitration_bothFail : ∃ state,
    run (msReadStep (pmMisses false)) MsState.initial
      [.advance, .advance, .advance, .callback .ssd, .callback .pm, .advance] = some state ∧
    state.pc = .returned (-1) ∧
    ∀ result, state.pc = .returned result → Arbitrated (pmMisses false) state result := by
  have reached : (run (msReadStep (pmMisses false)) MsState.initial
      [.advance, .advance, .advance, .callback .ssd, .callback .pm, .advance]).map MsState.pc =
      some (.returned (-1)) := by decide
  obtain ⟨state, ran, returned⟩ := Option.map_eq_some_iff.mp reached
  refine ⟨state, ran, returned, (ms_read_arbitration (pmMisses false) _ state rfl ran).mpr
    ⟨?_, ?_, ?_, ?_, ?_, ?_, trivial⟩⟩
  · rintro _ ⟨⟩
  · rintro _ ⟨⟩
  · rintro _ ⟨⟩
  · rintro ⟨⟩
  · rintro ⟨⟩
  · intro _ _ tier
    cases tier <;> decide

theorem ms_read_never_waits : ¬ ∀ (call : MsCall) (actions : List MsAction) (state : MsState),
    call.tracked = true → run (msReadStep call) MsState.initial actions = some state →
    ∀ result, state.pc = .returned result → Arbitrated call state result := by
  intro arbitrated
  have reached : (run (msReadStep (pmMisses true)) MsState.initial
      [.advance, .advance, .advance, .advance]).map MsState.pc = some (.returned (-1)) := by decide
  obtain ⟨state, ran, returned⟩ := Option.map_eq_some_iff.mp reached
  have success := (arbitrated (pmMisses true) _ state rfl ran (-1) returned).success
    ⟨.ssd, by decide⟩
  omega

end HvacCache
