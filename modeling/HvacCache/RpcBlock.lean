import HvacCache.RpcBlockCore

/-! Threads that overlap inside blocking RPCs share one flag and one value, so a
thread can take another's completion or miss its own. Both defects disappear in
runs where a thread only enters a request while every other thread is outside:
then the flag counts the single outstanding callback. -/

namespace HvacCache

open Transition

def ThreadPc.inside : ThreadPc → Bool
  | .idle => false
  | .returned _ _ _ => false
  | _ => true

section
variable {Thread : Type}

/-- A thread that has returned did so after its own callback, and a read or seek
brought back the `ret` of the response to its own request. -/
def Attributed (state : BlockState Thread) : Prop :=
  ∀ thread kind rpc value, state.pc thread = .returned kind rpc value →
    ∃ ret, state.rpcs[rpc]? = some { kind, answer := some ret } ∧
      (kind ≠ .openRpc → value = some ret)

/-- Every issued RPC has had its callback, yet some thread is still in a block
function with its wake-up condition false. -/
def Stuck (state : BlockState Thread) : Prop :=
  (∀ (rpc : Nat) (issued : IssuedRpc), state.rpcs[rpc]? = some issued → issued.answer ≠ none) ∧
  ∃ thread kind rpc, (state.pc thread = .blocking kind rpc ∨ state.pc thread = .waiting kind rpc) ∧
    state.completion.ready = false

def Serial (state : BlockState Thread) : BlockAction Thread → Prop
  | .enter thread _ => ∀ other, other ≠ thread → (state.pc other).inside = false
  | _ => True

instance [DecidableEq Thread] [Fintype Thread] (state : BlockState Thread) :
    ∀ action, Decidable (Serial state action)
  | .enter thread _ =>
      inferInstanceAs (Decidable (∀ other, other ≠ thread → (state.pc other).inside = false))
  | .reset _ => isTrue trivial
  | .forward _ => isTrue trivial
  | .callback _ _ _ => isTrue trivial
  | .test _ => isTrue trivial
  | .spuriousWakeup _ => isTrue trivial
  | .collect _ => isTrue trivial
  | .leave _ => isTrue trivial

def Delivered (completion : Completion) (kind : RpcKind) : Option Int → Prop
  | none => completion.done = 0
  | some ret => completion.done = 1 ∧ (kind ≠ .openRpc → completion.readRet = ret)

def ThreadOk (completion : Completion) (rpcs : OrderedMap Nat IssuedRpc) : ThreadPc → Prop
  | .idle => True
  | .entered _ => True
  | .halfReset kind => kind = .readRpc → completion.done = 0
  | .prepared _ => completion.done = 0
  | .blocking kind rpc => ∃ answer, rpcs[rpc]? = some { kind, answer } ∧
      Delivered completion kind answer
  | .waiting kind rpc => ∃ answer, rpcs[rpc]? = some { kind, answer } ∧
      Delivered completion kind answer
  | .released kind rpc => ∃ ret, rpcs[rpc]? = some { kind, answer := some ret } ∧
      (kind ≠ .openRpc → completion.readRet = ret)
  | .returned kind rpc value => ∃ ret, rpcs[rpc]? = some { kind, answer := some ret } ∧
      (kind ≠ .openRpc → value = some ret)

structure SerialInv (state : BlockState Thread) : Prop where
  alone : ∀ first second, (state.pc first).inside = true → (state.pc second).inside = true →
    first = second
  fresh : ∀ (rpc : Nat) (issued : IssuedRpc), state.rpcs[rpc]? = some issued → rpc < state.nextRpc
  threads : ∀ thread, ThreadOk state.completion state.rpcs (state.pc thread)
  outstanding : ∀ (rpc : Nat) (kind : RpcKind),
    state.rpcs[rpc]? = some { kind, answer := none } →
    ∃ thread, state.pc thread = .blocking kind rpc ∨ state.pc thread = .waiting kind rpc

theorem serialInv_initial : SerialInv (BlockState.initial Thread) := by
  constructor
  · intro first second inside
    simp [BlockState.initial, ThreadPc.inside] at inside
  · intro rpc issued found
    simp [BlockState.initial] at found
  · intro thread
    trivial
  · intro rpc kind found
    simp [BlockState.initial] at found

theorem ThreadOk.of_outside {completion changed : Completion}
    {rpcs later : OrderedMap Nat IssuedRpc} {pc : ThreadPc}
    (kept : ∀ (rpc : Nat) (kind : RpcKind) (ret : Int),
      rpcs[rpc]? = some { kind, answer := some ret } →
      later[rpc]? = some { kind, answer := some ret })
    (outside : pc.inside = false) (ok : ThreadOk completion rpcs pc) :
    ThreadOk changed later pc := by
  cases pc with
  | idle => trivial
  | returned kind rpc value =>
      obtain ⟨ret, answered, same⟩ := ok
      exact ⟨ret, kept rpc kind ret answered, same⟩
  | entered | halfReset | prepared | blocking | waiting | released =>
      simp [ThreadPc.inside] at outside

theorem SerialInv.others_outside {state : BlockState Thread} (inv : SerialInv state)
    (thread : Thread) (inside : (state.pc thread).inside = true) :
    ∀ other, other ≠ thread → (state.pc other).inside = false := by
  intro other different
  by_contra entered
  simp only [Bool.not_eq_false] at entered
  exact different (inv.alone other thread entered inside)

theorem SerialInv.blocked_answer {state : BlockState Thread} (inv : SerialInv state)
    {thread : Thread} {kind : RpcKind} {rpc : Nat}
    (blocked : state.pc thread = .blocking kind rpc ∨ state.pc thread = .waiting kind rpc) :
    ∃ answer, state.rpcs[rpc]? = some { kind, answer } ∧
      Delivered state.completion kind answer := by
  have current := inv.threads thread
  rcases blocked with blocked | blocked
  · rw [blocked] at current
    exact current
  · rw [blocked] at current
    exact current

theorem SerialInv.attributed {state : BlockState Thread} (inv : SerialInv state) :
    Attributed state := by
  intro thread kind rpc value returned
  have current := inv.threads thread
  rw [returned] at current
  exact current

theorem SerialInv.not_stuck {state : BlockState Thread} (inv : SerialInv state) :
    ¬Stuck state := by
  rintro ⟨answered, thread, kind, rpc, blocked, notReady⟩
  obtain ⟨answer, issued, delivered⟩ := inv.blocked_answer blocked
  cases answer with
  | none => exact answered rpc _ issued rfl
  | some ret => simp [Completion.ready, delivered.1] at notReady

variable [DecidableEq Thread]

/-- The single preservation argument: one thread moves while all others are outside,
and the only unanswered RPC afterwards is the one this thread is blocked on. -/
theorem SerialInv.advance {state next : BlockState Thread} (inv : SerialInv state)
    (thread : Thread) (pc : ThreadPc)
    (outside : ∀ other, other ≠ thread → (state.pc other).inside = false)
    (moved : next.pc = Function.update state.pc thread pc)
    (kept : ∀ (rpc : Nat) (kind : RpcKind) (ret : Int),
      state.rpcs[rpc]? = some { kind, answer := some ret } →
      next.rpcs[rpc]? = some { kind, answer := some ret })
    (fresh : ∀ (rpc : Nat) (issued : IssuedRpc), next.rpcs[rpc]? = some issued →
      rpc < next.nextRpc)
    (ok : ThreadOk next.completion next.rpcs pc)
    (outstanding : ∀ (rpc : Nat) (kind : RpcKind),
      next.rpcs[rpc]? = some { kind, answer := none } →
      pc = .blocking kind rpc ∨ pc = .waiting kind rpc) :
    SerialInv next := by
  have still : ∀ other, other ≠ thread → next.pc other = state.pc other := by
    intro other different
    rw [moved, Function.update_of_ne different]
  have own : next.pc thread = pc := by rw [moved, Function.update_self]
  have onlyThis : ∀ other, (next.pc other).inside = true → other = thread := by
    intro other inside
    by_contra different
    rw [still other different, outside other different] at inside
    simp at inside
  refine ⟨?_, fresh, ?_, ?_⟩
  · intro first second firstInside secondInside
    rw [onlyThis first firstInside, onlyThis second secondInside]
  · intro other
    by_cases same : other = thread
    · rw [same, own]
      exact ok
    · rw [still other same]
      exact (inv.threads other).of_outside kept (outside other same)
  · intro rpc kind unanswered
    exact ⟨thread, by rw [own]; exact outstanding rpc kind unanswered⟩

theorem SerialInv.unanswered_own {state : BlockState Thread} (inv : SerialInv state)
    {thread : Thread} (outside : ∀ other, other ≠ thread → (state.pc other).inside = false)
    {rpc : Nat} {kind : RpcKind} (unanswered : state.rpcs[rpc]? = some { kind, answer := none }) :
    state.pc thread = .blocking kind rpc ∨ state.pc thread = .waiting kind rpc := by
  obtain ⟨owner, blocked⟩ := inv.outstanding rpc kind unanswered
  by_cases same : owner = thread
  · exact same ▸ blocked
  · have quiet := outside owner same
    rcases blocked with blocked | blocked <;> simp [blocked, ThreadPc.inside] at quiet

theorem SerialInv.advance_local {state next : BlockState Thread} (inv : SerialInv state)
    (thread : Thread) (pc : ThreadPc)
    (outside : ∀ other, other ≠ thread → (state.pc other).inside = false)
    (moved : next.pc = Function.update state.pc thread pc)
    (sameRpcs : next.rpcs = state.rpcs) (sameNext : next.nextRpc = state.nextRpc)
    (ok : ThreadOk next.completion state.rpcs pc)
    (own : ∀ (rpc : Nat) (kind : RpcKind), state.rpcs[rpc]? = some { kind, answer := none } →
      state.pc thread = .blocking kind rpc ∨ state.pc thread = .waiting kind rpc →
      pc = .blocking kind rpc ∨ pc = .waiting kind rpc) : SerialInv next := by
  refine inv.advance thread pc outside moved ?_ ?_ (by rw [sameRpcs]; exact ok) ?_
  · intro rpc kind ret answered
    rw [sameRpcs]
    exact answered
  · intro rpc issued found
    rw [sameRpcs] at found
    rw [sameNext]
    exact inv.fresh rpc issued found
  · intro rpc kind unanswered
    rw [sameRpcs] at unanswered
    exact own rpc kind unanswered (inv.unanswered_own outside unanswered)

theorem SerialInv.enter {state : BlockState Thread} {thread : Thread} (inv : SerialInv state)
    (kind : RpcKind) (idle : state.pc thread = .idle)
    (outside : ∀ other, other ≠ thread → (state.pc other).inside = false) :
    SerialInv (state.setPc thread (.entered kind)) := by
  refine inv.advance_local thread (.entered kind) outside rfl rfl rfl trivial ?_
  intro rpc other _ blocked
  simp [idle] at blocked

theorem SerialInv.resetStep {state next : BlockState Thread} {thread : Thread}
    (inv : SerialInv state) (stepped : resetStep state thread = some next) : SerialInv next := by
  have others := inv.others_outside thread
  have current := inv.threads thread
  unfold HvacCache.resetStep at stepped
  split at stepped
  case h_6 => simp at stepped
  all_goals
    rename_i at_pc
    simp only [Option.some.injEq] at stepped
    subst next
    rw [at_pc] at others current
    refine inv.advance_local thread _ (others rfl) rfl rfl rfl ?_ ?_
  all_goals first
    | intro rpc kind _ blocked
      simp [at_pc] at blocked
    | simp_all [ThreadOk, Completion.resetDone, Completion.resetReadRet]

theorem SerialInv.forwardStep {state next : BlockState Thread} {thread : Thread}
    (inv : SerialInv state) (stepped : forwardStep state thread = some next) : SerialInv next := by
  unfold HvacCache.forwardStep at stepped
  split at stepped
  · rename_i kind at_pc
    simp only [Option.some.injEq] at stepped
    subst next
    have outside := inv.others_outside thread (by simp [at_pc, ThreadPc.inside])
    have zero : state.completion.done = 0 := by
      have ok := inv.threads thread
      rw [at_pc] at ok
      exact ok
    refine inv.advance thread _ outside rfl ?_ ?_ ?_ ?_
    · intro rpc other ret answered
      have below := inv.fresh rpc _ answered
      simp only [OrderedMap.getElem?_insert_ite]
      rw [if_neg (by omega)]
      exact answered
    · intro rpc issued found
      rcases OrderedMap.found_insert found with ⟨same, _⟩ | ⟨_, old⟩
      · simp [same]
      · exact Nat.lt_succ_of_lt (inv.fresh rpc issued old)
    · exact ⟨none, by simp, zero⟩
    · intro rpc other unanswered
      rcases OrderedMap.found_insert unanswered with ⟨same, issued⟩ | ⟨_, old⟩
      · left
        simp only [IssuedRpc.mk.injEq] at issued
        rw [same, issued.1]
      · have blocked := inv.unanswered_own outside old
        simp [at_pc] at blocked
  · simp at stepped

theorem SerialInv.testStep {state next : BlockState Thread} {thread : Thread}
    (inv : SerialInv state) (stepped : testStep state thread = some next) : SerialInv next := by
  unfold HvacCache.testStep at stepped
  split at stepped
  · rename_i kind rpc at_pc
    have outside := inv.others_outside thread (by simp [at_pc, ThreadPc.inside])
    have current := inv.threads thread
    rw [at_pc] at current
    obtain ⟨answer, issued, delivered⟩ := current
    split at stepped
    · rename_i ready
      simp only [Option.some.injEq] at stepped
      subst next
      have one : state.completion.done = 1 := by simpa [Completion.ready] using ready
      cases answer with
      | none =>
          rw [Delivered, one] at delivered
          simp at delivered
      | some ret =>
          refine inv.advance_local thread _ outside rfl rfl rfl ⟨ret, issued, delivered.2⟩ ?_
          intro other otherKind unanswered blocked
          rw [at_pc] at blocked
          simp only [ThreadPc.blocking.injEq, reduceCtorEq, or_false] at blocked
          rw [← blocked.2, issued] at unanswered
          simp at unanswered
    · simp only [Option.some.injEq] at stepped
      subst next
      refine inv.advance_local thread _ outside rfl rfl rfl ⟨answer, issued, delivered⟩ ?_
      intro other otherKind _ blocked
      rw [at_pc] at blocked
      simpa [eq_comm] using blocked
  · simp at stepped

theorem SerialInv.unpark {state : BlockState Thread} {thread : Thread} {kind : RpcKind} {rpc : Nat}
    (inv : SerialInv state) (parked : state.pc thread = .waiting kind rpc) :
    SerialInv (state.setPc thread (.blocking kind rpc)) := by
  have outside := inv.others_outside thread (by simp [parked, ThreadPc.inside])
  have current := inv.threads thread
  rw [parked] at current
  refine inv.advance_local thread _ outside rfl rfl rfl current ?_
  intro other otherKind _ blocked
  rw [parked] at blocked
  simpa [eq_comm] using blocked

theorem SerialInv.collectStep {state next : BlockState Thread} {thread : Thread}
    (inv : SerialInv state) (stepped : collectStep state thread = some next) : SerialInv next := by
  unfold HvacCache.collectStep at stepped
  split at stepped
  · rename_i kind rpc at_pc
    simp only [Option.some.injEq] at stepped
    subst next
    have outside := inv.others_outside thread (by simp [at_pc, ThreadPc.inside])
    have current := inv.threads thread
    rw [at_pc] at current
    obtain ⟨ret, answered, value⟩ := current
    refine inv.advance_local thread _ outside rfl rfl rfl ⟨ret, answered, ?_⟩ ?_
    · intro fetches
      simp [fetches, value fetches]
    · intro other otherKind _ blocked
      simp [at_pc] at blocked
  · simp at stepped

theorem SerialInv.leave {state : BlockState Thread} {thread : Thread} {kind : RpcKind} {rpc : Nat}
    {value : Option Int} (inv : SerialInv state) (left : state.pc thread = .returned kind rpc value) :
    SerialInv (state.setPc thread .idle) := by
  have unchanged : ∀ other, (Function.update state.pc thread .idle other).inside =
      (state.pc other).inside := by
    intro other
    by_cases same : other = thread
    · subst other
      simp [left, ThreadPc.inside]
    · rw [Function.update_of_ne same]
  refine ⟨?_, inv.fresh, ?_, ?_⟩
  · intro first second firstInside secondInside
    simp only [BlockState.setPc, unchanged] at firstInside secondInside
    exact inv.alone first second firstInside secondInside
  · intro other
    by_cases same : other = thread
    · subst other
      simp [BlockState.setPc, ThreadOk]
    · simp only [BlockState.setPc, Function.update_of_ne same]
      exact inv.threads other
  · intro other otherKind unanswered
    obtain ⟨owner, blocked⟩ := inv.outstanding other otherKind unanswered
    have different : owner ≠ thread := by
      intro same
      subst owner
      simp [left] at blocked
    exact ⟨owner, by simpa [BlockState.setPc, Function.update_of_ne different] using blocked⟩

theorem SerialInv.answer {state : BlockState Thread} {rpc : Nat} {kind : RpcKind}
    (inv : SerialInv state) (unanswered : state.rpcs[rpc]? = some { kind, answer := none })
    (ret : Int) :
    SerialInv { state with
      completion := if kind = .openRpc then state.completion.openCb
        else state.completion.readCb ret
      rpcs := state.rpcs.insert rpc { kind, answer := some ret } } := by
  obtain ⟨thread, blocked⟩ := inv.outstanding rpc kind unanswered
  have outside := inv.others_outside thread (by
    rcases blocked with blocked | blocked <;> simp [blocked, ThreadPc.inside])
  have zero : state.completion.done = 0 := by
    obtain ⟨answer, issued, delivered⟩ := inv.blocked_answer blocked
    rw [unanswered] at issued
    simp only [Option.some.injEq, IssuedRpc.mk.injEq, true_and] at issued
    subst answer
    exact delivered
  have delivered : Delivered (if kind = .openRpc then state.completion.openCb
      else state.completion.readCb ret) kind (some ret) := by
    by_cases opening : kind = .openRpc
    · simp [Delivered, opening, Completion.openCb, zero]
    · simp [Delivered, opening, Completion.readCb, zero]
  refine inv.advance thread (state.pc thread) outside (Function.update_eq_self thread _).symm
    ?_ ?_ ?_ ?_
  · intro other otherKind value answered
    simp only [OrderedMap.getElem?_insert_ite]
    split
    · rename_i same
      rw [← same, unanswered] at answered
      simp at answered
    · exact answered
  · intro other issued found
    rcases OrderedMap.found_insert found with ⟨same, _⟩ | ⟨_, old⟩
    · rw [same]
      exact inv.fresh rpc _ unanswered
    · exact inv.fresh other issued old
  · rcases blocked with blocked | blocked
    · rw [blocked]
      exact ⟨some ret, by simp, delivered⟩
    · rw [blocked]
      exact ⟨some ret, by simp, delivered⟩
  · intro other otherKind pending
    rcases OrderedMap.found_insert pending with ⟨_, issued⟩ | ⟨_, old⟩
    · simp at issued
    · exact inv.unanswered_own outside old

variable [Fintype Thread]

theorem SerialInv.callbackStep {state next : BlockState Thread} {rpc : Nat} {ret : Int}
    {woken : Option Thread} (inv : SerialInv state)
    (stepped : callbackStep state rpc ret woken = some next) : SerialInv next := by
  unfold HvacCache.callbackStep at stepped
  split at stepped
  · rename_i kind unanswered
    have answered := inv.answer unanswered ret
    cases woken with
    | none =>
        simp only [signalDone] at stepped
        split at stepped
        · simp only [Option.some.injEq] at stepped
          exact stepped ▸ answered
        · simp at stepped
    | some thread =>
        simp only [signalDone] at stepped
        split at stepped
        · rename_i waitingKind waitingRpc parked
          simp only [Option.some.injEq] at stepped
          exact stepped ▸ answered.unpark parked
        · simp at stepped
  · simp at stepped

theorem blockStep_serialInv (state : BlockState Thread) (action : BlockAction Thread)
    (next : BlockState Thread) (inv : SerialInv state) (serial : Serial state action)
    (stepped : blockStep state action = some next) : SerialInv next := by
  cases action with
  | enter thread kind =>
      simp only [blockStep] at stepped
      split at stepped
      · rename_i idle
        simp only [Option.some.injEq] at stepped
        exact stepped ▸ inv.enter kind idle serial
      · simp at stepped
  | reset thread => exact inv.resetStep stepped
  | forward thread => exact inv.forwardStep stepped
  | callback rpc ret woken => exact inv.callbackStep stepped
  | test thread => exact inv.testStep stepped
  | spuriousWakeup thread =>
      simp only [blockStep] at stepped
      split at stepped
      · rename_i parked
        simp only [Option.some.injEq] at stepped
        exact stepped ▸ inv.unpark parked
      · simp at stepped
  | collect thread => exact inv.collectStep stepped
  | leave thread =>
      simp only [blockStep] at stepped
      split at stepped
      · rename_i left
        simp only [Option.some.injEq] at stepped
        exact stepped ▸ inv.leave left
      · simp at stepped

/-- In every run whose threads take turns, whoever returns has had its own callback
and its own response's value. -/
theorem serial_attribution (actions : List (BlockAction Thread)) (state : BlockState Thread)
    (serial : Meets blockStep Serial (BlockState.initial Thread) actions)
    (ran : run blockStep (BlockState.initial Thread) actions = some state) : Attributed state :=
  (run_invariant_of_meets blockStep_serialInv serialInv_initial serial ran).attributed

def turnTaking : List (BlockAction (Fin 2)) := [
  .enter 0 .readRpc, .reset 0, .reset 0, .forward 0, .test 0, .callback 0 7 (some 0), .test 0,
  .collect 0,
  .enter 1 .readRpc, .reset 1, .reset 1, .forward 1, .callback 1 9 none, .test 1, .collect 1
]

theorem serial_attribution_turnTaking : ∃ state,
    run blockStep (BlockState.initial (Fin 2)) turnTaking = some state ∧ Attributed state := by
  have returns : (run blockStep (BlockState.initial (Fin 2)) turnTaking).isSome = true := by decide
  obtain ⟨state, ran⟩ := Option.isSome_iff_exists.mp returns
  exact ⟨state, ran, serial_attribution turnTaking state (by decide) ran⟩

/-- Thread 1 issues its read while thread 0 waits for the response to its own. The
response to thread 0 arrives first and thread 1 returns with it. -/
def overlappingReads : List (BlockAction (Fin 2)) := [
  .enter 0 .readRpc, .reset 0, .reset 0, .forward 0, .test 0,
  .enter 1 .readRpc, .reset 1, .reset 1, .forward 1,
  .callback 0 7 (some 0), .test 1, .collect 1
]

theorem overlapping_reads_misattributed : ∃ state,
    run blockStep (BlockState.initial (Fin 2)) overlappingReads = some state ∧
      state.pc 1 = .returned .readRpc 1 (some 7) ∧
      state.rpcs[1]? = some { kind := .readRpc, answer := none } ∧
      ¬Attributed state := by
  have reached : (run blockStep (BlockState.initial (Fin 2)) overlappingReads).map
      (fun state => (state.pc 1, state.rpcs[1]?)) =
      some (.returned .readRpc 1 (some 7), some { kind := .readRpc, answer := none }) := by decide
  obtain ⟨state, ran, facts⟩ := Option.map_eq_some_iff.mp reached
  simp only [Prod.mk.injEq] at facts
  refine ⟨state, ran, facts.1, facts.2, ?_⟩
  intro attributed
  obtain ⟨ret, answered, _⟩ := attributed 1 .readRpc 1 (some 7) facts.1
  rw [facts.2] at answered
  simp at answered

/-- In every run whose threads take turns, no waiter is left behind. -/
theorem serial_no_stuck_waiter (actions : List (BlockAction Thread)) (state : BlockState Thread)
    (serial : Meets blockStep Serial (BlockState.initial Thread) actions)
    (ran : run blockStep (BlockState.initial Thread) actions = some state) : ¬Stuck state :=
  (run_invariant_of_meets blockStep_serialInv serialInv_initial serial ran).not_stuck

theorem serial_no_stuck_waiter_turnTaking : ∃ state,
    run blockStep (BlockState.initial (Fin 2)) turnTaking = some state ∧ ¬Stuck state := by
  have returns : (run blockStep (BlockState.initial (Fin 2)) turnTaking).isSome = true := by decide
  obtain ⟨state, ran⟩ := Option.isSome_iff_exists.mp returns
  exact ⟨state, ran, serial_no_stuck_waiter turnTaking state (by decide) ran⟩

def overlappingResets : List (BlockAction (Fin 2)) := [
  .enter 0 .openRpc, .enter 1 .openRpc, .reset 0, .reset 1, .forward 0, .forward 1,
  .test 0, .test 1, .callback 0 3 (some 0), .callback 1 4 (some 1)
]

theorem overlapping_resets_stuck : ∃ state,
    run blockStep (BlockState.initial (Fin 2)) overlappingResets = some state ∧
      state.completion.done = 2 ∧ Stuck state := by
  have reached : (run blockStep (BlockState.initial (Fin 2)) overlappingResets).map
      (fun state => (state.completion, state.pc 0, state.rpcs)) =
      some ({ done := 2, readRet := -1 }, .blocking .openRpc 0,
        ((∅ : OrderedMap Nat IssuedRpc).insert 0 { kind := .openRpc, answer := some 3 }).insert 1
          { kind := .openRpc, answer := some 4 }) := by decide
  obtain ⟨state, ran, facts⟩ := Option.map_eq_some_iff.mp reached
  simp only [Prod.mk.injEq] at facts
  obtain ⟨flag, blocked, rpcs⟩ := facts
  refine ⟨state, ran, by rw [flag], ?_, 0, .openRpc, 0, Or.inl blocked, by rw [flag]; decide⟩
  intro rpc issued found
  rw [rpcs] at found
  rcases OrderedMap.found_insert found with ⟨_, same⟩ | ⟨_, old⟩
  · simp [same]
  · rcases OrderedMap.found_insert old with ⟨_, same⟩ | ⟨_, missing⟩
    · simp [same]
    · simp at missing

end

end HvacCache
