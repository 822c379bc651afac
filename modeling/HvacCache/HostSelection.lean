import HvacCache.Descriptors
import HvacCache.Library.Numerals

/-! The number of servers that `hvac_client_init` takes from the environment, and the choice
of a server by the hash of a path. -/

namespace HvacCache

open Posix Stdio Std

/-- `g_hvac_initialized`, `g_hvac_server_count` and `hvac_data_dir`. -/
structure ClientGlobals where
  initialized : Bool
  serverCount : Nat
  dataDir : Option String
deriving DecidableEq, Repr

def ClientGlobals.initial : ClientGlobals := {
  initialized := false
  serverCount := 0
  dataDir := none
}

/-- The call has returned, or the process has ended with a message. -/
inductive ClientInit
  | done (globals : ClientGlobals)
  | exited (status : Int) (message : String)
deriving DecidableEq, Repr

def hvacClientInit (getenv : String → Option String) (globals : ClientGlobals) : ClientInit :=
  if globals.initialized then .done globals
  else
    match getenv "HVAC_SERVER_COUNT" with
    | some count =>
        .done {
          initialized := true
          serverCount := uint32 (atoi count.toList)
          dataDir := (getenv "HVAC_DATA_DIR").or globals.dataDir
        }
    | none => .exited (-1) "Please set enviroment variable HVAC_SERVER_COUNT\n"

def ClientEnv.configured (env : ClientEnv) (globals : ClientGlobals) : ClientEnv :=
  { env with serverCount := globals.serverCount, dataDir := globals.dataDir }

/-- `hash % g_hvac_server_count` does not trap, and names one of the servers. -/
def HostInRange (env : ClientEnv) (path : String) : Prop :=
  ∃ rank, host env path = some rank ∧ 0 ≤ rank ∧ rank < env.serverCount

section
variable {env : ClientEnv} {path count : String} {getenv : String → Option String}
  {globals : ClientGlobals}

theorem hvacClientInit_serverCount (given : getenv "HVAC_SERVER_COUNT" = some count)
    (accepted : hvacClientInit getenv .initial = .done globals) :
    globals.serverCount = uint32 (atoi count.toList) := by
  simp only [hvacClientInit, ClientGlobals.initial, Bool.false_eq_true, if_false, given,
    ClientInit.done.injEq] at accepted
  rw [← accepted]

theorem HostInRange.routed (inRange : HostInRange env path)
    (listed : ∀ rank : Int, 0 ≤ rank → rank < env.serverCount → (scanAddr env rank).isSome)
    (cache : OrderedMap Int String) : (route env cache path).isSome := by
  obtain ⟨rank, chosen, lower, upper⟩ := inRange
  obtain ⟨address, found⟩ := Option.isSome_iff_exists.mp (listed rank lower upper)
  simp only [route, chosen, lookupAddr, found]
  split <;> rfl

theorem hostInRange_iff (env : ClientEnv) (path : String) (bounded : env.serverCount < 2 ^ 32) :
    HostInRange env path ↔
      env.serverCount ≠ 0 ∧ env.hash path % env.serverCount < 2 ^ 31 := by
  by_cases empty : env.serverCount = 0
  · simp [HostInRange, host, empty]
  · have below : env.hash path % env.serverCount < env.serverCount :=
      Nat.mod_lt _ (Nat.pos_of_ne_zero empty)
    have chosen : host env path = some (int32 (env.hash path % env.serverCount : Nat)) :=
      if_neg empty
    rw [HostInRange, chosen]
    constructor
    · rintro ⟨rank, same, lower, _⟩
      refine ⟨empty, ?_⟩
      simp only [Option.some.injEq] at same
      rw [← same, int32, Int.bmod_def] at lower
      split at lower <;> omega
    · rintro ⟨_, upper⟩
      refine ⟨_, rfl, ?_⟩
      rw [int32_of_nonneg (by omega) (by omega)]
      omega

/-- The host of a path is in range for a positive number of servers. A negative one stands
for more servers than an `int` can count. -/
theorem host_selection_in_range (given : getenv "HVAC_SERVER_COUNT" = some count)
    (accepted : hvacClientInit getenv .initial = .done globals) (env : ClientEnv)
    (path : String) :
    HostInRange (env.configured globals) path ↔
      0 < atoi count.toList ∨
        (atoi count.toList < 0 ∧
          env.hash path % (2 ^ 32 + atoi count.toList).toNat < 2 ^ 31) := by
  have taken := hvacClientInit_serverCount given accepted
  have rule : HostInRange (env.configured globals) path ↔
      globals.serverCount ≠ 0 ∧ env.hash path % globals.serverCount < 2 ^ 31 := by
    apply hostInRange_iff
    rw [ClientEnv.configured, taken]
    exact uint32_lt _
  rw [rule, taken]
  obtain ⟨lower, upper⟩ := atoi_bounds count.toList
  by_cases negative : atoi count.toList < 0
  · rw [uint32_atoi_of_neg negative]
    omega
  · rw [uint32_atoi_of_nonneg (Int.not_lt.mp negative)]
    constructor
    · rintro ⟨nonzero, _⟩
      left
      omega
    · rintro (positive | ⟨below, _⟩)
      · have nonzero : 0 < (atoi count.toList).toNat := by omega
        have remainder := Nat.mod_lt (env.hash path) nonzero
        omega
      · exact absurd below negative

end

def onlyServerCount (count name : String) : Option String :=
  if name = "HVAC_SERVER_COUNT" then some count else none

theorem host_selection_in_range_two : ∃ globals,
    hvacClientInit (onlyServerCount "2") .initial = .done globals ∧
      HostInRange (twoServers.configured globals) "/d/f" := by
  have given : onlyServerCount "2" "HVAC_SERVER_COUNT" = some "2" := rfl
  refine ⟨_, rfl, (host_selection_in_range given rfl twoServers "/d/f").mpr ?_⟩
  left
  decide

def largeHash : ClientEnv := { twoServers with hash := fun _ => 2 ^ 31 }

theorem host_selection_fails :
    (∃ globals, hvacClientInit (onlyServerCount "0") .initial = .done globals ∧
      host (twoServers.configured globals) "/d/f" = none ∧
      ¬ HostInRange (twoServers.configured globals) "/d/f") ∧
    ∃ globals, hvacClientInit (onlyServerCount "-1") .initial = .done globals ∧
      host (largeHash.configured globals) "/d/f" = some (-2147483648) ∧
      ¬ HostInRange (largeHash.configured globals) "/d/f" := by
  constructor
  · refine ⟨_, rfl, by decide, ?_⟩
    rw [hostInRange_iff _ _ (by decide)]
    decide
  · refine ⟨_, rfl, by decide, ?_⟩
    rw [hostInRange_iff _ _ (by decide)]
    decide

end HvacCache
