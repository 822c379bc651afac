import HvacCache.Library.Numerals
import HvacCache.PolicyLock

/-! `cache_policy_init`: the paths and the capacities of the two tiers, taken from the
environment. -/

namespace HvacCache

open Stdio

structure PolicyGlobals where
  state : PolicyState
  fsdaxPath : String
  ssdPath : String

def PolicyGlobals.initial : PolicyGlobals := {
  state := emptyPolicy 0 0
  fsdaxPath := ""
  ssdPath := ""
}

def PolicyGlobals.setFsdaxCapacity (globals : PolicyGlobals) (capacity : UInt64) : PolicyGlobals :=
  { globals with state := { globals.state with fsdaxCapacityBytes := capacity } }

def PolicyGlobals.setSsdCapacity (globals : PolicyGlobals) (capacity : UInt64) : PolicyGlobals :=
  { globals with state := { globals.state with ssdCapacityBytes := capacity } }

/-- How the call ends. A null pointer in place of a string is undefined behaviour. -/
inductive PolicyInit
  | returned (ret : Int) (globals : PolicyGlobals)
  | exited (status : Int) (message : String)
  | threw (error : ConversionError) (globals : PolicyGlobals)
  | nullPointer (globals : PolicyGlobals)

/-- The variables that the guard looks up; one of them is not used again. -/
def guardedVariables : List String :=
  ["HVAC_FSDAX_PATH", "HVAC_SSD_PATH", "HVAC_PM_CAPACITY", "HVAC_SSD_CAPACITY"]

def initMessage : String :=
  "Please set environment variables HVAC_FSDAX_PATH, HVAC_SSD_PATH, HVAC_FSDAX_CAPACITY, " ++
    "and HVAC_SSD_CAPACITY\n"

def stoullGetenv (getenv : String → Option String) (name : String) (globals : PolicyGlobals)
    (next : UInt64 → PolicyInit) : PolicyInit :=
  match getenv name with
  | none => .nullPointer globals
  | some text =>
      match stoull text.toList with
      | .error error => .threw error globals
      | .ok value => next value

def takeCapacities (getenv : String → Option String) (globals : PolicyGlobals) : PolicyInit :=
  stoullGetenv getenv "HVAC_FSDAX_CAPACITY" globals fun fsdaxCapacity =>
    let sized := globals.setFsdaxCapacity fsdaxCapacity
    stoullGetenv getenv "HVAC_SSD_CAPACITY" sized fun ssdCapacity =>
      .returned 0 (sized.setSsdCapacity ssdCapacity)

def cachePolicyInit (getenv : String → Option String) (globals : PolicyGlobals) : PolicyInit :=
  match getenv "HVAC_FSDAX_PATH", getenv "HVAC_SSD_PATH", getenv "HVAC_PM_CAPACITY",
      getenv "HVAC_SSD_CAPACITY" with
  | some fsdaxPath, some ssdPath, some _, some _ =>
      takeCapacities getenv { globals with fsdaxPath, ssdPath }
  | _, _, _, _ => .exited (-1) initMessage

def decimalVariable (getenv : String → Option String) (name : String) : Option Int :=
  (getenv name).bind fun text => wholeInt text.toList

structure TakenFrom (getenv : String → Option String) (globals : PolicyGlobals) : Prop where
  fsdaxPath : getenv "HVAC_FSDAX_PATH" = some globals.fsdaxPath
  ssdPath : getenv "HVAC_SSD_PATH" = some globals.ssdPath
  fsdaxCapacity : decimalVariable getenv "HVAC_FSDAX_CAPACITY" =
    some (globals.state.fsdaxCapacityBytes.toNat : Int)
  ssdCapacity : decimalVariable getenv "HVAC_SSD_CAPACITY" =
    some (globals.state.ssdCapacityBytes.toNat : Int)

def InitHandled (getenv : String → Option String) : PolicyInit → Prop
  | .returned ret globals => ret = 0 ∧ TakenFrom getenv globals
  | .exited status message => status = -1 ∧ message = initMessage
  | .threw _ _ => False
  | .nullPointer _ => False

def FitsCapacity (getenv : String → Option String) (name : String) : Prop :=
  ∃ value, decimalVariable getenv name = some value ∧ 0 ≤ value ∧ value < 2 ^ 64

section
variable {getenv : String → Option String} {globals next : PolicyGlobals}

theorem cachePolicyInit_missing (globals : PolicyGlobals)
    (missing : ∃ name ∈ guardedVariables, getenv name = none) :
    cachePolicyInit getenv globals = .exited (-1) initMessage := by
  unfold cachePolicyInit
  split
  · simp_all [guardedVariables]
  · rfl

theorem fitsCapacity_iff (getenv : String → Option String) (name : String) :
    FitsCapacity getenv name ↔ ∃ text value, getenv name = some text ∧
      stoull text.toList = .ok value ∧ decimalVariable getenv name = some (value.toNat : Int) := by
  constructor
  · rintro ⟨value, decimal, bounds⟩
    obtain ⟨text, given, whole⟩ := Option.bind_eq_some_iff.mp decimal
    obtain ⟨converted, ok, same⟩ := (stoull_wholeInt_iff whole).mpr bounds
    rw [← same] at decimal
    exact ⟨text, converted, given, ok, decimal⟩
  · rintro ⟨text, converted, given, ok, decimal⟩
    have bound := converted.toNat_lt
    refine ⟨_, decimal, ?_⟩
    omega

theorem stoullGetenv_handled (name : String) (globals : PolicyGlobals)
    (next : UInt64 → PolicyInit) :
    InitHandled getenv (stoullGetenv getenv name globals next) ↔
      ∃ text value, getenv name = some text ∧ stoull text.toList = .ok value ∧
        InitHandled getenv (next value) := by
  unfold stoullGetenv
  cases given : getenv name with
  | none => simp [InitHandled]
  | some text =>
      simp only [Option.some.injEq, exists_and_left, exists_eq_left']
      cases converted : stoull text.toList with
      | error error => simp [InitHandled]
      | ok value => simp

theorem cachePolicyInit_present (globals : PolicyGlobals)
    (present : ¬ ∃ name ∈ guardedVariables, getenv name = none) :
    ∃ fsdaxPath ssdPath, getenv "HVAC_FSDAX_PATH" = some fsdaxPath ∧
      getenv "HVAC_SSD_PATH" = some ssdPath ∧
      cachePolicyInit getenv globals =
        takeCapacities getenv { globals with fsdaxPath, ssdPath } := by
  have found : ∀ name ∈ guardedVariables, ∃ value, getenv name = some value := by
    intro name member
    apply Option.ne_none_iff_exists'.mp
    intro unset
    exact present ⟨name, member, unset⟩
  obtain ⟨fsdaxPath, first⟩ := found "HVAC_FSDAX_PATH" (by decide)
  obtain ⟨ssdPath, second⟩ := found "HVAC_SSD_PATH" (by decide)
  obtain ⟨pmCapacity, third⟩ := found "HVAC_PM_CAPACITY" (by decide)
  obtain ⟨ssdCapacity, fourth⟩ := found "HVAC_SSD_CAPACITY" (by decide)
  refine ⟨fsdaxPath, ssdPath, first, second, ?_⟩
  simp only [cachePolicyInit, first, second, third, fourth]

theorem stoullGetenv_returned {name : String} {rest : UInt64 → PolicyInit} {ret : Int}
    (called : stoullGetenv getenv name globals rest = .returned ret next) :
    ∃ value, rest value = .returned ret next := by
  unfold stoullGetenv at called
  split at called
  · simp at called
  · split at called
    · simp at called
    · exact ⟨_, called⟩

theorem cachePolicyInit_performs {ret : Int}
    (returned : cachePolicyInit getenv globals = .returned ret next) :
    performStep globals.state
      (.init next.state.fsdaxCapacityBytes next.state.ssdCapacityBytes) = some next.state := by
  by_cases missing : ∃ name ∈ guardedVariables, getenv name = none
  · simp [cachePolicyInit_missing globals missing] at returned
  · obtain ⟨fsdaxPath, ssdPath, _, _, called⟩ := cachePolicyInit_present globals missing
    rw [called] at returned
    obtain ⟨fsdaxCapacity, sized⟩ := stoullGetenv_returned returned
    obtain ⟨ssdCapacity, ended⟩ := stoullGetenv_returned sized
    simp only [PolicyInit.returned.injEq] at ended
    rw [← ended.2]
    rfl

/-- Initialisation is handled just when a guarded variable is missing or both capacities are
given as numbers. The guard says nothing of the one that it does not look up. -/
theorem policy_init_handled (getenv : String → Option String) (globals : PolicyGlobals) :
    InitHandled getenv (cachePolicyInit getenv globals) ↔
      (∃ name ∈ guardedVariables, getenv name = none) ∨
        (FitsCapacity getenv "HVAC_FSDAX_CAPACITY" ∧ FitsCapacity getenv "HVAC_SSD_CAPACITY") := by
  by_cases missing : ∃ name ∈ guardedVariables, getenv name = none
  · rw [cachePolicyInit_missing globals missing]
    simp [InitHandled, missing]
  · obtain ⟨fsdaxPath, ssdPath, first, second, called⟩ := cachePolicyInit_present globals missing
    rw [called, takeCapacities, stoullGetenv_handled, or_iff_right missing, fitsCapacity_iff,
      fitsCapacity_iff]
    simp only [stoullGetenv_handled]
    constructor
    · rintro ⟨text, value, given, converted, other, size, otherGiven, otherConverted, _, taken⟩
      exact ⟨⟨text, value, given, converted, taken.fsdaxCapacity⟩,
        ⟨other, size, otherGiven, otherConverted, taken.ssdCapacity⟩⟩
    · rintro ⟨⟨text, value, given, converted, decimal⟩,
        ⟨other, size, otherGiven, otherConverted, otherDecimal⟩⟩
      exact ⟨text, value, given, converted, other, size, otherGiven, otherConverted, rfl,
        ⟨first, second, decimal, otherDecimal⟩⟩

end

def withCapacity (fsdaxCapacity : Option String) (name : String) : Option String :=
  if name ∈ guardedVariables then some "8"
  else if name = "HVAC_FSDAX_CAPACITY" then fsdaxCapacity
  else none

theorem policy_init_unhandled :
    (∃ globals, cachePolicyInit (withCapacity none) .initial = .nullPointer globals) ∧
    (∃ globals, cachePolicyInit (withCapacity (some "-1")) .initial = .returned 0 globals ∧
      globals.state.fsdaxCapacityBytes = 0xffffffffffffffff) ∧
    (∃ globals, cachePolicyInit (withCapacity (some "large")) .initial =
      .threw .invalidArgument globals) ∧
    ∀ capacity ∈ [none, some "-1", some "large"],
      ¬ InitHandled (withCapacity capacity) (cachePolicyInit (withCapacity capacity) .initial) := by
  have null : ∃ globals,
      cachePolicyInit (withCapacity none) .initial = .nullPointer globals := ⟨_, rfl⟩
  have wrapped : ∃ globals,
      cachePolicyInit (withCapacity (some "-1")) .initial = .returned 0 globals ∧
      globals.state.fsdaxCapacityBytes = 0xffffffffffffffff := ⟨_, rfl, by decide⟩
  have thrown : ∃ globals, cachePolicyInit (withCapacity (some "large")) .initial =
      .threw .invalidArgument globals := ⟨_, rfl⟩
  refine ⟨null, wrapped, thrown, ?_⟩
  simp only [List.forall_mem_cons, List.not_mem_nil, false_implies, implies_true, and_true]
  refine ⟨?_, ?_, ?_⟩
  · obtain ⟨globals, ended⟩ := null
    rw [ended]
    exact id
  · obtain ⟨globals, ended, capacity⟩ := wrapped
    rw [ended]
    rintro ⟨_, taken⟩
    have decimal := taken.fsdaxCapacity
    rw [capacity] at decimal
    revert decimal
    decide
  · obtain ⟨globals, ended⟩ := thrown
    rw [ended]
    exact id

end HvacCache
