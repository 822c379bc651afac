import HvacCache.AddressRegistration
import HvacCache.HostSelection

/-! From the numbers that the scheduler gives to the server processes to the server that a
client picks for a path. -/

namespace HvacCache

open CriticalSection LockGuard Posix Stdio Transition

inductive CommInit
  | done (hvacServerRank : Int)
  | exited (status : Int) (message : String)
deriving DecidableEq, Repr

/-- Clients need a number as well, but do not keep it. -/
def hvacInitComm (getenv : String → Option String) (listen : Bool) (hvacServerRank : Int) :
    CommInit :=
  match getenv "SLURM_PROCID" with
  | none =>
      .exited 1 "SLURM_PROCID is not set. Please ensure the script is run through SLURM."
  | some rankStr => .done (if listen then atoi rankStr.toList else hvacServerRank)

/-- The server processes of a job. The scheduler numbers its tasks from 0, and a process
learns its number from its environment. -/
structure ServerJob (Process : Type*) where
  task : Process → Nat
  distinct : Function.Injective task
  countable : ∀ process, task process < 2 ^ 31
  getenv : Process → String → Option String
  numbered : ∀ process,
    getenv process "SLURM_PROCID" = some (String.ofList (printInt (task process)))
  selfAddress : Process → String
  plain : ∀ process, PlainWord (selfAddress process)

def ServerJob.Publishes {Process : Type*} (job : ServerJob Process) (process : Process)
    (registration : Registration) : Prop :=
  hvacInitComm (job.getenv process) true (-1) = .done registration.rank ∧
    registration.address = job.selfAddress process

section
variable {Process : Type*} {job : ServerJob Process} {process : Process}
  {registration : Registration}

theorem hvacInitComm_task (job : ServerJob Process) (process : Process) :
    hvacInitComm (job.getenv process) true (-1) = .done (job.task process) := by
  have bound := job.countable process
  simp only [hvacInitComm, job.numbered process, if_true, String.toList_ofList]
  rw [atoi_printInt (by omega) (by omega)]

theorem ServerJob.Publishes.line (publishes : job.Publishes process registration) :
    registration.line = ((job.task process : Int), job.selfAddress process) := by
  obtain ⟨started, address⟩ := publishes
  rw [hvacInitComm_task, CommInit.done.injEq] at started
  rw [Registration.line, ← started, address]

theorem ServerJob.Publishes.plain (publishes : job.Publishes process registration) :
    PlainWord registration.address := publishes.2 ▸ job.plain process

theorem firstAddress_task {completed : List (Process × Registration × Unit)}
    (all : ∀ entry ∈ completed, job.Publishes entry.1 entry.2.1)
    (listed : ∃ entry ∈ completed, entry.1 = process) :
    firstAddress (published completed) (job.task process) = some (job.selfAddress process) := by
  induction completed with
  | nil => simp at listed
  | cons entry rest ih =>
      have line := (all entry (by simp)).line
      simp only [published, List.map_cons, firstAddress, line]
      by_cases same : entry.1 = process
      · simp [same]
      · have other : ¬ (job.task entry.1 : Int) = job.task process := by
          intro equal
          exact same (job.distinct (by exact_mod_cast equal))
        rw [List.find?_cons_of_neg (by simpa using other)]
        refine ih (fun later member => all later (by simp [member])) ?_
        obtain ⟨found, member, owner⟩ := listed
        refine ⟨found, ?_, owner⟩
        rcases List.mem_cons.mp member with first | later
        · exact absurd (first ▸ owner) same
        · exact later

end

def Directory.opened (file : Text) : Directory :=
  { file := some file, addressCache := ∅, crashed := false }

section
variable {directory : Directory} {lines : List (Int × String)}

theorem run_lookups {file : Text} {earlier : List Int}
    (plain : ∀ line ∈ lines, PlainWord line.2) (whole : file = render lines)
    (looked : run directoryStep (Directory.opened file)
      (earlier.map fun rank => .lookup rank true) = some directory) :
    DirectoryInv lines directory ∧ directory.file = some file := by
  have preserved : ∀ state action next, DirectoryInv lines state ∧ state.file = some file →
      (∃ rank, action = .lookup rank true) → directoryStep state action = some next →
      DirectoryInv lines next ∧ next.file = some file := by
    rintro state _ next ⟨inv, kept⟩ ⟨rank, rfl⟩ stepped
    simp only [directoryStep] at stepped
    split at stepped
    · simp at stepped
    · simp only [Option.some.injEq] at stepped
      subst next
      refine ⟨inv.lookup rank true, ?_⟩
      unfold hvacClientCommLookupAddr
      split
      · exact kept
      · split
        · exact kept
        · split <;> exact kept
  have meets : Meets directoryStep (fun _ action => ∃ rank, action = .lookup rank true)
      (Directory.opened file) (earlier.map fun rank => .lookup rank true) := by
    apply meets_of_forall
    intro action member _
    obtain ⟨rank, _, same⟩ := List.mem_map.mp member
    exact ⟨rank, same.symm⟩
  refine run_invariant_of_meets preserved ⟨⟨plain, ?_, ?_, ?_⟩, rfl⟩ meets looked
  · intro text opened
    rw [← whole]
    exact (Option.some.inj opened).symm
  · simp [Directory.opened]
  · simp [Directory.opened]

end

section
variable {Process : Type*} [DecidableEq Process]

end

def pairJob : ServerJob Bool := {
  task := fun process => if process then 1 else 0
  distinct := by
    intro first second
    cases first <;> cases second <;> decide
  countable := by decide
  getenv := fun process name =>
    if name = "SLURM_PROCID" then some (String.ofList (printInt (if process then 1 else 0)))
    else none
  numbered := by
    intro process
    cases process <;> rfl
  selfAddress := fun process => if process then "na+sm" else "ofi"
  plain := by decide
}

def bothPublished : List (Action Bool Registration) :=
  halfPublished ++ restPublished ++ [.advance false]

end HvacCache
