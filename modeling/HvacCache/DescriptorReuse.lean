import HvacCache.ClientMaps
import HvacCache.Descriptors

/-! Descriptor numbers that come back. The kernel gives a number out again as soon as it is
closed, by whatever call; the library forgets it only in its own close wrapper, and an open
of a file that it does not track leaves the old entry in `fd_map`. -/

namespace HvacCache

open Posix Transition

/-- A client process and, next to it, the file behind each descriptor that the open wrapper
returned without tracking it; no step reads that. -/
structure Process where
  client : Client
  declined : OrderedMap Int String

def Process.initial : Process := { client := .initial, declined := ∅ }

/-- Besides the wrapper calls and the responses of the servers, the process closes a
descriptor with `fclose`, puts one in the place of another with `dup2`, and moves a
position, as `lseek` or a descriptor that shares it does. -/
inductive ProcessAction
  | call (action : ClientAction)
  | respond (response : Response)
  | fclose (fd : Int)
  | dup2 (source fd : Int)
  | seek (fd : Int) (position : Nat)
deriving DecidableEq, Repr

def noteCall (env : ClientEnv) (declined : OrderedMap Int String) :
    ClientAction → OrderedMap Int String
  | .openCall pathname flags fd =>
      if fd = -1 then declined
      else if trackedPath env pathname flags = none then declined.insert fd (env.resolve pathname)
      else declined
  | .closeCall fd => declined.erase fd
  | _ => declined

def Client.setKernel (client : Client) (kernel : Table) : Client := { client with kernel }

def processStep (env : ClientEnv) (contents : String → Option Bytes) (self : Nat)
    (process : Process) : ProcessAction → Option Process
  | .call action =>
      match clientAct env contents self process.client action with
      | none => none
      | some (client, _) =>
          some {
            client
            declined := if client.pc = .aborted then ∅ else noteCall env process.declined action }
  | .respond response =>
      (receive process.client response).map fun client => { process with client }
  | .fclose fd =>
      if process.client.pc = .idle ∧ (process.client.kernel[fd]?).isSome then
        some {
          client := process.client.setKernel (process.client.kernel.erase fd)
          declined := process.declined.erase fd }
      else none
  | .dup2 source fd =>
      match process.client.kernel[source]? with
      | some descriptor =>
          if process.client.pc = .idle ∧ source ≠ fd ∧ 0 ≤ fd then
            some {
              client := process.client.setKernel (process.client.kernel.insert fd descriptor)
              declined := process.declined.erase fd }
          else none
      | none => none
  | .seek fd position =>
      match process.client.kernel[fd]? with
      | some descriptor =>
          let kernel := process.client.kernel.insert fd { descriptor with position }
          some { process with client := process.client.setKernel kernel }
      | none => none

def hvacFileTracked (client : Client) (fd : Int) : Bool := (client.fdMap[fd]?).isSome

def ReadsNewFile (env : ClientEnv) (contents : String → Option Bytes) (self : Nat)
    (process : Process) : Prop :=
  ∀ (fd : Int) (file : String), process.declined[fd]? = some file →
    hvacFileTracked process.client fd = false ∧
    (∃ descriptor, process.client.kernel[fd]? = some descriptor ∧ descriptor.file = file) ∧
    (∀ count, readCall env contents self process.client fd count =
      (realRead contents process.client fd count, none)) ∧
    ∀ count offset, preadCall env contents self process.client fd count offset =
      (realPread contents process.client fd count offset, none)

def leftTracked (env : ClientEnv) (fd : Int) (tracked : Bool) : ProcessAction → Bool
  | .call (.openCall pathname flags opened) =>
      if opened = fd ∧ fd ≠ -1 ∧ (trackedPath env pathname flags).isSome then true else tracked
  | .call (.closeCall closed) => if closed = fd then false else tracked
  | _ => tracked

/-- Before an open that is not tracked returns a number, the close wrapper has been called
on it since it was last tracked. -/
def Released (env : ClientEnv) (actions : List ProcessAction) : Prop :=
  ∀ before pathname flags fd after,
    actions = before ++ .call (.openCall pathname flags fd) :: after → fd ≠ -1 →
    trackedPath env pathname flags = none → before.foldl (leftTracked env fd) false = false

def Client.HoldsUntracked (client : Client) (fd : Int) (file : String) : Prop :=
  client.fdMap[fd]? = none ∧
    ∃ descriptor, client.kernel[fd]? = some descriptor ∧ descriptor.file = file

section
variable {env : ClientEnv} {contents : String → Option Bytes} {self : Nat}
  {process next : Process}

theorem readsNewFile_of_untracked
    (sound : ∀ (fd : Int) (file : String), process.declined[fd]? = some file →
      process.client.HoldsUntracked fd file) :
    ReadsNewFile env contents self process := by
  intro fd file declined
  obtain ⟨untracked, opened⟩ := sound fd file declined
  refine ⟨by simp [hvacFileTracked, untracked], opened, ?_, ?_⟩
  · intro count
    simp [readCall, untracked]
  · intro count offset
    simp [preadCall, untracked]

section
variable {client state : Client} {outgoing : Outgoing} {action : ClientAction}

theorem ClientEffect.leftTracked
    (effect : ClientEffect env contents self client action state outgoing)
    (survived : state.pc ≠ .aborted) (fd : Int) :
    (state.fdMap[fd]?).isSome =
      HvacCache.leftTracked env fd (client.fdMap[fd]?).isSome (.call action) := by
  cases effect with
  | openFailed pathname flags idle =>
      simp only [Client.finish, HvacCache.leftTracked]
      rw [if_neg (by omega)]
  | openUntracked pathname flags opened idle unused present untracked =>
      simp [HvacCache.leftTracked, Client.finish, untracked]
  | openTracked pathname flags opened path address cache idle unused present tracked routed =>
      have lower := unused.1
      simp only [OrderedMap.getElem?_insert_ite, HvacCache.leftTracked, tracked, Option.isSome_some]
      by_cases same : opened = fd
      · subst opened
        simp only [if_true, true_and, and_true]
        rw [if_pos (by omega)]
        rfl
      · simp [same]
  | closeUntracked closed idle untracked =>
      simp only [realClose, Client.finish, HvacCache.leftTracked]
      split
      · rename_i same
        simp [← same, untracked]
      · rfl
  | closeTracked closed path address cache idle tracked routed =>
      simp only [realClose, Client.finish, OrderedMap.getElem?_erase_ite, HvacCache.leftTracked]
      split <;> rfl
  | aborted action path idle unrouted => exact absurd rfl survived
  | _ => rfl

theorem Client.HoldsUntracked.of_files {fd : Int} {file : String}
    (holds : client.HoldsUntracked fd file) (sameMap : state.fdMap[fd]? = client.fdMap[fd]?)
    (sameFiles : SameFiles client.kernel state.kernel) : state.HoldsUntracked fd file := by
  obtain ⟨untracked, descriptor, opened, same⟩ := holds
  obtain ⟨shifted, present, sameFile, _⟩ := sameFiles.found opened
  exact ⟨sameMap.trans untracked, shifted, present, sameFile.trans same⟩

theorem Client.HoldsUntracked.of_other {fd : Int} {file : String}
    (holds : client.HoldsUntracked fd file) (sameMap : state.fdMap[fd]? = client.fdMap[fd]?)
    (sameOpen : state.kernel[fd]? = client.kernel[fd]?) : state.HoldsUntracked fd file := by
  obtain ⟨untracked, descriptor, opened, same⟩ := holds
  exact ⟨sameMap.trans untracked, descriptor, sameOpen.trans opened, same⟩

theorem ClientEffect.holdsUntracked
    (effect : ClientEffect env contents self client action state outgoing)
    (survived : state.pc ≠ .aborted) {declined : OrderedMap Int String}
    (sound : ∀ (fd : Int) (file : String), declined[fd]? = some file →
      client.HoldsUntracked fd file)
    (released : ∀ pathname flags fd, action = .openCall pathname flags fd → fd ≠ -1 →
      trackedPath env pathname flags = none → client.fdMap[fd]? = none) :
    ∀ (fd : Int) (file : String), (noteCall env declined action)[fd]? = some file →
      state.HoldsUntracked fd file := by
  have fresh : ∀ (opened fd : Int) (file : String), Unused client.kernel opened →
      declined[fd]? = some file → opened ≠ fd := by
    intro opened fd file unused noted same
    obtain ⟨_, descriptor, found, _⟩ := sound fd file noted
    simp [← same, unused.2] at found
  intro fd file noted
  cases effect with
  | openFailed pathname flags idle =>
      exact (sound fd file (by simpa [noteCall] using noted)).of_other rfl rfl
  | openUntracked pathname flags opened idle unused present untracked =>
      have lower := unused.1
      simp only [noteCall, if_neg (show ¬opened = -1 by omega), if_pos untracked] at noted
      rcases OrderedMap.found_insert noted with ⟨same, sameFile⟩ | ⟨different, old⟩
      · subst fd file
        exact ⟨released pathname flags opened rfl (by omega) untracked,
          { file := env.resolve pathname, mode := flags.access, position := 0 },
          by simp [Client.finish], rfl⟩
      · refine (sound fd file old).of_other rfl ?_
        simp only [Client.finish, OrderedMap.getElem?_insert_ite, if_neg (Ne.symm different)]
  | openTracked pathname flags opened path address cache idle unused present tracked routed =>
      have lower := unused.1
      simp only [noteCall, if_neg (show ¬opened = -1 by omega), tracked, reduceCtorEq, if_false]
        at noted
      have different := fresh opened fd file unused noted
      refine (sound fd file noted).of_other ?_ ?_
      · simp only [OrderedMap.getElem?_insert_ite, if_neg different]
      · simp only [OrderedMap.getElem?_insert_ite, if_neg different]
  | readUntracked reading count idle untracked =>
      exact (sound fd file noted).of_files rfl (read_sameFiles contents client.kernel reading count)
  | wakeReadLocal reading count ready blocked failed =>
      exact (sound fd file noted).of_files rfl (read_sameFiles contents client.kernel reading count)
  | closeUntracked closed idle untracked =>
      obtain ⟨different, old⟩ := OrderedMap.found_erase noted
      exact (sound fd file old).of_other rfl (close_other different)
  | closeTracked closed path address cache idle tracked routed =>
      obtain ⟨different, old⟩ := OrderedMap.found_erase noted
      refine (sound fd file old).of_other ?_ (close_other different)
      simp only [realClose, Client.finish, OrderedMap.getElem?_erase_ite,
        if_neg (Ne.symm different)]
  | aborted action path idle unrouted => exact absurd rfl survived
  | _ => exact (sound fd file noted).of_other rfl rfl

end

/-! Whole runs. -/

def MapRecords (env : ClientEnv) (actions : List ProcessAction) (process : Process) : Prop :=
  process.client.pc ≠ .aborted → ∀ fd : Int,
    (process.client.fdMap[fd]?).isSome = actions.foldl (leftTracked env fd) false

def DeclinedSound (process : Process) : Prop :=
  ∀ (fd : Int) (file : String), process.declined[fd]? = some file →
    process.client.HoldsUntracked fd file

inductive ProcessEffect (env : ClientEnv) (contents : String → Option Bytes) (self : Nat)
    (process : Process) : ProcessAction → Process → Prop
  | called (action : ClientAction) (state : Client) (outgoing : Outgoing)
      (effect : ClientEffect env contents self process.client action state outgoing) :
      ProcessEffect env contents self process (.call action)
        { client := state
          declined := if state.pc = .aborted then ∅ else noteCall env process.declined action }
  | responded (response : Response) (state : Client)
      (received : receive process.client response = some state) :
      ProcessEffect env contents self process (.respond response)
        { process with client := state }
  | fclosed (fd : Int) (idle : process.client.pc = .idle) :
      ProcessEffect env contents self process (.fclose fd)
        { client := process.client.setKernel (process.client.kernel.erase fd)
          declined := process.declined.erase fd }
  | replaced (source fd : Int) (descriptor : Descriptor) (idle : process.client.pc = .idle) :
      ProcessEffect env contents self process (.dup2 source fd)
        { client := process.client.setKernel (process.client.kernel.insert fd descriptor)
          declined := process.declined.erase fd }
  | sought (fd : Int) (position : Nat) (kernel : Table)
      (sameFiles : SameFiles process.client.kernel kernel) :
      ProcessEffect env contents self process (.seek fd position)
        { process with client := process.client.setKernel kernel }

theorem setPosition_sameFiles {table : Table} {fd : Int} {descriptor : Descriptor}
    (found : table[fd]? = some descriptor) (position : Nat) :
    SameFiles table (table.insert fd { descriptor with position }) := by
  intro other
  rw [OrderedMap.getElem?_insert_ite]
  split
  · rename_i same
    subst other
    simp [found]
  · rfl

theorem processStep_effect {action : ProcessAction}
    (stepped : processStep env contents self process action = some next) :
    ProcessEffect env contents self process action next := by
  cases action with
  | call action =>
      simp only [processStep] at stepped
      split at stepped
      · simp at stepped
      · rename_i state outgoing acted
        simp only [Option.some.injEq] at stepped
        exact stepped ▸ .called action state outgoing (clientAct_effect acted)
  | respond response =>
      simp only [processStep, Option.map_eq_some_iff] at stepped
      obtain ⟨state, received, same⟩ := stepped
      exact same ▸ .responded response state received
  | fclose fd =>
      simp only [processStep] at stepped
      split at stepped
      · rename_i granted
        simp only [Option.some.injEq] at stepped
        exact stepped ▸ .fclosed fd granted.1
      · simp at stepped
  | dup2 source fd =>
      simp only [processStep] at stepped
      split at stepped
      · rename_i descriptor found
        split at stepped
        · rename_i granted
          simp only [Option.some.injEq] at stepped
          exact stepped ▸ .replaced source fd descriptor granted.1
        · simp at stepped
      · simp at stepped
  | seek fd position =>
      simp only [processStep] at stepped
      split at stepped
      · rename_i descriptor found
        simp only [Option.some.injEq] at stepped
        exact stepped ▸ .sought fd position _ (setPosition_sameFiles found position)
      · simp at stepped

theorem MapRecords.step {actions : List ProcessAction} {action : ProcessAction}
    (records : MapRecords env actions process)
    (effect : ProcessEffect env contents self process action next) :
    MapRecords env (actions ++ [action]) next := by
  intro survived fd
  rw [List.foldl_append]
  simp only [List.foldl_cons, List.foldl_nil]
  cases effect with
  | called action state outgoing effect =>
      rw [← records effect.alive fd]
      exact effect.leftTracked survived fd
  | responded response state received =>
      obtain ⟨samePc, _, sameMap, _⟩ := receive_frame received
      simp only [samePc] at survived
      simp only [sameMap]
      exact records survived fd
  | fclosed closed idle => exact records survived fd
  | replaced source closed descriptor idle => exact records survived fd
  | sought moved position kernel sameFiles => exact records survived fd

theorem DeclinedSound.step {action : ProcessAction} (sound : DeclinedSound process)
    (released : ∀ pathname flags fd, action = .call (.openCall pathname flags fd) → fd ≠ -1 →
      trackedPath env pathname flags = none → process.client.pc ≠ .aborted →
      process.client.fdMap[fd]? = none)
    (effect : ProcessEffect env contents self process action next) :
    DeclinedSound next := by
  intro fd file noted
  cases effect with
  | called action state outgoing effect =>
      simp only at noted
      split at noted
      · simp at noted
      · rename_i survived
        refine effect.holdsUntracked survived sound ?_ fd file noted
        intro pathname flags opened same positive untracked
        exact released pathname flags opened (by rw [same]) positive untracked effect.alive
  | responded response state received =>
      obtain ⟨_, _, sameMap, sameKernel⟩ := receive_frame received
      exact (sound fd file noted).of_other (by rw [sameMap]) (by rw [sameKernel])
  | fclosed closed idle =>
      obtain ⟨different, old⟩ := OrderedMap.found_erase noted
      refine (sound fd file old).of_other rfl ?_
      simp only [Client.setKernel, OrderedMap.getElem?_erase_ite, if_neg (Ne.symm different)]
  | replaced source closed descriptor idle =>
      obtain ⟨different, old⟩ := OrderedMap.found_erase noted
      refine (sound fd file old).of_other rfl ?_
      simp only [Client.setKernel, OrderedMap.getElem?_insert_ite, if_neg (Ne.symm different)]
  | sought moved position kernel sameFiles => exact (sound fd file noted).of_files rfl sameFiles

theorem run_mapRecords {actions : List ProcessAction}
    (ran : run (processStep env contents self) Process.initial actions = some process) :
    MapRecords env actions process := by
  refine run_history (fun earlier state action after records stepped =>
    records.step (processStep_effect stepped)) ?_ ran
  intro alive fd
  simp [Process.initial, Client.initial]

theorem Released.earlier {earlier later : List ProcessAction}
    (released : Released env (earlier ++ later)) : Released env earlier := by
  intro before pathname flags fd after parted
  exact released before pathname flags fd (after ++ later) (by simp [parted])

theorem run_declinedSound {actions : List ProcessAction} (released : Released env actions)
    (ran : run (processStep env contents self) Process.initial actions = some process) :
    DeclinedSound process := by
  induction actions using List.reverseRecOn generalizing process with
  | nil =>
      simp only [run, Option.some.injEq] at ran
      subst process
      intro fd file noted
      simp [Process.initial] at noted
  | append_singleton earlier action ih =>
      obtain ⟨middle, reached, last⟩ := (run_concat Process.initial earlier action process).mp ran
      have effect := processStep_effect last
      refine (ih released.earlier reached).step ?_ effect
      intro pathname flags fd same positive untracked alive
      have recorded := run_mapRecords reached alive fd
      rw [released earlier pathname flags fd [] (by rw [same]) positive untracked] at recorded
      rwa [Option.isSome_eq_false_iff, Option.isNone_iff_eq_none] at recorded

theorem processStep_declined {pathname : String} {flags : OpenFlags} {fd : Int}
    (positive : fd ≠ -1) (untracked : trackedPath env pathname flags = none)
    (stepped : processStep env contents self process (.call (.openCall pathname flags fd)) =
      some next) :
    process.client.pc ≠ .aborted ∧ next.client.fdMap = process.client.fdMap ∧
      next.declined[fd]? = some (env.resolve pathname) := by
  simp only [processStep] at stepped
  split at stepped
  · simp at stepped
  · rename_i state outgoing acted
    simp only [Option.some.injEq] at stepped
    subst next
    have alive := (clientAct_effect acted).alive
    have idle : process.client.pc = .idle := by
      cases running : process.client.pc with
      | idle => rfl
      | _ => simp [clientAct, running] at acted
    simp only [clientAct, idle, openCall, if_neg positive, untracked] at acted
    split at acted
    · simp only [Option.some.injEq, Prod.mk.injEq] at acted
      obtain ⟨after, sent⟩ := acted
      subst state
      exact ⟨alive, rfl, by simp [Client.finish, noteCall, positive, untracked]⟩
    · simp at acted

/-- No stale tracking after descriptor reuse: the declined descriptors read their own files
all through a run just when each number was released by the close wrapper before an open
that is not tracked returned it. -/
theorem reuse_untracked {actions : List ProcessAction}
    (ran : run (processStep env contents self) Process.initial actions = some process) :
    (∀ before after reached, actions = before ++ after →
      run (processStep env contents self) Process.initial before = some reached →
      ReadsNewFile env contents self reached) ↔ Released env actions := by
  constructor
  · intro holds before pathname flags fd after parted positive untracked
    rw [parted] at ran
    obtain ⟨middle, reached, later⟩ := (run_append Process.initial before _ process).mp ran
    obtain ⟨following, stepped, _⟩ := (run_cons middle _ after process).mp later
    obtain ⟨alive, sameMap, noted⟩ := processStep_declined positive untracked stepped
    have reachedNext : run (processStep env contents self) Process.initial
        (before ++ [.call (.openCall pathname flags fd)]) = some following :=
      (run_concat Process.initial before _ following).mpr ⟨middle, reached, stepped⟩
    have fresh := (holds _ after following (by simp [parted]) reachedNext fd _ noted).1
    rw [hvacFileTracked, sameMap] at fresh
    rw [← run_mapRecords reached alive fd, fresh]
  · intro released before after reached parted ran
    rw [parted] at released
    exact readsNewFile_of_untracked (run_declinedSound released.earlier ran)

end

def insideOutside : String → Option Bytes := fun path =>
  if path = "/d/f" then some [1, 2] else if path = "/x/g" then some [3] else none

def closeThenReuse : List ProcessAction := [
  .call (.openCall "/d/f" readOnly 3), .respond (.openOut { client := 0, callback := .openCb 3 } 7),
  .call .wake, .call (.closeCall 3), .call (.openCall "/x/g" readOnly 3)
]

theorem reuse_untracked_closed : ∃ process,
    run (processStep twoServers insideOutside 0) Process.initial closeThenReuse = some process ∧
    process.declined[(3 : Int)]? = some "/x/g" ∧
    ∀ before after reached, closeThenReuse = before ++ after →
      run (processStep twoServers insideOutside 0) Process.initial before = some reached →
      ReadsNewFile twoServers insideOutside 0 reached := by
  have reached : (run (processStep twoServers insideOutside 0) Process.initial
      closeThenReuse).map (fun process => process.declined[(3 : Int)]?) =
      some (some "/x/g") := by decide
  obtain ⟨process, ran, noted⟩ := Option.map_eq_some_iff.mp reached
  refine ⟨process, ran, noted, (reuse_untracked ran).mpr ?_⟩
  intro before pathname flags fd after parted positive untracked
  match before, parted with
  | [], parted =>
      simp only [closeThenReuse, List.nil_append, List.cons.injEq, ProcessAction.call.injEq,
        ClientAction.openCall.injEq] at parted
      obtain ⟨⟨samePath, sameFlags, _⟩, _⟩ := parted
      subst samePath sameFlags
      exact absurd untracked (by decide)
  | [_], parted => simp [closeThenReuse] at parted
  | [_, _], parted => simp [closeThenReuse] at parted
  | [_, _, _], parted => simp [closeThenReuse] at parted
  | [first, second, third, fourth], parted =>
      simp only [closeThenReuse, List.cons_append, List.nil_append, List.cons.injEq,
        ProcessAction.call.injEq, ClientAction.openCall.injEq] at parted
      obtain ⟨one, two, three, four, ⟨_, _, sameFd⟩, _⟩ := parted
      subst one two three four sameFd
      decide
  | _ :: _ :: _ :: _ :: _ :: longer, parted => simp [closeThenReuse] at parted

def fcloseThenReuse : List ProcessAction := [
  .call (.openCall "/d/f" readOnly 3), .respond (.openOut { client := 0, callback := .openCb 3 } 7),
  .call .wake, .fclose 3, .call (.openCall "/x/g" readOnly 3)
]

theorem fclose_leaves_tracking : ¬ ∀ (env : ClientEnv) (contents : String → Option Bytes)
    (self : Nat) (actions : List ProcessAction) (process : Process),
    run (processStep env contents self) Process.initial actions = some process →
    ReadsNewFile env contents self process := by
  intro reads
  have reached : (run (processStep twoServers insideOutside 0) Process.initial
      fcloseThenReuse).map (fun process =>
        (process.declined[(3 : Int)]?, hvacFileTracked process.client 3)) =
      some (some "/x/g", true) := by decide
  obtain ⟨process, ran, facts⟩ := Option.map_eq_some_iff.mp reached
  simp only [Prod.mk.injEq] at facts
  have fresh := (reads _ _ _ fcloseThenReuse process ran 3 "/x/g" facts.1).1
  rw [facts.2] at fresh
  exact absurd fresh (by decide)

end HvacCache
