import HvacCache.AddressRoundTrip
import HvacCache.Library.CriticalSection

/-! Servers that publish their addresses at the same time. Each appends its line under
`flock`, in as many writes as the stream takes to flush it, and clients read the file without
asking for the lock. -/

namespace HvacCache

open CriticalSection LockGuard Stdio Transition

/-- A call of `hvac_comm_list_addr`, with the writes that `fprintf` and `fflush` come to. -/
structure Registration where
  rank : Int
  address : String
  writes : List Text
  whole : writes.flatten = addressLine (rank, address)

def Registration.line (registration : Registration) : Int × String :=
  (registration.rank, registration.address)

def appendWrites : List Text → Body Text Unit
  | [] => .done ()
  | text :: rest => .write (· ++ text) (appendWrites rest)

def Registration.body (registration : Registration) : Body Text Unit :=
  appendWrites registration.writes

abbrev ServerProcesses (Process : Type*) := System Process Registration Text Unit

section
variable {Process : Type*} [DecidableEq Process]

def registrationStep (system : ServerProcesses Process) (action : Action Process Registration) :
    Option (ServerProcesses Process) := CriticalSection.step Registration.body system action

def published (completed : List (Process × Registration × Unit)) : List (Int × String) :=
  completed.map fun entry => entry.2.1.line

def publishActions (completed : List (Process × Registration × Unit)) : List DirectoryAction :=
  completed.map fun entry => .register entry.2.1.rank entry.2.1.address

end

section
variable {texts : List Text} {file middle : Text} {rest : Body Text Unit}

theorem run_appendWrites (texts : List Text) (file : Text) :
    (appendWrites texts).run file = .returned () (file ++ texts.flatten) := by
  induction texts generalizing file with
  | nil => simp [appendWrites]
  | cons text rest ih =>
      rw [appendWrites, Body.run_write, ih, List.flatten_cons, List.append_assoc]

theorem run_registrationBody (registration : Registration) (file : Text) :
    registration.body.run file = .returned () (file ++ addressLine registration.line) := by
  rw [Registration.body, run_appendWrites, registration.whole]
  rfl

theorem appendWrites_partway (partway : Partway (appendWrites texts) file rest middle) :
    ∃ done left, texts = done ++ left ∧ rest = appendWrites left ∧
      middle = file ++ done.flatten := by
  induction partway with
  | start => exact ⟨[], texts, rfl, rfl, by simp⟩
  | access before ih =>
      obtain ⟨done, left, parted, code, written⟩ := ih
      cases left with
      | nil => simp [appendWrites] at code
      | cons text left =>
          simp only [appendWrites, Body.write, Body.access.injEq] at code
          obtain ⟨rfl, rfl⟩ := code
          exact ⟨done ++ [text], left, by simp [parted], rfl, by simp [written]⟩

theorem registration_partway {registration : Registration}
    (partway : Partway registration.body file rest middle) :
    ∃ part, part <+: addressLine registration.line ∧ middle = file ++ part := by
  obtain ⟨done, left, parted, _, written⟩ := appendWrites_partway partway
  refine ⟨done.flatten, ⟨left.flatten, ?_⟩, written⟩
  rw [← List.flatten_append, ← parted, registration.whole]
  rfl

end

/-! A line that has not been written to its end. -/

section
variable {line : Int × String} {part text : Text} {rank : Int}

theorem render_append (first second : List (Int × String)) :
    render (first ++ second) = render first ++ render second := List.flatMap_append

theorem scanLine_of_scanInt {read : Int} (scanned : scanInt text = some (read, [])) :
    scanLine text = none := by
  simp only [scanLine, scanned]
  rfl

theorem scanLine_after_blank (value : Int) (word : Text) :
    scanLine (printInt value ++ ' ' :: word) =
      match scanWord (skipSpace word) with
      | none => none
      | some (address, rest) => some ((value, address), skipSpace rest) := by
  have blank : isSpace ' ' = true := by decide
  have gap : skipSpace (' ' :: word) = skipSpace word := by simp [skipSpace, blank]
  have number : scanInt (printInt value ++ ' ' :: word) = some (value, ' ' :: word) :=
    scanInt_printInt value (by decide)
  cases read : scanWord (skipSpace word) with
  | none => simp only [scanLine, number, gap, read]
  | some found => simp only [scanLine, number, gap, read]

theorem skipSpace_of_prefix {word : Text} {address : String} (plain : PlainWord address)
    (inside : word <+: address.toList) : skipSpace word = word := by
  cases word with
  | nil => rfl
  | cons first rest => exact skipSpace_of_not_space (plain.solid (inside.subset (by simp)))

/-- A part of a line gives no line, or one of its rank with a beginning of its address. -/
theorem scanLine_part (plain : PlainWord line.2) (inside : part <+: addressLine line) :
    scanLine part = none ∨ ∃ word, scanLine part = some ((line.1, String.ofList word), []) ∧
      word <+: line.2.toList ∧ word ≠ [] := by
  have split : addressLine line = (printInt line.1 ++ [' ']) ++ (line.2.toList ++ ['\n']) := by
    simp [addressLine]
  rw [split] at inside
  rcases List.prefix_or_prefix_of_prefix inside (List.prefix_append _ _) with early | ⟨word, same⟩
  · left
    rcases List.prefix_concat_iff.mp early with blank | number
    · rw [blank]
      exact scanLine_after_blank line.1 []
    · rcases scanInt_of_prefix number with nothing | ⟨read, scanned⟩
      · simp [scanLine, nothing]
      · exact scanLine_of_scanInt scanned
  · subst part
    rw [List.prefix_append_right_inj] at inside
    have spelled : printInt line.1 ++ [' '] ++ word = printInt line.1 ++ ' ' :: word := by simp
    rw [spelled]
    rcases List.prefix_concat_iff.mp inside with whole | begun
    · right
      refine ⟨line.2.toList, ?_, List.prefix_refl _, ?_⟩
      · have complete := scanLine_addressLine plain []
        simp only [addressLine, List.append_nil] at complete
        rw [whole, String.ofList_toList]
        exact complete
      · exact List.ne_nil_of_length_pos
          (List.length_pos_iff.mpr (List.isEmpty_eq_false_iff.mp plain.1))
    · by_cases empty : word = []
      · left
        rw [empty]
        exact scanLine_after_blank line.1 []
      · right
        refine ⟨word, ?_, begun, empty⟩
        have solid : ∀ char ∈ word, isSpace char = false :=
          fun _ member => plain.solid (begun.subset member)
        rw [scanLine_after_blank, skipSpace_of_prefix plain begun, scanWord_end solid empty]
        rfl

theorem scanFile_render_append {lines : List (Int × String)}
    (plain : ∀ line ∈ lines, PlainWord line.2) (text : Text) (rank : Int) :
    scanFile (render lines ++ text) rank = (firstAddress lines rank).or (scanFile text rank) := by
  induction lines with
  | nil => rfl
  | cons line rest ih =>
      have later := ih fun other member => plain other (by simp [member])
      have first := plain line (by simp)
      rw [render, List.flatMap_cons, List.append_assoc, scanFile_eq, scanLine_addressLine first]
      simp only [scanFile_skipSpace]
      unfold firstAddress
      by_cases same : line.1 = rank
      · simp [same]
      · rw [if_neg same, List.find?_cons_of_neg (by simp [same])]
        exact later

theorem scanFile_part (plain : PlainWord line.2) (inside : part <+: addressLine line) (rank : Int) :
    scanFile part rank = none ∨ line.1 = rank ∧ ∃ word, scanFile part rank =
      some (String.ofList word) ∧ word <+: line.2.toList ∧ word ≠ [] := by
  rw [scanFile_eq]
  rcases scanLine_part plain inside with nothing | ⟨word, scanned, begun, nonempty⟩
  · simp [nothing]
  · rw [scanned]
    by_cases same : line.1 = rank
    · exact Or.inr ⟨same, word, if_pos same, begun, nonempty⟩
    · simp only [if_neg same]
      exact Or.inl rfl

end

section
variable {Process : Type*}

theorem replays_published {start final : Text}
    {completed : List (Process × Registration × Unit)}
    (replays : Replays (fun registration => (Registration.body registration).run) start completed
      final) : final = start ++ render (published completed) := by
  induction completed generalizing start with
  | nil =>
      have same : start = final := replays
      simp [published, render, same]
  | cons entry rest ih =>
      obtain ⟨next, returned, later⟩ := replays
      have appended := (run_registrationBody entry.2.1 start).symm.trans returned
      rw [Outcome.returned.injEq] at appended
      rw [ih later, ← appended.2, List.append_assoc]
      rfl

theorem published_plain {system : ServerProcesses Process}
    (compliant : Compliant (fun _ registration => PlainWord registration.address) system) :
    ∀ line ∈ published system.completed, PlainWord line.2 := by
  intro line member
  obtain ⟨entry, listed, same⟩ := List.mem_map.mp member
  exact same ▸ compliant.completed entry listed

theorem run_publishActions (completed : List (Process × Registration × Unit)) :
    ∃ directory, run directoryStep Directory.initial (publishActions completed) = some directory ∧
      directory.file.getD [] = render (published completed) := by
  induction completed using List.reverseRecOn with
  | nil => exact ⟨Directory.initial, rfl, rfl⟩
  | append_singleton earlier entry ih =>
      obtain ⟨directory, ran, file⟩ := ih
      refine ⟨hvacCommListAddr directory entry.2.1.rank entry.2.1.address, ?_, ?_⟩
      · rw [publishActions, List.map_append, List.map_singleton]
        exact (run_concat _ _ _ _).mpr ⟨directory, ran, rfl⟩
      · rw [published, List.map_append, render_append, ← published, ← file]
        simp [hvacCommListAddr, Registration.line, render]

end

section
variable {Process : Type*} [DecidableEq Process] {system : ServerProcesses Process}
  {actions : List (Action Process Registration)}

structure FileUnderLock (system : ServerProcesses Process) (part : Text) : Prop where
  file : system.shared = render (published system.completed) ++ part
  free : system.holder = none → part = []
  held : ∀ process, system.holder = some process → ∃ registration rest,
    system.progress process = .inside registration rest ∧ part <+: addressLine registration.line

theorem run_fileUnderLock (ran : run registrationStep (System.initial []) actions = some system) :
    ∃ part, FileUnderLock system part := by
  obtain ⟨base, excluded⟩ := run_excluded ran
  have lines : base = render (published system.completed) := by
    simpa using replays_published excluded.replays
  cases holder : system.holder with
  | none =>
      refine ⟨[], ?_, fun _ => rfl, by simp [holder]⟩
      rw [excluded.free holder, lines, List.append_nil]
  | some process =>
      obtain ⟨registration, rest, inside, partway⟩ := excluded.held process holder
      obtain ⟨part, begun, written⟩ := registration_partway partway
      refine ⟨part, by rw [written, lines], by simp [holder], ?_⟩
      intro other same
      rw [holder, Option.some.injEq] at same
      subst other
      exact ⟨registration, rest, inside, begun⟩

/-- However the writes of the servers are interleaved, the file is the lines of those that have
released the lock, in that order, and the beginning of one line of the process that holds it.
With the lock free it is what appending these lines in one step each gives. -/
theorem registrations_do_not_mix (actions : List (Action Process Registration))
    (system : ServerProcesses Process)
    (ran : run registrationStep (System.initial []) actions = some system) :
    (∃ part, FileUnderLock system part) ∧
    ∃ directory, run directoryStep Directory.initial (publishActions system.completed) =
      some directory ∧ (system.holder = none → directory.file.getD [] = system.shared) := by
  obtain ⟨part, under⟩ := run_fileUnderLock ran
  obtain ⟨directory, published, file⟩ := run_publishActions system.completed
  refine ⟨⟨part, under⟩, directory, published, ?_⟩
  intro free
  rw [file, under.file, under.free free, List.append_nil]

theorem run_plain (plain : ∀ process registration, .call process registration ∈ actions →
      PlainWord registration.address)
    (ran : run registrationStep (System.initial []) actions = some system) :
    Compliant (fun _ registration => PlainWord registration.address) system :=
  run_compliant (compliant_initial _ _) plain ran

def firstServer : Registration := {
  rank := 1
  address := "na+sm"
  writes := ["1 n".toList, "a+sm\n".toList]
  whole := by decide
}

def secondServer : Registration := {
  rank := 0
  address := "ofi"
  writes := ["0 ofi\n".toList]
  whole := by decide
}

def halfPublished : List (Action Bool Registration) := [
  .call true firstServer,
  .acquire true,
  .call false secondServer,
  .advance true
]

def restPublished : List (Action Bool Registration) := [
  .advance true,
  .advance true,
  .acquire false,
  .advance false
]

theorem registrations_do_not_mix_half : ∃ system : ServerProcesses Bool,
    run registrationStep (System.initial []) halfPublished = some system ∧
    (∃ part, FileUnderLock system part) ∧
    ∃ directory, run directoryStep Directory.initial (publishActions system.completed) =
      some directory ∧ (system.holder = none → directory.file.getD [] = system.shared) := by
  have returns : (run registrationStep (System.initial []) halfPublished).isSome = true := by decide
  obtain ⟨system, ran⟩ := Option.isSome_iff_exists.mp returns
  exact ⟨system, ran, registrations_do_not_mix halfPublished system ran⟩

/-- A client that takes no lock finds the first address of every published rank, now and from
then on. For another rank it finds nothing, or a beginning of the address that the process
with the lock is writing for this rank. -/
theorem unlocked_lookup (before later : List (Action Process Registration))
    (system final : ServerProcesses Process) (rank : Int)
    (plain : ∀ process registration, .call process registration ∈ before ++ later →
      PlainWord registration.address)
    (ran : run registrationStep (System.initial []) before = some system)
    (further : run registrationStep system later = some final) :
    (∀ address, firstAddress (published system.completed) rank = some address →
      scanFile system.shared rank = some address ∧ scanFile final.shared rank = some address) ∧
    (firstAddress (published system.completed) rank = none →
      scanFile system.shared rank = none ∨
      ∃ process registration rest word, system.holder = some process ∧
        system.progress process = .inside registration rest ∧ registration.rank = rank ∧
        scanFile system.shared rank = some (String.ofList word) ∧
        word <+: registration.address.toList ∧ word ≠ []) := by
  have reached : run registrationStep (System.initial []) (before ++ later) = some final :=
    (run_append _ before later final).mpr ⟨system, ran, further⟩
  have compliant := run_plain
    (fun process registration member => plain process registration (by simp [member])) ran
  have admittedLater := run_plain plain reached
  obtain ⟨part, under⟩ := run_fileUnderLock ran
  obtain ⟨partLater, underLater⟩ := run_fileUnderLock reached
  constructor
  · intro address first
    obtain ⟨others, longer⟩ := run_completed further
    have firstLater : firstAddress (published final.completed) rank = some address := by
      rw [← longer, published, List.map_append]
      exact firstAddress_append first _
    rw [under.file, scanFile_render_append (published_plain compliant), first, underLater.file,
      scanFile_render_append (published_plain admittedLater), firstLater]
    exact ⟨rfl, rfl⟩
  · intro missing
    have read : scanFile system.shared rank = scanFile part rank := by
      rw [under.file, scanFile_render_append (published_plain compliant), missing, Option.none_or]
    rw [read]
    cases holder : system.holder with
    | none =>
        rw [under.free holder]
        exact Or.inl rfl
    | some process =>
        obtain ⟨registration, rest, inside, begun⟩ := under.held process holder
        have word : PlainWord registration.address :=
          compliant.running process registration (by rw [inside]; rfl)
        rcases scanFile_part word begun rank with
          nothing | ⟨same, word, found, starts, nonempty⟩
        · exact Or.inl nothing
        · exact Or.inr ⟨process, registration, rest, word, rfl, inside, same, found, starts,
            nonempty⟩

theorem unlocked_lookup_half : ∃ system final : ServerProcesses Bool,
    run registrationStep (System.initial []) halfPublished = some system ∧
    run registrationStep system restPublished = some final ∧
    (∀ address, firstAddress (published system.completed) 1 = some address →
      scanFile system.shared 1 = some address ∧ scanFile final.shared 1 = some address) ∧
    (firstAddress (published system.completed) 1 = none →
      scanFile system.shared 1 = none ∨
      ∃ process registration rest word, system.holder = some process ∧
        system.progress process = .inside registration rest ∧ registration.rank = 1 ∧
        scanFile system.shared 1 = some (String.ofList word) ∧
        word <+: registration.address.toList ∧ word ≠ []) := by
  have returns : (run registrationStep (System.initial []) (halfPublished ++ restPublished)).isSome =
      true := by decide
  obtain ⟨final, reached⟩ := Option.isSome_iff_exists.mp returns
  obtain ⟨system, ran, further⟩ := (run_append _ halfPublished restPublished final).mp reached
  refine ⟨system, final, ran, further,
    unlocked_lookup halfPublished restPublished system final 1 ?_ ran further⟩
  intro process registration member
  simp only [halfPublished, restPublished, List.cons_append, List.nil_append, List.mem_cons,
    Action.call.injEq, reduceCtorEq, List.not_mem_nil, or_false, false_or] at member
  rcases member with ⟨_, rfl⟩ | ⟨_, rfl⟩
  · decide
  · decide

end

end HvacCache
