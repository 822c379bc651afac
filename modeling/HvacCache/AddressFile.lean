import HvacCache.ClientCore
import HvacCache.Library.Stdio

/-! The file in which servers publish their addresses and the client's cache of it. A
server appends one line under a lock; a client reads the file from the start for every
rank it has not resolved yet. -/

namespace HvacCache

open Stdio Transition

/-- What `fprintf(na_config, "%d %s\n", ...)` appends. -/
def addressLine (line : Int × String) : Text :=
  printInt line.1 ++ ' ' :: (line.2.toList ++ ['\n'])

/-- `fscanf(na_config, "%d %s\n", ...)` when it returns 2, with the rest of the file. -/
def scanLine (text : Text) : Option ((Int × String) × Text) :=
  match scanInt text with
  | none => none
  | some (rank, afterRank) =>
      match scanWord (skipSpace afterRank) with
      | none => none
      | some (address, afterAddress) => some ((rank, address), skipSpace afterAddress)

def scanLines (rank : Int) : Nat → Text → Option String
  | 0, _ => none
  | fuel + 1, text =>
      match scanLine text with
      | none => none
      | some (line, rest) => if line.1 = rank then some line.2 else scanLines rank fuel rest

def scanFile (text : Text) (rank : Int) : Option String := scanLines rank (text.length + 1) text

/-- The file is missing until the first server registers. `crashed` is a client that has
handed a null stream to `fscanf`. -/
structure Directory where
  file : Option Text
  addressCache : OrderedMap Int String
  crashed : Bool

def Directory.initial : Directory := { file := none, addressCache := ∅, crashed := false }

inductive Lookup
  | crash
  | address (found : Option String)
deriving DecidableEq, Repr

inductive DirectoryAction
  | register (rank : Int) (address : String)
  | lookup (rank : Int) (opened : Bool)
deriving DecidableEq, Repr

def hvacCommListAddr (state : Directory) (rank : Int) (address : String) : Directory :=
  { state with file := some (state.file.getD [] ++ addressLine (rank, address)) }

/-- The stream that `fopen(filename, "r+")` gives; `opened` is false when it fails for
another reason than a missing file. -/
def Directory.stream (state : Directory) (opened : Bool) : Option Text :=
  if opened then state.file else none

def hvacClientCommLookupAddr (state : Directory) (rank : Int) (opened : Bool) :
    Lookup × Directory :=
  match state.addressCache[rank]? with
  | some address => (.address (some address), state)
  | none =>
      match state.stream opened with
      | none => (.crash, { state with crashed := true })
      | some text =>
          match scanFile text rank with
          | some address =>
              (.address (some address),
                { state with addressCache := state.addressCache.insert rank address })
          | none => (.address none, state)

def directoryStep (state : Directory) : DirectoryAction → Option Directory
  | .register rank address => some (hvacCommListAddr state rank address)
  | .lookup rank opened =>
      if state.crashed then none else some (hvacClientCommLookupAddr state rank opened).2

/-! Reading back what was written. -/

theorem scanLine_length {text rest : Text} {line : Int × String}
    (scanned : scanLine text = some (line, rest)) : rest.length < text.length := by
  unfold scanLine at scanned
  split at scanned
  · simp at scanned
  · rename_i rank afterRank number
    split at scanned
    · simp at scanned
    · rename_i address afterAddress word
      simp only [Option.some.injEq, Prod.mk.injEq] at scanned
      have first := scanInt_length number
      have second := scanWord_length word
      have between := skipSpace_length_le afterRank
      have last := skipSpace_length_le afterAddress
      rw [scanned.2] at last
      omega

theorem scanLines_enough (rank : Int) {fuel other : Nat} {text : Text}
    (enough : text.length < fuel) (otherEnough : text.length < other) :
    scanLines rank fuel text = scanLines rank other text := by
  induction fuel generalizing other text with
  | zero => omega
  | succ fuel ih =>
      cases other with
      | zero => omega
      | succ other =>
          simp only [scanLines]
          split
          · rfl
          · rename_i line rest scanned
            have shorter := scanLine_length scanned
            have same : scanLines rank fuel rest = scanLines rank other rest :=
              ih (by omega) (by omega)
            rw [same]

theorem scanFile_eq (text : Text) (rank : Int) :
    scanFile text rank =
      match scanLine text with
      | none => none
      | some (line, rest) => if line.1 = rank then some line.2 else scanFile rest rank := by
  unfold scanFile
  rw [scanLines]
  split
  · rfl
  · rename_i line rest scanned
    have shorter := scanLine_length scanned
    rw [scanLines_enough rank (by omega) (Nat.lt_succ_self rest.length)]

def render (lines : List (Int × String)) : Text := lines.flatMap addressLine

theorem scanLine_addressLine {line : Int × String} (plain : PlainWord line.2) (rest : Text) :
    scanLine (addressLine line ++ rest) = some (line, skipSpace rest) := by
  have blank : isSpace ' ' = true := by decide
  have newline : isSpace '\n' = true := by decide
  obtain ⟨first, others, spelled⟩ := plain.exists_cons
  have solid : isSpace first = false := plain.solid (by simp [spelled])
  have number : scanInt (printInt line.1 ++ ' ' :: (line.2.toList ++ '\n' :: rest)) =
      some (line.1, ' ' :: (line.2.toList ++ '\n' :: rest)) := scanInt_printInt line.1 (by decide)
  have word : scanWord (line.2.toList ++ '\n' :: rest) = some (line.2, '\n' :: rest) :=
    scanWord_append plain newline
  have gap : skipSpace (' ' :: (line.2.toList ++ '\n' :: rest)) =
      line.2.toList ++ '\n' :: rest := by
    rw [spelled]
    simp [skipSpace, blank, solid]
  have ending : skipSpace ('\n' :: rest) = skipSpace rest := by
    simp [skipSpace, newline]
  simp only [scanLine, addressLine, List.append_assoc, List.cons_append, List.nil_append, number,
    gap, word, ending]

theorem scanLine_skipSpace (text : Text) : scanLine (skipSpace text) = scanLine text := by
  unfold scanLine scanInt
  rw [skipSpace_skipSpace]

theorem scanFile_skipSpace (text : Text) (rank : Int) :
    scanFile (skipSpace text) rank = scanFile text rank := by
  rw [scanFile_eq, scanFile_eq text, scanLine_skipSpace]

def firstAddress (lines : List (Int × String)) (rank : Int) : Option String :=
  (lines.find? fun line => line.1 = rank).map Prod.snd

theorem scanFile_render {lines : List (Int × String)} (plain : ∀ line ∈ lines, PlainWord line.2)
    (rank : Int) : scanFile (render lines) rank = firstAddress lines rank := by
  induction lines with
  | nil => rfl
  | cons line rest ih =>
      have later := ih fun other member => plain other (by simp [member])
      rw [scanFile_eq, render, List.flatMap_cons, scanLine_addressLine (plain line (by simp))]
      simp only [scanFile_skipSpace]
      unfold firstAddress
      by_cases same : line.1 = rank
      · simp [same]
      · rw [if_neg same, List.find?_cons_of_neg (by simp [same])]
        exact later

theorem firstAddress_append {lines : List (Int × String)} {rank : Int} {address : String}
    (found : firstAddress lines rank = some address) (later : List (Int × String)) :
    firstAddress (lines ++ later) rank = some address := by
  obtain ⟨line, first, same⟩ := Option.map_eq_some_iff.mp found
  simp [firstAddress, List.find?_append, first, same]

/-! The directory over a run. -/

def DirectoryAction.line? : DirectoryAction → Option (Int × String)
  | .register rank address => some (rank, address)
  | .lookup _ _ => none

def registered (actions : List DirectoryAction) : List (Int × String) :=
  actions.filterMap DirectoryAction.line?

theorem registered_lookup (before after : List DirectoryAction) (rank : Int) (opened : Bool) :
    registered (before ++ .lookup rank opened :: after) = registered before ++ registered after := by
  rw [registered, List.filterMap_append]
  rfl

structure DirectoryInv (lines : List (Int × String)) (state : Directory) : Prop where
  plain : ∀ line ∈ lines, PlainWord line.2
  file : ∀ text, state.file = some text → text = render lines
  missing : state.file = none → lines = []
  cached : ∀ (rank : Int) (address : String), state.addressCache[rank]? = some address →
    firstAddress lines rank = some address

theorem directoryInv_initial : DirectoryInv [] Directory.initial := by
  constructor <;> simp [Directory.initial]

section
variable {state : Directory} {lines : List (Int × String)}

theorem DirectoryInv.register (inv : DirectoryInv lines state) (rank : Int) {address : String}
    (plain : PlainWord address) :
    DirectoryInv (lines ++ [(rank, address)]) (hvacCommListAddr state rank address) := by
  have whole : state.file.getD [] = render lines := by
    cases found : state.file with
    | none => simp [inv.missing found, render]
    | some text => simp [inv.file text found]
  refine ⟨?_, ?_, by simp [hvacCommListAddr], ?_⟩
  · intro line member
    rcases List.mem_append.mp member with old | new
    · exact inv.plain line old
    · rw [List.mem_singleton.mp new]
      exact plain
  · intro text written
    simp only [hvacCommListAddr, Option.some.injEq] at written
    rw [← written, whole]
    simp [render]
  · intro other found stored
    exact firstAddress_append (inv.cached other found stored) _

theorem DirectoryInv.scan (inv : DirectoryInv lines state) {opened : Bool} {text : Text}
    (stream : state.stream opened = some text) (rank : Int) :
    scanFile text rank = firstAddress lines rank := by
  have file : state.file = some text := by
    unfold Directory.stream at stream
    split at stream
    · exact stream
    · simp at stream
  rw [inv.file text file]
  exact scanFile_render inv.plain rank

theorem DirectoryInv.lookup (inv : DirectoryInv lines state) (rank : Int) (opened : Bool) :
    DirectoryInv lines (hvacClientCommLookupAddr state rank opened).2 := by
  unfold hvacClientCommLookupAddr
  split
  · exact inv
  · split
    · exact ⟨inv.plain, inv.file, inv.missing, inv.cached⟩
    · rename_i text stream
      split
      · rename_i address found
        refine ⟨inv.plain, inv.file, inv.missing, ?_⟩
        rw [inv.scan stream rank] at found
        exact OrderedMap.forall_insert
          (fun rank address => firstAddress lines rank = some address) inv.cached found
      · exact inv

end

theorem run_directoryInv {actions : List DirectoryAction} {state : Directory}
    (plain : ∀ rank address, .register rank address ∈ actions → PlainWord address)
    (ran : run directoryStep Directory.initial actions = some state) :
    DirectoryInv (registered actions) state := by
  induction actions using List.reverseRecOn generalizing state with
  | nil =>
      simp only [run, Option.some.injEq] at ran
      exact ran ▸ directoryInv_initial
  | append_singleton earlier action ih =>
      obtain ⟨middle, reached, last⟩ := (run_concat _ earlier action state).mp ran
      have inv := ih (fun rank address member => plain rank address (by simp [member])) reached
      cases action with
      | register rank address =>
          simp only [directoryStep, Option.some.injEq] at last
          have added := inv.register rank (plain rank address (by simp))
          simpa [registered, DirectoryAction.line?, last] using added
      | lookup rank opened =>
          simp only [directoryStep] at last
          split at last
          · simp at last
          · simp only [Option.some.injEq] at last
            have same : registered (earlier ++ [.lookup rank opened]) = registered earlier :=
              (registered_lookup earlier [] rank opened).trans (List.append_nil _)
            rw [same, ← last]
            exact inv.lookup rank opened

def FileOpens (state : Directory) : DirectoryAction → Prop
  | .register _ _ => True
  | .lookup rank opened => (state.addressCache[rank]?).isSome ∨ (state.stream opened).isSome

structure LookupAgrees (lines : List (Int × String)) (state : Directory) (rank : Int)
    (opened : Bool) : Prop where
  resolved : (hvacClientCommLookupAddr state rank opened).1 = .address (firstAddress lines rank)
  none_iff : firstAddress lines rank = none ↔ ∀ line ∈ lines, line.1 ≠ rank
  reread : ∀ address, state.addressCache[rank]? = some address →
    ∃ text, state.file = some text ∧ scanFile text rank = some address
  failed : (hvacClientCommLookupAddr state rank opened).1 = .address none →
    (hvacClientCommLookupAddr state rank opened).2.addressCache = state.addressCache

theorem DirectoryInv.lookupAgrees {lines : List (Int × String)} {state : Directory} {rank : Int}
    {opened : Bool} (inv : DirectoryInv lines state)
    (opens : FileOpens state (.lookup rank opened)) : LookupAgrees lines state rank opened := by
  refine ⟨?_, by simp [firstAddress], ?_, ?_⟩
  · unfold hvacClientCommLookupAddr
    cases cached : state.addressCache[rank]? with
    | some address => rw [inv.cached rank address cached]
    | none =>
        obtain ⟨text, stream⟩ := Option.isSome_iff_exists.mp
          (opens.resolve_left (by simp [cached]))
        have read := inv.scan stream rank
        simp only [stream]
        cases found : scanFile text rank with
        | none => rw [← read, found]
        | some address => rw [← read, found]
  · intro address cached
    have first := inv.cached rank address cached
    cases found : state.file with
    | none => simp [inv.missing found, firstAddress] at first
    | some text =>
        refine ⟨text, rfl, ?_⟩
        rw [inv.file text found, scanFile_render inv.plain]
        exact first
  · unfold hvacClientCommLookupAddr
    split
    · simp
    · split
      · simp
      · split
        · simp
        · simp

/-- Every lookup of the run agrees with what had been registered, and what a lookup has
found every later lookup of the same rank finds. -/
structure DirectoryAgrees (actions : List DirectoryAction) : Prop where
  each : ∀ before rank opened after, actions = before ++ .lookup rank opened :: after →
    ∃ reached, run directoryStep Directory.initial before = some reached ∧
      LookupAgrees (registered before) reached rank opened
  sticky : ∀ before rank opened middle again after address state later,
    actions = before ++ .lookup rank opened :: (middle ++ .lookup rank again :: after) →
    run directoryStep Directory.initial before = some state →
    run directoryStep Directory.initial (before ++ .lookup rank opened :: middle) = some later →
    (hvacClientCommLookupAddr state rank opened).1 = .address (some address) →
    (hvacClientCommLookupAddr later rank again).1 = .address (some address)

theorem sticky_of_each {actions : List DirectoryAction}
    (each : ∀ before rank opened after, actions = before ++ .lookup rank opened :: after →
      ∃ reached, run directoryStep Directory.initial before = some reached ∧
        LookupAgrees (registered before) reached rank opened) : DirectoryAgrees actions := by
  refine ⟨each, ?_⟩
  intro before rank opened middle again after address state later parted ran ranLater found
  obtain ⟨reached, same, first⟩ := each before rank opened _ parted
  obtain ⟨reachedLater, sameLater, second⟩ := each (before ++ .lookup rank opened :: middle) rank
    again after (by simp [parted])
  rw [ran, Option.some.injEq] at same
  rw [ranLater, Option.some.injEq] at sameLater
  subst reached reachedLater
  rw [first.resolved, Lookup.address.injEq] at found
  rw [second.resolved, registered_lookup, firstAddress_append found]

/-- The lookups of a run agree with the address file exactly when the file can be opened
whenever a rank has to be looked up in it. -/
theorem lookups_agree (actions : List DirectoryAction) (final : Directory)
    (plain : ∀ rank address, .register rank address ∈ actions → PlainWord address)
    (ran : run directoryStep Directory.initial actions = some final) :
    DirectoryAgrees actions ↔ Meets directoryStep FileOpens Directory.initial actions := by
  rw [meets_iff_forall]
  constructor
  · intro agrees before action after middle parted reached
    by_contra refused
    cases action with
    | register rank address => exact refused trivial
    | lookup rank opened =>
        obtain ⟨again, same, agree⟩ := agrees.each before rank opened after parted
        rw [reached, Option.some.injEq] at same
        subst again
        have resolved := agree.resolved
        simp only [FileOpens, not_or, Bool.not_eq_true, Option.isSome_eq_false_iff,
          Option.isNone_iff_eq_none] at refused
        simp [hvacClientCommLookupAddr, refused] at resolved
  · intro meets
    apply sticky_of_each
    intro before rank opened after parted
    subst actions
    obtain ⟨reached, there, _⟩ := (run_append _ before _ final).mp ran
    have inv := run_directoryInv
      (fun rank address member => plain rank address (by simp [member])) there
    exact ⟨reached, there, inv.lookupAgrees (meets before _ after reached rfl there)⟩

def lookupTwice : List DirectoryAction := [
  .register 0 "n0", .lookup 1 true, .register 1 "n1",
  .lookup 1 true, .register 1 "n2", .lookup 1 false
]

theorem lookups_agree_lookupTwice : DirectoryAgrees lookupTwice := by
  have returns : (run directoryStep Directory.initial lookupTwice).isSome = true := by decide
  obtain ⟨final, ran⟩ := Option.isSome_iff_exists.mp returns
  refine (lookups_agree lookupTwice final ?_ ran).mpr ?_
  · intro rank address member
    simp only [lookupTwice, List.mem_cons, DirectoryAction.register.injEq, reduceCtorEq,
      List.not_mem_nil, or_false, false_or] at member
    rcases member with ⟨_, same⟩ | ⟨_, same⟩ | ⟨_, same⟩
    all_goals
      rw [same]
      decide
  · refine ⟨trivial, Or.inr (by decide), trivial, Or.inr (by decide), trivial,
      Or.inl (by decide), trivial⟩

theorem early_lookup_crashes : ¬ ∀ (actions : List DirectoryAction) (final : Directory),
    (∀ rank address, .register rank address ∈ actions → PlainWord address) →
    run directoryStep Directory.initial actions = some final → DirectoryAgrees actions := by
  intro agrees
  have returns : (run directoryStep Directory.initial [.lookup 0 true]).isSome = true := by decide
  obtain ⟨final, ran⟩ := Option.isSome_iff_exists.mp returns
  obtain ⟨reached, there, agree⟩ := (agrees _ final (by simp) ran).each [] 0 true [] rfl
  simp only [run, Option.some.injEq] at there
  subst reached
  have resolved := agree.resolved
  revert resolved
  decide

end HvacCache
