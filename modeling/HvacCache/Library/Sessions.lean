import HvacCache.Library.Posix

/-! A descriptor from its open to its close: what its reads deliver, put together, is the
file from the beginning. -/

namespace Posix

open Transition

def Event.advances (fd : Int) : Event → Bytes
  | .read seen _ result => if seen = fd then result.data else []
  | _ => []

def Event.reads (fd : Int) : Event → Bool
  | .read seen _ _ => seen = fd
  | _ => false

def sessionBytes (fd : Int) (events : List Event) : Bytes := events.flatMap (Event.advances fd)

def sessionReads (fd : Int) (events : List Event) : Nat := events.countP (Event.reads fd)

/-- No read of `fd` asks for nothing, or for more than there are offsets. -/
def Asking (fd : Int) (events : List Event) : Prop :=
  ∀ count result, Event.read fd count result ∈ events → 1 ≤ count ∧ count < 2 ^ 63

/-- The descriptor stands where its reads have led, and each of them has brought something
unless the file was at its end. -/
structure Session (bytes : Bytes) (file : String) (mode : AccessMode) (fd : Int)
    (events : List Event) (table : Table) : Prop where
  position : table[fd]? = some { file, mode, position := (sessionBytes fd events).length }
  front : sessionBytes fd events <+: bytes
  counted : sessionReads fd events ≤ (sessionBytes fd events).length ∨
    sessionBytes fd events = bytes
  ended : ∀ count result, .read fd count result ∈ events → result.ret = 0 →
    sessionBytes fd events = bytes

section
variable {files : String → Option Bytes} {bytes : Bytes} {file : String} {mode : AccessMode}
  {fd : Int} {events : List Event} {table after : Table}

theorem slice_eq_nil {position count : Nat} (positive : 1 ≤ count)
    (nothing : slice bytes position count = []) : bytes.length ≤ position := by
  have length := congrArg List.length nothing
  simp only [slice, List.length_take, List.length_drop, List.length_nil, maxTransfer] at length
  omega

theorem take_append_slice (position count : Nat) :
    bytes.take position ++ slice bytes position count <+: bytes := by
  rw [slice, ← List.take_add]
  exact List.take_prefix _ _

theorem sessionBytes_concat (event : Event) :
    sessionBytes fd (events ++ [event]) = sessionBytes fd events ++ event.advances fd := by
  simp [sessionBytes]

theorem sessionBytes_read (count : Nat) (result : ReadResult) :
    sessionBytes fd [.read fd count result] = result.data := by
  simp [sessionBytes, Event.advances]

theorem sessionReads_concat (event : Event) :
    sessionReads fd (events ++ [event]) =
      sessionReads fd events + if event.reads fd = true then 1 else 0 := by
  simp [sessionReads, List.countP_append, List.countP_cons]

theorem Session.other (session : Session bytes file mode fd events table) {event : Event}
    (still : event.reads fd = false) (kept : after[fd]? = table[fd]?) :
    Session bytes file mode fd (events ++ [event]) after := by
  have silent : event.advances fd = [] := by
    cases event with
    | read seen count result =>
        have different : ¬ seen = fd := by simpa [Event.reads] using still
        simp [Event.advances, different]
    | _ => rfl
  have same : sessionBytes fd (events ++ [event]) = sessionBytes fd events := by
    rw [sessionBytes_concat, silent, List.append_nil]
  refine ⟨?_, ?_, ?_, ?_⟩
  · rw [kept, same]
    exact session.position
  · rw [same]
    exact session.front
  · rw [sessionReads_concat, same, still]
    exact session.counted
  · intro count result member nothing
    rcases List.mem_append.mp member with old | new
    · rw [same]
      exact session.ended count result old nothing
    · rw [← List.mem_singleton.mp new] at still
      simp [Event.reads] at still

theorem Session.read (session : Session bytes file mode fd events table)
    (visible : files file = some bytes) (readable : mode ≠ .writeOnly) {count : Nat}
    (positive : 1 ≤ count) (small : count < 2 ^ 63) :
    Session bytes file mode fd
      (events ++ [.read fd count (Posix.read files table fd count).1])
      (Posix.read files table fd count).2 := by
  have shown : Posix.readable files
      { file, mode, position := (sessionBytes fd events).length } = some bytes := by
    simp [Posix.readable, readable, visible]
  rw [read_of_readable session.position shown small]
  simp only
  have before : sessionBytes fd events = bytes.take (sessionBytes fd events).length :=
    List.prefix_iff_eq_take.mp session.front
  generalize part : slice bytes (sessionBytes fd events).length count = data
  have now : sessionBytes fd (events ++ [.read fd count (delivered data)]) =
      sessionBytes fd events ++ data := by
    simp [sessionBytes_concat, Event.advances, delivered]
  have front : sessionBytes fd events ++ data <+: bytes := by
    have joined : bytes.take (sessionBytes fd events).length ++ _ <+: bytes :=
      take_append_slice (sessionBytes fd events).length count
    rwa [← before, part] at joined
  have whole : data = [] → sessionBytes fd events = bytes := by
    intro nothing
    have reached := slice_eq_nil positive (part.trans nothing)
    rw [before]
    exact List.take_of_length_le reached
  refine ⟨?_, ?_, ?_, ?_⟩
  · simp [now]
  · rw [now]
    exact front
  · rw [now, sessionReads_concat]
    by_cases nothing : data = []
    · right
      rw [nothing, List.append_nil]
      exact whole nothing
    · have grown := List.length_pos_iff.mpr nothing
      rcases session.counted with below | all
      · left
        simp only [Event.reads, List.length_append]
        split <;> omega
      · -- The file was read already, so that nothing can have come.
        have bound := front.length_le
        rw [all, List.length_append] at bound
        omega
  · intro asked result member ending
    rw [now]
    rcases List.mem_append.mp member with old | new
    · have all := session.ended asked result old ending
      have bound := front.length_le
      rw [all, List.length_append] at bound
      have nothing : data = [] := List.eq_nil_of_length_eq_zero (by omega)
      rw [nothing, List.append_nil, all]
    · have same := List.mem_singleton.mp new
      simp only [Event.read.injEq, true_and] at same
      rw [same.2] at ending
      have nothing : data = [] := by
        simpa [delivered] using ending
      rw [nothing, List.append_nil]
      exact whole nothing

theorem Session.replay (session : Session bytes file mode fd events table)
    (visible : files file = some bytes) (readable : mode ≠ .writeOnly) {event : Event}
    (asking : Asking fd (events ++ [event])) (stays : ∀ ret, event ≠ .closed fd ret)
    (replayed : replay files table event = some after) :
    Session bytes file mode fd (events ++ [event]) after := by
  cases event with
  | opened path access other =>
      simp only [Posix.replay, Option.ite_none_right_eq_some, Option.some.injEq] at replayed
      obtain ⟨⟨unused, _⟩, rfl⟩ := replayed
      refine session.other rfl ?_
      have different : other ≠ fd := by
        rintro rfl
        have present := session.position
        simp [unused.2] at present
      rw [OrderedMap.getElem?_insert_ite, if_neg different]
  | openFailed =>
      simp only [Posix.replay, Option.some.injEq] at replayed
      subst after
      exact session.other rfl rfl
  | read other count result =>
      simp only [Posix.replay, Option.ite_none_right_eq_some, Option.some.injEq] at replayed
      obtain ⟨rfl, rfl⟩ := replayed
      by_cases same : other = fd
      · subst other
        obtain ⟨positive, small⟩ := asking count (Posix.read files table fd count).1 (by simp)
        exact session.read visible readable positive small
      · exact session.other (by simpa [Event.reads] using same) (read_other (Ne.symm same))
  | pread other count offset result =>
      simp only [Posix.replay, Option.ite_none_right_eq_some, Option.some.injEq] at replayed
      obtain ⟨_, rfl⟩ := replayed
      exact session.other rfl rfl
  | closed other ret =>
      simp only [Posix.replay, Option.ite_none_right_eq_some, Option.some.injEq] at replayed
      obtain ⟨_, rfl⟩ := replayed
      have different : fd ≠ other := by
        rintro rfl
        exact stays ret rfl
      exact session.other rfl (close_other different)

theorem run_session (visible : files file = some bytes) (readable : mode ≠ .writeOnly)
    (asking : Asking fd events) (stays : ∀ ret, .closed fd ret ∉ events)
    (ran : run (replay files) table (.opened file mode fd :: events) = some after) :
    Session bytes file mode fd events after := by
  obtain ⟨start, opened, followed⟩ := (run_cons _ _ _ _).mp ran
  simp only [Posix.replay, Option.ite_none_right_eq_some, Option.some.injEq] at opened
  obtain ⟨_, rfl⟩ := opened
  have preserved : ∀ earlier before event next,
      (Asking fd earlier → (∀ ret, .closed fd ret ∉ earlier) →
        Session bytes file mode fd earlier before) →
      Posix.replay files before event = some next →
      Asking fd (earlier ++ [event]) → (∀ ret, .closed fd ret ∉ earlier ++ [event]) →
      Session bytes file mode fd (earlier ++ [event]) next := by
    intro earlier before event next session stepped asked kept
    have session := session (fun count result member => asked count result (by simp [member]))
      (fun ret member => kept ret (by simp [member]))
    refine session.replay visible readable asked ?_ stepped
    rintro ret rfl
    exact kept ret (by simp)
  refine run_history preserved ?_ followed asking stays
  intro _ _
  exact ⟨by simp [sessionBytes], by simp [sessionBytes], Or.inl (by simp [sessionReads]), by simp⟩

theorem Session.whole (session : Session bytes file mode fd events table)
    (enough : bytes.length < sessionReads fd events) : sessionBytes fd events = bytes := by
  rcases session.counted with below | all
  · have bound := session.front.length_le
    omega
  · exact all

end

end Posix
