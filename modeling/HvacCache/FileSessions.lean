import HvacCache.Library.Sessions
import HvacCache.ReadTransparency

/-! What an application gets that opens a file, reads it in pieces and closes it: the file,
whichever servers and copies the pieces come from. -/

namespace HvacCache

open Posix Transition

section
variable {env : ClientEnv} {calls : List ClientAction} {client : Client}

theorem mem_callsOf {self : Nat} {actions : List ClusterAction} {call : ClientAction}
    (made : call ∈ callsOf self actions) : .call self call ∈ actions := by
  obtain ⟨action, member, same⟩ := List.mem_flatMap.mp made
  cases action with
  | call caller other =>
      simp only [ClusterAction.called] at same
      split at same
      · rename_i self
        subst caller
        cases other with
        | wake => simp [ClientAction.calls] at same
        | _ =>
            simp only [ClientAction.calls, List.mem_singleton] at same
            exact same ▸ member
      · simp at same
  | _ => simp [ClusterAction.called] at same

theorem answered_of_mem {answered : List ClientAction} {trace : List Event} {event : Event}
    (all : List.Forall₂ (Answers env) answered trace) (seen : event ∈ trace) :
    ∃ call ∈ answered, Answers env call event := by
  induction all with
  | nil => simp at seen
  | cons answers rest ih =>
      rcases List.mem_cons.mp seen with rfl | later
      · exact ⟨_, by simp, answers⟩
      · obtain ⟨call, member, same⟩ := ih later
        exact ⟨call, by simp [member], same⟩

theorem Tallied.readCall (tallied : Tallied env client calls) {fd : Int} {count : Nat}
    {result : ReadResult} (seen : .read fd count result ∈ client.trace) :
    .readCall fd count ∈ calls := by
  obtain ⟨answered, pending, rfl, all, _⟩ := tallied
  obtain ⟨call, member, answers⟩ := answered_of_mem all seen
  cases call with
  | readCall asked length =>
      obtain ⟨rfl, rfl⟩ := answers
      simp [member]
  | _ => exact absurd answers (by simp [Answers])

end

section
variable {env : Nat → ClientEnv} {contents : String → Option Bytes} {cluster : Cluster}
  {actions : List ClusterAction}

theorem run_asking
    (faithful : Meets (clusterStep env contents) Faithful Cluster.initial actions)
    (ran : run (clusterStep env contents) Cluster.initial actions = some cluster) (client : Nat)
    (fd : Int) : Asking fd (cluster.clients client).trace := by
  intro count result seen
  have made := mem_callsOf ((run_tallied client ran).readCall seen)
  have inRange := forall_of_meets
    (fun action => ∀ caller seen asked, action = .call caller (.readCall seen asked) →
      1 ≤ asked ∧ asked ≤ 0x7ffff000)
    (by
      rintro state action guarded caller seen asked rfl
      exact guarded) faithful ran _ made client fd count rfl
  exact ⟨inRange.1, by omega⟩

end

/-- In every run in which the server calls succeed and each call asks for something, but for no
more than a single transfer can serve, from the return of an open to the close of the
descriptor: the results of the reads, one after the other, are the beginning of the
file. A read that returns 0 has all of it before it, and one that comes after more reads than
the file has bytes has too. -/
theorem sessions_read_their_file (env : Nat → ClientEnv) (contents : String → Option Bytes)
    (registered : ∀ client, Registered (env client)) (actions : List ClusterAction)
    (cluster : Cluster)
    (faithful : Meets (clusterStep env contents) Faithful Cluster.initial actions)
    (ran : run (clusterStep env contents) Cluster.initial actions = some cluster) (client : Nat)
    (before during : List Event) (file : String) (mode : AccessMode) (fd : Int) (bytes : Bytes)
    (traced : (cluster.clients client).trace = before ++ .opened file mode fd :: during)
    (opened : ∀ ret, .closed fd ret ∉ during) (readable : mode ≠ .writeOnly)
    (found : contents file = some bytes) :
    sessionBytes fd during <+: bytes ∧
    (∀ count result, .read fd count result ∈ during → result.ret = 0 →
      sessionBytes fd during = bytes) ∧
    (bytes.length < sessionReads fd during → sessionBytes fd during = bytes) := by
  obtain ⟨table, shown, mirror⟩ :=
    (run_alive registered faithful ran).transparent.mirrors client
  have replayed := mirror.replayed
  rw [traced] at replayed
  obtain ⟨start, _, followed⟩ := (run_append _ _ _ _).mp replayed
  have asking : Asking fd during := by
    intro count result member
    refine run_asking faithful ran client fd count result ?_
    rw [traced]
    simp [member]
  have session := run_session found readable asking opened followed
  exact ⟨session.front, session.ended, session.whole⟩

def readToEnd : List ClusterAction := [
  .call 0 (.openCall "/d/f" readOnly 3), .deliverRequest 0, .serve "s0" .redirect,
  .serve "s0" (.openFile 5), .deliverResponse 1, .call 0 .wake,
  .call 0 (.readCall 3 9), .deliverRequest 2, .serve "s0" (.readFile false),
  .deliverResponse 3, .call 0 .wake, .call 0 (.readCall 3 9), .deliverRequest 4,
  .serve "s0" (.readFile false), .deliverResponse 5, .call 0 .wake
]

theorem sessions_read_their_file_readToEnd : ∃ cluster during,
    run (clusterStep (fun _ => twoServers) oneFile) Cluster.initial readToEnd = some cluster ∧
    (cluster.clients 0).trace = [] ++ .opened "/d/f" .readOnly 3 :: during ∧
    sessionReads 3 during = 2 ∧
    sessionBytes 3 during <+: [1, 2, 3] ∧
    (∀ count result, .read 3 count result ∈ during → result.ret = 0 →
      sessionBytes 3 during = [1, 2, 3]) ∧
    (List.length [1, 2, 3] < sessionReads 3 during → sessionBytes 3 during = [1, 2, 3]) := by
  have reached : (run (clusterStep (fun _ => twoServers) oneFile) Cluster.initial readToEnd).map
      (fun cluster => (cluster.clients 0).trace) =
      some [.opened "/d/f" .readOnly 3, .read 3 9 { ret := 3, data := [1, 2, 3] },
        .read 3 9 { ret := 0, data := [] }] := by decide
  obtain ⟨cluster, ran, traced⟩ := Option.map_eq_some_iff.mp reached
  refine ⟨cluster, _, ran, traced, by decide, ?_⟩
  exact sessions_read_their_file (fun _ => twoServers) oneFile (fun _ => twoServers_registered)
    readToEnd cluster (by decide) ran 0 [] _ "/d/f" .readOnly 3 [1, 2, 3] traced (by simp)
    (by decide) (by decide)

end HvacCache
