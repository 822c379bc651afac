import HvacCache.Descriptors

/-! What a failed open leaves on a server. Its `-1` is recorded like a descriptor, travels
to the client and comes back in the close request, where the assertion on `close` fails. -/

namespace HvacCache

open Posix Transition

/-- The assertion of the close handler holds when it is reached, and the recorded
descriptors are those that are open, besides the one that the close handler has closed and
is about to erase. -/
structure Server.Intact (server : Server) : Prop where
  asserted : ∀ fd, server.handler = .closeRpc fd → (close server.kernel fd).1 = 0
  recorded : ∀ fd : Int, (server.fdToPath[fd]?).isSome ↔
    (server.kernel[fd]?).isSome ∨ server.handler.closed? = some fd

section
variable {contents : String → Option Bytes} {server next : Server}

def Server.NothingStale (server : Server) : Prop :=
  ∀ (fd : Int) (path : String), server.fdToPath[fd]? = some path →
    (server.kernel[fd]?).isSome ∨ server.handler.closed? = some fd

theorem nothingStale_initial : Server.initial.NothingStale := by
  intro fd path found
  simp [Server.initial] at found

theorem Server.NothingStale.of_same (clean : server.NothingStale)
    (sameKernel : ∀ fd : Int, (next.kernel[fd]?).isSome = (server.kernel[fd]?).isSome)
    (samePaths : next.fdToPath = server.fdToPath)
    (sameClosed : next.handler.closed? = server.handler.closed?) : next.NothingStale := by
  intro fd path found
  rw [samePaths] at found
  rw [sameKernel, sameClosed]
  exact clean fd path found

theorem Server.NothingStale.opened (clean : server.NothingStale)
    (serving : server.handler.closed? = none) (fd : Int) (descriptor : Descriptor) (path : String) :
    Server.NothingStale { server with
      kernel := server.kernel.insert fd descriptor
      fdToPath := server.fdToPath.insert fd path
      handler := .idle } := by
  intro other recorded found
  refine Or.inl ?_
  rcases OrderedMap.found_insert found with ⟨same, _⟩ | ⟨different, old⟩
  · subst other
    simp
  · simp only [OrderedMap.getElem?_insert_ite, if_neg (Ne.symm different)]
    exact (clean other recorded old).resolve_right (by simp [serving])

theorem Server.NothingStale.closed (clean : server.NothingStale) (inv : DescriptorInv server)
    {fd : Int} {descriptor : Descriptor} {handler : HandlerPc}
    (closing : server.handler = .closeRpc fd) (found : server.kernel[fd]? = some descriptor)
    (closed : handler.closed? = some fd) :
    Server.NothingStale { server with
      kernel := server.kernel.erase fd
      fdToPath := (OrderedMap.index server.fdToPath fd).2
      handler } := by
  obtain ⟨_, _, path, recorded, _⟩ := inv.recorded fd descriptor found
  rw [OrderedMap.index_of_some recorded]
  intro other original stored
  by_cases same : other = fd
  · exact Or.inr (same ▸ closed)
  · refine Or.inl ?_
    simp only [OrderedMap.getElem?_erase_ite, if_neg (Ne.symm same)]
    exact (clean other original stored).resolve_right (by simp [closing, HandlerPc.closed?])

theorem Server.NothingStale.erased (clean : server.NothingStale) {fd : Int}
    (erasing : server.handler = .closeErase fd) :
    Server.NothingStale
      { server with handler := .idle, fdToPath := server.fdToPath.erase fd } := by
  intro other path found
  obtain ⟨different, old⟩ := OrderedMap.found_erase found
  refine Or.inl ((clean other path old).resolve_right ?_)
  simpa [erasing, HandlerPc.closed?] using Ne.symm different

theorem ServerEffect.nothingStale {action : ServerAction} {response : Option Response}
    (effect : ServerEffect contents server action next response)
    (succeeds : action ≠ .openFile (-1)) (inv : DescriptorInv server)
    (clean : server.NothingStale) : next.NothingStale := by
  have readSame : ∀ (failure : Bool) (accessfd : Int) (size : Nat) (offset : Int)
      (outcome : ReadResult × Table),
      handlerRead contents server failure accessfd size offset = outcome →
      ∀ fd : Int, (outcome.2[fd]?).isSome = (server.kernel[fd]?).isSome := by
    intro failure accessfd size offset outcome result fd
    subst outcome
    have same := handlerRead_sameFiles contents server failure accessfd size offset fd
    simpa using (congrArg Option.isSome same).symm
  cases effect with
  | openFailed handle path redirPath opening => exact absurd rfl succeeds
  | opened handle path redirPath fd opening unused present =>
      exact clean.opened (by simp [opening, HandlerPc.closed?]) fd _ path
  | readDone handle inputVal accessfd offset failure outcome reading allocated result fits =>
      exact clean.of_same (readSame _ _ _ _ outcome result) rfl (by simp [reading, HandlerPc.closed?])
  | readOverrun handle inputVal accessfd offset failure outcome reading allocated result overrun =>
      exact clean.of_same (readSame _ _ _ _ outcome result) rfl (by simp [reading, HandlerPc.closed?])
  | closed fd descriptor closing found =>
      refine clean.closed inv closing found ?_
      split <;> rfl
  | pushPath fd pushing =>
      obtain ⟨_, path, recorded⟩ := inv.forgetting fd (by simp [pushing, HandlerPc.closed?])
      simp only [OrderedMap.index_of_some recorded]
      exact clean.of_same (fun _ => rfl) rfl (by simp [pushing, HandlerPc.closed?])
  | erasePath fd erasing => exact clean.erased erasing
  | _ => exact clean.of_same (fun _ => rfl) rfl (by simp [HandlerPc.closed?, *])

end

section
variable {env : Nat → ClientEnv} {contents : String → Option Bytes} {cluster next : Cluster}

theorem ClusterEffect.nothingStale {action : ClusterAction}
    (effect : ClusterEffect env contents cluster action next)
    (succeeds : OpensSucceed cluster action) (inv : Agreement env contents cluster)
    (clean : ∀ address, (cluster.servers address).NothingStale) :
    ∀ address, (next.servers address).NothingStale := by
  cases effect with
  | called client action state outgoing effect => simpa using clean
  | accepted id address request state found effect =>
      exact forall_setServer (fun _ server => server.NothingStale) clean
        (effect.nothingStale nofun (inv.descriptors address) (clean address))
  | served address action state response serving effect =>
      rw [servers_post]
      refine forall_setServer (fun _ server => server.NothingStale) clean
        (effect.nothingStale ?_ (inv.descriptors address) (clean address))
      intro failed
      subst action
      exact succeeds rfl
  | answered id address response state found received => simpa using clean

theorem run_nothingStale {actions : List ClusterAction}
    (succeed : Meets (clusterStep env contents) OpensSucceed Cluster.initial actions)
    (ran : run (clusterStep env contents) Cluster.initial actions = some cluster) :
    Agreement env contents cluster ∧ ∀ address, (cluster.servers address).NothingStale := by
  have preserved : ∀ before action after,
      (Agreement env contents before ∧ ∀ address, (before.servers address).NothingStale) →
      OpensSucceed before action → clusterStep env contents before action = some after →
      Agreement env contents after ∧ ∀ address, (after.servers address).NothingStale := by
    intro before action after ⟨inv, clean⟩ guarded stepped
    have effect := clusterStep_effect stepped
    exact ⟨effect.agreement guarded inv, effect.nothingStale guarded inv clean⟩
  exact run_invariant_of_meets preserved ⟨agreement_initial, fun _ => nothingStale_initial⟩
    succeed ran

theorem Agreement.intact (inv : Agreement env contents cluster) {address : String}
    (clean : (cluster.servers address).NothingStale) : (cluster.servers address).Intact := by
  constructor
  · intro fd closing
    have owned : cluster.owned env (.inl (.handler address)) = some (address, fd) := by
      simp [Cluster.owned, Cluster.transit, closing, HandlerPc.request?, Message.named?]
    obtain ⟨descriptor, opened⟩ := inv.live _ address fd owned
    simp [Posix.close, opened]
  · intro fd
    constructor
    · intro found
      obtain ⟨path, recorded⟩ := Option.isSome_iff_exists.mp found
      exact clean fd path recorded
    · rintro (opened | closed)
      · obtain ⟨descriptor, found⟩ := Option.isSome_iff_exists.mp opened
        obtain ⟨_, _, path, recorded, _⟩ := (inv.descriptors address).recorded fd descriptor found
        simp [recorded]
      · obtain ⟨_, path, recorded⟩ := (inv.descriptors address).forgetting fd closed
        simp [recorded]

theorem openFailed_not_intact {address : String}
    (stepped : clusterStep env contents cluster (.serve address (.openFile (-1))) = some next)
    (inv : DescriptorInv (cluster.servers address)) : ¬ (next.servers address).Intact := by
  intro intact
  cases clusterStep_effect stepped with
  | served _ _ state response serving effect =>
      have recorded := intact.recorded (-1)
      cases effect with
      | openFailed handle path redirPath opening =>
          have closed : (cluster.servers address).kernel[(-1 : Int)]? = none := by
            by_contra descriptorOpen
            obtain ⟨descriptor, found⟩ := Option.ne_none_iff_exists'.mp descriptorOpen
            have lower := (inv.recorded (-1) descriptor found).1
            omega
          simp [closed, HandlerPc.closed?] at recorded
      | opened handle path redirPath fd opening unused present => exact absurd unused.1 (by decide)

end

/-- Every server is intact in every state of a run exactly when none of its opens fails. -/
theorem servers_survive (env : Nat → ClientEnv) (contents : String → Option Bytes)
    (actions : List ClusterAction) (cluster : Cluster)
    (ran : run (clusterStep env contents) Cluster.initial actions = some cluster) :
    (∀ before after reached, actions = before ++ after →
      run (clusterStep env contents) Cluster.initial before = some reached →
      ∀ address, (reached.servers address).Intact) ↔
    Meets (clusterStep env contents) OpensSucceed Cluster.initial actions := by
  constructor
  · intro intact
    by_contra failed
    obtain ⟨before, action, after, middle, parted, met, reached, refused⟩ :=
      exists_of_not_meets failed
    obtain ⟨address, called⟩ : ∃ address, action = .serve address (.openFile (-1)) := by
      by_contra other
      refine refused ?_
      unfold OpensSucceed
      split
      · rename_i address fd
        intro failed
        exact other ⟨address, by rw [failed]⟩
      · trivial
    subst action
    obtain ⟨next, stepped, _⟩ := run_at (parted ▸ ran) reached
    have there := (run_concat Cluster.initial before _ next).mpr ⟨middle, reached, stepped⟩
    exact openFailed_not_intact stepped ((run_agreement met reached).descriptors address)
      (intact _ after next (by simp [parted]) there address)
  · intro succeed before after reached parted there address
    obtain ⟨inv, clean⟩ := run_nothingStale (meets_of_append (parted ▸ succeed)).1 there
    exact inv.intact (clean address)

theorem servers_survive_lateClose : ∃ cluster,
    run (clusterStep (fun _ => twoServers) oneFile) Cluster.initial lateClose = some cluster ∧
    ∀ before after reached, lateClose = before ++ after →
      run (clusterStep (fun _ => twoServers) oneFile) Cluster.initial before = some reached →
      ∀ address, (reached.servers address).Intact := by
  have returns : (run (clusterStep (fun _ => twoServers) oneFile) Cluster.initial
      lateClose).isSome = true := by decide
  obtain ⟨cluster, ran⟩ := Option.isSome_iff_exists.mp returns
  have succeed : ∀ action ∈ lateClose, ∀ before, OpensSucceed before action := by
    simp [lateClose, OpensSucceed]
  exact ⟨cluster, ran, (servers_survive (fun _ => twoServers) oneFile lateClose cluster ran).mpr
    (meets_of_forall succeed Cluster.initial)⟩

def closeFailedOpen : List ClusterAction := [
  .call 0 (.openCall "/d/f" readOnly 3), .deliverRequest 0, .serve "s0" .redirect,
  .serve "s0" (.openFile (-1)), .deliverResponse 1, .call 0 .wake, .call 0 (.closeCall 3),
  .deliverRequest 2
]

theorem failed_open_breaks_close : ¬ ∀ (env : Nat → ClientEnv) (contents : String → Option Bytes)
    (actions : List ClusterAction) (cluster : Cluster),
    run (clusterStep env contents) Cluster.initial actions = some cluster →
    ∀ address, (cluster.servers address).Intact := by
  intro intact
  have reached : (run (clusterStep (fun _ => twoServers) oneFile) Cluster.initial
      closeFailedOpen).map (fun cluster => ((cluster.servers "s0").handler,
        (close (cluster.servers "s0").kernel (-1)).1)) = some (.closeRpc (-1), -1) := by decide
  obtain ⟨cluster, ran, facts⟩ := Option.map_eq_some_iff.mp reached
  simp only [Prod.mk.injEq] at facts
  have asserted := (intact _ oneFile closeFailedOpen cluster ran "s0").asserted (-1) facts.1
  rw [facts.2] at asserted
  omega

end HvacCache
