import HvacCache.ClusterCore
import HvacCache.Library.Overwrite

/-! One client that writes. The wrappers leave `write` and `pwrite` to libc, so the bytes go
to the shared file; what a server reads from is the shared file or a copy made before. -/

namespace HvacCache

open Posix

structure Disk (shared : String → Bool) where
  files : String → Option Bytes
  placed : ∀ path, (files path).isSome → shared path = true

variable {shared : String → Bool}

def Disk.change (disk : Disk shared) (path : String) (update : Bytes → Bytes) : Disk shared where
  files other := if other = path then (disk.files path).map update else disk.files other
  placed := by
    intro other present
    refine disk.placed other ?_
    split at present
    · rename_i same
      simpa [same] using present
    · exact present

def Disk.create (disk : Disk shared) (path : String) : Disk shared where
  files other :=
    if other = path ∧ shared path = true then some ((disk.files path).getD [])
    else disk.files other
  placed := by
    intro other present
    split at present
    · rename_i named
      exact named.1 ▸ named.2
    · exact disk.placed other present

/-- The byte last written through each descriptor at each offset, as long as no other write
or truncation has replaced it. -/
abbrev Written := Int → Nat → Option UInt8

/-- The client is number 0; no step reads `written`. -/
structure SharedSystem (shared : String → Bool) where
  cluster : Cluster
  disk : Disk shared
  written : Written

def SharedSystem.initial (disk : Disk shared) : SharedSystem shared :=
  { cluster := .initial, disk, written := fun _ _ => none }

def SharedSystem.client (system : SharedSystem shared) : Client := system.cluster.clients 0

/-- `position` is where the kernel puts the bytes of a `write` or a `pwrite`. -/
inductive SharedAction
  | openFile (pathname : String) (flags : OpenFlags) (create truncate : Bool) (fd : Int)
  | write (fd : Int) (position : Nat) (data : Bytes)
  | pread (fd : Int) (count : Nat) (offset : Int)
  | close (fd : Int)
  | wake
  | deliverRequest (id : Nat)
  | serve (address : String) (action : ServerAction)
  | deliverResponse (id : Nat)
deriving DecidableEq, Repr

/-! What the calls do to the files. -/

def openDisk (disk : Disk shared) (file : String) (create truncate : Bool) (fd : Int) :
    Disk shared :=
  if fd = -1 then disk
  else
    let made := if create then disk.create file else disk
    if truncate then made.change file fun _ => [] else made

def openWritten (kernel : Table) (file : String) (truncate : Bool) (fd : Int)
    (written : Written) : Written := fun other place =>
  if fd ≠ -1 ∧ (other = fd ∨
      (truncate = true ∧ (kernel[other]?).map Descriptor.file = some file)) then none
  else written other place

def noteWrite (kernel : Table) (fd : Int) (file : String) (position : Nat) (data : Bytes)
    (written : Written) : Written := fun other place =>
  if (kernel[other]?).map Descriptor.file = some file ∧ position ≤ place ∧
      place < position + data.length then
    if other = fd then data[place - position]? else none
  else written other place

def closeWritten (fd : Int) (written : Written) : Written := fun other place =>
  if other = fd then none else written other place

/-! The mover while files change. -/

/-- `fs::copy` goes on: it appends what the source holds now behind what is copied. -/
def chunkStep (files : String → Option Bytes) (server : Server) (count : Nat) : Option Server :=
  match server.mover, server.localList with
  | .writing filename, path :: _ =>
      match files path, server.nvme[filename]? with
      | some bytes, some copied =>
          some { server with
            nvme := server.nvme.insert filename
              (copied ++ (bytes.drop copied.length).take count) }
      | _, _ => none
  | _, _ => none

/-- `fs::copy` finds no more of the source and returns; the map is updated. -/
def copyEndStep (files : String → Option Bytes) (server : Server) : Option Server :=
  match server.mover, server.localList with
  | .writing filename, path :: _ =>
      match files path, server.nvme[filename]? with
      | some bytes, some copied =>
          if bytes.length ≤ copied.length then
            some { server with
              mover := .popping
              pathCacheMap := server.pathCacheMap.insert path filename
              log := { server.log with copies := server.log.copies ++ [(path, filename)] } }
          else none
      | _, _ => none
  | _, _ => none

theorem copySteps_eq {files : String → Option Bytes} {server : Server}
    (copies : ∀ filename path rest bytes copied, server.mover = .writing filename →
      server.localList = path :: rest → files path = some bytes →
      server.nvme[filename]? = some copied → copied <+: bytes) (count : Nat) :
    chunkStep files server count = moverWriteStep files server count ∧
      copyEndStep files server = moverCopiedStep files server := by
  cases writing : server.mover with
  | writing filename =>
      cases front : server.localList with
      | nil => simp [chunkStep, moverWriteStep, copyEndStep, moverCopiedStep, writing, front]
      | cons path rest =>
          simp only [chunkStep, moverWriteStep, copyEndStep, moverCopiedStep, writing, front]
          cases source : files path with
          | none => simp
          | some bytes =>
              cases target : server.nvme[filename]? with
              | none => simp
              | some copied =>
                  have within : copied <+: bytes :=
                    copies filename path rest bytes copied writing front source target
                  obtain ⟨tail, whole⟩ := within
                  subst bytes
                  have finished : (copied ++ tail).length ≤ copied.length ↔
                      copied = copied ++ tail := by
                    rw [List.length_append, List.self_eq_append_right, ← List.length_eq_zero_iff]
                    omega
                  constructor
                  · simp [List.take_append, List.take_of_length_le]
                  · simp only [finished, Option.isSome_some, Option.some.injEq, true_and]
  | _ => simp [chunkStep, moverWriteStep, copyEndStep, moverCopiedStep, writing]

def sharedThreadAct (shared : String → Bool) (files : String → Option Bytes) (server : Server) :
    ServerAction → Option (Server × Option Response)
  | .moverMakeDir dirpath made =>
      match server.localList with
      | path :: _ =>
          if made = true ∧ shared (copyTarget dirpath path) = true then none
          else threadAct files server (.moverMakeDir dirpath made)
      | [] => none
  | .moverWrite count => silent (chunkStep files server count)
  | .moverCopied => silent (copyEndStep files server)
  | action => threadAct files server action

def sharedServerAct (shared : String → Bool) (files : String → Option Bytes) (server : Server)
    (action : ServerAction) : Option (Server × Option Response) :=
  if server.handler = .aborted then none else sharedThreadAct shared files server action

def sharedServeStep (shared : String → Bool) (files : String → Option Bytes) (cluster : Cluster)
    (address : String) : ServerAction → Option Cluster
  | .accept _ => none
  | action =>
      match sharedServerAct shared files (cluster.servers address) action with
      | none => none
      | some (state, response) =>
          some ((cluster.setServer address state).post (response.map (.response address)))

/-! The steps. -/

def SharedSystem.move (system : SharedSystem shared) (cluster : Cluster) : SharedSystem shared :=
  { system with cluster }

def sharedStep (env : ClientEnv) (system : SharedSystem shared) :
    SharedAction → Option (SharedSystem shared)
  | .openFile pathname flags create truncate fd =>
      let file := env.resolve pathname
      let disk := openDisk system.disk file create truncate fd
      (callStep (fun _ => env) disk.files system.cluster 0 (.openCall pathname flags fd)).map
        fun cluster => {
          cluster
          disk
          written := openWritten system.client.kernel file truncate fd system.written }
  | .write fd position data =>
      match system.client.kernel[fd]? with
      | some descriptor =>
          if system.client.pc = .idle ∧ descriptor.mode ≠ .readOnly ∧
              (system.disk.files descriptor.file).isSome then
            some { system with
              disk := system.disk.change descriptor.file fun bytes => overwrite bytes position data
              written := noteWrite system.client.kernel fd descriptor.file position data
                system.written }
          else none
      | none => none
  | .pread fd count offset =>
      (callStep (fun _ => env) system.disk.files system.cluster 0
        (.preadCall fd count offset)).map system.move
  | .close fd =>
      (callStep (fun _ => env) system.disk.files system.cluster 0 (.closeCall fd)).map
        fun cluster => { system with cluster, written := closeWritten fd system.written }
  | .wake =>
      (callStep (fun _ => env) system.disk.files system.cluster 0 .wake).map system.move
  | .deliverRequest id =>
      (deliverRequestStep system.disk.files system.cluster id).map system.move
  | .serve address action =>
      (sharedServeStep shared system.disk.files system.cluster address action).map system.move
  | .deliverResponse id => (deliverResponseStep system.cluster id).map system.move

/-! The requirement. -/

/-- The data of a pread hold what was written through the descriptor in their range. A pread
whose range lies outside the offsets is refused and has none. -/
def OwnBytes (client : Client) (written : Written) (fd : Int) (count : Nat) (offset : Int)
    (data : Bytes) : Prop :=
  ∀ descriptor, client.kernel[fd]? = some descriptor → descriptor.mode = .readWrite →
    0 ≤ offset → offset + count < 2 ^ 63 → ∀ index, index < min count maxTransfer →
      ∀ byte, written fd (offset.toNat + index) = some byte → data[index]? = some byte

def ReadsOwnWrites (before after : SharedSystem shared) : Prop :=
  ∀ fd count offset result,
    after.client.trace = before.client.trace ++ [.pread fd count offset result] →
    OwnBytes before.client before.written fd count offset result.data

def SharedSystem.serving (env : ClientEnv) (system : SharedSystem shared) (fd : Int) :
    Option Descriptor :=
  match system.client.fdMap[fd]? with
  | some path =>
      let remote := (OrderedMap.index system.client.fdRedirMap fd).1
      match route env system.client.addressCache path with
      | some (address, _) =>
          if remote = 0 then none else (system.cluster.servers address).kernel[remote]?
      | none => none
  | none => none

def SharedSystem.Touched (system : SharedSystem shared) (fd : Int) (count : Nat)
    (offset : Int) : Prop :=
  ∃ index, index < min count maxTransfer ∧ (system.written fd (offset.toNat + index)).isSome

/-- A server that serves a pread of an `O_RDWR` descriptor has the file itself open, not a
copy, and is asked for the whole count. -/
def SharedSystem.Unredirected (env : ClientEnv) (system : SharedSystem shared) (fd : Int)
    (count : Nat) : Prop :=
  ∀ plain ∈ system.client.kernel[fd]?, plain.mode = .readWrite →
    ∀ serving ∈ system.serving env fd, count < 2 ^ 31 ∧ serving.file = plain.file

def ServedOriginal (env : ClientEnv) (system : SharedSystem shared) : SharedAction → Prop
  | .pread fd count offset =>
      system.Touched fd count offset → system.Unredirected env fd count
  | _ => True

instance (system : SharedSystem shared) (fd : Int) (count : Nat) (offset : Int) :
    Decidable (system.Touched fd count offset) :=
  inferInstanceAs (Decidable (∃ index, index < _ ∧ _))

instance (env : ClientEnv) (system : SharedSystem shared) (fd : Int) (count : Nat) :
    Decidable (system.Unredirected env fd count) :=
  inferInstanceAs (Decidable (∀ plain ∈ system.client.kernel[fd]?, plain.mode = .readWrite →
    ∀ serving ∈ system.serving env fd, count < 2 ^ 31 ∧ serving.file = plain.file))

instance (env : ClientEnv) (system : SharedSystem shared) (action : SharedAction) :
    Decidable (ServedOriginal env system action) := by
  unfold ServedOriginal
  split <;> infer_instance

end HvacCache
