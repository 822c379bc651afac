import HvacCache.Descriptors
import HvacCache.Library.Separated

/-! Which files `hvac_track_file` tracks when the data directory is set. The user means the
files below that directory; the code looks for the text of the directory in the text of the
path. -/

namespace HvacCache

open Separated

/-- A path as `std::filesystem::canonical` gives it: absolute, with one slash in front of
each name. -/
structure CanonicalPath where
  names : List (List Char)
  valid : ∀ name ∈ names, IsName '/' name

namespace CanonicalPath

def text (path : CanonicalPath) : String :=
  if path.names = [] then "/" else String.ofList (written '/' path.names)

def parent (path : CanonicalPath) : CanonicalPath := {
  names := path.names.dropLast
  valid := fun name member => path.valid name (List.dropLast_subset _ member)
}

def Contains (dir path : CanonicalPath) : Prop :=
  dir.names <+: path.names

instance (dir path : CanonicalPath) : Decidable (dir.Contains path) :=
  inferInstanceAs (Decidable (dir.names <+: path.names))

variable {dir path : CanonicalPath}

theorem text_of_root (root : path.names = []) : path.text = "/" := by
  exact if_pos root

theorem text_toList (below : path.names ≠ []) : path.text.toList = written '/' path.names := by
  rw [text, if_neg below, String.toList_ofList]

theorem text_eq_root_iff : path.text = "/" ↔ path.names = [] := by
  constructor
  · intro same
    by_contra below
    have whole := text_toList below
    rw [same] at whole
    cases listed : path.names with
    | nil => exact below listed
    | cons name names =>
        obtain ⟨named, _⟩ := path.valid name (by simp [listed])
        simp [listed, named] at whole
  · exact text_of_root

theorem text_absolute (path : CanonicalPath) : path.text.toList.head? = some '/' := by
  by_cases root : path.names = []
  · rw [text_of_root root]
    decide
  · rw [text_toList root]
    cases names : path.names with
    | nil => exact absurd names root
    | cons name names => simp

theorem text_dropName {above : List (List Char)} {last : List Char}
    (split : path.names = above ++ [last]) :
    (path.text.toList.reverse.dropWhile (· ≠ '/')).dropWhile (· = '/') =
      (written '/' above).reverse := by
  have lastName := path.valid last (by simp [split])
  have aboveNames : ∀ name ∈ above, IsName '/' name :=
    fun name member => path.valid name (by simp [split, member])
  rw [text_toList (by simp [split]), split]
  simp only [written_append, written_cons, written_nil, List.append_nil, List.reverse_append,
    List.reverse_cons, List.append_assoc, List.singleton_append]
  rw [dropWhile_ne_append (by simpa using lastName.2), List.dropWhile_cons_of_pos (by simp)]
  exact dropWhile_eq_reverse_written aboveNames

theorem parentPath_text (path : CanonicalPath) : parentPath path.text = path.parent.text := by
  rcases List.eq_nil_or_concat path.names with root | ⟨above, last, split⟩
  · have rootParent : path.parent.names = [] := by simp [parent, root]
    rw [text_of_root root, text_of_root rootParent]
    decide
  · rw [List.concat_eq_append] at split
    have parentNames : path.parent.names = above := by simp [parent, split]
    simp only [parentPath, text_dropName split, List.reverse_eq_nil_iff, List.reverse_reverse]
    cases above with
    | nil => rw [if_pos ⟨by simp, text_absolute path⟩, text_of_root parentNames]
    | cons name above => simp [text, parentNames]

end CanonicalPath

open CanonicalPath

/-- `dir` stands at the start of `parent`, and a name of `parent` ends where `dir` ends. -/
def StartsWithDir (dir parent : String) : Prop :=
  dir = "/" ∨ ∃ rest, parent.toList = dir.toList ++ rest ∧ Boundary '/' rest

theorem contains_iff_startsWithDir (dir path : CanonicalPath) :
    dir.Contains path ↔ StartsWithDir dir.text path.text := by
  by_cases root : dir.names = []
  · simp [Contains, StartsWithDir, root, text_of_root root]
  · have notRoot : dir.text ≠ "/" := mt text_eq_root_iff.mp root
    simp only [Contains, StartsWithDir, notRoot, false_or, text_toList root]
    by_cases pathRoot : path.names = []
    · cases listed : dir.names with
      | nil => exact absurd listed root
      | cons name names =>
          have named := (dir.valid name (by simp [listed])).1
          simp [pathRoot, text_of_root pathRoot, named]
    · rw [text_toList pathRoot, prefix_iff_written dir.valid path.valid]

section
variable {env : ClientEnv} {dir pathname : String} {flags : OpenFlags}
  {dataDir file : CanonicalPath}

theorem trackedPath_isSome (configured : env.dataDir = some dir)
    (located : env.canonical dir = some dataDir.text)
    (existing : env.canonical pathname = some file.text)
    (plain : ¬ ".ports.cfg.".toList <:+: pathname.toList)
    (reads : flags.access ≠ .writeOnly) (keeps : flags.append = false) :
    (trackedPath env pathname flags).isSome ↔
      dataDir.text.toList <:+: file.parent.text.toList := by
  have searched : inDataDir env file.text =
      decide (dataDir.text.toList <:+: file.parent.text.toList) := by
    simp only [inDataDir, configured, located, parentPath_text]
  unfold trackedPath
  simp only [plain, reads, keeps, existing, searched, ↓reduceIte, Bool.false_eq_true]
  split <;> rename_i found <;> simpa using found

theorem StartsWithDir.infix {parent : String} (starts : StartsWithDir dir parent)
    (absolute : parent.toList.head? = some '/') : dir.toList <:+: parent.toList := by
  rcases starts with rfl | ⟨rest, split, _⟩
  · cases symbols : parent.toList with
    | nil => simp [symbols] at absolute
    | cons first rest =>
        have slash : first = '/' := by simpa [symbols] using absolute
        exact ⟨[], rest, by simp [slash]⟩
  · exact ⟨[], rest, by simp [split]⟩

/-- The search gives the wrong answer exactly where it finds the text of the directory only
further down in the path, or in front of the rest of a name. -/
theorem tracking_follows_dataDir (configured : env.dataDir = some dir)
    (located : env.canonical dir = some dataDir.text)
    (existing : env.canonical pathname = some file.text)
    (plain : ¬ ".ports.cfg.".toList <:+: pathname.toList)
    (reads : flags.access ≠ .writeOnly) (keeps : flags.append = false) :
    ((trackedPath env pathname flags).isSome ↔ dataDir.Contains file.parent) ↔
      (dataDir.text.toList <:+: file.parent.text.toList →
        StartsWithDir dataDir.text file.parent.text) := by
  rw [trackedPath_isSome configured located existing plain reads keeps,
    contains_iff_startsWithDir]
  constructor
  · intro agree found
    exact agree.mp found
  · intro atStart
    exact ⟨atStart, fun starts => starts.infix (text_absolute file.parent)⟩

end

section

def dataAndDatabase : ClientEnv := { twoServers with dataDir := some "/data" }

def dataPath : CanonicalPath := {
  names := ["data".toList]
  valid := by decide
}

def databaseFile : CanonicalPath := {
  names := ["database".toList, "f".toList]
  valid := by decide
}

def trainingFile : CanonicalPath := {
  names := ["data".toList, "train".toList, "f".toList]
  valid := by decide
}

theorem sibling_directory_tracked :
    dataAndDatabase.dataDir = some dataPath.text ∧
      dataAndDatabase.canonical dataPath.text = some dataPath.text ∧
      dataAndDatabase.canonical "/database/f" = some databaseFile.text ∧
      ¬ ".ports.cfg.".toList <:+: "/database/f".toList ∧
      ¬ ((trackedPath dataAndDatabase "/database/f" readOnly).isSome ↔
        dataPath.Contains databaseFile.parent) := by
  decide

theorem tracking_follows_dataDir_trainingFile :
    ((trackedPath dataAndDatabase "/data/train/f" readOnly).isSome ↔
      dataPath.Contains trainingFile.parent) ↔
        (dataPath.text.toList <:+: trainingFile.parent.text.toList →
          StartsWithDir dataPath.text trainingFile.parent.text) := by
  have configured : dataAndDatabase.dataDir = some "/data" := rfl
  exact tracking_follows_dataDir configured (by decide) (by decide) (by decide) (by decide) rfl

end

end HvacCache
