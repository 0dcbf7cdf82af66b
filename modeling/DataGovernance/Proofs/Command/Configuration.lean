import DataGovernance.Command.Surroundings
import Mathlib.Data.List.Find

/-!
# Saving a file keeps the configuration

The settings and the variables of a command are looked for at certain paths. A file can be saved
without a change to them if none of these paths leads to its place. Different paths may lead to the
same place, as from the root and from the directory of the command, or through a directory and back.

Key definitions: `Surroundings.place`, `Surroundings.saved`, `Surroundings.configurationPaths`,
`Surroundings.Apart`.
Key theorems: `Surroundings.fullEnvironment_saved`, `Surroundings.sources_saved`.
-/

namespace DataGovernance.Surroundings

/-- The place that a path leads to: the names from the root on, where two points lead back up. -/
def place (w : Surroundings) (path : String) : List String :=
  (FilePath.names (w.fullPath path)).foldl
    (fun above name => if name = ".." then above.dropLast else above ++ [name]) []

/-- The surroundings with a text saved to a file, which is found by every path to its place. -/
def saved (w : Surroundings) (file text : String) : Surroundings :=
  { w with files := fun path => if w.place path = w.place file then .ok text else w.files path }

/-- The paths at which the settings and the variables of a command are looked for. -/
def configurationPaths (w : Surroundings) : List String :=
  w.variablePaths ++ FilePath.searchPaths w.directory variablesName ++
    (w.settingsPaths w.fullEnvironment).flatMap (FilePath.searchPaths w.directory)

/-- A file is none of those of the configuration. -/
def Apart (w : Surroundings) (file : String) : Prop :=
  ∀ path ∈ w.configurationPaths, w.place path ≠ w.place file

variable {w : Surroundings} {file path : String}

theorem files_saved (w : Surroundings) (file text : String) :
    (w.saved file text).files file = .ok text :=
  if_pos rfl

section

variable (h : w.place path ≠ w.place file) (text : String)
include h

theorem files_saved_of_ne : (w.saved file text).files path = w.files path := if_neg h

theorem isTaken_saved : (w.saved file text).isTaken path = w.isTaken path := by
  simp only [isTaken, files_saved_of_ne h]

theorem isFile_saved : (w.saved file text).isFile path = w.isFile path := by
  simp only [isFile, files_saved_of_ne h, isTaken_saved h]

theorem goesOn_saved : (w.saved file text).goesOn path = w.goesOn path := by
  simp only [goesOn, files_saved_of_ne h]

end

/-! ### Variables -/

theorem mem_of_variablesPath? (h : w.variablesPath? = some path) :
    path ∈ w.variablePaths ++ FilePath.searchPaths w.directory variablesName := by
  rw [variablesPath?, Option.or_eq_some_iff] at h
  rw [List.mem_append]
  exact h.imp List.mem_of_find?_eq_some fun h => List.mem_of_find?_eq_some h.2

theorem Apart.place_ne_of_variables (h : w.Apart file)
    (hpath : path ∈ w.variablePaths ++ FilePath.searchPaths w.directory variablesName) :
    w.place path ≠ w.place file :=
  h path (List.mem_append_left _ hpath)

theorem variablesPath?_saved (h : w.Apart file) (text : String) :
    (w.saved file text).variablesPath? = w.variablesPath? := by
  have htaken : ∀ path ∈ w.variablePaths, (w.saved file text).isTaken path = w.isTaken path :=
    fun path hpath => isTaken_saved (h.place_ne_of_variables (List.mem_append_left _ hpath)) text
  have hgoes : ∀ path ∈ FilePath.searchPaths w.directory variablesName,
      (!(w.saved file text).goesOn path) = !w.goesOn path := fun path hpath =>
    congrArg _ (goesOn_saved (h.place_ne_of_variables (List.mem_append_right _ hpath)) text)
  rw [variablesPath?, variablesPath?, ← List.find?_congr htaken, ← List.find?_congr hgoes]
  rfl

theorem fullEnvironment_saved (h : w.Apart file) (text : String) :
    (w.saved file text).fullEnvironment = w.fullEnvironment := by
  have hfiles : w.variablesPath?.map (w.saved file text).files = w.variablesPath?.map w.files := by
    refine Option.map_congr fun path hpath => ?_
    exact files_saved_of_ne (h.place_ne_of_variables (mem_of_variablesPath? hpath)) text
  simp only [fullEnvironment, variablesPath?_saved h, hfiles]
  rfl

/-! ### Settings -/

section

variable (h : ∀ p ∈ FilePath.searchPaths w.directory path, w.place p ≠ w.place file) (text : String)
include h

theorem foundSettings?_saved : (w.saved file text).foundSettings? path = w.foundSettings? path := by
  have htaken : (w.saved file text).isTaken (w.fullPath path) = w.isTaken (w.fullPath path) :=
    isTaken_saved (h _ (.head _)) text
  have hfile : ∀ p ∈ FilePath.searchPaths w.directory path,
      (w.saved file text).isFile p = w.isFile p := fun p hp => isFile_saved (h p hp) text
  simp only [foundSettings?, ← List.find?_congr hfile, ← htaken]
  rfl

theorem settingsFile_saved : (w.saved file text).settingsFile path = w.settingsFile path := by
  rw [settingsFile, foundSettings?_saved h]
  refine List.map_congr_left fun found hfound => ?_
  rw [Option.mem_toList, foundSettings?] at hfound
  have hmem : found ∈ FilePath.searchPaths w.directory path := by
    split at hfound
    · exact List.mem_of_find?_eq_some hfound
    · cases hfound
  rw [files_saved_of_ne (h found hmem)]
  rfl

end

theorem configurationPaths_saved (h : w.Apart file) (text : String) :
    (w.saved file text).configurationPaths = w.configurationPaths := by
  rw [configurationPaths, fullEnvironment_saved h]
  rfl

theorem Apart.saved (h : w.Apart file) (text : String) : (w.saved file text).Apart file := by
  unfold Apart
  rw [configurationPaths_saved h]
  exact h

/-- **The settings come from the same sources** after a file has been saved that is none of them. -/
theorem sources_saved (h : w.Apart file) (text : String) :
    (w.saved file text).sources = w.sources := by
  have hfiles : (w.settingsPaths w.fullEnvironment).map (w.saved file text).settingsFile =
      (w.settingsPaths w.fullEnvironment).map w.settingsFile := by
    refine List.map_congr_left fun path hpath => settingsFile_saved (fun p hp => ?_) text
    exact h p (List.mem_append_right _ (List.mem_flatMap_of_mem hpath hp))
  simp only [sources, sourcesIn, fullEnvironment_saved h, List.flatMap_def, ← hfiles]
  rfl

end DataGovernance.Surroundings
