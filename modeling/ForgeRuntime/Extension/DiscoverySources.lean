import ForgeRuntime.Extension.DeepTools
import ForgeRuntime.Lib.Segments

/-!
# The files of a workspace

A workspace has two trees of files under its root, `wiki` and `code_base`.  `loadWikiDiscoverySources` hands on
every page of the wiki under its absolute path; `findCodeBaseCandidates` hands on the best files of the code base
under their path below the tree, which it gets by cutting the tree off the absolute path.

* `relativePath_segments`, `filePath_segments` — the names that stand in such a path;
* `Workspace.files` — the workspace as what the searches of the extension read.
-/

namespace ForgeRuntime

open EventDriven EventDriven.Text

/-- A file below one of the trees: the names on the way to it, and what reading it answers. -/
structure WorkspaceFile where
  names : List String
  read : EvidenceReadResult
  names_ne_nil : names ≠ []
  names_valid : ∀ name ∈ names, name ≠ "" ∧ '/' ∉ name.toList

/-- The root, without a separator at its end, the separator of the platform, and the files of the two trees in
the order in which `walkFiles` lists them. -/
structure Workspace where
  root : String
  separator : Char
  wiki : List WorkspaceFile
  codeBase : List WorkspaceFile
  separator_valid : separator = '/' ∨ separator = '\\'

/-- Which file below its tree it is. -/
def WorkspaceFile.path (file : WorkspaceFile) : String := join "/" file.names

namespace Workspace

variable (W : Workspace)

/-- The absolute path of a tree. -/
def treePath (tree : String) : String := join (String.singleton W.separator) [W.root, tree]

/-- The absolute path of a file. -/
def filePath (tree : String) (file : WorkspaceFile) : String :=
  join (String.singleton W.separator) (W.treePath tree :: file.names)

/-- The path of a file below the code base: what stands behind the tree, with forward slashes. -/
def relativePath (file : WorkspaceFile) : String :=
  Extension.forwardSlashes
    (String.ofList ((W.filePath "code_base" file).toList.drop ((W.treePath "code_base").toList.length + 1)))

end Workspace

/-! ### Candidates of a search -/

/-- The part of a found candidate that is read. -/
structure FoundCandidate where
  content : String
  matches_ : List String
  relativePath : String
  score : Nat
  whyRelevant : String
  rejection : Option EvidenceReadRejection
deriving DecidableEq, Repr

section Candidates

variable (host : Host) (localeCompare : String → String → Ordering)

/-- A seed with a dot weighs three times as much. -/
def scoreSeedMatches (haystack : String) (seeds : List String) : Nat :=
  Extension.scoreDiscoverySeeds host haystack seeds

def buildWhyRelevant (relativePath : String) (matches_ : List String) : String :=
  if matches_.length = 0 then "No strong relevance signals for " ++ relativePath ++ "."
  else "Matched " ++ join " + " matches_ ++ " signals for " ++ relativePath ++ "."

/-- A file of the code base as a candidate. -/
def Workspace.candidate (W : Workspace) (seeds : List String) (file : WorkspaceFile) : FoundCandidate :=
  let relativePath := W.relativePath file
  let pathScore := scoreSeedMatches host relativePath seeds
  let contentScore := scoreSeedMatches host file.read.content seeds
  let matches_ := (if pathScore > 0 then ["path"] else []) ++ (if contentScore > 0 then ["content"] else [])
  { content := file.read.content
    matches_ := matches_
    relativePath := relativePath
    score := pathScore + contentScore
    whyRelevant := buildWhyRelevant relativePath matches_
    rejection := file.read.rejection }

/-- A file that was not read must match by its path, any other one by its path and its content. -/
def FoundCandidate.isRelevant (found : FoundCandidate) : Bool :=
  if found.rejection.isSome then found.matches_.contains "path" else decide (found.matches_.length ≥ 2)

/-- The better candidate comes first; equal ones stand in the order of their paths. -/
def FoundCandidate.before (left right : FoundCandidate) : Bool :=
  decide (right.score < left.score) ||
    (decide (left.score = right.score) && (localeCompare left.relativePath right.relativePath).isLE)

def Workspace.findCodeBaseCandidates (W : Workspace) (seeds : List String) (limit : Nat) : List FoundCandidate :=
  if seeds.length = 0 then []
  else (((W.codeBase.map (W.candidate host seeds)).filter (·.isRelevant)).insertionSort
    fun left right => left.before localeCompare right = true).take limit

end Candidates

/-- The rejection of a file, where there is one. -/
def rejectionMetadata (rejection : Option EvidenceReadRejection) : Metadata :=
  (rejection.map fun r => ("rejection", MetadataValue.rejection r.reason r.byteSize r.limit)).toList

/-- A page of the wiki as a search hands it on. -/
def Workspace.wikiSource (W : Workspace) (file : WorkspaceFile) : DiscoverySource :=
  { path := W.filePath "wiki" file
    content := file.read.content
    metadata := rejectionMetadata file.read.rejection }

def Workspace.loadWikiDiscoverySources (W : Workspace) : List DiscoverySource := W.wiki.map W.wikiSource

/-- A candidate as a search hands it on. -/
def FoundCandidate.toSource (found : FoundCandidate) : DiscoverySource :=
  { path := found.relativePath
    content := found.content
    metadata :=
      [("matches", .texts found.matches_), ("relativePath", .text found.relativePath), ("score", .number found.score),
        ("whyRelevant", .text found.whyRelevant)] ++ rejectionMetadata found.rejection }

/-- The files of the workspace, as the searches read them. -/
def Workspace.files (W : Workspace) (host : Host) (localeCompare : String → String → Ordering) (other : Files) :
    Files :=
  { other with
    wikiSources := fun _ => .ok W.loadWikiDiscoverySources
    codeBaseSources := fun _ query =>
      .ok ((W.findCodeBaseCandidates host localeCompare [query] 3).map (·.toSource)) }

/-! ### Names in a path -/

/-- The names in a path, whatever slashes it is written with. -/
def pathSegments (path : String) : List (List Char) :=
  Segments.segments '/' (Extension.forwardSlashes path).toList

theorem forwardSlashes_append (a b : String) :
    Extension.forwardSlashes (a ++ b) = Extension.forwardSlashes a ++ Extension.forwardSlashes b := by
  apply String.toList_injective
  simp [Extension.forwardSlashes]

theorem forwardSlashes_separator (W : Workspace) :
    Extension.forwardSlashes (String.singleton W.separator) = "/" := by
  rcases W.separator_valid with hslash | hslash
  · rw [hslash]
    decide
  · rw [hslash]
    decide

theorem pathSegments_slash (a b : String) : pathSegments (a ++ "/" ++ b) = pathSegments a ++ pathSegments b := by
  have hslash : Extension.forwardSlashes "/" = "/" := by decide
  unfold pathSegments
  rw [forwardSlashes_append, forwardSlashes_append, hslash, String.toList_append, String.toList_append, List.append_assoc]
  exact Segments.segments_append '/' _ _

/-- The separator of the platform counts as a slash. -/
theorem pathSegments_separator (W : Workspace) (a b : String) :
    pathSegments (a ++ String.singleton W.separator ++ b) = pathSegments a ++ pathSegments b := by
  rw [← pathSegments_slash]
  unfold pathSegments
  have hslash : Extension.forwardSlashes "/" = "/" := by decide
  simp only [forwardSlashes_append, forwardSlashes_separator, hslash]

/-- Joined names are written with the separator of the platform, or with slashes, for the same segments. -/
theorem pathSegments_join (W : Workspace) (names : List String) :
    pathSegments (join (String.singleton W.separator) names) = pathSegments (join "/" names) := by
  induction names with
  | nil => rfl
  | cons name names ih =>
      cases names with
      | nil => rfl
      | cons other names =>
          show pathSegments (name ++ String.singleton W.separator ++ join (String.singleton W.separator) (other :: names)) =
            pathSegments (name ++ "/" ++ join "/" (other :: names))
          rw [pathSegments_separator, pathSegments_slash, ih]

theorem join_cons {sep name : String} {names : List String} (hne : names ≠ []) :
    join sep (name :: names) = name ++ sep ++ join sep names := by
  obtain ⟨other, rest, rfl⟩ := List.exists_cons_of_ne_nil hne
  rfl

/-- The absolute path of a file ends with its path below the tree. -/
theorem filePath_segments (W : Workspace) (tree : String) (file : WorkspaceFile) :
    pathSegments (W.filePath tree file) = pathSegments (W.treePath tree) ++ pathSegments file.path := by
  rw [Workspace.filePath, join_cons file.names_ne_nil, pathSegments_separator, pathSegments_join]
  rfl

/-- Cutting off the tree leaves the path below it. -/
theorem relativePath_segments (W : Workspace) (file : WorkspaceFile) :
    pathSegments (W.relativePath file) = pathSegments file.path := by
  have hdrop : String.ofList ((W.filePath "code_base" file).toList.drop ((W.treePath "code_base").toList.length + 1)) =
      join (String.singleton W.separator) file.names := by
    apply String.toList_injective
    rw [Workspace.filePath, join_cons file.names_ne_nil]
    simp [String.toList_append, List.drop_append]
  have htwice : ∀ path : String, pathSegments (Extension.forwardSlashes path) = pathSegments path := by
    intro path
    have hmap : Extension.forwardSlashes (Extension.forwardSlashes path) = Extension.forwardSlashes path := by
      apply String.toList_injective
      simp only [Extension.forwardSlashes, String.toList_ofList, List.map_map, List.map_inj_left, Function.comp_apply]
      intro c _
      by_cases hc : c = '\\'
      · rw [if_pos hc]
        decide
      · rw [if_neg hc, if_neg hc]
    rw [pathSegments, hmap]
    rfl
  rw [Workspace.relativePath, htwice, hdrop, pathSegments_join]
  rfl

end ForgeRuntime
