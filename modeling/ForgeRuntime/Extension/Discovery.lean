import ForgeRuntime.Extension.State
import Mathlib.Data.List.Infix

/-!
# The snapshot of a discovery

`buildGrillCompatibleDiscovery` reads the files that a light discovery matched and makes of them the
candidates of a Grill snapshot.  A file of the code base brings the file of the same path under the root
with it, as a target, and is a candidate for the relevance gate when both its path and its content match.
-/

namespace ForgeRuntime

open EventDriven EventDriven.Text

namespace Extension

variable (host : Host) (files : Files)

/-! ### Texts -/

/-- `text.includes(part)`. -/
def includes (text part : String) : Bool := decide (part.toList <:+: text.toList)

/-- Line endings brought to `\n`. -/
def normalizeNewlines : List Char → List Char
  | [] => []
  | '\r' :: '\n' :: rest => '\n' :: normalizeNewlines rest
  | '\r' :: rest => '\n' :: normalizeNewlines rest
  | c :: rest => c :: normalizeNewlines rest

/-- An ID is the digest of the kind, the source and the content. -/
def createEvidenceId (kind source content : String) : String :=
  "ev-" ++ host.digest (Json.compact (.texts
    ["forge-grill-evidence-v1", kind, source, String.ofList (normalizeNewlines content.toList)]))

/-- The seed as it is looked for. -/
def normalizedSeed (seed : String) : String := host.toLowerCase (trim seed)

/-- The seed is in the text, whose letters are lower case. -/
def seedMatches (lowerText seed : String) : Bool :=
  decide (normalizedSeed host seed ≠ "") && includes lowerText (normalizedSeed host seed)

/-- A seed with a dot weighs three times as much. -/
def scoreDiscoverySeeds (haystack : String) (seeds : List String) : Nat :=
  seeds.foldl (fun score seed =>
    if seedMatches host (host.toLowerCase haystack) seed then
      if includes (normalizedSeed host seed) "." then score + 3 else score + 1
    else score) 0

/-! ### Candidates -/

/-- The metadata of a candidate; a field that is absent is left out. -/
def candidateMetadata (relativePath : String) (rejection : Option EvidenceReadRejection) : Metadata :=
  [("relativePath", .text relativePath), ("matches", .texts ["path"])] ++
    (rejection.map fun r => ("rejection", .rejection r.reason r.byteSize r.limit)).toList

/-- A file that was read, as a candidate under its own ID. -/
def evidenceCandidate (kind : GrillEvidenceKind) (found : LightDiscoveryMatch)
    (read : EvidenceReadResult) : GrillEvidenceCandidate :=
  let source := kind.text ++ "/" ++ found.relativePath
  { candidateId := createEvidenceId host kind.text source read.content
    kind := kind
    rejection := (read.rejection.map (·.reason)).filter (· ≠ "")
    source := source
    title := found.fileName
    content := read.content
    metadata := candidateMetadata found.relativePath read.rejection }

/-- The candidate for the relevance gate, if the file matches by its path and by its content. -/
def codeBaseCandidate? (seeds : List String) (relativePath content : String) : Option CodeBaseCandidate :=
  if scoreDiscoverySeeds host relativePath seeds > 0 ∧ scoreDiscoverySeeds host content seeds > 0 then
    some
      { matches_ := ["path", "content"]
        matchedSeeds := some (seeds.filter fun seed =>
          seedMatches host (host.toLowerCase relativePath) seed ||
            seedMatches host (host.toLowerCase content) seed)
        relativePath := relativePath }
  else none

/-- The target that belongs to a file of the code base, if it can be read. -/
def targetCandidate? (rootDir : String) (found : LightDiscoveryMatch) : Option GrillEvidenceCandidate :=
  match files.readEvidenceSource [rootDir, found.relativePath] with
  | .ok read => some (evidenceCandidate host .target found read)
  | .error _ => none

/-- What one match adds: candidates of the snapshot and candidates for the relevance gate. -/
def candidatesOfMatch (rootDir : String) (seeds : List String) (found : LightDiscoveryMatch) :
    List GrillEvidenceCandidate × List CodeBaseCandidate :=
  match files.readEvidenceSource [rootDir, found.source.kind.text, found.relativePath] with
  | .error _ => ([], [])
  | .ok read =>
      let candidate := evidenceCandidate host found.source.kind found read
      match found.source with
      | .wiki => ([candidate], [])
      | .codeBase =>
          (candidate :: (targetCandidate? host files rootDir found).toList,
            (codeBaseCandidate? host seeds found.relativePath read.content).toList)

/-- `Object.fromEntries`: a later candidate takes the place of an earlier one with its ID. -/
def candidatesById (evidence : List GrillEvidenceCandidate) : OrderedMap String GrillEvidenceCandidate :=
  evidence.foldl (fun byId candidate => byId.insert candidate.candidateId candidate) .empty

def buildGrillCompatibleDiscovery (rootDir : String) (discovery : LightDiscoveryResult)
    (rawMessage : String) : GrillCompatibleDiscovery :=
  let seeds := host.extractDeepDiscoverySeeds rawMessage
  let found := discovery.matches_.map (candidatesOfMatch host files rootDir seeds)
  let evidence := found.flatMap (·.1)
  { codeBaseCandidates := found.flatMap (·.2)
    candidates := candidatesById evidence
    manifest := evidence.map (·.toGrillEvidenceManifestEntry)
    summary := join "\n"
      (discovery.matches_.map (fun m => "- " ++ m.source.kind.text ++ "/" ++ m.relativePath) ++
        discovery.warnings.map (fun warning => "警告：" ++ warning)) }

end Extension

end ForgeRuntime
