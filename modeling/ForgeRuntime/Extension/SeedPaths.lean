import ForgeRuntime.Extension.DiscoverySources

/-!
# Paths in seeds

`detectCodeBaseConflict` takes a seed that looks like a relative path and reads the file of that path under the root and
the one under the code base.  `normalizeRelativeFilePath` refuses a path that begins with `/` or with `../`, but a parent
segment may stand anywhere else, so a path can climb out of the tree on its way.

* `resolve_eq` — where a path leads: some steps up, and then down by some names;
* `seed_paths_stay_inside_iff` — a path stays in its tree when it comes back by the names it climbed out of;
* `seed_path_escapes` — one that does not.
-/

namespace ForgeRuntime

open EventDriven EventDriven.Text

/-! ### The source -/

/-- Letters, digits, the underscore, the dot, the hyphen and the slash. -/
def isFilePathChar (c : Char) : Bool := c.isAlphanum || "_.-/".toList.contains c

/-- The letters and digits at the end, a dot before them, and something of these characters before the dot. -/
def looksLikeFilePath (text : String) : Bool :=
  let reversed := text.toList.reverse
  let ending := reversed.takeWhile Char.isAlphanum
  match reversed.drop ending.length with
  | '.' :: before => !ending.isEmpty && !before.isEmpty && before.all isFilePathChar
  | _ => false

def normalizeRelativeFilePath (seed : String) : Option String :=
  let normalized := Extension.forwardSlashes (trim seed)
  if looksLikeFilePath normalized = false then none
  else if startsWith normalized "/" || startsWith normalized "../" || Extension.includes normalized ":/" then none
  else some normalized

/-- An absolute path: the names on the way to it. -/
abbrev AbsolutePath := List (List Char)

/-- A segment of a path: an empty one and `.` stay, `..` goes up, and a name goes down. -/
def stepSegment (place : AbsolutePath) (segment : List Char) : AbsolutePath :=
  if segment = [] ∨ segment = ['.'] then place
  else if segment = ['.', '.'] then place.dropLast
  else place ++ [segment]

/-- `resolve(base, path)`, segment by segment. -/
def resolve (base : AbsolutePath) (path : String) : AbsolutePath :=
  (Segments.segments '/' path.toList).foldl stepSegment (if startsWith path "/" then [] else base)

/-- The two trees that are compared. -/
inductive SeedTree where
  | target
  | codeBase
deriving DecidableEq, Repr

def SeedTree.base (rootDir : AbsolutePath) : SeedTree → AbsolutePath
  | target => rootDir
  | codeBase => resolve rootDir "code_base"

/-- A file that is read, and the tree in which it is looked for. -/
structure SeedRead where
  tree : SeedTree
  path : AbsolutePath
deriving DecidableEq, Repr

structure CodeBaseConflict where
  codeBasePath : AbsolutePath
  relativePath : String
  targetSourcePath : AbsolutePath
deriving DecidableEq, Repr

/-- What is found at a path: nothing, or something that can be read or not. -/
abbrev FileTree := AbsolutePath → Option (Except String String)

/-- The first conflict, or what reading threw, with the files that were read. -/
def detectCodeBaseConflict (files : FileTree) (rootDir : AbsolutePath) :
    List String → Except String (Option CodeBaseConflict) × List SeedRead
  | [] => (.ok none, [])
  | seed :: rest =>
      match normalizeRelativeFilePath seed with
      | none => detectCodeBaseConflict files rootDir rest
      | some relativePath =>
          let targetSourcePath := resolve (SeedTree.target.base rootDir) relativePath
          let codeBasePath := resolve (SeedTree.codeBase.base rootDir) relativePath
          match files targetSourcePath, files codeBasePath with
          | some (.error e), some _ => (.error e, [⟨.target, targetSourcePath⟩])
          | some (.ok _), some (.error e) => (.error e, [⟨.target, targetSourcePath⟩, ⟨.codeBase, codeBasePath⟩])
          | some (.ok a), some (.ok b) =>
              if a ≠ b then
                (.ok (some ⟨codeBasePath, relativePath, targetSourcePath⟩),
                  [⟨.target, targetSourcePath⟩, ⟨.codeBase, codeBasePath⟩])
              else
                let later := detectCodeBaseConflict files rootDir rest
                (later.1, ⟨.target, targetSourcePath⟩ :: ⟨.codeBase, codeBasePath⟩ :: later.2)
          | _, _ => detectCodeBaseConflict files rootDir rest

/-! ### Where a path leads -/

/-- A path that is not absolute, as some steps up and then some names down. -/
structure Course where
  up : Nat
  down : AbsolutePath
deriving DecidableEq, Repr

/-- Where the course leads from `base`. -/
def Course.from (base : AbsolutePath) (course : Course) : AbsolutePath :=
  base.take (base.length - course.up) ++ course.down

/-- One more segment: `..` takes the last name back, or goes further up where there is none. -/
def Course.step (course : Course) (segment : List Char) : Course :=
  if segment = [] ∨ segment = ['.'] then course
  else if segment = ['.', '.'] then
    if course.down = [] then { course with up := course.up + 1 } else { course with down := course.down.dropLast }
  else { course with down := course.down ++ [segment] }

/-- The course of a path. -/
def courseOf (path : String) : Course := (Segments.segments '/' path.toList).foldl Course.step ⟨0, []⟩

/-- The course climbs no higher than it comes down again by the same names: what it leaves of the tree, it goes back
to. -/
def Course.ReturnsTo (base : AbsolutePath) (course : Course) : Prop :=
  base.drop (base.length - course.up) <+: course.down

instance (base : AbsolutePath) (course : Course) : Decidable (course.ReturnsTo base) :=
  inferInstanceAs (Decidable (_ <+: _))

theorem course_step_from (base : AbsolutePath) (course : Course) (segment : List Char) :
    (course.step segment).from base = stepSegment (course.from base) segment := by
  unfold Course.step stepSegment
  by_cases hstay : segment = [] ∨ segment = ['.']
  · rw [if_pos hstay, if_pos hstay]
  rw [if_neg hstay, if_neg hstay]
  by_cases hup : segment = ['.', '.']
  · rw [if_pos hup, if_pos hup]
    by_cases hdown : course.down = []
    · rw [if_pos hdown]
      simp only [Course.from, hdown, List.append_nil]
      rw [List.dropLast_eq_take, List.take_take, List.length_take]
      congr 1
      omega
    · rw [if_neg hdown]
      simp only [Course.from]
      rw [List.dropLast_append_of_ne_nil hdown]
  · rw [if_neg hup, if_neg hup]
    simp only [Course.from, List.append_assoc]

/-- **Where a path leads** is where its course does. -/
theorem resolve_eq (base : AbsolutePath) {path : String} (h : startsWith path "/" = false) :
    resolve base path = (courseOf path).from base := by
  have hfold : ∀ (segments : AbsolutePath) (course : Course),
      segments.foldl stepSegment (course.from base) = (segments.foldl Course.step course).from base := by
    intro segments
    induction segments with
    | nil => exact fun _ => rfl
    | cons segment segments ih =>
        intro course
        rw [List.foldl_cons, List.foldl_cons, ← course_step_from]
        exact ih _
  have hstart : base = Course.from base ⟨0, []⟩ := by simp [Course.from]
  rw [resolve, h, if_neg (by simp), courseOf, ← hfold, ← hstart]

theorem from_stays_iff (base : AbsolutePath) (course : Course) :
    base <+: course.from base ↔ course.ReturnsTo base := by
  unfold Course.from Course.ReturnsTo
  constructor
  · intro h
    have hsplit : base.take (base.length - course.up) ++ base.drop (base.length - course.up) <+:
        base.take (base.length - course.up) ++ course.down := by
      rwa [List.take_append_drop]
    exact (List.prefix_append_right_inj _).mp hsplit
  · intro h
    have hbase := (List.prefix_append_right_inj (base.take (base.length - course.up))).mpr h
    rwa [List.take_append_drop] at hbase

/-! ### Seeds -/

theorem normalizeRelativeFilePath_relative {seed path : String} (h : normalizeRelativeFilePath seed = some path) :
    startsWith path "/" = false := by
  unfold normalizeRelativeFilePath at h
  dsimp only at h
  split at h
  · cases h
  · split at h
    · cases h
    · rename_i hguard
      rw [← Option.some.inj h]
      simp only [Bool.or_eq_true, not_or, Bool.not_eq_true] at hguard
      exact hguard.1.1

/-- The seed's path returns to both trees. -/
def ReturnsToTrees (rootDir : AbsolutePath) (path : String) : Prop :=
  ∀ tree : SeedTree, (courseOf path).ReturnsTo (tree.base rootDir)

theorem stays_iff {rootDir : AbsolutePath} {seed path : String} (h : normalizeRelativeFilePath seed = some path)
    (tree : SeedTree) :
    tree.base rootDir <+: resolve (tree.base rootDir) path ↔ (courseOf path).ReturnsTo (tree.base rootDir) := by
  rw [resolve_eq _ (normalizeRelativeFilePath_relative h)]
  exact from_stays_iff _ _

/-- A read stays in the tree in which it looks. -/
def SeedRead.Inside (rootDir : AbsolutePath) (read : SeedRead) : Prop := read.tree.base rootDir <+: read.path

/-- What is read is the path of an accepted seed. -/
theorem mem_reads {files : FileTree} {rootDir : AbsolutePath} {seeds : List String} {read : SeedRead}
    (h : read ∈ (detectCodeBaseConflict files rootDir seeds).2) :
    ∃ seed ∈ seeds, ∃ path, normalizeRelativeFilePath seed = some path ∧
      read.path = resolve (read.tree.base rootDir) path := by
  induction seeds with
  | nil => cases h
  | cons seed rest ih =>
      have hlater : read ∈ (detectCodeBaseConflict files rootDir rest).2 →
          ∃ seed' ∈ seed :: rest, ∃ path, normalizeRelativeFilePath seed' = some path ∧
            read.path = resolve (read.tree.base rootDir) path := by
        intro hmem
        obtain ⟨seed', hseed', hpath⟩ := ih hmem
        exact ⟨seed', List.mem_cons_of_mem _ hseed', hpath⟩
      rw [detectCodeBaseConflict] at h
      cases hpath : normalizeRelativeFilePath seed with
      | none =>
          rw [hpath] at h
          exact hlater h
      | some path =>
          rw [hpath] at h
          have hown : read = ⟨.target, resolve (SeedTree.target.base rootDir) path⟩ ∨
              read = ⟨.codeBase, resolve (SeedTree.codeBase.base rootDir) path⟩ →
              ∃ seed' ∈ seed :: rest, ∃ path, normalizeRelativeFilePath seed' = some path ∧
                read.path = resolve (read.tree.base rootDir) path := by
            rintro (rfl | rfl)
            · exact ⟨seed, List.mem_cons_self, path, hpath, rfl⟩
            · exact ⟨seed, List.mem_cons_self, path, hpath, rfl⟩
          dsimp only at h
          split at h
          · exact hown (.inl (List.mem_singleton.mp h))
          · exact hown (by simpa using h)
          · split at h
            · exact hown (by simpa using h)
            · rcases List.mem_cons.mp h with htarget | h
              · exact hown (.inl htarget)
              · rcases List.mem_cons.mp h with hcodeBase | h
                · exact hown (.inr hcodeBase)
                · exact hlater h
          · exact hlater h

/-- Where every path is an empty file there is no conflict, and the files of all accepted seeds are read. -/
theorem reads_of_same (rootDir : AbsolutePath) {seeds : List String} {seed path : String} (hmem : seed ∈ seeds)
    (h : normalizeRelativeFilePath seed = some path) (tree : SeedTree) :
    ⟨tree, resolve (tree.base rootDir) path⟩ ∈
      (detectCodeBaseConflict (fun _ => some (.ok "")) rootDir seeds).2 := by
  induction seeds with
  | nil => cases hmem
  | cons other rest ih =>
      rw [detectCodeBaseConflict]
      rcases List.mem_cons.mp hmem with rfl | hmem
      · rw [h]
        cases tree with
        | target => exact List.mem_cons_self
        | codeBase => exact List.mem_cons_of_mem _ List.mem_cons_self
      · cases hother : normalizeRelativeFilePath other with
        | none => exact ih hmem
        | some otherPath => exact List.mem_cons_of_mem _ (List.mem_cons_of_mem _ (ih hmem))

/-- **A seed's path stays in its trees** exactly when it returns to them, and then, whatever the files, nothing is read
outside. -/
theorem seed_paths_stay_inside_iff (rootDir : AbsolutePath) :
    (∀ seed path, normalizeRelativeFilePath seed = some path →
      ((∀ tree : SeedTree, tree.base rootDir <+: resolve (tree.base rootDir) path) ↔ ReturnsToTrees rootDir path)) ∧
    ∀ seeds : List String,
      (∀ files : FileTree, ∀ read ∈ (detectCodeBaseConflict files rootDir seeds).2, read.Inside rootDir) ↔
        ∀ seed ∈ seeds, ∀ path, normalizeRelativeFilePath seed = some path → ReturnsToTrees rootDir path := by
  refine ⟨fun seed path hpath => forall_congr' (stays_iff hpath), fun seeds => ⟨?_, ?_⟩⟩
  · intro hinside seed hseed path hpath tree
    exact (stays_iff hpath tree).mp (hinside _ _ (reads_of_same rootDir hseed hpath tree))
  · intro hreturns files read hread
    obtain ⟨seed, hseed, path, hpath, hresolved⟩ := mem_reads hread
    rw [SeedRead.Inside, hresolved]
    exact (stays_iff hpath read.tree).mpr (hreturns seed hseed path hpath read.tree)

/-- A path with a parent segment that stays inside. -/
theorem seed_path_returns :
    ∀ tree : SeedTree, tree.base ["srv".toList, "project".toList] <+:
      resolve (tree.base ["srv".toList, "project".toList]) "src/../docs/a.md" :=
  ((seed_paths_stay_inside_iff ["srv".toList, "project".toList]).1 "src\\..\\docs/a.md" "src/../docs/a.md"
    (by decide +kernel)).mpr fun tree => by cases tree <;> decide +kernel

/-- **A path that leaves the workspace**: the parent segments stand behind a name, so the prefix tests pass. -/
theorem seed_path_escapes :
    ¬ ∀ (rootDir : AbsolutePath) (seed path : String), normalizeRelativeFilePath seed = some path →
      rootDir <+: resolve rootDir path := by
  intro hall
  have hescapes := hall ["srv".toList, "project".toList] "docs/../../other/secret.txt" "docs/../../other/secret.txt"
    (by decide +kernel)
  revert hescapes
  decide +kernel

end ForgeRuntime
