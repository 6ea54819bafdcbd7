import ForgeRuntime.Extension.Runs

/-!
# Light discovery

`runLightDiscovery` looks for words of the request in the names of the files of the wiki and of the code base.  The
extension then scores the files that it found, with words that it cuts from the request a second time.

* `includes_of_basename` — a word in the name of a file is one in its path;
* `exists_unused_letter` — eight seeds leave a letter that none of them begins or ends with;
* `discovered_files_score_iff` — every found file scores exactly when every word that is searched for contains a seed;
* `numbers_crowd_out_the_word` — a request of which the scoring takes eight numbers, and not the word.
-/

namespace ForgeRuntime

open EventDriven EventDriven.Text

/-! ### Words -/

/-- The units of a text, as the source counts them. -/
def textLength (text : String) : Nat := (text.toList.flatMap Extension.codeUnits).length

def isHan (c : Char) : Bool := 0x4e00 ≤ c.toNat && c.toNat ≤ 0x9fff

/-- A file name with an ending, a text between backticks, or the key of an issue. -/
def tokenPattern : Pattern :=
  .choice
    [.sequence
      [.atLeast 1 fun c => Pattern.isWordChar c || c == '.' || c == '/' || c == '-', .one (· == '.'),
        .atLeast 1 Char.isAlphanum],
      .sequence [.one (· == '\x60'), .atLeast 1 (· != '\x60'), .one (· == '\x60')],
      .sequence [.atLeast 2 Char.isUpper, .one (· == '-'), .atLeast 1 Char.isDigit]]

/-- `value.replaceAll("\x60", "").trim()` -/
def withoutBackticks (text : String) : String := trim (String.ofList (text.toList.filter (· != '\x60')))

/-- Cut a text at its runs of separators; `inRun` says that one has begun. -/
def splitRuns (isSeparator : Char → Bool) : Bool → List Char → List (List Char)
  | _, [] => [[]]
  | inRun, c :: rest =>
      if isSeparator c then
        if inRun then splitRuns isSeparator true rest else [] :: splitRuns isSeparator true rest
      else
        match splitRuns isSeparator false rest with
        | piece :: pieces => (c :: piece) :: pieces
        | [] => [[c]]

/-- Cut a text wherever a Han character stands beside a letter or a digit. -/
def splitScripts : List Char → List (List Char)
  | [] => [[]]
  | [c] => [[c]]
  | c :: d :: rest =>
      if (isHan c && d.isAlphanum) || (c.isAlphanum && isHan d) then [c] :: splitScripts (d :: rest)
      else
        match splitScripts (d :: rest) with
        | piece :: pieces => (c :: piece) :: pieces
        | [] => [[c]]

/-- The words of a message, in their order. -/
def messageWords (message : String) : List String :=
  (splitRuns isSpace false message.toList).flatMap fun token =>
    (splitScripts (trim (String.ofList token)).toList).map String.ofList

/-- `[...new Set(values)]` -/
def distinct (values : List String) : List String := (OrderedSet.ofList values).elems

def extractDeepDiscoverySeeds (message : String) : List String :=
  ((distinct ((tokenPattern.matchAll message ++ messageWords message).map withoutBackticks)).filter
    fun value => textLength value ≥ 2).take 8

/-! ### The search -/

/-- A name that a file can have. -/
structure FileName where
  text : String
  nonempty : text ≠ ""
  not_here : text ≠ "."
  not_above : text ≠ ".."
  no_slash : '/' ∉ text.toList
  no_nul : '\x00' ∉ text.toList

/-- What stands in a directory: a file and what asking for its size answers, a directory that may not be readable,
or something else. -/
inductive DirEntry where
  | file (name : FileName) (size : Except String Nat)
  | directory (name : FileName) (failure : Option String) (entries : List DirEntry)
  | other (name : FileName)

/-- A file, by the names on the way to it. -/
abbrev Place := List FileName

def sourceText (source : LightDiscoverySource) : String := source.kind.text

mutual

/-- The files at an entry, and the warnings. -/
def collectEntry (source : LightDiscoverySource) (place : Place) : DirEntry → List Place × List String
  | .file name (.ok _) => ([place ++ [name]], [])
  | .file _ (.error message) => ([], [sourceText source ++ " 檔案 metadata 失敗：" ++ message])
  | .directory _ (some message) _ => ([], [sourceText source ++ " 目錄 metadata 失敗：" ++ message])
  | .directory name none entries => collectFiles source (place ++ [name]) entries
  | .other _ => ([], [])

def collectFiles (source : LightDiscoverySource) (place : Place) : List DirEntry → List Place × List String
  | [] => ([], [])
  | entry :: rest =>
      let first := collectEntry source place entry
      let others := collectFiles source place rest
      (first.1 ++ others.1, first.2 ++ others.2)

end

/-- The path of a file below its tree, with forward slashes. -/
def Place.relativePath (place : Place) : String :=
  Extension.forwardSlashes (join "/" (place.map FileName.text))

/-- The last name in a path: what stands before the slashes at its end, behind the slash before. -/
def basename (path : String) : String :=
  String.ofList (((path.toList.reverse.dropWhile (· == '/')).takeWhile (· != '/')).reverse)

section

variable (host : Host) (localeCompare : String → String → Ordering)

def normalizeInput (message : String) : List String :=
  let tokens := (tokenPattern.matchAll message).map withoutBackticks
  let words := ((messageWords message).filter fun word =>
    textLength word ≥ 2 && word.toList.any fun c => c.isAlpha || isHan c).take 6
  ((distinct (tokens ++ words)).take 8).map host.toLowerCase

def matchesPath (seed relativePath fileName : String) : Bool :=
  Extension.includes (host.toLowerCase relativePath) seed || Extension.includes (host.toLowerCase fileName) seed

def compareMatches (left right : LightDiscoveryMatch) : Bool :=
  ((localeCompare (sourceText left.source) (sourceText right.source)).then
    (localeCompare left.relativePath right.relativePath)).isLE

def toMatch (source : LightDiscoverySource) (place : Place) : LightDiscoveryMatch :=
  { source := source, relativePath := place.relativePath, fileName := basename place.relativePath }

/-- The best three files of a tree, and the warnings of the search. -/
def searchTree (seeds : List String) (source : LightDiscoverySource) (tree : Except String (List DirEntry)) :
    List LightDiscoveryMatch × List String :=
  match tree with
  | .error message => ([], [sourceText source ++ " 來源無法讀取：" ++ message])
  | .ok entries =>
      let collected := collectFiles source [] entries
      if seeds.length = 0 then ([], collected.2)
      else
        let found := (collected.1.map (toMatch source)).filter fun match_ =>
          seeds.any fun seed => matchesPath host seed match_.relativePath match_.fileName
        ((found.insertionSort fun left right => compareMatches localeCompare left right = true).take 3, collected.2)

def runLightDiscovery (trees : LightDiscoverySource → Except String (List DirEntry)) (userMessage : String) :
    LightDiscoveryResult :=
  let seeds := normalizeInput host userMessage
  let wiki := searchTree host localeCompare seeds .wiki (trees .wiki)
  let codeBase := searchTree host localeCompare seeds .codeBase (trees .codeBase)
  { matches_ := (wiki.1 ++ codeBase.1).insertionSort fun left right => compareMatches localeCompare left right = true
    warnings := wiki.2 ++ codeBase.2 }

end

/-! ### What the source relies on -/

/-- What is known of lower-casing: it changes nothing twice, and nothing in a text put together of texts that it does
not change; it keeps the small letters, goes through a path name by name, and makes no backslash and no NUL. -/
structure LowersLetters (lower : String → String) : Prop where
  again : ∀ s, lower (lower s) = lower s
  append : ∀ a b, lower a = a → lower b = b → lower (a ++ b) = a ++ b
  letter : ∀ c, 'a' ≤ c → c ≤ 'z' → lower (String.singleton c) = String.singleton c
  slash : ∀ a b, lower (a ++ "/" ++ b) = lower a ++ "/" ++ lower b
  keeps : ∀ s c, c = '\\' ∨ c = '\x00' → c ∈ (lower s).toList → c ∈ s.toList

/-- A word that can stand in a path. -/
def FitsInPath (word : String) : Prop := '\\' ∉ word.toList ∧ '\x00' ∉ word.toList

instance (word : String) : Decidable (FitsInPath word) := inferInstanceAs (Decidable (_ ∧ _))

/-- A seed that is found wherever the word is. -/
def CoveredBy (host : Host) (seeds : List String) (word : String) : Prop :=
  ∃ seed ∈ seeds, Extension.normalizedSeed host seed ≠ "" ∧
    Extension.includes word (Extension.normalizedSeed host seed) = true

instance (host : Host) (seeds : List String) (word : String) : Decidable (CoveredBy host seeds word) :=
  inferInstanceAs (Decidable (∃ seed ∈ seeds, _))

variable {host : Host} {localeCompare : String → String → Ordering}

/-! ### Scores -/

theorem includes_iff {text part : String} : Extension.includes text part = true ↔ part.toList <:+: text.toList := by
  simp [Extension.includes]

theorem seedMatches_iff {text seed : String} : Extension.seedMatches host text seed = true ↔
    Extension.normalizedSeed host seed ≠ "" ∧
      Extension.includes text (Extension.normalizedSeed host seed) = true := by
  simp [Extension.seedMatches]

/-- **A score is positive** when a seed matches. -/
theorem score_pos_iff {haystack : String} {seeds : List String} :
    0 < Extension.scoreDiscoverySeeds host haystack seeds ↔
      CoveredBy host seeds (host.toLowerCase haystack) := by
  have hfold : ∀ start : Nat,
      0 < seeds.foldl (fun score seed =>
        if Extension.seedMatches host (host.toLowerCase haystack) seed then
          if Extension.includes (Extension.normalizedSeed host seed) "." then score + 3 else score + 1
        else score) start ↔
      0 < start ∨ CoveredBy host seeds (host.toLowerCase haystack) := by
    induction seeds with
    | nil =>
        intro start
        simp [CoveredBy]
    | cons seed seeds ih =>
        intro start
        have hcons : CoveredBy host (seed :: seeds) (host.toLowerCase haystack) ↔
            Extension.seedMatches host (host.toLowerCase haystack) seed = true ∨
              CoveredBy host seeds (host.toLowerCase haystack) := by
          rw [seedMatches_iff]
          simp only [CoveredBy, List.mem_cons, or_and_right, exists_or, exists_eq_left]
        rw [List.foldl_cons, ih, hcons]
        by_cases hmatch : Extension.seedMatches host (host.toLowerCase haystack) seed = true
        · rw [if_pos hmatch]
          split <;> simp [hmatch]
        · rw [if_neg hmatch]
          simp [hmatch]
  have hzero := hfold 0
  rw [Extension.scoreDiscoverySeeds, hzero]
  simp

theorem CoveredBy.mono {seeds : List String} {word text : String} (h : CoveredBy host seeds word)
    (hword : word.toList <:+: text.toList) : CoveredBy host seeds text := by
  obtain ⟨seed, hseed, hne, hincludes⟩ := h
  exact ⟨seed, hseed, hne, includes_iff.mpr ((includes_iff.mp hincludes).trans hword)⟩

/-! ### Paths -/

/-- The name of a file stands in its path between slashes. -/
theorem basename_between (path : String) : ∃ before behind : String, path = before ++ basename path ++ behind ∧
    (before = "" ∨ ∃ a, before = a ++ "/") ∧ (behind = "" ∨ ∃ a, behind = "/" ++ a) := by
  -- read from the end: slashes, the name, and a slash with what stands before it
  obtain ⟨slashes, hslashes⟩ : ∃ l, l = path.toList.reverse.takeWhile (· == '/') := ⟨_, rfl⟩
  obtain ⟨inner, hinner⟩ : ∃ l, l = path.toList.reverse.dropWhile (· == '/') := ⟨_, rfl⟩
  have hpath : path.toList = (inner.dropWhile (· != '/')).reverse ++ (inner.takeWhile (· != '/')).reverse ++
      slashes.reverse := by
    rw [← List.reverse_append, List.takeWhile_append_dropWhile, ← List.reverse_append, hslashes, hinner,
      List.takeWhile_append_dropWhile, List.reverse_reverse]
  refine ⟨String.ofList (inner.dropWhile (· != '/')).reverse, String.ofList slashes.reverse, ?_, ?_, ?_⟩
  · apply String.toList_injective
    rw [basename, ← hinner]
    simpa using hpath
  · rcases hrest : inner.dropWhile (· != '/') with _ | ⟨c, rest⟩
    · exact .inl rfl
    · have hc := List.head_dropWhile_not (· != '/') (by rw [hrest]; exact List.cons_ne_nil c rest)
      simp only [hrest, List.head_cons, bne_eq_false_iff_eq] at hc
      refine .inr ⟨String.ofList rest.reverse, ?_⟩
      apply String.toList_injective
      simp [hc]
  · rcases hrest : slashes.reverse with _ | ⟨c, rest⟩
    · exact .inl rfl
    · have hmem : c ∈ path.toList.reverse.takeWhile (· == '/') := by
        rw [← hslashes, ← List.mem_reverse, hrest]
        exact List.mem_cons_self
      have hc : c = '/' := by simpa using List.mem_takeWhile_imp hmem
      refine .inr ⟨String.ofList rest, ?_⟩
      apply String.toList_injective
      simp [hc]

/-- A word in the name of a file is one in its path. -/
theorem includes_of_basename (hlower : LowersLetters host.toLowerCase) (path : String) :
    (host.toLowerCase (basename path)).toList <:+: (host.toLowerCase path).toList := by
  obtain ⟨before, behind, hpath, hbefore, hbehind⟩ := basename_between path
  have hright : ∃ tail, host.toLowerCase (basename path ++ behind) = host.toLowerCase (basename path) ++ tail := by
    rcases hbehind with hnone | ⟨a, ha⟩
    · exact ⟨"", by rw [hnone, String.append_empty, String.append_empty]⟩
    · refine ⟨"/" ++ host.toLowerCase a, ?_⟩
      rw [ha, ← String.append_assoc, hlower.slash, String.append_assoc]
  obtain ⟨tail, htail⟩ := hright
  have hleft : ∃ head, host.toLowerCase path = head ++ host.toLowerCase (basename path ++ behind) := by
    rcases hbefore with hnone | ⟨a, ha⟩
    · refine ⟨"", ?_⟩
      rw [hnone, String.empty_append] at hpath
      rw [String.empty_append, ← hpath]
    · refine ⟨host.toLowerCase a ++ "/", ?_⟩
      rw [← hlower.slash, ← ha, ← String.append_assoc, ← hpath]
  obtain ⟨head, hhead⟩ := hleft
  rw [hhead, htail]
  exact ⟨head.toList, tail.toList, by simp⟩

/-- A word that was searched for is in the path of every file that it finds. -/
theorem word_in_path (hlower : LowersLetters host.toLowerCase) {word : String} {place : Place}
    (h : matchesPath host word place.relativePath (basename place.relativePath) = true) :
    word.toList <:+: (host.toLowerCase place.relativePath).toList := by
  rcases Bool.or_eq_true_iff.mp h with hpath | hname
  · exact includes_iff.mp hpath
  · exact (includes_iff.mp hname).trans (includes_of_basename hlower place.relativePath)

/-- No path has a backslash or a NUL in it. -/
theorem relativePath_fits (place : Place) : FitsInPath place.relativePath := by
  constructor
  · intro hmem
    simp only [Place.relativePath, Extension.forwardSlashes, String.toList_ofList, List.mem_map] at hmem
    obtain ⟨c, -, hc⟩ := hmem
    split at hc
    · exact absurd hc (by decide)
    · contradiction
  · intro hmem
    simp only [Place.relativePath, Extension.forwardSlashes, String.toList_ofList, List.mem_map] at hmem
    obtain ⟨c, hc, hnul⟩ := hmem
    split at hnul
    · exact absurd hnul (by decide)
    · rw [hnul] at hc
      have hjoin : ∀ names : List FileName, '\x00' ∉ (join "/" (names.map FileName.text)).toList := by
        intro names
        induction names with
        | nil => simp [join]
        | cons name rest ih =>
            cases rest with
            | nil => simpa [join] using name.no_nul
            | cons next rest =>
                rw [List.map_cons] at ih ⊢
                simp only [List.map_cons, join, String.toList_append, List.mem_append, not_or] at ih ⊢
                exact ⟨⟨name.no_nul, by decide⟩, ih⟩
      exact hjoin place hc

theorem fits_of_path (hlower : LowersLetters host.toLowerCase) {word : String} {place : Place}
    (h : word.toList <:+: (host.toLowerCase place.relativePath).toList) : FitsInPath word := by
  obtain ⟨hbackslash, hnul⟩ := relativePath_fits place
  exact ⟨fun hmem => hbackslash (hlower.keeps _ _ (.inl rfl) (h.subset hmem)),
    fun hmem => hnul (hlower.keeps _ _ (.inr rfl) (h.subset hmem))⟩

/-! ### What is found -/

theorem mem_searchTree {seeds : List String} {source : LightDiscoverySource} {tree : Except String (List DirEntry)}
    {found : LightDiscoveryMatch} (h : found ∈ (searchTree host localeCompare seeds source tree).1) :
    ∃ place : Place, found = toMatch source place ∧
      ∃ seed ∈ seeds, matchesPath host seed place.relativePath (basename place.relativePath) = true := by
  unfold searchTree at h
  split at h
  · cases h
  · simp only at h
    split at h
    · cases h
    · have hfilter := (List.mem_insertionSort _).mp (List.mem_of_mem_take h)
      obtain ⟨hplace, hany⟩ := List.mem_filter.mp hfilter
      obtain ⟨place, -, rfl⟩ := List.mem_map.mp hplace
      obtain ⟨seed, hseed, hmatch⟩ := List.any_eq_true.mp hany
      exact ⟨place, rfl, seed, hseed, hmatch⟩

/-- Every file that is found has a path that a word of the message stands in. -/
theorem mem_runLightDiscovery {trees : LightDiscoverySource → Except String (List DirEntry)} {message : String}
    {found : LightDiscoveryMatch} (h : found ∈ (runLightDiscovery host localeCompare trees message).matches_) :
    ∃ source place, found = toMatch source place ∧
      ∃ word ∈ normalizeInput host message,
        matchesPath host word place.relativePath (basename place.relativePath) = true := by
  have hboth := (List.mem_insertionSort _).mp h
  rcases List.mem_append.mp hboth with hwiki | hcode
  · obtain ⟨place, hplace, hword⟩ := mem_searchTree hwiki
    exact ⟨.wiki, place, hplace, hword⟩
  · obtain ⟨place, hplace, hword⟩ := mem_searchTree hcode
    exact ⟨.codeBase, place, hplace, hword⟩

/-- The trees of a workspace with one file in the code base. -/
def oneFile (name : FileName) : LightDiscoverySource → Except String (List DirEntry)
  | .wiki => .ok []
  | .codeBase => .ok [.file name (.ok 0)]

/-- The only file is found by a word in its path. -/
theorem oneFile_found {message word : String} {name : FileName} (hword : word ∈ normalizeInput host message)
    (hmatch : matchesPath host word (Place.relativePath [name]) (basename (Place.relativePath [name])) = true) :
    toMatch .codeBase [name] ∈ (runLightDiscovery host localeCompare (oneFile name) message).matches_ := by
  have hseeds : ¬ (normalizeInput host message).length = 0 := by
    intro hzero
    rw [List.eq_nil_of_length_eq_zero hzero] at hword
    cases hword
  have hany : (normalizeInput host message).any (fun seed =>
      matchesPath host seed (toMatch .codeBase [name]).relativePath (toMatch .codeBase [name]).fileName) = true :=
    List.any_eq_true.mpr ⟨word, hword, hmatch⟩
  have hsearch : (searchTree host localeCompare (normalizeInput host message) .codeBase (oneFile name .codeBase)).1 =
      [toMatch .codeBase [name]] := by
    simp only [searchTree, oneFile, collectFiles, collectEntry, if_neg hseeds, List.nil_append, List.append_nil,
      List.map_cons, List.map_nil, List.filter_cons, hany, if_true, List.filter_nil, List.insertionSort_cons,
      List.insertionSort_nil, List.orderedInsert_nil, List.take_succ_cons, List.take_nil]
  unfold runLightDiscovery
  rw [List.mem_insertionSort, hsearch]
  exact List.mem_append_right _ (List.mem_singleton_self _)

/-! ### A path with a word and no seed -/

def letters : List Char := "abcdefghijklmnopqrstuvwxyz".toList

/-- What holds of each of the letters, one by one. -/
theorem forall_letters {p : Char → Bool} (h : letters.all p = true) : ∀ c ∈ letters, p c = true :=
  List.all_eq_true.mp h

theorem letters_bounds {c : Char} (hc : c ∈ letters) : 'a' ≤ c ∧ c ≤ 'z' :=
  of_decide_eq_true (forall_letters (p := fun c => decide ('a' ≤ c ∧ c ≤ 'z')) (by decide) c hc)

theorem letters_plain {c : Char} (hc : c ∈ letters) : c ≠ '.' ∧ '/' ≠ c ∧ '\x00' ≠ c ∧ c ≠ '\\' :=
  of_decide_eq_true
    (forall_letters (p := fun c => decide (c ≠ '.' ∧ '/' ≠ c ∧ '\x00' ≠ c ∧ c ≠ '\\')) (by decide) c hc)

/-- **A letter is left** that none of a few texts begins or ends with. -/
theorem exists_unused_letter {texts : List (List Char)} (h : texts.length ≤ 8) :
    ∃ c ∈ letters, ∀ text ∈ texts, text.head? ≠ some c ∧ text.getLast? ≠ some c := by
  by_contra hnone
  have hused : letters ⊆ texts.filterMap List.head? ++ texts.filterMap List.getLast? := by
    intro c hc
    by_contra hunused
    rw [List.mem_append, List.mem_filterMap, List.mem_filterMap] at hunused
    refine hnone ⟨c, hc, fun text htext => ⟨fun hfirst => hunused (.inl ⟨text, htext, hfirst⟩), fun hlast =>
      hunused (.inr ⟨text, htext, hlast⟩)⟩⟩
  have hsubperm : List.Subperm letters _ := List.subperm_of_subset (by decide) hused
  have hlength := hsubperm.length_le
  have hheads := List.length_filterMap_le List.head? texts
  have hlasts := List.length_filterMap_le List.getLast? texts
  have hletters : letters.length = 26 := by decide
  rw [List.length_append] at hlength
  omega

/-- What stands in a bracketed text, and neither begins nor ends with the bracket, stands within. -/
theorem infix_of_bracketed {c : Char} {text word : List Char} (hne : text ≠ []) (hhead : text.head? ≠ some c)
    (hlast : text.getLast? ≠ some c) (h : text <:+: c :: (word ++ [c])) : text <:+: word := by
  obtain ⟨before, behind, heq⟩ := h
  cases before with
  | nil =>
      cases text with
      | nil => exact absurd rfl hne
      | cons d rest =>
          rw [List.nil_append, List.cons_append] at heq
          exact absurd (by rw [(List.cons.inj heq).1]; rfl) hhead
  | cons d before =>
      rw [List.cons_append, List.cons_append] at heq
      have htail := (List.cons.inj heq).2
      rcases List.eq_nil_or_concat' behind with rfl | ⟨behind, e, rfl⟩
      · rw [List.append_nil] at htail
        have hlasts := congrArg List.getLast? htail
        rw [List.getLast?_append_of_ne_nil _ hne, List.getLast?_concat] at hlasts
        exact absurd hlasts hlast
      · rw [← List.append_assoc] at htail
        have hfront := (List.append_inj' htail rfl).1
        exact ⟨before, behind, hfront⟩

/-- The name of a file whose path has the word between two letters: the slashes of the word are written as
backslashes, which the path turns around. -/
def bracketedName (c : Char) (word : String) : String :=
  String.ofList (c :: (word.toList.map (fun d => if d = '/' then '\\' else d) ++ [c]))

theorem mem_bracketedName {c d : Char} {word : String} (hd : d ≠ c) :
    d ∈ (bracketedName c word).toList ↔ ∃ e ∈ word.toList, (if e = '/' then '\\' else e) = d := by
  simp [bracketedName, hd]

theorem bracketedName_valid {c : Char} {word : String} (hc : c ∈ letters) (hword : FitsInPath word) :
    bracketedName c word ≠ "" ∧ bracketedName c word ≠ "." ∧ bracketedName c word ≠ ".." ∧
      '/' ∉ (bracketedName c word).toList ∧ '\x00' ∉ (bracketedName c word).toList := by
  obtain ⟨hdot, hslash, hnul, -⟩ := letters_plain hc
  have hhead : ∀ text : String, bracketedName c word = text → text.toList.head? = some c := by
    rintro _ rfl
    simp [bracketedName]
  refine ⟨fun h => ?_, fun h => ?_, fun h => ?_, ?_, ?_⟩
  · exact absurd (hhead _ h) (by simp)
  · have hfirst := hhead _ h
    exact hdot (by simpa using hfirst.symm)
  · have hfirst := hhead _ h
    exact hdot (by simpa using hfirst.symm)
  · rw [mem_bracketedName hslash]
    rintro ⟨e, -, he⟩
    split at he
    · exact absurd he (by decide)
    · contradiction
  · rw [mem_bracketedName hnul]
    rintro ⟨e, hmem, he⟩
    split at he
    · exact absurd he (by decide)
    · rw [he] at hmem
      exact hword.2 hmem

/-- The file of this name. -/
def bracketedFile {c : Char} {word : String} (hc : c ∈ letters) (hword : FitsInPath word) : FileName where
  text := bracketedName c word
  nonempty := (bracketedName_valid hc hword).1
  not_here := (bracketedName_valid hc hword).2.1
  not_above := (bracketedName_valid hc hword).2.2.1
  no_slash := (bracketedName_valid hc hword).2.2.2.1
  no_nul := (bracketedName_valid hc hword).2.2.2.2

theorem bracketedFile_path {c : Char} {word : String} (hc : c ∈ letters) (hword : FitsInPath word) :
    Place.relativePath [bracketedFile hc hword] = String.singleton c ++ word ++ String.singleton c := by
  obtain ⟨-, -, -, hplain⟩ := letters_plain hc
  have hmap : (word.toList.map fun d => if d = '/' then '\\' else d).map (fun d => if d = '\\' then '/' else d) =
      word.toList := by
    rw [List.map_map]
    refine (List.map_congr_left fun d hd => ?_).trans (List.map_id _)
    have hd' : d ≠ '\\' := fun h => hword.1 (h ▸ hd)
    by_cases hslash : d = '/'
    · simp [hslash]
    · simp [hslash, hd']
  apply String.toList_injective
  simp only [Place.relativePath, List.map_cons, List.map_nil, join, Extension.forwardSlashes, bracketedFile,
    bracketedName, String.toList_ofList, List.map_cons, List.map_append, hmap, List.map_nil, if_neg hplain]
  simp

/-! ### When the two agree -/

theorem lower_of_mem_normalizeInput (hlower : LowersLetters host.toLowerCase) {message word : String}
    (h : word ∈ normalizeInput host message) : host.toLowerCase word = word := by
  obtain ⟨token, -, rfl⟩ := List.mem_map.mp h
  exact hlower.again token

/-- A word that no seed covers is found in a file that no seed is found in. -/
theorem exists_unscored (hlower : LowersLetters host.toLowerCase) {message word : String}
    (hword : word ∈ normalizeInput host message) (hfits : FitsInPath word) {seeds : List String}
    (hseeds : seeds.length ≤ 8) (huncovered : ¬ CoveredBy host seeds word) :
    ∃ name : FileName,
      matchesPath host word (Place.relativePath [name]) (basename (Place.relativePath [name])) = true ∧
      ¬ CoveredBy host seeds (host.toLowerCase (Place.relativePath [name])) := by
  have hcount : (seeds.map fun seed => (Extension.normalizedSeed host seed).toList).length ≤ 8 := by
    rw [List.length_map]
    exact hseeds
  obtain ⟨c, hc, hunused⟩ := exists_unused_letter hcount
  obtain ⟨hlow, hhigh⟩ := letters_bounds hc
  have hletter := hlower.letter c hlow hhigh
  have hsame : host.toLowerCase (String.singleton c ++ word ++ String.singleton c) =
      String.singleton c ++ word ++ String.singleton c :=
    hlower.append _ _ (hlower.append _ _ hletter (lower_of_mem_normalizeInput hlower hword)) hletter
  refine ⟨bracketedFile hc hfits, ?_, ?_⟩
  · rw [matchesPath, bracketedFile_path hc hfits, hsame]
    refine Bool.or_eq_true_iff.mpr (.inl (includes_iff.mpr ⟨[c], [c], ?_⟩))
    simp
  · rw [bracketedFile_path hc hfits, hsame]
    rintro ⟨seed, hseed, hne, hincludes⟩
    refine huncovered ⟨seed, hseed, hne, includes_iff.mpr ?_⟩
    obtain ⟨hhead, hlast⟩ := hunused _ (List.mem_map_of_mem hseed)
    refine infix_of_bracketed (c := c) ?_ hhead hlast ?_
    · intro hnil
      exact hne (String.toList_injective (by rw [hnil]; rfl))
    · have hinfix := includes_iff.mp hincludes
      simpa using hinfix

/-- **Discovery and scoring agree** on what matched exactly when every word that is searched for, and can stand in a
path, contains a seed of the scoring. -/
theorem discovered_files_score_iff (hlower : LowersLetters host.toLowerCase) (message : String) :
    (∀ trees, ∀ found ∈ (runLightDiscovery host localeCompare trees message).matches_, found.source = .codeBase →
      0 < Extension.scoreDiscoverySeeds host found.relativePath (extractDeepDiscoverySeeds message)) ↔
    ∀ word ∈ normalizeInput host message, FitsInPath word →
      CoveredBy host (extractDeepDiscoverySeeds message) word := by
  constructor
  · intro h word hword hfits
    by_contra huncovered
    have hcount : (extractDeepDiscoverySeeds message).length ≤ 8 := List.length_take_le 8 _
    obtain ⟨name, hmatch, hunscored⟩ := exists_unscored hlower hword hfits hcount huncovered
    have hscore := h (oneFile name) _ (oneFile_found hword hmatch) rfl
    exact hunscored (score_pos_iff.mp hscore)
  · intro h trees found hfound _
    obtain ⟨source, place, rfl, word, hword, hmatch⟩ := mem_runLightDiscovery hfound
    have hpath := word_in_path hlower hmatch
    exact score_pos_iff.mpr ((h word hword (fits_of_path hlower hpath)).mono hpath)

/-! ### A crowded request -/

/-- The small letter of a capital letter, and any other character itself. -/
def lowerLetter (c : Char) : Char := if c.isUpper then Char.ofNat (c.toNat + 32) else c

def lowerLetters (text : String) : String := String.ofList (text.toList.map lowerLetter)

theorem isUpper_iff {c : Char} : c.isUpper = true ↔ 65 ≤ c.toNat ∧ c.toNat ≤ 90 := by
  show decide (c.val ≥ 'A'.val ∧ c.val ≤ 'Z'.val) = true ↔ _
  rw [decide_eq_true_iff]
  exact Iff.rfl

/-- The small letter of a capital letter. -/
theorem toNat_lowerLetter {c : Char} (h : c.isUpper = true) : (lowerLetter c).toNat = c.toNat + 32 := by
  obtain ⟨hlow, hhigh⟩ := isUpper_iff.mp h
  have hvalid : (c.toNat + 32).isValidChar := Or.inl (by omega)
  rw [lowerLetter, if_pos h, Char.ofNat, dif_pos hvalid]
  rfl

theorem lowerLetter_of_not_upper {c : Char} (h : ¬ c.isUpper = true) : lowerLetter c = c := if_neg h

theorem lowerLetter_again (c : Char) : lowerLetter (lowerLetter c) = lowerLetter c := by
  by_cases h : c.isUpper = true
  · apply lowerLetter_of_not_upper
    rw [isUpper_iff, toNat_lowerLetter h]
    have hbounds := isUpper_iff.mp h
    omega
  · rw [lowerLetter_of_not_upper h, lowerLetter_of_not_upper h]

theorem lowerLetters_append (a b : String) : lowerLetters (a ++ b) = lowerLetters a ++ lowerLetters b := by
  apply String.toList_injective
  simp [lowerLetters]

theorem lowersLetters : LowersLetters lowerLetters where
  again s := by
    apply String.toList_injective
    simp [lowerLetters, lowerLetter_again]
  append a b ha hb := by rw [lowerLetters_append, ha, hb]
  letter c hlow hhigh := by
    have hc : ¬ c.isUpper = true := by
      rw [isUpper_iff]
      have hbound : ('a' : Char).toNat ≤ c.toNat := hlow
      have ha : ('a' : Char).toNat = 97 := by decide
      omega
    apply String.toList_injective
    simp [lowerLetters, lowerLetter_of_not_upper hc]
  slash a b := by
    have hslash : lowerLetters "/" = "/" := by decide
    rw [lowerLetters_append, lowerLetters_append, hslash]
  keeps s c hc hmem := by
    simp only [lowerLetters, String.toList_ofList, List.mem_map] at hmem
    obtain ⟨d, hd, rfl⟩ := hmem
    by_cases h : d.isUpper = true
    · have hnat := toNat_lowerLetter h
      have hbounds := isUpper_iff.mp h
      rcases hc with hback | hnul
      · rw [hback, show ('\\' : Char).toNat = 92 from by decide] at hnat
        omega
      · rw [hnul, show ('\x00' : Char).toNat = 0 from by decide] at hnat
        omega
    · rw [lowerLetter_of_not_upper h]
      exact hd

def lowerHost : Host := { sampleHost with toLowerCase := lowerLetters }

/-- Eight numbers and a word. -/
def crowdedMessage : String := "11 22 33 44 55 66 77 88 cart"

def cartFile : FileName := ⟨"cart.ts", by decide, by decide, by decide, by decide, by decide⟩

theorem found_files_score_when_few_words :
    toMatch .codeBase [cartFile] ∈
        (runLightDiscovery lowerHost compare (oneFile cartFile) "fix the cart").matches_ ∧
      0 < Extension.scoreDiscoverySeeds lowerHost (toMatch .codeBase [cartFile]).relativePath
        (extractDeepDiscoverySeeds "fix the cart") := by
  have hfound : toMatch .codeBase [cartFile] ∈
      (runLightDiscovery lowerHost compare (oneFile cartFile) "fix the cart").matches_ := by
    decide +kernel
  exact ⟨hfound, (discovered_files_score_iff lowersLetters "fix the cart").mpr (by decide +kernel)
    (oneFile cartFile) _ hfound rfl⟩

theorem numbers_crowd_out_the_word :
    ¬ ∀ (message : String) (trees : LightDiscoverySource → Except String (List DirEntry)),
      ∀ found ∈ (runLightDiscovery lowerHost compare trees message).matches_, found.source = .codeBase →
        0 < Extension.scoreDiscoverySeeds lowerHost found.relativePath (extractDeepDiscoverySeeds message) := by
  intro h
  have hfound : toMatch .codeBase [cartFile] ∈
      (runLightDiscovery lowerHost compare (oneFile cartFile) crowdedMessage).matches_ := by
    decide +kernel
  have hscore : Extension.scoreDiscoverySeeds lowerHost (toMatch .codeBase [cartFile]).relativePath
      (extractDeepDiscoverySeeds crowdedMessage) = 0 := by
    decide +kernel
  have hpos := h crowdedMessage (oneFile cartFile) _ hfound rfl
  rw [hscore] at hpos
  exact absurd hpos (Nat.lt_irrefl 0)

end ForgeRuntime
