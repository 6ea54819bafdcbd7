import ForgeRuntime.Lib.Matching
import ForgeRuntime.Artifacts.Documents

/-!
# What the handoff still shows

`redactHandoffPii` blots out mail addresses, then home paths, then phone numbers.  Each pass is complete for the text
that it reads, but what it writes may stand beside something that the passes before it left alone: a mail address that
ended in digits ends at a word boundary once these are blotted out, and a home prefix in front of another home path gets
a name behind it.

* `blotOut_noMail`, `homePass_noMail`, `phonePass_noPhone` — what each pass leaves;
* `hasHome_homePass`, `hasMail_phonePass` — the two ways in which a pass uncovers something;
* `redaction_complete_iff` — the handoff is free of personal data exactly when neither happens;
* `redaction_misses` — an accepted candidate with a mail address that survives.
-/

namespace ForgeRuntime

open EventDriven EventDriven.Text EventDriven.Pattern

/-! ### What is looked for -/

def mark : List Char := redacted.toList

def digitCount (text : List Char) : Nat := (text.filter Char.isDigit).length

def isHomeNameChar (c : Char) : Bool := c != '\\' && c != '/' && !isSpace c

def isPhoneChar (c : Char) : Bool := c.isDigit || " ().-".toList.contains c

/-- A text is free of personal data when none of the three patterns is found in it, phone numbers from nine digits on. -/
def NoPii (text : String) : Prop :=
  mailPattern.occurrences text.toList = [] ∧ homePathPattern.occurrences text.toList = [] ∧
    ∀ m ∈ phonePattern.occurrences text.toList, digitCount m < 9

instance (text : String) : Decidable (NoPii text) := inferInstanceAs (Decidable (_ ∧ _ ∧ _))

/-- A mail address but for the word boundary at its end. -/
def OpenMail (prev : Option Char) (m : List Char) : Prop :=
  ∃ name host ending : List Char, m = name ++ '@' :: (host ++ '.' :: ending) ∧
    (name ≠ [] ∧ ∀ c ∈ name, isMailNameChar c = true) ∧ (host ≠ [] ∧ ∀ c ∈ host, isMailHostChar c = true) ∧
    (2 ≤ ending.length ∧ ∀ c ∈ ending, c.isAlpha = true) ∧ isWordAt prev ≠ isWordAt name.head?

/-- What stands in front of the name of a home directory. -/
def HomePrefix (pre : List Char) : Prop :=
  (∃ c : Char, c.isAlpha = true ∧ pre = c :: ":\\Users\\".toList) ∨ pre = "/home/".toList ∨ pre = "/Users/".toList

/-- A phone number: digits at both ends, and digits and separators between them. -/
def Phone (m : List Char) : Prop :=
  ∃ (plus middle : List Char) (first last : Char), m = plus ++ first :: (middle ++ [last]) ∧
    (plus = [] ∨ plus = ['+']) ∧ first.isDigit = true ∧ last.isDigit = true ∧
    7 ≤ middle.length ∧ ∀ c ∈ middle, isPhoneChar c = true

theorem isWordChar_of_alpha {c : Char} (h : c.isAlpha = true) : isWordChar c = true := by
  simp [isWordChar, Char.isAlphanum, h]

theorem isWordChar_of_digit {c : Char} (h : c.isDigit = true) : isWordChar c = true := by
  simp [isWordChar, Char.isAlphanum, h]

theorem lastChar_ending {ending : List Char} (hlength : 2 ≤ ending.length) (hall : ∀ c ∈ ending, c.isAlpha = true)
    (prev : Option Char) : isWordAt (lastChar prev ending) = true := by
  have hne : ending ≠ [] := by
    rintro rfl
    exact absurd hlength (by decide)
  rw [lastChar, List.getLast?_eq_some_getLast hne, Option.some_or]
  exact isWordChar_of_alpha (hall _ (List.getLast_mem hne))

theorem matches_mail {prev : Option Char} {m behind : List Char} :
    Matches mailPattern prev m behind ↔ OpenMail prev m ∧ isWordAt behind.head? = false := by
  simp only [mailPattern, Pattern.sequence, Matches, matches_literal]
  constructor
  · rintro ⟨_, _, rfl, ⟨rfl, hleft⟩, name, _, rfl, hname, _, _, rfl, rfl, host, _, rfl, hhost, _, _, rfl, rfl,
      ending, _, rfl, hending, rfl, hright⟩
    have hne : name ≠ [] := List.ne_nil_of_length_pos hname.1
    rw [List.append_assoc, List.head?_append_of_ne_nil _ hne] at hleft
    rw [lastChar_ending hending.1 hending.2] at hright
    refine ⟨⟨name, host, ending, by simp, ⟨hne, hname.2⟩, ⟨List.ne_nil_of_length_pos hhost.1, hhost.2⟩,
      hending, hleft⟩, ?_⟩
    cases hbehind : isWordAt behind.head? with
    | true => exact absurd hbehind.symm hright
    | false => rfl
  · rintro ⟨⟨name, host, ending, rfl, hname, hhost, hending, hleft⟩, hright⟩
    refine ⟨[], _, rfl, ⟨rfl, ?_⟩, name, _, rfl, ⟨List.length_pos_of_ne_nil hname.1, hname.2⟩, ['@'], _, rfl, rfl,
      host, _, rfl, ⟨List.length_pos_of_ne_nil hhost.1, hhost.2⟩, ['.'], _, rfl, rfl, ending, [],
      (List.append_nil ending).symm, hending, rfl, ?_⟩
    · show isWordAt prev ≠ isWordAt (name ++ '@' :: (host ++ '.' :: ending) ++ behind).head?
      rw [List.append_assoc, List.head?_append_of_ne_nil _ hname.1]
      exact hleft
    · rw [lastChar_ending hending.1 hending.2, hright]
      decide

theorem matches_home {prev : Option Char} {m behind : List Char} :
    Matches homePathPattern prev m behind ↔ ∃ pre tail, m = pre ++ tail ∧ HomePrefix pre ∧
      tail ≠ [] ∧ ∀ c ∈ tail, isHomeNameChar c = true := by
  simp only [homePathPattern, Pattern.sequence, choice, Matches, matches_literal]
  constructor
  · rintro ⟨pre, tail, rfl, hpre, hlength, hall⟩
    refine ⟨pre, tail, rfl, ?_, List.ne_nil_of_length_pos hlength, hall⟩
    rcases hpre with ⟨_, _, rfl, ⟨c, rfl, hc⟩, rfl⟩ | ⟨_, _, rfl, rfl, _, _, rfl, rfl | rfl, rfl⟩
    · exact .inl ⟨c, hc, rfl⟩
    · exact .inr (.inl rfl)
    · exact .inr (.inr rfl)
  · rintro ⟨pre, tail, rfl, hpre, hne, hall⟩
    refine ⟨pre, tail, rfl, ?_, List.length_pos_of_ne_nil hne, hall⟩
    rcases hpre with ⟨c, hc, rfl⟩ | rfl | rfl
    · exact .inl ⟨[c], _, rfl, ⟨c, rfl, hc⟩, rfl⟩
    · exact .inr ⟨"/".toList, _, rfl, rfl, "home".toList, "/".toList, rfl, .inl rfl, rfl⟩
    · exact .inr ⟨"/".toList, _, rfl, rfl, "Users".toList, "/".toList, rfl, .inr rfl, rfl⟩

theorem matches_phone {prev : Option Char} {m behind : List Char} :
    Matches phonePattern prev m behind ↔ Phone m := by
  simp only [phonePattern, Pattern.sequence, Matches, matches_literal]
  constructor
  · rintro ⟨plus, _, rfl, hplus, _, _, rfl, ⟨first, rfl, hfirst⟩, middle, _, rfl, ⟨hlength, hall⟩, last, rfl, hlast⟩
    exact ⟨plus, middle, first, last, rfl, hplus.symm, hfirst, hlast, hlength, hall⟩
  · rintro ⟨plus, middle, first, last, rfl, hplus, hfirst, hlast, hlength, hall⟩
    exact ⟨plus, _, rfl, hplus.symm, [first], _, rfl, ⟨first, rfl, hfirst⟩, middle, [last], rfl, ⟨hlength, hall⟩,
      last, rfl, hlast⟩

/-! ### What a text shows -/

def HasMail (text : List Char) : Prop :=
  ∃ before m behind, text = before ++ m ++ behind ∧ OpenMail (lastChar none before) m ∧
    isWordAt behind.head? = false

def HasHome (text : List Char) : Prop :=
  ∃ before pre c behind, text = before ++ pre ++ c :: behind ∧ HomePrefix pre ∧ isHomeNameChar c = true

def HasPhone (text : List Char) : Prop :=
  ∃ before m behind, text = before ++ m ++ behind ∧ Phone m ∧ 9 ≤ digitCount m

theorem occurrences_eq_nil {r : Pattern} {text : List Char} : r.occurrences text = [] ↔
    ¬ ∃ before m behind, text = before ++ m ++ behind ∧ Matches r (lastChar none before) m behind := by
  rw [List.eq_nil_iff_forall_not_mem]
  simp only [mem_occurrences]
  constructor
  · rintro h ⟨before, m, behind, hm⟩
    exact h m ⟨before, behind, hm⟩
  · rintro h m ⟨before, behind, hm⟩
    exact h ⟨before, m, behind, hm⟩

theorem noPii_iff {text : String} :
    NoPii text ↔ ¬ HasMail text.toList ∧ ¬ HasHome text.toList ∧ ¬ HasPhone text.toList := by
  have hhome : (∃ before m behind, text.toList = before ++ m ++ behind ∧
      Matches homePathPattern (lastChar none before) m behind) ↔ HasHome text.toList := by
    simp only [matches_home]
    constructor
    · rintro ⟨before, _, behind, heq, pre, tail, rfl, hpre, hne, hall⟩
      obtain ⟨c, tail, rfl⟩ := List.exists_cons_of_ne_nil hne
      exact ⟨before, pre, c, tail ++ behind, by rw [heq]; simp, hpre, hall c List.mem_cons_self⟩
    · rintro ⟨before, pre, c, behind, heq, hpre, hc⟩
      exact ⟨before, pre ++ [c], behind, by rw [heq]; simp, pre, [c], rfl, hpre, List.cons_ne_nil c [],
        List.forall_mem_singleton.mpr hc⟩
  have hphone : (∀ m ∈ phonePattern.occurrences text.toList, digitCount m < 9) ↔ ¬ HasPhone text.toList := by
    simp only [mem_occurrences, matches_phone]
    constructor
    · rintro h ⟨before, m, behind, heq, hm, hcount⟩
      exact absurd (h m ⟨before, behind, heq, hm⟩) (Nat.not_lt.mpr hcount)
    · rintro h m ⟨before, behind, heq, hm⟩
      exact Nat.lt_of_not_le fun hcount => h ⟨before, m, behind, heq, hm, hcount⟩
  rw [NoPii, occurrences_eq_nil, occurrences_eq_nil, hhome, hphone]
  simp only [matches_mail]
  exact Iff.rfl

/-! ### The three passes -/

/-- What is written for a piece. -/
def written (piece : Piece) : List Char := piece.render fun _ => mark

/-- The text with all matches of a pattern blotted out. -/
def blotOut (r : Pattern) (text : List Char) : List Char := (r.scan text).flatMap written

/-- A number of fewer than nine digits is copied. -/
def copyShort : Piece → List Piece
  | .keep c => [.keep c]
  | .hit m => if 9 ≤ digitCount m then [.hit m] else m.map .keep

def phonePieces (text : List Char) : List Piece := (phonePattern.scan text).flatMap copyShort

def phonePass (text : List Char) : List Char := (phonePieces text).flatMap written

theorem written_keep (c : Char) : written (.keep c) = [c] := rfl

theorem written_keeps (text : List Char) : (text.map Piece.keep).flatMap written = text := by
  rw [List.flatMap_map]
  exact List.flatMap_singleton' text

theorem source_keeps (text : List Char) : (text.map Piece.keep).flatMap Piece.source = text := by
  rw [List.flatMap_map]
  exact List.flatMap_singleton' text

/-- **The redaction** is the three passes, one after the other. -/
theorem redact_eq (value : String) :
    (redactHandoffPii value).toList = phonePass (blotOut homePathPattern (blotOut mailPattern value.toList)) := by
  have hphone : ∀ piece : Piece, piece.render (fun m => (redactPhone (String.ofList m)).toList) =
      (copyShort piece).flatMap written := by
    intro piece
    cases piece with
    | keep c => rfl
    | hit m =>
        have hcount : ((String.ofList m).toList.filter Char.isDigit).length = digitCount m := by
          rw [String.toList_ofList]
          rfl
        by_cases h : 9 ≤ digitCount m
        · rw [Piece.render, redactPhone, if_pos (hcount ▸ h), copyShort, if_pos h]
          simp [written, Piece.render, mark]
        · rw [Piece.render, redactPhone, if_neg (hcount ▸ h), copyShort, if_neg h, written_keeps,
            String.toList_ofList]
  simp only [redactHandoffPii, Pattern.replace, String.toList_ofList, replaceFrom_eq]
  rw [phonePass, phonePieces, List.flatMap_assoc]
  simp only [← hphone]
  rfl

/-! ### Characters -/

/-- The characters of a mail address. -/
def isMailChar (c : Char) : Bool := isMailNameChar c || c == '@'

/-- The characters in front of the name of a home directory. -/
def isPrefixChar (c : Char) : Bool := c.isAlpha || c == ':' || c == '\\' || c == '/'

/-- The mark has no character that any of the patterns looks for. -/
theorem mark_foreign {c : Char} (hc : c ∈ mark) :
    isMailChar c = false ∧ isPrefixChar c = false ∧ isPhoneChar c = false ∧ c ≠ '+' := by
  have hall : (mark.all fun c => decide
      (isMailChar c = false ∧ isPrefixChar c = false ∧ isPhoneChar c = false ∧ c ≠ '+')) = true := by decide
  exact of_decide_eq_true (List.all_eq_true.mp hall c hc)

/-- A fact about ASCII characters. -/
theorem ascii_forall {p : Char → Bool} (h : (List.range 128).all (fun n => p (Char.ofNat n)) = true) {c : Char}
    (hc : c.toNat < 128) : p c = true := by
  have hmem := List.all_eq_true.mp h c.toNat (List.mem_range.mpr hc)
  rwa [Char.ofNat_toNat] at hmem

theorem ascii_of_alphanum {c : Char} (h : c.isAlphanum = true) : c.toNat < 128 := by
  delta Char.isAlphanum Char.isAlpha Char.isUpper Char.isLower Char.isDigit at h
  simp only [Bool.or_eq_true, Bool.and_eq_true, decide_eq_true_eq, ge_iff_le, UInt32.le_iff_toNat_le] at h
  show c.val.toNat < 128
  rcases h with (⟨-, h⟩ | ⟨-, h⟩) | ⟨-, h⟩
  · exact Nat.lt_of_le_of_lt h (by decide)
  · exact Nat.lt_of_le_of_lt h (by decide)
  · exact Nat.lt_of_le_of_lt h (by decide)

theorem ascii_of_mem {s : List Char} (hs : (s.all fun c => decide (c.toNat < 128)) = true) {c : Char}
    (hc : c ∈ s) : c.toNat < 128 :=
  of_decide_eq_true (List.all_eq_true.mp hs c hc)

theorem ascii_of_mailName {c : Char} (h : isMailNameChar c = true) : c.toNat < 128 := by
  rw [isMailNameChar, Bool.or_eq_true, List.contains_iff_mem] at h
  rcases h with h | h
  · exact ascii_of_alphanum h
  · exact ascii_of_mem (by decide) h

theorem ascii_of_phone {c : Char} (h : isPhoneChar c = true) : c.toNat < 128 := by
  rw [isPhoneChar, Bool.or_eq_true, List.contains_iff_mem] at h
  rcases h with h | h
  · exact ascii_of_alphanum (by simp [Char.isAlphanum, h])
  · exact ascii_of_mem (by decide) h

theorem isMailNameChar_of_word {c : Char} (h : isWordChar c = true) : isMailNameChar c = true := by
  simp only [isWordChar, Bool.or_eq_true, beq_iff_eq] at h
  rcases h with h | rfl
  · simp [isMailNameChar, h]
  · decide

theorem isMailNameChar_of_host {c : Char} (h : isMailHostChar c = true) : isMailNameChar c = true := by
  simp only [isMailHostChar, Bool.or_eq_true, beq_iff_eq] at h
  rcases h with (h | rfl) | rfl
  · simp [isMailNameChar, h]
  · decide
  · decide

/-- The name of a mail address could be that of a home directory. -/
theorem isHomeNameChar_of_mail {c : Char} (h : isMailNameChar c = true) : isHomeNameChar c = true := by
  have hall := ascii_forall (p := fun c => !isMailNameChar c || isHomeNameChar c) (by decide +kernel)
    (ascii_of_mailName h)
  simpa [h] using hall

theorem isHomeNameChar_of_digit {c : Char} (h : c.isDigit = true) : isHomeNameChar c = true :=
  isHomeNameChar_of_mail (isMailNameChar_of_word (isWordChar_of_digit h))

namespace OpenMail

variable {prev : Option Char} {m : List Char}

theorem ne_nil (h : OpenMail prev m) : m ≠ [] := by
  obtain ⟨name, host, ending, rfl, ⟨hne, -⟩, -⟩ := h
  exact List.append_ne_nil_of_left_ne_nil hne _

theorem left (h : OpenMail prev m) : isWordAt prev ≠ isWordAt m.head? := by
  obtain ⟨name, host, ending, rfl, ⟨hne, -⟩, -, -, hleft⟩ := h
  rw [List.head?_append_of_ne_nil _ hne]
  exact hleft

/-- Only whether a word character stands in front matters. -/
theorem congr (h : OpenMail prev m) {other : Option Char} (hother : isWordAt other = isWordAt prev) :
    OpenMail other m := by
  obtain ⟨name, host, ending, rfl, hname, hhost, hending, hleft⟩ := h
  exact ⟨name, host, ending, rfl, hname, hhost, hending, hother ▸ hleft⟩

theorem chars (h : OpenMail prev m) : ∀ c ∈ m, isMailChar c = true := by
  obtain ⟨name, host, ending, rfl, ⟨-, hname⟩, ⟨-, hhost⟩, ⟨-, hending⟩, -⟩ := h
  intro c hc
  simp only [List.mem_append, List.mem_cons] at hc
  have hplain : ∀ {c : Char}, isMailNameChar c = true → isMailChar c = true := fun hc => by simp [isMailChar, hc]
  rcases hc with hc | rfl | hc | rfl | hc
  · exact hplain (hname c hc)
  · decide
  · exact hplain (isMailNameChar_of_host (hhost c hc))
  · decide
  · exact hplain (isMailNameChar_of_word (isWordChar_of_alpha (hending c hc)))

theorem head_name (h : OpenMail prev m) : ∀ c ∈ m.head?, isMailNameChar c = true := by
  obtain ⟨name, host, ending, rfl, ⟨hne, hname⟩, -⟩ := h
  rw [List.head?_append_of_ne_nil _ hne]
  exact fun c hc => hname c (List.mem_of_mem_head? hc)

theorem last_word (h : OpenMail prev m) (other : Option Char) : isWordAt (lastChar other m) = true := by
  obtain ⟨name, host, ending, rfl, -, -, ⟨hlength, hending⟩, -⟩ := h
  rw [show name ++ '@' :: (host ++ '.' :: ending) = (name ++ '@' :: (host ++ ['.'])) ++ ending by simp,
    lastChar_append]
  exact lastChar_ending hlength hending _

/-- A longer ending. -/
theorem snoc (h : OpenMail prev m) {c : Char} (hc : c.isAlpha = true) : OpenMail prev (m ++ [c]) := by
  obtain ⟨name, host, ending, rfl, hname, hhost, ⟨hlength, hending⟩, hleft⟩ := h
  refine ⟨name, host, ending ++ [c], by simp, hname, hhost, ⟨?_, ?_⟩, hleft⟩
  · rw [List.length_append]
    omega
  · intro d hd
    rcases List.mem_append.mp hd with hd | hd
    · exact hending d hd
    · rw [List.mem_singleton.mp hd]
      exact hc

/-- A longer name, of word characters. -/
theorem grow (h : OpenMail prev m) {u : List Char} (hne : u ≠ []) (hu : ∀ c ∈ u, isWordChar c = true)
    {other : Option Char} (hother : isWordAt other = false) : OpenMail other (u ++ m) := by
  obtain ⟨name, host, ending, rfl, ⟨-, hname⟩, hhost, hending, -⟩ := h
  refine ⟨u ++ name, host, ending, by simp, ⟨List.append_ne_nil_of_left_ne_nil hne _, ?_⟩, hhost, hending, ?_⟩
  · intro c hc
    rcases List.mem_append.mp hc with hc | hc
    · exact isMailNameChar_of_word (hu c hc)
    · exact hname c hc
  · obtain ⟨c, u, rfl⟩ := List.exists_cons_of_ne_nil hne
    rw [hother, List.cons_append, List.head?_cons, isWordAt, Option.any_some, hu c List.mem_cons_self]
    decide

end OpenMail

theorem HomePrefix.chars {pre : List Char} (h : HomePrefix pre) : ∀ c ∈ pre, isPrefixChar c = true := by
  intro c hc
  have hplain : ∀ {s : List Char}, s.all isPrefixChar = true → c ∈ s → isPrefixChar c = true :=
    fun hs hmem => List.all_eq_true.mp hs c hmem
  rcases h with ⟨letter, hletter, rfl⟩ | rfl | rfl
  · rcases List.mem_cons.mp hc with rfl | hc
    · simp [isPrefixChar, hletter]
    · exact hplain (by decide) hc
  · exact hplain (by decide) hc
  · exact hplain (by decide) hc

theorem HomePrefix.ne_nil {pre : List Char} (h : HomePrefix pre) : pre ≠ [] := by
  rcases h with ⟨c, -, rfl⟩ | rfl | rfl
  · exact List.cons_ne_nil _ _
  · decide
  · decide

theorem Phone.chars {m : List Char} (h : Phone m) : ∀ c ∈ m, isPhoneChar c = true ∨ c = '+' := by
  obtain ⟨plus, middle, first, last, rfl, hplus, hfirst, hlast, -, hmiddle⟩ := h
  intro c hc
  have hdigit : ∀ {c : Char}, c.isDigit = true → isPhoneChar c = true := fun hc => by simp [isPhoneChar, hc]
  simp only [List.mem_append, List.mem_cons, List.not_mem_nil, or_false] at hc
  rcases hc with hc | rfl | hc | rfl
  · rcases hplus with rfl | rfl
    · cases hc
    · exact .inr (List.mem_singleton.mp hc)
  · exact .inl (hdigit hfirst)
  · exact .inl (hmiddle c hc)
  · exact .inl (hdigit hlast)

theorem Phone.ne_nil {m : List Char} (h : Phone m) : m ≠ [] := by
  obtain ⟨plus, middle, first, last, rfl, -⟩ := h
  exact List.append_ne_nil_of_right_ne_nil _ (List.cons_ne_nil _ _)

theorem Phone.exists_cons {m : List Char} (h : Phone m) :
    ∃ d rest, m = d :: rest ∧ (d.isDigit = true ∨ d = '+') := by
  obtain ⟨plus, middle, first, last, rfl, rfl | rfl, hfirst, -⟩ := h
  · exact ⟨first, _, rfl, .inl hfirst⟩
  · exact ⟨'+', _, rfl, .inr rfl⟩

/-- A prefix has no character of a phone number. -/
theorem not_prefix_of_phone {c : Char} (h : isPhoneChar c = true ∨ c = '+') : isPrefixChar c = false := by
  rcases h with h | rfl
  · have hall := ascii_forall (p := fun c => !isPhoneChar c || !isPrefixChar c) (by decide +kernel)
      (ascii_of_phone h)
    simpa [h] using hall
  · decide

/-! ### The mail pass -/

theorem written_hit (m : List Char) : written (.hit m) = mark := rfl

theorem mark_ne_nil : mark ≠ [] := by decide

/-- What ends in front of a place: the same character in both texts, or a match. -/
theorem lastChar_pieces (front : List Piece) :
    lastChar none (front.flatMap written) = lastChar none (front.flatMap Piece.source) ∨
      ∃ rest m, front = rest ++ [.hit m] ∧ lastChar none (front.flatMap written) = some ']' := by
  rcases List.eq_nil_or_concat front with rfl | ⟨rest, piece, rfl⟩
  · exact .inl rfl
  · rw [List.concat_eq_append]
    cases piece with
    | keep c =>
        left
        simp only [List.flatMap_append, lastChar_append, List.flatMap_singleton, written_keep, Piece.source,
          lastChar_singleton]
    | hit m =>
        refine .inr ⟨rest, m, rfl, ?_⟩
        rw [List.flatMap_append, lastChar_append, List.flatMap_singleton, written_hit]
        rfl

/-- What begins behind a place: the same character in both texts, or a match. -/
theorem head_pieces (back : List Piece) :
    (back.flatMap written).head? = (back.flatMap Piece.source).head? ∨ ∃ m rest, back = .hit m :: rest := by
  cases back with
  | nil => exact .inl rfl
  | cons piece rest =>
      cases piece with
      | keep c => exact .inl rfl
      | hit m => exact .inr ⟨m, rest, rfl⟩

/-- A mail address in what was written was copied. -/
theorem mail_copied {pieces : List Piece} {before m behind : List Char} {prev : Option Char}
    (h : pieces.flatMap written = before ++ m ++ behind) (hm : OpenMail prev m) :
    ∃ front back, pieces = front ++ m.map .keep ++ back ∧ front.flatMap written = before ∧
      back.flatMap written = behind :=
  exists_copied written_keep hm.ne_nil h fun _ _ => ⟨mark_ne_nil, fun c hc hmark =>
    absurd (hm.chars c hc) (by simp [(mark_foreign hmark).1])⟩

theorem source_split (front back : List Piece) (m : List Char) :
    (front ++ m.map Piece.keep ++ back).flatMap Piece.source =
      front.flatMap Piece.source ++ m ++ back.flatMap Piece.source := by
  rw [List.flatMap_append, List.flatMap_append, source_keeps]

/-- **The mail pass** leaves no mail address. -/
theorem blotOut_noMail (text : List Char) : ¬ HasMail (blotOut mailPattern text) := by
  rintro ⟨before, m, behind, heq, hm, hright⟩
  have hscan := scan_spec mailPattern text
  obtain ⟨front, back, hpieces, rfl, rfl⟩ := mail_copied heq hm
  rw [hpieces, List.append_assoc] at hscan
  have hplace := hscan.behind
  rw [List.flatMap_append, source_keeps] at hplace
  obtain ⟨c, m', rfl⟩ := List.exists_cons_of_ne_nil hm.ne_nil
  apply hplace.not_matches rfl (List.cons_ne_nil c m')
  rw [matches_mail]
  constructor
  · rcases lastChar_pieces front with hsame | ⟨rest, hit, rfl, hbracket⟩
    · exact hm.congr (by rw [hsame])
    · -- a match ends at a word boundary, and so does the mark in its place
      rw [List.append_assoc, List.singleton_append] at hscan
      have hboundary := (matches_mail.mp hscan.behind.hit_matches).2
      have hleft := hm.left
      rw [hbracket] at hleft
      rw [List.flatMap_append, source_keeps] at hboundary
      exact absurd hboundary.symm hleft
  · rcases head_pieces back with hsame | ⟨hit, rest, rfl⟩
    · rwa [← hsame]
    · rw [← List.append_assoc] at hscan
      have hfirst := (matches_mail.mp hscan.behind.hit_matches).1
      have hleft := hfirst.left
      rw [List.flatMap_append, source_keeps, lastChar_append, hm.last_word] at hleft
      rw [List.flatMap_cons, Piece.source, List.head?_append_of_ne_nil _ hfirst.ne_nil]
      cases hhead : isWordAt hit.head? with
      | true => exact absurd hhead.symm hleft
      | false => rfl

/-! ### The home pass -/

theorem run_seq_one_eq_nil {p : Char → Bool} {r : Pattern} {pos : Position}
    (h : ∀ c ∈ pos.2.head?, p c = false) : run (seq (one p) r) pos = [] := by
  obtain ⟨prev, _ | ⟨c, rest⟩⟩ := pos
  · rfl
  · simp [run, h c rfl]

/-- Two alternatives that begin with different characters. -/
theorem run_disjoint {p q : Char → Bool} {r s : Pattern} (h : ∀ c, p c = true → q c = false) (pos : Position) :
    run (seq (one p) r) pos = [] ∨ run (seq (one q) s) pos = [] := by
  by_cases hp : ∀ c ∈ pos.2.head?, p c = false
  · exact .inl (run_seq_one_eq_nil hp)
  · right
    apply run_seq_one_eq_nil
    intro d hd
    obtain ⟨c, hc, hpc⟩ : ∃ c ∈ pos.2.head?, ¬ p c = false := by simpa using hp
    obtain rfl := Option.mem_unique hc hd
    exact h c (by simpa using hpc)

/-- A home path is as long as it can be. -/
theorem greedy_home : Greedy homePathPattern := by
  refine greedy_seq (decisive_alt (decisive_seq (decisive_one _) (decisive_literal _))
    (decisive_seq (decisive_literal _) (decisive_seq (decisive_alt (decisive_literal _) (decisive_literal _) ?_)
      (decisive_literal _))) ?_) (greedy_atLeast _ _)
  · intro pos
    refine run_disjoint (fun c hc => ?_) pos
    rw [beq_iff_eq.mp hc]
    decide
  · intro pos
    have hslash : ∀ c : Char, c.isAlpha = true → (c == '/') = false := by
      rintro c hc
      rw [beq_eq_false_iff_ne]
      rintro rfl
      cases hc
    rcases run_disjoint (s := atLeast 0 fun _ => false) hslash pos with hletter | hliteral
    · exact .inl hletter
    · right
      show run (seq (literal "/") _) pos = []
      rw [run_seq]
      show (run (seq (one fun c => c == '/') (atLeast 0 fun _ => false)) pos).flatMap _ = []
      rw [hliteral, List.flatMap_nil]

theorem HomePrefix.cases_head {pre : List Char} (h : HomePrefix pre) :
    (∃ rest, pre = '/' :: rest) ∨ ∃ c rest, c.isAlpha = true ∧ pre = c :: ':' :: rest := by
  rcases h with ⟨c, hc, rfl⟩ | rfl | rfl
  · exact .inr ⟨c, "\\Users\\".toList, hc, rfl⟩
  · exact .inl ⟨"home/".toList, rfl⟩
  · exact .inl ⟨"Users/".toList, rfl⟩

/-- **The home pass** uncovers no mail address. -/
theorem homePass_noMail {text : List Char} (h : ¬ HasMail text) : ¬ HasMail (blotOut homePathPattern text) := by
  rintro ⟨before, m, behind, heq, hm, hright⟩
  have hscan := scan_spec homePathPattern text
  obtain ⟨front, back, hpieces, rfl, rfl⟩ := mail_copied heq hm
  rw [hpieces, List.append_assoc] at hscan
  have htext : text = front.flatMap Piece.source ++ m ++ back.flatMap Piece.source := by
    rw [← source_split, List.append_assoc, hscan.source_eq]
  have hleft : OpenMail (lastChar none (front.flatMap Piece.source)) m := by
    rcases lastChar_pieces front with hsame | ⟨rest, hit, rfl, -⟩
    · exact hm.congr (by rw [hsame])
    · -- a home path does not stop in front of a mail address
      rw [List.append_assoc, List.singleton_append] at hscan
      have hplace := hscan.behind
      obtain ⟨c, m', rfl⟩ := List.exists_cons_of_ne_nil hm.ne_nil
      have hc := isHomeNameChar_of_mail (hm.head_name c rfl)
      obtain ⟨pre, tail, rfl, hpre, -, htail⟩ := matches_home.mp hplace.hit_matches
      have hcut : (Piece.hit (pre ++ tail) :: ((c :: m').map Piece.keep ++ back)).flatMap Piece.source =
          (pre ++ (tail ++ [c])) ++ (m' ++ back.flatMap Piece.source) := by
        simp only [List.flatMap_cons, List.flatMap_append, source_keeps, Piece.source, List.append_assoc,
          List.cons_append, List.nil_append]
      have hname : ∀ d ∈ tail ++ [c], isHomeNameChar d = true := by
        intro d hd
        rcases List.mem_append.mp hd with hd | hd
        · exact htail d hd
        · rwa [List.mem_singleton.mp hd]
      have hlonger := hplace.hit_longest greedy_home hcut (matches_home.mpr ⟨pre, tail ++ [c], rfl, hpre,
        List.append_ne_nil_of_right_ne_nil _ (List.cons_ne_nil c []), hname⟩)
      simp only [List.length_append, List.length_singleton] at hlonger
      omega
  apply h
  rcases head_pieces back with hsame | ⟨hit, rest, rfl⟩
  · exact ⟨_, m, _, htext, hleft, by rwa [← hsame]⟩
  · rw [← List.append_assoc] at hscan
    obtain ⟨pre, tail, rfl, hpre, -⟩ := matches_home.mp hscan.behind.hit_matches
    rcases hpre.cases_head with ⟨suffix, rfl⟩ | ⟨letter, suffix, hletter, rfl⟩
    · exact ⟨_, m, _, htext, hleft, by rw [List.flatMap_cons]; rfl⟩
    · -- the letter of the drive belongs to the address
      refine ⟨_, m ++ [letter], ':' :: (suffix ++ tail ++ rest.flatMap Piece.source), ?_, hleft.snoc hletter, rfl⟩
      rw [htext, List.flatMap_cons, Piece.source]
      simp only [List.append_assoc, List.cons_append, List.nil_append]

/-- A home prefix that is left alone, directly before a home path. -/
def UncoversHome (text : List Char) : Prop :=
  ∃ front pre m back, homePathPattern.scan text = front ++ pre.map .keep ++ .hit m :: back ∧ HomePrefix pre

/-- A home prefix in what was written was copied. -/
theorem prefix_copied {pieces : List Piece} {before pre behind : List Char}
    (h : pieces.flatMap written = before ++ pre ++ behind) (hpre : HomePrefix pre) :
    ∃ front back, pieces = front ++ pre.map .keep ++ back ∧ front.flatMap written = before ∧
      back.flatMap written = behind :=
  exists_copied written_keep hpre.ne_nil h fun _ _ => ⟨mark_ne_nil, fun c hc hmark =>
    absurd (hpre.chars c hc) (by simp [(mark_foreign hmark).2.1])⟩

/-- **The home pass** leaves a home path when it writes the mark behind a prefix. -/
theorem hasHome_homePass (text : List Char) : HasHome (blotOut homePathPattern text) ↔ UncoversHome text := by
  constructor
  · rintro ⟨before, pre, c, behind, heq, hpre, hc⟩
    have hscan := scan_spec homePathPattern text
    obtain ⟨front, back, hpieces, rfl, hback⟩ := prefix_copied heq hpre
    cases back with
    | nil => cases hback
    | cons piece back =>
        cases piece with
        | hit m => exact ⟨front, pre, m, back, hpieces, hpre⟩
        | keep d =>
            -- the name would have been found with its prefix
            rw [List.flatMap_cons, written_keep] at hback
            obtain ⟨rfl, -⟩ := List.cons.inj hback
            rw [hpieces, List.append_assoc] at hscan
            have hplace := hscan.behind
            obtain ⟨first, pre', rfl⟩ := List.exists_cons_of_ne_nil hpre.ne_nil
            have hcut : ((first :: pre').map Piece.keep ++ .keep d :: back).flatMap Piece.source =
                (first :: pre' ++ [d]) ++ back.flatMap Piece.source := by
              rw [List.flatMap_append, source_keeps, List.flatMap_cons, Piece.source, List.append_assoc]
            exact absurd (matches_home.mpr ⟨_, [d], rfl, hpre, List.cons_ne_nil d [],
              List.forall_mem_singleton.mpr hc⟩) (hplace.not_matches hcut (List.cons_ne_nil _ _))
  · rintro ⟨front, pre, m, back, hpieces, hpre⟩
    refine ⟨front.flatMap written, pre, '[', mark.tail ++ back.flatMap written, ?_, hpre, by decide⟩
    rw [blotOut, hpieces, List.flatMap_append, List.flatMap_append, written_keeps, List.flatMap_cons]
    rfl

/-! ### The phone pass -/

/-- What a copied piece was cut from. -/
theorem flatMap_eq_split {α β : Type} {f : α → List β} {xs : List α} {front rest : List β} {b : β}
    (h : xs.flatMap f = front ++ b :: rest) :
    ∃ xs₁ x xs₂ l r, xs = xs₁ ++ x :: xs₂ ∧ f x = l ++ b :: r ∧ front = xs₁.flatMap f ++ l ∧
      rest = r ++ xs₂.flatMap f := by
  induction xs generalizing front with
  | nil => simp at h
  | cons x xs ih =>
      rw [List.flatMap_cons] at h
      rcases List.append_eq_append_iff.mp h with ⟨front', rfl, hrest⟩ | ⟨rest', hx, hrest⟩
      · obtain ⟨xs₁, y, xs₂, l, r, rfl, hy, rfl, hr⟩ := ih hrest
        exact ⟨x :: xs₁, y, xs₂, l, r, rfl, hy, by simp, hr⟩
      · cases rest' with
        | nil =>
            have hstart : xs.flatMap f = [] ++ b :: rest := hrest.symm
            obtain ⟨xs₁, y, xs₂, l, r, rfl, hy, hl, hr⟩ := ih hstart
            refine ⟨x :: xs₁, y, xs₂, l, r, rfl, hy, ?_, hr⟩
            rw [List.append_nil] at hx
            rw [List.flatMap_cons, List.append_assoc, ← hl, hx, List.append_nil]
        | cons d rest' =>
            obtain ⟨rfl, rfl⟩ := List.cons.inj hrest
            exact ⟨[], x, xs, front, rest', rfl, hx, rfl, rfl⟩

theorem source_copyShort (piece : Piece) : (copyShort piece).flatMap Piece.source = piece.source := by
  cases piece with
  | keep c => rfl
  | hit m =>
      rw [copyShort]
      split
      · exact List.append_nil m
      · exact source_keeps m

theorem source_copyShorts (pieces : List Piece) :
    (pieces.flatMap copyShort).flatMap Piece.source = pieces.flatMap Piece.source := by
  rw [List.flatMap_assoc]
  simp only [source_copyShort]

theorem source_phonePieces (text : List Char) : (phonePieces text).flatMap Piece.source = text := by
  rw [phonePieces, source_copyShorts, (scan_spec phonePattern text).source_eq]

theorem copyShort_hit {piece : Piece} {m : List Char} (h : .hit m ∈ copyShort piece) :
    piece = .hit m ∧ 9 ≤ digitCount m := by
  cases piece with
  | keep c => cases List.mem_singleton.mp h
  | hit m' =>
      rw [copyShort] at h
      split at h
      · rename_i hcount
        cases List.mem_singleton.mp h
        exact ⟨rfl, hcount⟩
      · obtain ⟨c, -, hc⟩ := List.mem_map.mp h
        cases hc

/-- What is blotted out is a phone number. -/
theorem phone_of_mem {text m : List Char} (h : .hit m ∈ phonePieces text) : Phone m ∧ 9 ≤ digitCount m := by
  obtain ⟨piece, hpiece, hm⟩ := List.mem_flatMap.mp h
  obtain ⟨rfl, hcount⟩ := copyShort_hit hm
  obtain ⟨front, back, hsplit⟩ := List.append_of_mem hpiece
  have hscan := scan_spec phonePattern text
  rw [hsplit] at hscan
  exact ⟨matches_phone.mp hscan.behind.hit_matches, hcount⟩

/-- **The phone pass** neither hides nor uncovers a home path. -/
theorem hasHome_phonePass (text : List Char) : HasHome (phonePass text) ↔ HasHome text := by
  have hforeign : ∀ {pre : List Char}, HomePrefix pre → ∀ m, .hit m ∈ phonePieces text →
      Piece.source (.hit m) ≠ [] ∧ ∀ c ∈ pre, c ∉ Piece.source (.hit m) := by
    intro pre hpre m hm
    have hphone := (phone_of_mem hm).1
    refine ⟨hphone.ne_nil, fun c hc hmem => ?_⟩
    have hnot := not_prefix_of_phone (hphone.chars c hmem)
    rw [hpre.chars c hc] at hnot
    cases hnot
  constructor
  · rintro ⟨before, pre, c, behind, heq, hpre, hc⟩
    obtain ⟨front, back, hpieces, rfl, hback⟩ := prefix_copied heq hpre
    have htext := source_phonePieces text
    rw [hpieces, source_split] at htext
    cases back with
    | nil => cases hback
    | cons piece back =>
        cases piece with
        | keep d =>
            rw [List.flatMap_cons, written_keep] at hback
            obtain ⟨rfl, -⟩ := List.cons.inj hback
            exact ⟨_, pre, d, _, htext.symm, hpre, hc⟩
        | hit m =>
            -- a number begins with a character that a name may have
            have hphone := (phone_of_mem (by rw [hpieces]; simp) : Phone m ∧ 9 ≤ digitCount m).1
            obtain ⟨d, rest, rfl, hd⟩ := hphone.exists_cons
            refine ⟨_, pre, d, rest ++ back.flatMap Piece.source, htext.symm, hpre, ?_⟩
            rcases hd with hd | rfl
            · exact isHomeNameChar_of_digit hd
            · decide
  · rintro ⟨before, pre, c, behind, heq, hpre, hc⟩
    have hsource : (phonePieces text).flatMap Piece.source = before ++ pre ++ c :: behind := by
      rw [source_phonePieces, heq]
    obtain ⟨front, back, hpieces, rfl, hback⟩ :=
      exists_copied (fun c => rfl) hpre.ne_nil hsource (hforeign hpre)
    rw [phonePass, hpieces, List.flatMap_append, List.flatMap_append, written_keeps]
    cases back with
    | nil => cases hback
    | cons piece back =>
        cases piece with
        | keep d =>
            obtain ⟨rfl, -⟩ := List.cons.inj hback
            exact ⟨_, pre, d, back.flatMap written, rfl, hpre, hc⟩
        | hit m => exact ⟨_, pre, '[', mark.tail ++ back.flatMap written, rfl, hpre, by decide⟩

/-- A mail address but for its end, directly before a number that is blotted out. -/
def UncoversMail (text : List Char) : Prop :=
  ∃ front w m back, phonePieces text = front ++ w.map .keep ++ .hit m :: back ∧
    OpenMail (lastChar none (front.flatMap written)) w

/-- The word that a text ends with. -/
theorem exists_last_word {text : List Char} (h : isWordAt (lastChar none text) = true) :
    ∃ x u, text = x ++ u ∧ u ≠ [] ∧ (∀ c ∈ u, isWordChar c = true) ∧ isWordAt (lastChar none x) = false := by
  induction text using List.reverseRecOn with
  | nil => cases h
  | append_singleton text c ih =>
      rw [lastChar_concat] at h
      cases hlast : isWordAt (lastChar none text) with
      | false => exact ⟨text, [c], rfl, List.cons_ne_nil c [], List.forall_mem_singleton.mpr h, hlast⟩
      | true =>
          obtain ⟨x, u, rfl, hne, hu, hx⟩ := ih hlast
          refine ⟨x, u ++ [c], List.append_assoc x u [c], List.append_ne_nil_of_left_ne_nil hne _, ?_, hx⟩
          intro d hd
          rcases List.mem_append.mp hd with hd | hd
          · exact hu d hd
          · rwa [List.mem_singleton.mp hd]

theorem Phone.last_word {m : List Char} (h : Phone m) (prev : Option Char) :
    isWordAt (lastChar prev m) = true := by
  obtain ⟨plus, middle, first, last, rfl, -, -, hlast, -⟩ := h
  rw [show plus ++ first :: (middle ++ [last]) = (plus ++ first :: middle) ++ [last] by simp, lastChar_concat]
  exact isWordChar_of_digit hlast

/-- **The phone pass** uncovers a mail address when it blots out a number at its end. -/
theorem hasMail_phonePass {text : List Char} (h : ¬ HasMail text) :
    HasMail (phonePass text) ↔ UncoversMail text := by
  constructor
  · rintro ⟨before, m, behind, heq, hm, hright⟩
    obtain ⟨front, back, hpieces, rfl, rfl⟩ := mail_copied heq hm
    have htext := source_phonePieces text
    rw [hpieces, source_split] at htext
    -- where the text was cut, the word in front of the cut belongs to the name
    have hleft : ∃ x u, front.flatMap Piece.source = x ++ u ∧ OpenMail (lastChar none x) (u ++ m) := by
      rcases lastChar_pieces front with hsame | ⟨rest, hit, rfl, hbracket⟩
      · exact ⟨_, [], (List.append_nil _).symm, hm.congr (by rw [hsame])⟩
      · have hphone := (phone_of_mem (by rw [hpieces]; simp) : Phone hit ∧ 9 ≤ digitCount hit).1
        have hlast : isWordAt (lastChar none ((rest ++ [Piece.hit hit]).flatMap Piece.source)) = true := by
          rw [List.flatMap_append, lastChar_append, List.flatMap_singleton]
          exact hphone.last_word _
        obtain ⟨x, u, hxu, hne, hu, hx⟩ := exists_last_word hlast
        exact ⟨x, u, hxu, hm.grow hne hu hx⟩
    obtain ⟨x, u, hxu, hopen⟩ := hleft
    rcases head_pieces back with hsame | ⟨hit, rest, rfl⟩
    · refine absurd ⟨x, u ++ m, back.flatMap Piece.source, ?_, hopen, by rwa [← hsame]⟩ h
      rw [← htext, hxu, List.append_assoc x]
    · exact ⟨front, m, hit, rest, hpieces, hm⟩
  · rintro ⟨front, w, m, back, hpieces, hw⟩
    refine ⟨_, w, mark ++ back.flatMap written, ?_, hw, rfl⟩
    rw [phonePass, hpieces, List.flatMap_append, List.flatMap_append, written_keeps, List.flatMap_cons, written_hit]

/-- A number is as long as it can be. -/
theorem greedy_phone : Greedy phonePattern := by
  refine greedy_opt_seq (decisive_literal _) (greedy_seq (decisive_one _) (greedy_seq_one (greedy_atLeast _ _) _)) ?_
  intro pos
  have hplus : ∀ c : Char, (c == '+') = true → c.isDigit = false := by
    intro c hc
    rw [beq_iff_eq.mp hc]
    decide
  rcases run_disjoint (r := atLeast 0 fun _ => false) hplus pos with hnil | hnil
  · exact .inl hnil
  · exact .inr hnil

/-- A number goes on with digits and separators up to a digit. -/
theorem Phone.extend {m w : List Char} (h : Phone m) (hw : ∀ c ∈ w, isPhoneChar c = true)
    (hlast : ∀ c ∈ w.getLast?, c.isDigit = true) : Phone (m ++ w) := by
  rcases List.eq_nil_or_concat w with rfl | ⟨w', d, rfl⟩
  · rwa [List.append_nil]
  · rw [List.concat_eq_append] at hw hlast ⊢
    obtain ⟨plus, middle, first, last, rfl, hplus, hfirst, hdigit, hlength, hmiddle⟩ := h
    refine ⟨plus, middle ++ last :: w', first, d, by simp, hplus, hfirst, hlast d (by simp), ?_, ?_⟩
    · rw [List.length_append]
      omega
    · intro c hc
      rcases List.mem_append.mp hc with hc | hc
      · exact hmiddle c hc
      · rcases List.mem_cons.mp hc with rfl | hc
        · simp [isPhoneChar, hdigit]
        · exact hw c (List.mem_append_left _ hc)

/-- The characters behind the first one are no plus signs. -/
theorem Phone.tail_chars {m : List Char} (h : Phone m) : ∀ c ∈ m.tail, isPhoneChar c = true := by
  obtain ⟨plus, middle, first, last, rfl, hplus, hfirst, hlast, -, hmiddle⟩ := h
  have hdigit : ∀ {c : Char}, c.isDigit = true → isPhoneChar c = true := fun hc => by simp [isPhoneChar, hc]
  intro c hc
  rcases hplus with rfl | rfl
  · simp only [List.nil_append, List.tail_cons, List.mem_append, List.mem_singleton] at hc
    rcases hc with hc | rfl
    · exact hmiddle c hc
    · exact hdigit hlast
  · simp only [List.cons_append, List.nil_append, List.tail_cons, List.mem_cons, List.mem_append,
      List.not_mem_nil, or_false] at hc
    rcases hc with rfl | hc | rfl
    · exact hdigit hfirst
    · exact hmiddle c hc
    · exact hdigit hlast

theorem Phone.getLast_digit {m : List Char} (h : Phone m) : ∀ c ∈ m.getLast?, c.isDigit = true := by
  obtain ⟨plus, middle, first, last, rfl, -, -, hlast, -⟩ := h
  rw [show plus ++ first :: (middle ++ [last]) = (plus ++ first :: middle) ++ [last] by simp,
    List.getLast?_concat]
  intro c hc
  rwa [← Option.some.inj hc]

theorem digitCount_append (a b : List Char) : digitCount (a ++ b) = digitCount a + digitCount b := by
  rw [digitCount, List.filter_append, List.length_append]
  rfl

/-- A number is not cut in two by the end of a shorter one. -/
theorem Phone.joined {h₁ h₂ w : List Char} (hshort : Phone (h₁ ++ h₂)) (hlong : Phone (h₂ ++ w)) (hne : h₂ ≠ []) :
    Phone (h₁ ++ (h₂ ++ w)) := by
  cases h₁ with
  | nil => exact hlong
  | cons c h₁ =>
      rw [← List.append_assoc]
      apply hshort.extend
      · intro d hd
        obtain ⟨e, h₂', rfl⟩ := List.exists_cons_of_ne_nil hne
        exact hlong.tail_chars d (List.mem_append_right h₂' hd)
      · intro d hd
        have hlast := hlong.getLast_digit d
        rw [List.getLast?_append, hd] at hlast
        exact hlast rfl

/-- **The phone pass** leaves no number of nine digits. -/
theorem phonePass_noPhone (text : List Char) : ¬ HasPhone (phonePass text) := by
  rintro ⟨before, m, behind, heq, hm, hcount⟩
  obtain ⟨front, back, hpieces, -, -⟩ := exists_copied written_keep hm.ne_nil heq fun _ _ =>
    ⟨mark_ne_nil, fun c hc hmark => (hm.chars c hc).elim
      (fun hphone => absurd hphone (by simp [(mark_foreign hmark).2.2.1])) (mark_foreign hmark).2.2.2⟩
  obtain ⟨c, m', rfl⟩ := List.exists_cons_of_ne_nil hm.ne_nil
  rw [phonePieces, List.append_assoc, List.map_cons, List.cons_append] at hpieces
  obtain ⟨front', piece, back', l, r, hscan, hpiece, -, hrest⟩ := flatMap_eq_split hpieces
  have hplace := scan_spec phonePattern text
  rw [hscan] at hplace
  have hsource := congrArg (List.flatMap Piece.source) hrest
  rw [List.flatMap_append, source_keeps, List.flatMap_append, source_copyShorts] at hsource
  cases piece with
  | keep d =>
      -- a match begins at the first character
      rcases List.append_eq_singleton_iff.mp hpiece.symm with ⟨rfl, hlr⟩ | ⟨-, hlr⟩
      · obtain ⟨hc, rfl⟩ := List.cons.inj hlr
        obtain rfl := Piece.keep.inj hc
        have hcut : (Piece.keep c :: back').flatMap Piece.source = c :: m' ++ back.flatMap Piece.source := by
          show [c] ++ back'.flatMap Piece.source = c :: (m' ++ back.flatMap Piece.source)
          rw [hsource, List.flatMap_nil, List.nil_append, List.singleton_append]
        exact hplace.behind.not_matches hcut (List.cons_ne_nil c m') (matches_phone.mpr hm)
      · cases hlr
  | hit h =>
      have hphone := matches_phone.mp hplace.behind.hit_matches
      rw [copyShort] at hpiece
      split at hpiece
      · rcases List.append_eq_singleton_iff.mp hpiece.symm with ⟨-, hlr⟩ | ⟨-, hlr⟩
        · cases (List.cons.inj hlr).1
        · cases hlr
      · rename_i hfew
        obtain ⟨h₁, h₂, rfl, rfl, hr⟩ := List.map_eq_append_iff.mp hpiece
        obtain ⟨d, h₂', rfl, hd, rfl⟩ := List.map_eq_cons_iff.mp hr
        obtain rfl := Piece.keep.inj hd
        rw [source_keeps] at hsource
        rcases List.append_eq_append_iff.mp hsource with ⟨rest, rfl, -⟩ | ⟨w, rfl, hw⟩
        · -- the number lies in a shorter one
          apply hfew
          rw [digitCount_append, ← List.cons_append, digitCount_append]
          omega
        · -- the number goes on behind a shorter one
          have hjoined := hphone.joined hm (List.cons_ne_nil d h₂')
          have hcut : (Piece.hit (h₁ ++ d :: h₂') :: back').flatMap Piece.source =
              h₁ ++ (d :: h₂' ++ w) ++ back.flatMap Piece.source := by
            rw [List.flatMap_cons, Piece.source, hw]
            simp only [List.append_assoc, List.cons_append]
          have hle := hplace.behind.hit_longest greedy_phone hcut (matches_phone.mpr hjoined)
          have hnil : w = [] := by
            apply List.eq_nil_of_length_eq_zero
            simp only [List.length_append, List.length_cons] at hle
            omega
          apply hfew
          rw [hnil, List.append_nil] at hcount
          rw [digitCount_append]
          omega

/-! ### The three passes together -/

/-- Neither pass behind another uncovers what the other looks for. -/
def Covered (value : String) : Prop :=
  ¬ UncoversHome (blotOut mailPattern value.toList) ∧
    ¬ UncoversMail (blotOut homePathPattern (blotOut mailPattern value.toList))

/-- **The redaction** is complete when no pass uncovers anything. -/
theorem noPii_redact (value : String) : NoPii (redactHandoffPii value) ↔ Covered value := by
  rw [noPii_iff, redact_eq, hasMail_phonePass (homePass_noMail (blotOut_noMail _)), hasHome_phonePass,
    hasHome_homePass]
  constructor
  · rintro ⟨hmail, hhome, -⟩
    exact ⟨hhome, hmail⟩
  · rintro ⟨hhome, hmail⟩
    exact ⟨hmail, hhome, phonePass_noPhone _⟩

/-- A character that every match has, and the mark has not. -/
def isTell (c : Char) : Bool := c == '@' || c == '/' || c == '\\' || c.isDigit

theorem countP_written {pieces : List Piece} (h : ∀ m, .hit m ∈ pieces → ∃ c ∈ m, isTell c = true) :
    (pieces.flatMap written).countP isTell ≤ (pieces.flatMap Piece.source).countP isTell ∧
      ((pieces.flatMap Piece.source).countP isTell ≤ (pieces.flatMap written).countP isTell →
        ∀ m, .hit m ∉ pieces) := by
  induction pieces with
  | nil => exact ⟨Nat.le_refl _, fun _ => nofun⟩
  | cons piece pieces ih =>
      obtain ⟨hle, hnone⟩ := ih fun m hm => h m (List.mem_cons_of_mem _ hm)
      rw [List.flatMap_cons, List.flatMap_cons, List.countP_append, List.countP_append]
      cases piece with
      | keep c =>
          rw [written_keep, Piece.source]
          refine ⟨by omega, fun hcount m hm => ?_⟩
          rcases List.mem_cons.mp hm with hm | hm
          · cases hm
          · exact hnone (by omega) m hm
      | hit m =>
          have hmark : (written (.hit m)).countP isTell = 0 := by
            rw [written_hit]
            decide
          obtain ⟨c, hc, htell⟩ := h m List.mem_cons_self
          have hpos : 0 < m.countP isTell := List.countP_pos_iff.mpr ⟨c, hc, htell⟩
          rw [hmark, Piece.source]
          exact ⟨by omega, fun hcount => absurd hcount (by omega)⟩

/-- Pieces without a match are copied. -/
theorem written_of_no_hit {pieces : List Piece} (h : ∀ m, .hit m ∉ pieces) :
    pieces.flatMap written = pieces.flatMap Piece.source := by
  induction pieces with
  | nil => rfl
  | cons piece pieces ih =>
      have hrest := ih fun m hm => h m (List.mem_cons_of_mem _ hm)
      cases piece with
      | keep c => rw [List.flatMap_cons, List.flatMap_cons, hrest, written_keep, Piece.source]
      | hit m => exact absurd List.mem_cons_self (h m)

theorem matches_of_mem {r : Pattern} {text m : List Char} (h : .hit m ∈ r.scan text) :
    ∃ before behind, text = before ++ m ++ behind ∧ Matches r (lastChar none before) m behind := by
  obtain ⟨front, back, hsplit⟩ := List.append_of_mem h
  have hscan := scan_spec r text
  rw [hsplit] at hscan
  refine ⟨front.flatMap Piece.source, back.flatMap Piece.source, ?_, hscan.behind.hit_matches⟩
  rw [← hscan.source_eq, List.flatMap_append, List.flatMap_cons, Piece.source, List.append_assoc]

theorem mail_tell {prev : Option Char} {m behind : List Char} (h : Matches mailPattern prev m behind) :
    ∃ c ∈ m, isTell c = true := by
  obtain ⟨⟨name, host, ending, rfl, -⟩, -⟩ := matches_mail.mp h
  exact ⟨'@', by simp, rfl⟩

theorem home_tell {prev : Option Char} {m behind : List Char} (h : Matches homePathPattern prev m behind) :
    ∃ c ∈ m, isTell c = true := by
  obtain ⟨pre, tail, rfl, ⟨c, -, rfl⟩ | rfl | rfl, -⟩ := matches_home.mp h
  · exact ⟨'\\', by simp, rfl⟩
  · exact ⟨'/', by simp, rfl⟩
  · exact ⟨'/', by simp, rfl⟩

theorem Phone.tell {m : List Char} (h : Phone m) : ∃ c ∈ m, isTell c = true := by
  obtain ⟨plus, middle, first, last, rfl, -, hfirst, -⟩ := h
  exact ⟨first, by simp, by simp [isTell, hfirst]⟩

/-- A pass drops a telling character with every match. -/
theorem countP_blotOut {r : Pattern} (htell : ∀ {prev m behind}, Matches r prev m behind → ∃ c ∈ m, isTell c = true)
    (text : List Char) : (blotOut r text).countP isTell ≤ text.countP isTell ∧
      (text.countP isTell ≤ (blotOut r text).countP isTell → ∀ m, .hit m ∉ r.scan text) := by
  have hhits : ∀ m, .hit m ∈ r.scan text → ∃ c ∈ m, isTell c = true := by
    intro m hm
    obtain ⟨before, behind, -, hmatch⟩ := matches_of_mem hm
    exact htell hmatch
  have hcount := countP_written hhits
  rwa [(scan_spec r text).source_eq] at hcount

theorem countP_phonePass (text : List Char) : (phonePass text).countP isTell ≤ text.countP isTell ∧
    (text.countP isTell ≤ (phonePass text).countP isTell → ∀ m, .hit m ∉ phonePieces text) := by
  have hhits : ∀ m, .hit m ∈ phonePieces text → ∃ c ∈ m, isTell c = true := fun m hm => (phone_of_mem hm).1.tell
  have hcount := countP_written hhits
  rwa [source_phonePieces] at hcount

theorem blotOut_of_no_hit {r : Pattern} {text : List Char} (h : ∀ m, .hit m ∉ r.scan text) :
    blotOut r text = text := by
  rw [blotOut, written_of_no_hit h, (scan_spec r text).source_eq]

theorem phonePass_of_no_hit {text : List Char} (h : ∀ m, .hit m ∉ phonePieces text) : phonePass text = text := by
  rw [phonePass, written_of_no_hit h, source_phonePieces]

/-- **A text is left as it is** when nothing is found in it. -/
theorem redact_eq_self (value : String) : redactHandoffPii value = value ↔ NoPii value := by
  rw [← String.toList_inj, redact_eq, noPii_iff]
  obtain ⟨hmail, hnoMail⟩ := countP_blotOut mail_tell value.toList
  obtain ⟨hhome, hnoHome⟩ := countP_blotOut home_tell (blotOut mailPattern value.toList)
  obtain ⟨hphone, hnoPhone⟩ := countP_phonePass (blotOut homePathPattern (blotOut mailPattern value.toList))
  constructor
  · intro heq
    have hcount := congrArg (List.countP isTell) heq
    have hfirst := hnoMail (by omega)
    have hsecond := hnoHome (by omega)
    have hthird := hnoPhone (by omega)
    have hsame := blotOut_of_no_hit hfirst
    rw [hsame] at hsecond hthird
    have hsame' := blotOut_of_no_hit hsecond
    rw [hsame'] at hthird
    refine ⟨hsame ▸ blotOut_noMail value.toList, ?_, phonePass_of_no_hit hthird ▸ phonePass_noPhone value.toList⟩
    intro h
    rw [← hsame', hasHome_homePass] at h
    obtain ⟨front, pre, m, back, hscan, -⟩ := h
    apply hsecond m
    rw [hscan]
    simp
  · rintro ⟨hmail', hhome', hphone'⟩
    have hfirst : ∀ m, .hit m ∉ mailPattern.scan value.toList := by
      intro m hm
      obtain ⟨before, behind, heq, hmatch⟩ := matches_of_mem hm
      exact hmail' ⟨before, m, behind, heq, matches_mail.mp hmatch⟩
    have hsecond : ∀ m, .hit m ∉ homePathPattern.scan value.toList := by
      intro m hm
      obtain ⟨before, behind, heq, hmatch⟩ := matches_of_mem hm
      obtain ⟨pre, tail, rfl, hpre, hne, htail⟩ := matches_home.mp hmatch
      obtain ⟨c, tail, rfl⟩ := List.exists_cons_of_ne_nil hne
      refine hhome' ⟨before, pre, c, tail ++ behind, ?_, hpre, htail c List.mem_cons_self⟩
      rw [heq]
      simp
    have hthird : ∀ m, .hit m ∉ phonePieces value.toList := by
      intro m hm
      obtain ⟨hm', hdigits⟩ := phone_of_mem hm
      obtain ⟨front, back, hsplit⟩ := List.append_of_mem hm
      refine hphone' ⟨front.flatMap Piece.source, m, back.flatMap Piece.source, ?_, hm', hdigits⟩
      rw [← source_phonePieces value.toList, hsplit, List.flatMap_append, List.flatMap_cons, Piece.source,
        List.append_assoc]
    rw [blotOut_of_no_hit hfirst, blotOut_of_no_hit hsecond, phonePass_of_no_hit hthird]

/-! ### The lines of the handoff -/

/-- A text without the character at a cut lies on one side of it. -/
theorem exists_side {a b before m behind : List Char} {sep : Char} (hne : m ≠ []) (hsep : sep ∉ m)
    (h : a ++ sep :: b = before ++ m ++ behind) :
    (∃ rest, a = before ++ m ++ rest ∧ behind = rest ++ sep :: b) ∨
      ∃ rest, b = rest ++ m ++ behind ∧ before = a ++ sep :: rest := by
  rcases List.append_eq_append_iff.mp h with ⟨rest, hfront, hrest⟩ | ⟨rest, ha, hbehind⟩
  · rcases List.append_eq_append_iff.mp hfront.symm with ⟨rest', ha, hm⟩ | ⟨rest', hbefore, hrest'⟩
    · cases rest' with
      | nil =>
          obtain ⟨c, m', rfl⟩ := List.exists_cons_of_ne_nil hne
          rw [hm] at hrest
          exact absurd (by rw [(List.cons.inj hrest).1]; exact List.mem_cons_self) hsep
      | cons d rest' =>
          rw [hm, List.cons_append, List.cons_append] at hrest
          obtain ⟨rfl, hb⟩ := List.cons.inj hrest
          exact .inr ⟨rest', hb, ha⟩
    · cases rest with
      | nil =>
          rw [List.append_nil] at hrest'
          exact .inl ⟨[], by rw [hbefore, hrest', List.append_nil], hrest.symm⟩
      | cons d rest =>
          obtain ⟨rfl, -⟩ := List.cons.inj hrest
          exact absurd (by rw [hrest']; exact List.mem_append_right _ List.mem_cons_self) hsep
  · exact .inl ⟨rest, ha, hbehind⟩

theorem hasMail_cut {a b : List Char} {sep : Char} (hsep : isMailChar sep = false) :
    HasMail (a ++ sep :: b) ↔ HasMail a ∨ HasMail b := by
  have hword : isWordAt (some sep) = false := by
    cases hsome : isWordAt (some sep) with
    | false => rfl
    | true => rw [isMailChar, isMailNameChar_of_word hsome] at hsep; cases hsep
  constructor
  · rintro ⟨before, m, behind, heq, hm, hright⟩
    have hforeign : sep ∉ m := fun hmem => by rw [hm.chars sep hmem] at hsep; cases hsep
    rcases exists_side hm.ne_nil hforeign heq with ⟨rest, rfl, rfl⟩ | ⟨rest, rfl, rfl⟩
    · refine .inl ⟨before, m, rest, rfl, hm, ?_⟩
      cases rest with
      | nil => rfl
      | cons c rest => exact hright
    · refine .inr ⟨rest, m, behind, rfl, hm.congr ?_, hright⟩
      rcases List.eq_nil_or_concat rest with rfl | ⟨rest, c, rfl⟩
      · rw [lastChar_concat, hword]
        rfl
      · rw [List.concat_eq_append, lastChar_concat, ← List.cons_append, ← List.append_assoc, lastChar_concat]
  · rintro (⟨before, m, behind, rfl, hm, hright⟩ | ⟨before, m, behind, rfl, hm, hright⟩)
    · refine ⟨before, m, behind ++ sep :: b, by simp, hm, ?_⟩
      cases behind with
      | nil => exact hword
      | cons c behind => exact hright
    · refine ⟨a ++ sep :: before, m, behind, by simp, hm.congr ?_, hright⟩
      rcases List.eq_nil_or_concat before with rfl | ⟨before, c, rfl⟩
      · rw [lastChar_concat, hword]
        rfl
      · rw [List.concat_eq_append, lastChar_concat, ← List.cons_append, ← List.append_assoc, lastChar_concat]

theorem hasHome_cut {a b : List Char} {sep : Char} (hsep : isPrefixChar sep = false)
    (hname : isHomeNameChar sep = false) : HasHome (a ++ sep :: b) ↔ HasHome a ∨ HasHome b := by
  constructor
  · rintro ⟨before, pre, c, behind, heq, hpre, hc⟩
    have hforeign : sep ∉ pre ++ [c] := by
      intro hmem
      rcases List.mem_append.mp hmem with hmem | hmem
      · rw [hpre.chars sep hmem] at hsep
        cases hsep
      · rw [List.mem_singleton.mp hmem, hc] at hname
        cases hname
    have heq' : a ++ sep :: b = before ++ (pre ++ [c]) ++ behind := by rw [heq]; simp
    rcases exists_side (List.append_ne_nil_of_left_ne_nil hpre.ne_nil _) hforeign heq' with
      ⟨rest, rfl, -⟩ | ⟨rest, rfl, -⟩
    · exact .inl ⟨before, pre, c, rest, by simp, hpre, hc⟩
    · exact .inr ⟨rest, pre, c, behind, by simp, hpre, hc⟩
  · rintro (⟨before, pre, c, behind, rfl, hpre, hc⟩ | ⟨before, pre, c, behind, rfl, hpre, hc⟩)
    · exact ⟨before, pre, c, behind ++ sep :: b, by simp, hpre, hc⟩
    · exact ⟨a ++ sep :: before, pre, c, behind, by simp, hpre, hc⟩

theorem hasPhone_cut {a b : List Char} {sep : Char} (hphone : isPhoneChar sep = false) (hplus : sep ≠ '+') :
    HasPhone (a ++ sep :: b) ↔ HasPhone a ∨ HasPhone b := by
  constructor
  · rintro ⟨before, m, behind, heq, hm, hcount⟩
    have hforeign : sep ∉ m := by
      intro hmem
      rcases hm.chars sep hmem with hchar | hchar
      · rw [hchar] at hphone
        cases hphone
      · exact hplus hchar
    rcases exists_side hm.ne_nil hforeign heq with ⟨rest, rfl, -⟩ | ⟨rest, rfl, -⟩
    · exact .inl ⟨before, m, rest, rfl, hm, hcount⟩
    · exact .inr ⟨rest, m, behind, rfl, hm, hcount⟩
  · rintro (⟨before, m, behind, rfl, hm, hcount⟩ | ⟨before, m, behind, rfl, hm, hcount⟩)
    · exact ⟨before, m, behind ++ sep :: b, by simp, hm, hcount⟩
    · exact ⟨a ++ sep :: before, m, behind, by simp, hm, hcount⟩

/-- **Line by line**: nothing that is looked for goes over the end of a line. -/
theorem noPii_join (lines : List String) : NoPii (join "\n" lines) ↔ ∀ line ∈ lines, NoPii line := by
  induction lines with
  | nil => exact iff_of_true (by decide) nofun
  | cons line lines ih =>
      cases lines with
      | nil => exact List.forall_mem_singleton.symm
      | cons next lines =>
          rw [List.forall_mem_cons, ← ih, join, noPii_iff, noPii_iff, noPii_iff]
          have hcut : (line ++ "\n" ++ join "\n" (next :: lines)).toList =
              line.toList ++ '\n' :: (join "\n" (next :: lines)).toList := by
            rw [String.toList_append, String.toList_append, List.append_assoc]
            rfl
          rw [hcut, hasMail_cut (by decide), hasHome_cut (by decide) (by decide), hasPhone_cut (by decide) (by decide)]
          tauto

/-- The sign in front of an item adds nothing. -/
theorem noPii_item (value : String) : NoPii ("- " ++ value) ↔ NoPii value := by
  have hcut : ("- " ++ value).toList = ['-'] ++ ' ' :: value.toList := by
    rw [String.toList_append]
    rfl
  have hsign : NoPii "-" := by decide
  obtain ⟨hmail, hhome, -⟩ := noPii_iff.mp hsign
  have hphone : HasPhone (['-'] ++ ' ' :: value.toList) ↔ HasPhone value.toList := by
    constructor
    · rintro ⟨before, m, behind, heq, hm, hcount⟩
      obtain ⟨d, rest, rfl, hd⟩ := hm.exists_cons
      rcases before with _ | ⟨b, _ | ⟨b', before⟩⟩
      · obtain ⟨rfl, -⟩ := List.cons.inj heq
        exact absurd hd (by decide)
      · obtain ⟨rfl, -⟩ := List.cons.inj (List.cons.inj heq).2
        exact absurd hd (by decide)
      · exact ⟨before, _, behind, (List.cons.inj (List.cons.inj heq).2).2, hm, hcount⟩
    · rintro ⟨before, m, behind, heq, hm, hcount⟩
      exact ⟨'-' :: ' ' :: before, m, behind, by rw [heq]; simp, hm, hcount⟩
  rw [noPii_iff, noPii_iff, hcut, hasMail_cut (by decide), hasHome_cut (by decide) (by decide), hphone]
  tauto

/-- The texts of the candidate that the handoff shows. -/
def handoffValues (handoff : HandoffCandidate) : List String :=
  [handoff.summary, handoff.nextSessionFocus] ++ handoff.references ++ handoff.suggestedSkills

theorem noPii_handoffLines (handoff : HandoffCandidate) :
    (∀ line ∈ handoffLines handoff, NoPii line) ↔ ∀ value ∈ handoffValues handoff, Covered value := by
  have hheadings : NoPii "# handoff" ∧ NoPii "" ∧ NoPii "## 目前狀態" ∧ NoPii "## 下一個 session 重點" ∧
      NoPii "## 參考文件" ∧ NoPii "## Suggested skills" := by decide +kernel
  have hitems : ∀ values : List String,
      (∀ line ∈ values.map (fun value => "- " ++ redactHandoffPii value), NoPii line) ↔
        ∀ value ∈ values, Covered value := by
    intro values
    rw [List.forall_mem_map]
    simp only [noPii_item, noPii_redact]
  obtain ⟨htitle, hempty, hstate, hfocus, hreferences, hskills⟩ := hheadings
  have hnone : ∀ {P : String → Prop}, (∀ line ∈ ([] : List String), P line) ↔ True := iff_true_intro nofun
  simp only [handoffLines, handoffValues, List.forall_mem_append, List.forall_mem_cons, hnone, hitems, noPii_redact,
    htitle, hempty, hstate, hfocus, hreferences, hskills, true_and, and_true]

/-- **The handoff** is free of personal data exactly when, in each text of the candidate, no home prefix that the
search leaves alone stands directly before a home path, and no address without its end directly before a number that
is blotted out; exactly then redacting a second time changes nothing. -/
theorem redaction_complete_iff (knowledgePackage : EvidencePackage) (contextCandidate : ContextCandidate)
    (candidate : AdrBuildCandidate) (humanDecisions : List EvidenceDecision) :
    ((∀ line ∈ handoffLines candidate.handoff, NoPii line) ↔
      ∀ value ∈ handoffValues candidate.handoff, Covered value) ∧
    (NoPii (renderDeliverableDocuments knowledgePackage contextCandidate candidate humanDecisions).handoff ↔
      ∀ value ∈ handoffValues candidate.handoff, Covered value) ∧
    ((∀ value ∈ handoffValues candidate.handoff,
        redactHandoffPii (redactHandoffPii value) = redactHandoffPii value) ↔
      ∀ value ∈ handoffValues candidate.handoff, Covered value) := by
  refine ⟨noPii_handoffLines candidate.handoff, ?_, ?_⟩
  · rw [← noPii_handoffLines, ← noPii_join]
    rfl
  · simp only [redact_eq_self, noPii_redact]

/-- A candidate whose summary has a mail address with digits behind it, and whose focus a home path behind another
prefix. -/
def uncoveredCandidate : AdrBuildCandidate :=
  { records := [⟨["e-1"], ["consequence"], "decision", "rationale"⟩]
    handoff :=
      { summary := "ask a@b.co123456789"
        nextSessionFocus := "see /home//home/bob"
        references := ["Documents/CONTEXT.md", "Documents/ADR.md"]
        suggestedSkills := ["handoff"] } }

/-- **An accepted candidate** whose handoff shows a mail address and a home path. -/
theorem redaction_misses :
    validateAdrBuildCandidate uncoveredCandidate ["e-1"] = [] ∧
      redactHandoffPii uncoveredCandidate.handoff.summary = "ask a@b.co[已遮蔽]" ∧
      mailPattern.occurrences "ask a@b.co[已遮蔽]".toList ≠ [] ∧
      redactHandoffPii uncoveredCandidate.handoff.nextSessionFocus = "see /home/[已遮蔽]" ∧
      homePathPattern.occurrences "see /home/[已遮蔽]".toList ≠ [] ∧
      redactHandoffPii uncoveredCandidate.handoff.summary ∈ handoffLines uncoveredCandidate.handoff ∧
      redactHandoffPii (redactHandoffPii uncoveredCandidate.handoff.summary) ≠
        redactHandoffPii uncoveredCandidate.handoff.summary := by
  decide +kernel

end ForgeRuntime
