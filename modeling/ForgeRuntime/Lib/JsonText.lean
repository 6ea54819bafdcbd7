import ForgeRuntime.Lib.Json
import ForgeRuntime.Lib.PrefixCode

/-!
# The printed text of a JSON value

Two facts about the texts that values are printed as, whatever the texts inside the value are.

* `quote_prefixCode` — a quoted text can be read off the front;
* `indented_pretty` — behind every line break of a printed value stands its indentation, or a bracket;
* `cut_at_line` — so a value can be cut off at the line before it.
-/

namespace EventDriven

open Text

namespace Json

/-! ### Quoted texts -/

/-- The value of a hexadecimal digit in lower case. -/
def hexDigitValue (c : Char) : Nat := "0123456789abcdef".toList.idxOf c

/-- The character that a letter behind a backslash stands for. -/
def unescape (letter : Char) : Char :=
  if letter = 'b' then Char.ofNat 8
  else if letter = 't' then Char.ofNat 9
  else if letter = 'n' then Char.ofNat 10
  else if letter = 'f' then Char.ofNat 12
  else if letter = 'r' then Char.ofNat 13
  else letter

/-- Read a quoted character off the front. -/
def unquoteChar? : List Char → Option (Char × List Char)
  | [] => none
  | c :: rest =>
      if c = '\\' then
        match rest with
        | [] => none
        | letter :: rest =>
            if letter = 'u' then
              match rest with
              | _ :: _ :: high :: low :: rest =>
                  some (Char.ofNat (hexDigitValue high * 16 + hexDigitValue low), rest)
              | _ => none
            else some (unescape letter, rest)
      else some (c, rest)

theorem hexDigitValue_hexDigit : ∀ n < 32, hexDigitValue (hexDigit (n / 16)) * 16 + hexDigitValue (hexDigit n) = n := by
  decide

theorem eq_ofNat_of_toNat {c : Char} {n : Nat} (h : c.toNat = n) : c = Char.ofNat n := by
  rw [← h, Char.ofNat_toNat]

theorem unquoteChar_escaped {letter : Char} (h : letter ≠ 'u') (rest : List Char) :
    unquoteChar? ('\\' :: letter :: rest) = some (unescape letter, rest) := by
  simp only [unquoteChar?, if_true, if_neg h]

/-- A quoted character is read back. -/
theorem unquoteChar_quoteChar (c : Char) (rest : List Char) :
    unquoteChar? (quoteChar c ++ rest) = some (c, rest) := by
  have hescaped : ∀ {letter : Char}, letter ≠ 'u' → unescape letter = c →
      unquoteChar? (['\\', letter] ++ rest) = some (c, rest) := by
    intro letter hletter hc
    rw [← hc]
    exact unquoteChar_escaped hletter rest
  unfold quoteChar
  split
  case isTrue h => exact hescaped (by decide) h.symm
  split
  case isTrue h => exact hescaped (by decide) h.symm
  split
  case isTrue h => exact hescaped (by decide) (eq_ofNat_of_toNat h).symm
  split
  case isTrue h => exact hescaped (by decide) (eq_ofNat_of_toNat h).symm
  split
  case isTrue h => exact hescaped (by decide) (eq_ofNat_of_toNat h).symm
  split
  case isTrue h => exact hescaped (by decide) (eq_ofNat_of_toNat h).symm
  split
  case isTrue h => exact hescaped (by decide) (eq_ofNat_of_toNat h).symm
  split
  case isTrue h =>
    show some (Char.ofNat (hexDigitValue (hexDigit (c.toNat / 16)) * 16 + hexDigitValue (hexDigit c.toNat)), rest) = _
    rw [hexDigitValue_hexDigit c.toNat h, Char.ofNat_toNat]
  case isFalse hslash _ _ _ _ _ _ =>
    show (if c = '\\' then _ else some (c, rest)) = some (c, rest)
    rw [if_neg hslash]

/-- No quoted character begins with a quotation mark. -/
theorem quoteChar_begins (c : Char) : ∃ first rest, quoteChar c = first :: rest ∧ first ≠ '"' := by
  unfold quoteChar
  split_ifs with hquote
  all_goals first
    | exact ⟨_, _, rfl, by decide⟩
    | exact ⟨c, [], rfl, hquote⟩

/-- **A quoted text** can be read off the front. -/
theorem quote_prefixCode : PrefixCode fun s : String => (quote s).toList := by
  intro a b u v heq
  have hclosed := prefixCode_closed (prefixCode_of_read unquoteChar_quoteChar) quoteChar_begins
  have hwords : (a.toList.flatMap quoteChar ++ ['"']) ++ u = (b.toList.flatMap quoteChar ++ ['"']) ++ v := by
    simpa [quote] using heq
  obtain ⟨htext, hrest⟩ := hclosed hwords
  exact ⟨String.toList_inj.mp htext, hrest⟩

/-! ### Lines -/

/-- What stands behind a line break in a printed value. -/
def Indents (c : Char) : Prop := c ∈ [' ', '[', ']', '\x7b', '\x7d']

instance (c : Char) : Decidable (Indents c) := inferInstanceAs (Decidable (_ ∈ _))

/-- Behind every line break stands the indentation, or a bracket. -/
def Indented (text : List Char) : Prop :=
  ∀ before behind, text = before ++ '\n' :: behind → ∃ c ∈ behind.head?, Indents c

theorem Indented.append {a b : List Char} (ha : Indented a) (hb : Indented b) : Indented (a ++ b) := by
  intro before behind heq
  rcases List.append_eq_append_iff.mp heq with ⟨rest, -, hrest⟩ | ⟨rest, hfront, hrest⟩
  · exact hb rest behind hrest
  · cases rest with
    | nil => exact hb [] behind hrest.symm
    | cons c rest =>
        obtain ⟨rfl, rfl⟩ := List.cons.inj hrest
        obtain ⟨d, hd, hindents⟩ := ha before rest hfront
        cases rest with
        | nil => cases hd
        | cons e rest => exact ⟨d, hd, hindents⟩

/-- A text without a line break. -/
theorem indented_of_notMem {a : List Char} (h : '\n' ∉ a) : Indented a := by
  rintro before behind rfl
  exact absurd (List.mem_append_right _ List.mem_cons_self) h

/-- A line break in front of what is indented. -/
theorem Indented.behind {a : List Char} (h : Indented a) {c : Char} (hc : c ∈ a.head?) (hindents : Indents c) :
    Indented ('\n' :: a) := by
  intro before behind heq
  cases before with
  | nil =>
      obtain ⟨-, rfl⟩ := List.cons.inj heq
      exact ⟨c, hc, hindents⟩
  | cons d before =>
      obtain ⟨-, hrest⟩ := List.cons.inj heq
      exact h before behind hrest

/-- **Cutting off what is indented** at the line before it, which is not. -/
theorem cut_at_line {line : List Char} (hline : '\n' ∉ line) (hfirst : ∀ c ∈ line.head?, ¬ Indents c) (hne : line ≠ [])
    {a b u v : List Char} (hu : Indented ('\n' :: u)) (hv : Indented ('\n' :: v))
    (h : a ++ '\n' :: (line ++ '\n' :: u) = b ++ '\n' :: (line ++ '\n' :: v)) : a = b ∧ u = v := by
  -- the line stands only once behind its first line break
  have honce : ∀ {c x y : List Char}, Indented ('\n' :: x) →
      '\n' :: (line ++ '\n' :: x) = c ++ '\n' :: (line ++ '\n' :: y) → c = [] := by
    intro c x y hx heq
    cases c with
    | nil => rfl
    | cons d c =>
        obtain ⟨-, htail⟩ := List.cons.inj heq
        obtain ⟨e, he, hindents⟩ := ((indented_of_notMem hline).append hx) c (line ++ '\n' :: y) htail
        cases line with
        | nil => exact absurd rfl hne
        | cons first line => exact absurd hindents (hfirst e he)
  have hcancel : ∀ {x y : List Char}, '\n' :: (line ++ '\n' :: x) = '\n' :: (line ++ '\n' :: y) → x = y := by
    intro x y heq
    exact (List.cons.inj (List.append_cancel_left (List.cons.inj heq).2)).2
  rcases List.append_eq_append_iff.mp h with ⟨c, hb, hrest⟩ | ⟨c, ha, hrest⟩
  · obtain rfl := honce hu hrest
    exact ⟨by rw [hb, List.append_nil], hcancel hrest⟩
  · obtain rfl := honce hv hrest
    exact ⟨by rw [ha, List.append_nil], (hcancel hrest).symm⟩

theorem notMem_hexDigit (n : Nat) : hexDigit n ≠ '\n' := by
  have hdigit : ∀ k < 16, hexDigit k ≠ '\n' := by decide
  have hmod : hexDigit n = hexDigit (n % 16) := by simp [hexDigit]
  rw [hmod]
  exact hdigit (n % 16) (Nat.mod_lt n (by decide))

theorem notMem_quoteChar (c : Char) : '\n' ∉ quoteChar c := by
  unfold quoteChar
  split_ifs with h1 h2 h3 h4 h5 h6 h7 h8
  case pos => decide
  case pos => decide
  case pos => decide
  case pos => decide
  case pos => decide
  case pos => decide
  case pos => decide
  case pos => simp [Ne.symm (notMem_hexDigit _)]
  case neg =>
    intro hbreak
    obtain rfl := List.mem_singleton.mp hbreak
    exact h5 rfl

theorem indented_quote (s : String) : Indented (quote s).toList := by
  refine indented_of_notMem fun hbreak => ?_
  simp only [quote, String.toList_ofList, List.mem_append, List.mem_singleton, List.mem_flatMap] at hbreak
  rcases hbreak with (hquote | ⟨c, -, hc⟩) | hquote
  · exact absurd hquote (by decide)
  · exact notMem_quoteChar c hc
  · exact absurd hquote (by decide)

theorem newline_toList (level : Nat) : (newline level).toList = '\n' :: List.replicate (2 * level) ' ' := by
  simp [newline]

/-- A line with at least two spaces in front. -/
theorem indented_line (level : Nat) : Indented (newline (level + 1)).toList := by
  rw [newline_toList]
  have hspaces : '\n' ∉ List.replicate (2 * (level + 1)) ' ' :=
    fun hbreak => absurd (List.eq_of_mem_replicate hbreak) (by decide)
  have hfirst : ' ' ∈ (List.replicate (2 * (level + 1)) ' ').head? := by
    rw [Nat.mul_succ, List.replicate_succ]
    exact rfl
  exact (indented_of_notMem hspaces).behind hfirst (by decide)

/-- The line of a closing bracket. -/
theorem indented_closing (level : Nat) {bracket : String} {c : Char} (h : bracket.toList = [c]) (hc : Indents c)
    (hbreak : c ≠ '\n') : Indented (newline level ++ bracket).toList := by
  have hlast : '\n' ∉ [c] := fun hmem => hbreak (List.mem_singleton.mp hmem).symm
  rw [String.toList_append, h]
  cases level with
  | zero => exact (indented_of_notMem hlast).behind rfl hc
  | succ level => exact (indented_line level).append (indented_of_notMem hlast)

theorem indented_join {sep : String} (hsep : Indented sep.toList) {items : List String}
    (h : ∀ item ∈ items, Indented item.toList) : Indented (join sep items).toList := by
  induction items with
  | nil => exact indented_of_notMem (a := "".toList) (by decide)
  | cons item rest ih =>
      cases rest with
      | nil => exact h item List.mem_cons_self
      | cons next rest =>
          rw [join, String.toList_append, String.toList_append]
          refine ((h item List.mem_cons_self).append hsep).append (ih fun other hother => ?_)
          exact h other (List.mem_cons_of_mem _ hother)

theorem indented_block (level : Nat) {opening closing : String} {c : Char} {items : List String}
    (hopening : Indented opening.toList) (hclosing : closing.toList = [c]) (hc : Indents c) (hbreak : c ≠ '\n')
    (h : ∀ item ∈ items, Indented item.toList) : Indented (block level opening closing items).toList := by
  have hlast : Indented closing.toList := by
    rw [hclosing]
    exact indented_of_notMem fun hmem => hbreak (List.mem_singleton.mp hmem).symm
  have hsep : Indented ("," ++ newline (level + 1)).toList := by
    rw [String.toList_append]
    exact (indented_of_notMem (by decide)).append (indented_line level)
  unfold block
  split
  · rw [String.toList_append]
    exact hopening.append hlast
  · rw [String.append_assoc, String.toList_append, String.toList_append, String.toList_append]
    refine ((hopening.append (indented_line level)).append (indented_join hsep h)).append ?_
    exact indented_closing level hclosing hc hbreak

theorem prettyItems_eq (level : Nat) (items : List (Json String)) :
    prettyItems level items = items.map (prettyAt level) := by
  induction items with
  | nil => rfl
  | cons item rest ih => rw [prettyItems, ih, List.map_cons]

/-- A member with its name. -/
def prettyMember (level : Nat) (m : String × Json String) : String := quote m.1 ++ ": " ++ prettyAt level m.2

theorem prettyMembers_eq (level : Nat) (members : List (String × Json String)) :
    prettyMembers level members = members.map (prettyMember level) := by
  induction members with
  | nil => rfl
  | cons m rest ih => rw [prettyMembers, ih, List.map_cons, prettyMember]

theorem indented_member {level : Nat} {m : String × Json String} (h : Indented (prettyAt level m.2).toList) :
    Indented (prettyMember level m).toList := by
  have hcolon : Indented ": ".toList := indented_of_notMem (by decide)
  rw [prettyMember, String.toList_append, String.toList_append]
  exact ((indented_quote m.1).append hcolon).append h

/-- A number is written without a line break. -/
theorem indented_number (value : Numeral) : Indented (numberText value).toList := by
  apply indented_of_notMem
  rw [numberText]
  split
  · intro hbreak
    exact absurd (Numeral.isNumeric_of_mem hbreak) (by decide)
  · decide

/-- **The lines of a printed value.** -/
theorem indented_prettyAt (value : Json String) (level : Nat) : Indented (prettyAt level value).toList := by
  induction value using Json.induction generalizing level with
  | null => exact indented_of_notMem (a := "null".toList) (by decide)
  | bool value =>
      cases value with
      | false => exact indented_of_notMem (a := "false".toList) (by decide)
      | true => exact indented_of_notMem (a := "true".toList) (by decide)
  | number value => exact indented_number value
  | text value => exact indented_quote value
  | array items ih =>
      rw [prettyAt, prettyItems_eq]
      refine indented_block level (indented_of_notMem (by decide)) rfl (by decide) (by decide) fun item hitem => ?_
      obtain ⟨value, hvalue, rfl⟩ := List.mem_map.mp hitem
      exact ih value hvalue (level + 1)
  | object members ih =>
      rw [prettyAt, prettyMembers_eq]
      refine indented_block level (indented_of_notMem (by decide)) rfl (by decide) (by decide) fun item hitem => ?_
      obtain ⟨m, hm, rfl⟩ := List.mem_map.mp hitem
      exact indented_member (ih m hm (level + 1))

theorem indented_pretty (value : Json String) : Indented (pretty value).toList := indented_prettyAt value 0

/-! ### How an object begins -/

theorem join_begins (sep item : String) (items : List String) : ∃ rest, join sep (item :: items) = item ++ rest := by
  cases items with
  | nil => exact ⟨"", (String.append_empty).symm⟩
  | cons next items => exact ⟨sep ++ join sep (next :: items), String.append_assoc ..⟩

/-- An object begins with its first member. -/
theorem prettyAt_object_begins (level : Nat) (m : String × Json String) (members : List (String × Json String)) :
    ∃ rest, prettyAt level (.object (m :: members)) =
      "\x7b" ++ newline (level + 1) ++ prettyMember (level + 1) m ++ rest := by
  obtain ⟨rest, hrest⟩ := join_begins ("," ++ newline (level + 1)) (prettyMember (level + 1) m)
    (members.map (prettyMember (level + 1)))
  refine ⟨rest ++ newline level ++ "\x7d", ?_⟩
  rw [prettyAt, prettyMembers_eq, List.map_cons, block, if_neg (List.cons_ne_nil _ _), hrest]
  simp only [String.append_assoc]

/-- An object of two members. -/
theorem prettyAt_object_pair (level : Nat) (m n : String × Json String) :
    prettyAt level (.object [m, n]) =
      "\x7b" ++ newline (level + 1) ++ prettyMember (level + 1) m ++ ("," ++ newline (level + 1)) ++
        prettyMember (level + 1) n ++ newline level ++ "\x7d" := by
  rw [prettyAt, prettyMembers_eq, List.map_cons, List.map_cons, List.map_nil, block, if_neg (List.cons_ne_nil _ _),
    join, join]
  simp only [String.append_assoc]

/-- A printed object on a line of its own. -/
theorem indented_object (members : List (String × Json String)) :
    Indented ('\n' :: (pretty (.object members)).toList) := by
  have hfirst : '\x7b' ∈ (pretty (.object members)).toList.head? := by
    rw [pretty, prettyAt, block]
    split <;> simp [String.append_assoc]
  exact (indented_pretty (.object members)).behind hfirst (by decide)

end Json

end EventDriven
