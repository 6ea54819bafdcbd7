import Mathlib.Algebra.GroupWithZero.Nat
import Mathlib.Data.List.Infix

/-!
# Reading bytes as UTF-8

`decode` is the decoder of the encoding standard: it reads a byte at a time, and in the place of bytes that are no
character it writes `U+FFFD`.  `encode` writes the bytes of the characters.

* `decode_encode_append` — what was encoded is read back, whatever follows it;
* `decode_sync` — a byte below `0x80` is always read as itself, so a text can be cut there;
* `encode_decode_iff` — the bytes come back exactly when they are UTF-8;
* `prefix_encode_decode_iff` — when they come back with something behind them.
-/

namespace EventDriven

namespace Utf8

/-- What is written in the place of bytes that are no character. -/
def replacement : Char := Char.ofNat 0xFFFD

/-- The character of a number; the replacement, where the number is none of a character. -/
def charOf (n : Nat) : Char := if h : n.isValidChar then Char.ofNatAux n h else replacement

theorem charOf_toNat (c : Char) : charOf c.val.toNat = c := by
  have hvalid : c.val.toNat.isValidChar := c.valid
  rw [charOf, dif_pos hvalid]
  rfl

theorem le_charOf {n : Nat} (h : 0x80 ≤ n) : 0x80 ≤ (charOf n).toNat := by
  by_cases hvalid : n.isValidChar
  · rw [charOf, dif_pos hvalid]
    exact h
  · rw [charOf, dif_neg hvalid]
    decide

theorem toNat_charOf {n : Nat} (h : n < 0x80) : (charOf n).toNat = n := by
  have hvalid : n.isValidChar := .inl (by omega)
  rw [charOf, dif_pos hvalid]
  rfl

/-- A character of which some bytes have been read: its number so far, how many bytes come after the next one, and
the bounds of the next one. -/
structure Pending where
  codePoint : Nat
  more : Nat
  lower : Nat
  upper : Nat
  above_ascii : 0x80 ≤ lower

/-- Any continuation byte is next. -/
def Pending.plain (codePoint more : Nat) : Pending := ⟨codePoint, more, 0x80, 0xBF, Nat.le_refl _⟩

/-- After the first byte of three: no shorter form, and no surrogate. -/
def Pending.three (b : Nat) : Pending where
  codePoint := b % 16
  more := 1
  lower := if b = 0xE0 then 0xA0 else 0x80
  upper := if b = 0xED then 0x9F else 0xBF
  above_ascii := by split <;> decide

/-- After the first byte of four: no shorter form, and nothing above `U+10FFFF`. -/
def Pending.four (b : Nat) : Pending where
  codePoint := b % 8
  more := 2
  lower := if b = 0xF0 then 0x90 else 0x80
  upper := if b = 0xF4 then 0x8F else 0xBF
  above_ascii := by split <;> decide

/-- Read a byte at the beginning of a character: what is written, and what is pending. -/
def lead (b : Nat) : List Char × Option Pending :=
  if b < 0x80 then ([charOf b], none)
  else if 0xC2 ≤ b ∧ b ≤ 0xDF then ([], some (.plain (b % 32) 0))
  else if 0xE0 ≤ b ∧ b ≤ 0xEF then ([], some (.three b))
  else if 0xF0 ≤ b ∧ b ≤ 0xF4 then ([], some (.four b))
  else ([replacement], none)

/-- Take a byte that continues the pending character. -/
def Pending.next (p : Pending) (b : Nat) : List Char × Option Pending :=
  match p.more with
  | 0 => ([charOf (p.codePoint * 64 + b % 64)], none)
  | more + 1 => ([], some (.plain (p.codePoint * 64 + b % 64) more))

/-- Read a byte.  One that does not continue the pending character is read again as a first byte. -/
def step : Option Pending → Nat → List Char × Option Pending
  | none, b => lead b
  | some p, b =>
      if p.lower ≤ b ∧ b ≤ p.upper then p.next b else (replacement :: (lead b).1, (lead b).2)

def decodeFrom : Option Pending → List UInt8 → List Char
  | none, [] => []
  | some _, [] => [replacement]
  | s, b :: rest => (step s b.toNat).1 ++ decodeFrom (step s b.toNat).2 rest

/-- Read the bytes as UTF-8. -/
def decode (bytes : List UInt8) : List Char := decodeFrom none bytes

def encode (text : List Char) : List UInt8 := text.flatMap String.utf8EncodeChar

@[simp] theorem encode_nil : encode [] = [] := rfl

@[simp] theorem encode_append (a b : List Char) : encode (a ++ b) = encode a ++ encode b := List.flatMap_append

theorem encode_cons (c : Char) (text : List Char) : encode (c :: text) = String.utf8EncodeChar c ++ encode text := rfl

/-- The bytes are those of a text. -/
def Valid (bytes : List UInt8) : Prop := ∃ text, bytes = encode text

/-! ### Steps -/

theorem decodeFrom_cons (s : Option Pending) (b : UInt8) (rest : List UInt8) :
    decodeFrom s (b :: rest) = (step s b.toNat).1 ++ decodeFrom (step s b.toNat).2 rest := by
  cases s <;> rfl

theorem step_some (p : Pending) (b : Nat) :
    step (some p) b =
      if p.lower ≤ b ∧ b ≤ p.upper then p.next b else (replacement :: (lead b).1, (lead b).2) := rfl

theorem lead_ascii {b : Nat} (h : b < 0x80) : lead b = ([charOf b], none) := if_pos h

theorem lead_two {b : Nat} (h : 0xC2 ≤ b) (h' : b ≤ 0xDF) : lead b = ([], some (.plain (b % 32) 0)) := by
  rw [lead, if_neg (by omega), if_pos ⟨h, h'⟩]

theorem lead_three {b : Nat} (h : 0xE0 ≤ b) (h' : b ≤ 0xEF) : lead b = ([], some (.three b)) := by
  rw [lead, if_neg (by omega), if_neg (by omega), if_pos ⟨h, h'⟩]

theorem lead_four {b : Nat} (h : 0xF0 ≤ b) (h' : b ≤ 0xF4) : lead b = ([], some (.four b)) := by
  rw [lead, if_neg (by omega), if_neg (by omega), if_neg (by omega), if_pos ⟨h, h'⟩]

theorem step_within {p : Pending} {b : Nat} (h : p.lower ≤ b) (h' : b ≤ p.upper) :
    step (some p) b = p.next b := if_pos ⟨h, h'⟩

theorem step_plain {codePoint more b : Nat} (h : 0x80 ≤ b) (h' : b ≤ 0xBF) :
    step (some (.plain codePoint (more + 1))) b = ([], some (.plain (codePoint * 64 + b % 64) more)) :=
  step_within (p := .plain codePoint (more + 1)) h h'

theorem step_last {codePoint b : Nat} (h : 0x80 ≤ b) (h' : b ≤ 0xBF) :
    step (some (.plain codePoint 0)) b = ([charOf (codePoint * 64 + b % 64)], none) :=
  step_within (p := .plain codePoint 0) h h'

theorem step_three {b d : Nat} (h : (if b = 0xE0 then 0xA0 else 0x80) ≤ d)
    (h' : d ≤ if b = 0xED then 0x9F else 0xBF) :
    step (some (.three b)) d = ([], some (.plain (b % 16 * 64 + d % 64) 0)) :=
  step_within (p := .three b) h h'

theorem step_four {b d : Nat} (h : (if b = 0xF0 then 0x90 else 0x80) ≤ d)
    (h' : d ≤ if b = 0xF4 then 0x8F else 0xBF) :
    step (some (.four b)) d = ([], some (.plain (b % 8 * 64 + d % 64) 1)) :=
  step_within (p := .four b) h h'

/-- A byte below `0x80` continues nothing. -/
theorem decodeFrom_ascii (s : Option Pending) {a : UInt8} (h : a.toNat < 0x80) (rest : List UInt8) :
    decodeFrom s (a :: rest) = decodeFrom s [] ++ charOf a.toNat :: decodeFrom none rest := by
  cases s with
  | none =>
      rw [decodeFrom_cons, step, lead_ascii h]
      rfl
  | some p =>
      have hlow : ¬ (p.lower ≤ a.toNat ∧ a.toNat ≤ p.upper) := by
        have habove := p.above_ascii
        omega
      rw [decodeFrom_cons, step, if_neg hlow, lead_ascii h]
      rfl

/-- What is read before a byte below `0x80` does not reach behind it. -/
theorem decodeFrom_sync (s : Option Pending) (x : List UInt8) {a : UInt8} (h : a.toNat < 0x80)
    (rest : List UInt8) :
    decodeFrom s (x ++ a :: rest) = decodeFrom s x ++ charOf a.toNat :: decodeFrom none rest := by
  induction x generalizing s with
  | nil => exact decodeFrom_ascii s h rest
  | cons b x ih => rw [List.cons_append, decodeFrom_cons, decodeFrom_cons, ih, List.append_assoc]

/-- **A text can be cut** before a byte below `0x80`. -/
theorem decode_sync (x : List UInt8) {a : UInt8} (h : a.toNat < 0x80) (rest : List UInt8) :
    decode (x ++ a :: rest) = decode x ++ decode (a :: rest) := by
  show decodeFrom none (x ++ a :: rest) = decodeFrom none x ++ decodeFrom none (a :: rest)
  rw [decodeFrom_sync none x h, decodeFrom_ascii none h]
  rfl

/-! ### Where a byte below `0x80` is read -/

/-- The bytes that are read so far make a number that only a longer sequence can make. -/
def Pending.Long (p : Pending) : Prop :=
  ∀ b, p.lower ≤ b → b ≤ p.upper → 0x80 ≤ (p.codePoint * 64 + b % 64) * 64 ^ p.more

theorem lead_long {b : Nat} {p : Pending} (h : (lead b).2 = some p) : p.Long := by
  unfold lead at h
  split at h
  · cases h
  split at h
  · cases h
    intro d hlow hhigh
    simp only [Pending.plain] at hlow hhigh ⊢
    omega
  split at h
  · cases h
    intro d hlow hhigh
    simp only [Pending.three] at hlow hhigh ⊢
    split at hlow <;> split at hhigh <;> omega
  split at h
  · cases h
    intro d hlow hhigh
    simp only [Pending.four] at hlow hhigh ⊢
    split at hlow <;> split at hhigh <;> omega
  · cases h

theorem next_long {p q : Pending} {b : Nat} (hp : p.Long) (hlow : p.lower ≤ b) (hhigh : b ≤ p.upper)
    (h : (p.next b).2 = some q) : q.Long := by
  unfold Pending.next at h
  split at h
  · cases h
  · next more hmore =>
      cases h
      intro d _ _
      have hlong := hp b hlow hhigh
      rw [hmore, Nat.pow_succ', ← Nat.mul_assoc] at hlong
      refine hlong.trans (Nat.mul_le_mul_right _ ?_)
      simp only [Pending.plain]
      omega

theorem step_long {s : Option Pending} {b : Nat} (hs : ∀ p ∈ s, p.Long) : ∀ q ∈ (step s b).2, q.Long := by
  intro q hq
  cases s with
  | none => exact lead_long hq
  | some p =>
      rw [step_some] at hq
      split at hq
      · next hwithin => exact next_long (hs p rfl) hwithin.1 hwithin.2 hq
      · exact lead_long hq

/-- A byte from `0x80` on is never read as a character below `0x80`. -/
theorem step_high {s : Option Pending} {b : Nat} (hs : ∀ p ∈ s, p.Long) (hb : 0x80 ≤ b) :
    ∀ c ∈ (step s b).1, 0x80 ≤ c.toNat := by
  have hlead : ∀ c ∈ (lead b).1, 0x80 ≤ c.toNat := by
    unfold lead
    rw [if_neg (by omega)]
    split
    · nofun
    split
    · nofun
    split
    · nofun
    · simpa using (by decide : 0x80 ≤ replacement.toNat)
  cases s with
  | none => exact hlead
  | some p =>
      rw [step_some]
      split
      · next hwithin =>
          unfold Pending.next
          split
          · next hlast =>
              have hlong := hs p rfl b hwithin.1 hwithin.2
              rw [hlast, Nat.pow_zero, Nat.mul_one] at hlong
              simpa using le_charOf hlong
          · nofun
      · intro c hc
        rcases List.mem_cons.mp hc with rfl | hc
        · decide
        · exact hlead c hc

theorem decodeFrom_nil_high (s : Option Pending) : ∀ c ∈ decodeFrom s [], 0x80 ≤ c.toNat := by
  cases s with
  | none => nofun
  | some p => simpa [decodeFrom] using (by decide : 0x80 ≤ replacement.toNat)

/-- What is read in front of a character below `0x80` that is not there comes before it. -/
theorem append_eq_of_high {out rest p q : List Char} {a : Char} (ha : a.toNat < 0x80)
    (hout : ∀ c ∈ out, 0x80 ≤ c.toNat) (h : out ++ rest = p ++ a :: q) :
    ∃ p', p = out ++ p' ∧ rest = p' ++ a :: q := by
  rcases List.append_eq_append_iff.mp h with ⟨p', rfl, hrest⟩ | ⟨more, rfl, hmore⟩
  · exact ⟨p', rfl, hrest⟩
  · cases more with
    | nil => exact ⟨[], by simp, by simpa using hmore.symm⟩
    | cons c more =>
        obtain ⟨rfl, -⟩ := List.cons.inj hmore
        have hhigh := hout a (by simp)
        omega

/-- **A character below `0x80` is its own byte**, and what is read before and behind it is read of the bytes there. -/
theorem decodeFrom_split {s : Option Pending} (hs : ∀ p ∈ s, p.Long) {x : List UInt8} {p q : List Char} {a : Char}
    (ha : a.toNat < 0x80) (h : decodeFrom s x = p ++ a :: q) :
    ∃ y z, x = y ++ UInt8.ofNat a.toNat :: z ∧ decodeFrom s y = p ∧ decodeFrom none z = q := by
  induction x generalizing s p with
  | nil =>
      have hhigh := decodeFrom_nil_high s a (by rw [h]; simp)
      omega
  | cons b rest ih =>
      rcases Nat.lt_or_ge b.toNat 0x80 with hb | hb
      · rw [decodeFrom_ascii s hb] at h
        obtain ⟨p', rfl, hrest⟩ := append_eq_of_high ha (decodeFrom_nil_high s) h
        cases p' with
        | nil =>
            obtain ⟨hchar, hq⟩ := List.cons.inj hrest
            have hbyte : b = UInt8.ofNat a.toNat := by
              rw [← hchar, toNat_charOf hb, UInt8.ofNat_toNat]
            exact ⟨[], rest, by rw [hbyte]; rfl, by rw [List.append_nil], hq⟩
        | cons c p' =>
            obtain ⟨rfl, hrest'⟩ := List.cons.inj hrest
            obtain ⟨y, z, rfl, hy, hz⟩ := ih (s := none) nofun hrest'
            exact ⟨b :: y, z, rfl, by rw [decodeFrom_ascii s hb, hy], hz⟩
      · rw [decodeFrom_cons] at h
        obtain ⟨p', rfl, hrest⟩ := append_eq_of_high ha (step_high hs hb) h
        obtain ⟨y, z, rfl, hy, hz⟩ := ih (step_long hs) hrest
        exact ⟨b :: y, z, rfl, by rw [decodeFrom_cons, hy], hz⟩

/-! ### The bytes of a character -/

/-- From `s` the bytes are read as the one character `c`. -/
inductive Spells : Option Pending → List UInt8 → Char → Prop
  | last {s : Option Pending} {b : UInt8} {c : Char} (h : step s b.toNat = ([c], none)) : Spells s [b] c
  | more {s : Option Pending} {b : UInt8} {p : Pending} {rest : List UInt8} {c : Char}
      (h : step s b.toNat = ([], some p)) (hrest : Spells (some p) rest c) : Spells s (b :: rest) c

theorem decodeFrom_spells {s : Option Pending} {bytes : List UInt8} {c : Char} (h : Spells s bytes c)
    (rest : List UInt8) : decodeFrom s (bytes ++ rest) = c :: decodeFrom none rest := by
  induction h with
  | last h => rw [List.singleton_append, decodeFrom_cons, h, List.singleton_append]
  | more h hrest ih => rw [List.cons_append, decodeFrom_cons, h, ih, List.nil_append]

/-- Of a character that is cut off nothing is left but the replacement. -/
theorem decodeFrom_cut {s : Option Pending} {bytes : List UInt8} {c : Char} (h : Spells s bytes c)
    {x y : List UInt8} (hbytes : bytes = x ++ y) (hx : x ≠ [] ∨ s ≠ none) (hy : y ≠ []) :
    decodeFrom s x = [replacement] := by
  induction h generalizing x with
  | @last s b c h =>
      cases x with
      | nil =>
          cases s with
          | none => simp at hx
          | some p => rfl
      | cons d x =>
          have hlength := congrArg List.length hbytes
          have hpos := List.length_pos_iff.mpr hy
          simp only [List.length_cons, List.length_append, List.length_nil] at hlength
          omega
  | @more s b p rest c h hrest ih =>
      cases x with
      | nil =>
          cases s with
          | none => simp at hx
          | some p => rfl
      | cons d x =>
          obtain ⟨rfl, hrest'⟩ := List.cons.inj hbytes
          rw [decodeFrom_cons, h, ih hrest' (.inr (Option.some_ne_none p)), List.nil_append]

theorem toNat_byte {n : Nat} (h : n < 256) : (UInt8.ofNat n).toNat = n := by
  rw [UInt8.toNat_ofNat']
  omega

/-- **The bytes of a character** are read as that character. -/
theorem spells_char (c : Char) : Spells none (String.utf8EncodeChar c) c := by
  have hvalid := c.valid
  simp only [UInt32.isValidChar, Nat.isValidChar] at hvalid
  have hc : charOf c.val.toNat = c := charOf_toNat c
  unfold String.utf8EncodeChar
  generalize c.val.toNat = v at hvalid hc ⊢
  simp only
  split
  · -- one byte
    refine .last ?_
    rw [toNat_byte (by omega), step, lead_ascii (by omega), hc]
  split
  · -- two bytes
    have hjoin : v / 64 * 64 + (v % 64 + 128) % 64 = v := by omega
    have hfirst : (v / 64 % 32 + 192) % 32 = v / 64 := by omega
    refine .more (p := .plain (v / 64) 0) ?_ (.last ?_)
    · rw [toNat_byte (by omega), step, lead_two (by omega) (by omega), hfirst]
    · rw [toNat_byte (by omega), step_last (by omega) (by omega), hjoin, hc]
  split
  · -- three bytes
    have hjoin : v / 64 * 64 + (v % 64 + 128) % 64 = v := by omega
    have hfirst : (v / 4096 % 16 + 224) % 16 * 64 + (v / 64 % 64 + 128) % 64 = v / 64 := by omega
    refine .more (p := .three (v / 4096 % 16 + 224)) ?_ (.more (p := .plain (v / 64) 0) ?_ (.last ?_))
    · rw [toNat_byte (by omega), step, lead_three (by omega) (by omega)]
    · rw [toNat_byte (by omega), step_three (by split <;> omega) (by split <;> omega), hfirst]
    · rw [toNat_byte (by omega), step_last (by omega) (by omega), hjoin, hc]
  · -- four bytes
    have hjoin : v / 64 * 64 + (v % 64 + 128) % 64 = v := by omega
    have hsecond : v / 4096 * 64 + (v / 64 % 64 + 128) % 64 = v / 64 := by omega
    have hfirst : (v / 262144 % 8 + 240) % 8 * 64 + (v / 4096 % 64 + 128) % 64 = v / 4096 := by omega
    refine .more (p := .four (v / 262144 % 8 + 240)) ?_ (.more (p := .plain (v / 4096) 1) ?_
      (.more (p := .plain (v / 64) 0) ?_ (.last ?_)))
    · rw [toNat_byte (by omega), step, lead_four (by omega) (by omega)]
    · rw [toNat_byte (by omega), step_four (by split <;> omega) (by split <;> omega), hfirst]
    · rw [toNat_byte (by omega), step_plain (by omega) (by omega), hsecond]
    · rw [toNat_byte (by omega), step_last (by omega) (by omega), hjoin, hc]

/-! ### There and back -/

/-- **What was encoded is read back**, whatever follows it. -/
theorem decode_encode_append (text : List Char) (rest : List UInt8) :
    decode (encode text ++ rest) = text ++ decode rest := by
  induction text with
  | nil => rfl
  | cons c text ih =>
      rw [encode_cons, List.append_assoc, List.cons_append, ← ih]
      exact decodeFrom_spells (spells_char c) _

theorem decode_encode (text : List Char) : decode (encode text) = text := by
  have h := decode_encode_append text []
  rwa [List.append_nil, show decode [] = [] from rfl, List.append_nil] at h

theorem encode_injective {a b : List Char} (h : encode a = encode b) : a = b := by
  rw [← decode_encode a, h, decode_encode]

/-- Every byte is read as something. -/
theorem decodeFrom_ne_nil (p : Pending) (x : List UInt8) : decodeFrom (some p) x ≠ [] := by
  induction x generalizing p with
  | nil => exact List.cons_ne_nil _ _
  | cons b rest ih =>
      rw [decodeFrom_cons, step]
      split
      · unfold Pending.next
        split
        · exact List.cons_ne_nil _ _
        · exact ih _
      · exact List.cons_ne_nil _ _

/-- A first byte is read at once, or is pending. -/
theorem lead_reads (b : Nat) : (lead b).1 ≠ [] ∨ ∃ p, (lead b).2 = some p := by
  unfold lead
  split
  · exact .inl (List.cons_ne_nil _ _)
  split
  · exact .inr ⟨_, rfl⟩
  split
  · exact .inr ⟨_, rfl⟩
  split
  · exact .inr ⟨_, rfl⟩
  · exact .inl (List.cons_ne_nil _ _)

theorem eq_nil_of_decode {x : List UInt8} (h : decode x = []) : x = [] := by
  cases x with
  | nil => rfl
  | cons b rest =>
      rw [decode, decodeFrom_cons, step] at h
      obtain ⟨hout, hrest⟩ := List.append_eq_nil_iff.mp h
      rcases lead_reads b.toNat with hreads | ⟨p, hpending⟩
      · exact absurd hout hreads
      · rw [hpending] at hrest
        exact absurd hrest (decodeFrom_ne_nil p rest)

/-- A word of characters below `0x80`. -/
def Ascii (w : List Char) : Prop := ∀ c ∈ w, c.toNat < 0x80

instance (w : List Char) : Decidable (Ascii w) :=
  decidable_of_iff (w.all (fun c => c.toNat < 0x80) = true) (by simp [Ascii])

theorem encode_ascii {a : Char} (h : a.toNat < 0x80) (w : List Char) :
    encode (a :: w) = UInt8.ofNat a.toNat :: encode w := by
  have hle : a.val.toNat ≤ 0x7F := Nat.le_of_lt_succ h
  rw [encode_cons, String.utf8EncodeChar]
  simp only [hle, if_true]
  rfl

/-- A word that begins below `0x80` is read where its bytes stand. -/
theorem decode_around {a : Char} (ha : a.toNat < 0x80) (w : List Char) (x y : List UInt8) :
    decode (x ++ (encode (a :: w) ++ y)) = decode x ++ ((a :: w) ++ decode y) := by
  have hbyte : (UInt8.ofNat a.toNat).toNat < 0x80 := by
    rw [toNat_byte (by omega)]
    exact ha
  rw [← decode_encode_append (a :: w) y, encode_ascii ha, List.cons_append, decode_sync x hbyte]

/-- **The bytes of an ASCII word** stand where it is read. -/
theorem split_of_decode {w : List Char} (hw : Ascii w) (hne : w ≠ []) {x : List UInt8} {p q : List Char}
    (h : decode x = p ++ (w ++ q)) : ∃ y z, x = y ++ (encode w ++ z) ∧ decode y = p ∧ decode z = q := by
  induction w generalizing x p with
  | nil => exact absurd rfl hne
  | cons a w ih =>
      have ha : a.toNat < 0x80 := hw a List.mem_cons_self
      obtain ⟨y, z, rfl, hy, hz⟩ := decodeFrom_split (s := none) nofun ha h
      cases w with
      | nil => exact ⟨y, z, by rw [encode_ascii ha]; rfl, hy, hz⟩
      | cons c w =>
          obtain ⟨y', z', rfl, hy', hz'⟩ := ih (fun d hd => hw d (List.mem_cons_of_mem _ hd))
            (List.cons_ne_nil c w) (x := z) (p := []) hz
          rw [eq_nil_of_decode hy', List.nil_append]
          exact ⟨y, z', by rw [encode_ascii ha]; rfl, hy, hz'⟩

/-- **The bytes come back** exactly when they are those of a text. -/
theorem encode_decode_iff (bytes : List UInt8) : encode (decode bytes) = bytes ↔ Valid bytes := by
  constructor
  · intro h
    exact ⟨decode bytes, h.symm⟩
  · rintro ⟨text, rfl⟩
    rw [decode_encode]

/-- A beginning of encoded bytes is encoded itself, up to a cut character. -/
theorem prefix_encode {bytes : List UInt8} {text : List Char} (h : bytes <+: encode text) :
    ∃ whole cut, bytes = encode whole ++ cut ∧
      (cut = [] ∨ cut ≠ [] ∧ ∃ c behind, String.utf8EncodeChar c = cut ++ behind ∧ behind ≠ []) := by
  induction text generalizing bytes with
  | nil =>
      rw [encode_nil, List.prefix_nil] at h
      exact ⟨[], [], h, .inl rfl⟩
  | cons c text ih =>
      rw [encode_cons] at h
      rcases Nat.lt_or_ge bytes.length (String.utf8EncodeChar c).length with hshort | hlong
      · obtain ⟨behind, hbehind⟩ :=
          List.prefix_of_prefix_length_le h (List.prefix_append _ _) hshort.le
        by_cases hnil : bytes = []
        · exact ⟨[], [], hnil, .inl rfl⟩
        · refine ⟨[], bytes, rfl, .inr ⟨hnil, c, behind, hbehind.symm, ?_⟩⟩
          rintro rfl
          rw [List.append_nil] at hbehind
          rw [hbehind] at hshort
          omega
      · obtain ⟨more, rfl⟩ := List.prefix_of_prefix_length_le (List.prefix_append _ _) h hlong
        obtain ⟨whole, cut, rfl, hcut⟩ := ih ((List.prefix_append_right_inj _).mp h)
        exact ⟨c :: whole, cut, by rw [encode_cons, List.append_assoc], hcut⟩

/-- The bytes of the replacement. -/
theorem encode_replacement : encode [replacement] = [0xEF, 0xBF, 0xBD] := by decide

/-- No character of four bytes begins like the replacement. -/
theorem not_replacement_prefix {c : Char} {behind : List UInt8}
    (h : String.utf8EncodeChar c = [0xEF, 0xBF, 0xBD] ++ behind) : behind = [] := by
  have hlength := congrArg List.length h
  have hspells := spells_char c
  rw [h] at hspells
  have hread := decodeFrom_spells hspells []
  rw [List.append_nil] at hread
  have hreplacement : decode ([0xEF, 0xBF, 0xBD] ++ behind) = replacement :: decode behind := by
    rw [← encode_replacement]
    exact decode_encode_append [replacement] behind
  have hc : c = replacement := by
    have hboth : c :: decodeFrom none [] = replacement :: decode behind := hread.symm.trans hreplacement
    exact (List.cons.inj hboth).1
  subst hc
  simpa [show String.utf8EncodeChar replacement = [0xEF, 0xBF, 0xBD] from by decide] using h

/-- **The bytes come back with something behind them** exactly when they are those of a text, or end in the first
byte or the first two bytes of the replacement. -/
theorem prefix_encode_decode_iff (bytes : List UInt8) (more : List Char) :
    bytes <+: encode (decode bytes ++ more) ↔
      Valid bytes ∨ ∃ whole, Valid whole ∧ (bytes = whole ++ [0xEF] ∨ bytes = whole ++ [0xEF, 0xBF]) := by
  constructor
  · intro h
    obtain ⟨whole, cut, rfl, rfl | ⟨hcut, c, behind, hchar, hbehind⟩⟩ := prefix_encode h
    · exact .inl ⟨whole, by rw [List.append_nil]⟩
    · have hread : decode cut = [replacement] := decodeFrom_cut (spells_char c) hchar (.inl hcut) hbehind
      rw [decode_encode_append, hread, List.append_assoc, encode_append, encode_append,
        List.prefix_append_right_inj, encode_replacement] at h
      refine .inr ⟨encode whole, ⟨whole, rfl⟩, ?_⟩
      match cut, hcut with
      | [a], _ => exact .inl (by simpa using h)
      | [a, b], _ => exact .inr (by simpa using h)
      | a :: b :: d :: rest, _ =>
          have hthree : a = 0xEF ∧ b = 0xBF ∧ d = 0xBD := by
            simp only [List.cons_append, List.cons_prefix_cons] at h
            exact ⟨h.1, h.2.1, h.2.2.1⟩
          obtain ⟨rfl, rfl, rfl⟩ := hthree
          have hnil := not_replacement_prefix (show String.utf8EncodeChar c = _ ++ (rest ++ behind) by simpa using hchar)
          exact absurd (List.append_eq_nil_iff.mp hnil).2 hbehind
  · rintro (⟨text, rfl⟩ | ⟨bytes, ⟨text, rfl⟩, rfl | rfl⟩)
    · rw [decode_encode, encode_append]
      exact List.prefix_append _ _
    · rw [decode_encode_append, show decode [0xEF] = [replacement] from by decide, encode_append, encode_append,
        encode_replacement, List.append_assoc, List.prefix_append_right_inj]
      exact ⟨[0xBF, 0xBD] ++ encode more, rfl⟩
    · rw [decode_encode_append, show decode [0xEF, 0xBF] = [replacement] from by decide, encode_append,
        encode_append, encode_replacement, List.append_assoc, List.prefix_append_right_inj]
      exact ⟨[0xBD] ++ encode more, rfl⟩

end Utf8

end EventDriven
