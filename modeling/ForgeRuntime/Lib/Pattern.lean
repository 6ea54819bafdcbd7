import ForgeRuntime.Lib.Text

/-!
# Search patterns

The fragment of regular expressions that the program's text checks use: classes, sequences, alternatives,
options, greedy repetition of a class, and word boundaries.  `run` lists the ways of matching at a
position in the order in which a backtracking matcher tries them, `test` searches for a match anywhere, and
`replace` rewrites all matches from left to right.
-/

namespace EventDriven

/-- A position in a text: the character before it, if any, and the text after it. -/
abbrev Position := Option Char × List Char

inductive Pattern where
  | one (p : Char → Bool)
  | seq (first second : Pattern)
  | alt (left right : Pattern)
  | opt (r : Pattern)
  | atLeast (n : Nat) (p : Char → Bool)
  | wordBoundary

namespace Pattern

def isWordChar (c : Char) : Bool := c.isAlphanum || c == '_'

def isWordAt (c : Option Char) : Bool := c.any isWordChar

/-- The ways of eating at least `n` more characters of a class, longest first. -/
def eat (p : Char → Bool) : Nat → Option Char → List Char → List Position
  | n, prev, [] => if n = 0 then [(prev, [])] else []
  | n, prev, c :: rest =>
      (if p c then eat p (n - 1) (some c) rest else []) ++ (if n = 0 then [(prev, c :: rest)] else [])

/-- The positions after a match, in the order in which they are tried. -/
def run : Pattern → Position → List Position
  | one _, (_, []) => []
  | one p, (_, c :: rest) => if p c then [(some c, rest)] else []
  | seq first second, pos => (run first pos).flatMap (run second)
  | alt left right, pos => run left pos ++ run right pos
  | opt r, pos => run r pos ++ [pos]
  | atLeast n p, pos => eat p n pos.1 pos.2
  | wordBoundary, pos => if isWordAt pos.1 != isWordAt pos.2.head? then [pos] else []

def testFrom (r : Pattern) (prev : Option Char) : List Char → Bool
  | [] => !(run r (prev, [])).isEmpty
  | c :: rest => !(run r (prev, c :: rest)).isEmpty || testFrom r (some c) rest

/-- Does the pattern match somewhere in the text? -/
def test (r : Pattern) (s : String) : Bool := testFrom r none s.toList

/-- Global replacement.  At each position the first way of matching that eats something is taken, and the
search goes on behind it; `n` bounds the number of positions. -/
def replaceFrom (r : Pattern) (f : List Char → List Char) :
    Nat → Option Char → List Char → List Char
  | 0, _, rest => rest
  | _ + 1, _, [] => []
  | n + 1, prev, c :: rest =>
      match (run r (prev, c :: rest)).find? fun pos => pos.2.length < (c :: rest).length with
      | some (before, behind) =>
          f ((c :: rest).take ((c :: rest).length - behind.length)) ++ replaceFrom r f n before behind
      | none => c :: replaceFrom r f n (some c) rest

/-- Replace every match in the text by its image under `f`. -/
def replace (r : Pattern) (f : String → String) (s : String) : String :=
  String.ofList (replaceFrom r (fun match_ => (f (String.ofList match_)).toList) s.toList.length none s.toList)

/-- All matches, one after the other, each the first way of matching that eats something; `n` bounds the number of
positions. -/
def matchesFrom (r : Pattern) : Nat → Option Char → List Char → List (List Char)
  | 0, _, _ => []
  | _ + 1, _, [] => []
  | n + 1, prev, c :: rest =>
      match (run r (prev, c :: rest)).find? fun pos => pos.2.length < (c :: rest).length with
      | some (before, behind) =>
          (c :: rest).take ((c :: rest).length - behind.length) :: matchesFrom r n before behind
      | none => matchesFrom r n (some c) rest

/-- The matches in the text, from left to right. -/
def matchAll (r : Pattern) (s : String) : List String :=
  (matchesFrom r s.toList.length none s.toList).map String.ofList

/-- The pattern of a literal text. -/
def literal (s : String) : Pattern :=
  s.toList.foldr (fun c r => seq (one fun x => x == c) r) (atLeast 0 fun _ => false)

/-- The pattern of a literal text, without regard to the case of ASCII letters. -/
def literalI (s : String) : Pattern :=
  s.toList.foldr (fun c r => seq (one fun x => x.toLower == c.toLower) r) (atLeast 0 fun _ => false)

/-- A sequence of patterns. -/
def sequence : List Pattern → Pattern
  | [] => atLeast 0 fun _ => false
  | [r] => r
  | r :: rest => seq r (sequence rest)

/-- One of several patterns. -/
def choice : List Pattern → Pattern
  | [] => one fun _ => false
  | [r] => r
  | r :: rest => alt r (choice rest)

end Pattern

end EventDriven
