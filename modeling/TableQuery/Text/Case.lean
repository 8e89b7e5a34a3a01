import TableQuery.Text.CaseTable

/-! # Letter case

Lower and upper case of texts by the full Unicode mapping. The lower case of a capital
sigma depends on its neighbours: at the end of a word it is `ς`, else `σ`. The capital
I with a dot becomes an `i` and a combining dot, and some small letters have a capital
form of several characters.
-/

namespace TableQuery.Text

/-- The capital sigma, the one letter whose lower case depends on its neighbours. -/
def capitalSigma : Char := 'Σ'

/-- The lower case of a character that stands alone. -/
def lowerChar (c : Char) : List Char :=
  if c.toNat < 0x80 then [c.toLower]
  else if c == 'İ' then ['i', '\u0307']
  else match ShiftRun.image? lowerRuns c.toNat with
    | some n => [Char.ofNat n]
    | none => [c]

def upperChar (c : Char) : List Char :=
  if c.toNat < 0x80 then [c.toUpper]
  else match upperExpansions.lookup c.toNat with
    | some ns => ns.map Char.ofNat
    | none => match ShiftRun.image? upperRuns c.toNat with
      | some n => [Char.ofNat n]
      | none => [c]

def isCased (c : Char) : Bool := inRanges c.toNat casedRanges

def isCaseIgnorable (c : Char) : Bool := inRanges c.toNat caseIgnorableRanges

def isUppercase (c : Char) : Bool :=
  if c.toNat < 0x80 then c.isUpper else inRanges c.toNat uppercaseRanges

/-- Is the first character that casing does not look through one that has case? -/
def meetsCased (s : List Char) : Bool :=
  match s.dropWhile isCaseIgnorable with
  | [] => false
  | c :: _ => isCased c

/-- Lower case of a text of which the characters `before`, nearest first, precede the rest. -/
def lowerFrom (before : List Char) : List Char → List Char
  | [] => []
  | c :: rest =>
    let here :=
      if c == capitalSigma then
        if meetsCased before && !meetsCased rest then ['ς'] else ['σ']
      else lowerChar c
    here ++ lowerFrom (c :: before) rest

def lower (s : List Char) : List Char := lowerFrom [] s

def upper (s : List Char) : List Char := s.flatMap upperChar

def lowered (s : String) : String := String.ofList (lower s.toList)

def uppered (s : String) : String := String.ofList (upper s.toList)

def foldCode (n : Nat) : Nat := (ShiftRun.image? foldRuns n).getD n

/-- All case variants of a code point, itself among them. -/
def caseVariants (n : Nat) : List Nat :=
  let f := foldCode n
  f :: ShiftRun.preimages foldRuns f

/-- Does the text equal the word when the case of ASCII letters is left aside? -/
def eqIgnoringAsciiCase (s word : List Char) : Bool :=
  s.map Char.toLower == word.map Char.toLower

end TableQuery.Text
