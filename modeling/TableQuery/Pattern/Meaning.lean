import TableQuery.Pattern.Reach
import TableQuery.Pattern.Reader

/-! # What written patterns mean

The flags decide what a written pattern means: whether letter case counts, whether the
ends of lines count as ends of the text, what the dot takes, and whether classes know
all of Unicode or ASCII only. A pattern that could take a part of a character, names a
property that does not exist, or would grow too large has no meaning.
-/

namespace TableQuery.Pattern

/-- The flags that a part of a pattern is read under. -/
structure Flags where
  caseless : Bool
  multiLine : Bool
  dotAll : Bool
  unicode : Bool
  crlf : Bool

namespace Flags

def changed (f : Flags) (change : FlagChange) : Flags where
  caseless := (flagValue? change 'i').getD f.caseless
  multiLine := (flagValue? change 'm').getD f.multiLine
  dotAll := (flagValue? change 's').getD f.dotAll
  unicode := (flagValue? change 'u').getD f.unicode
  crlf := (flagValue? change 'R').getD f.crlf

end Flags

/-! ## Classes -/

def asciiSet (name : String) : CharSet :=
  let digits : CharSet := .range 48 57
  let uppers : CharSet := .range 65 90
  let lowers : CharSet := .range 97 122
  let letters := CharSet.union uppers lowers
  if name = "alnum" then .union digits letters
  else if name = "alpha" then letters
  else if name = "ascii" then .range 0 127
  else if name = "blank" then CharSet.ofList ['\t', ' ']
  else if name = "cntrl" then .union (.range 0 31) (.range 127 127)
  else if name = "digit" then digits
  else if name = "graph" then .range 33 126
  else if name = "lower" then lowers
  else if name = "print" then .range 32 126
  else if name = "punct" then
    .union (.union (.range 33 47) (.range 58 64)) (.union (.range 91 96) (.range 123 126))
  else if name = "space" then .union (.range 9 13) (.range 32 32)
  else if name = "upper" then uppers
  else if name = "word" then .union (.union digits letters) (.range 95 95)
  else if name = "xdigit" then .union digits (.union (.range 65 70) (.range 97 102))
  else .empty

def asciiLetterClass : LetterClass → CharSet
  | .digit => asciiSet "digit"
  | .blank => asciiSet "space"
  | .word => asciiSet "word"

def letterClass : LetterClass → CharSet
  | .digit => .digit
  | .blank => .blank
  | .word => .word

def negateIf (negated : Bool) (s : CharSet) : CharSet := if negated then .compl s else s

def foldIf (caseless : Bool) (s : CharSet) : CharSet := if caseless then .folded s else s

def propertySet? : PropertyQuery → Option CharSet
  | .named name => Text.Property.named? name
  | .valued p v => Text.Property.valued? p v

def ClassOp.apply : ClassOp → CharSet → CharSet → CharSet
  | .inter => .inter
  | .diff => .diff
  | .symDiff => .symDiff

mutual

/-- The set of a class where classes know all of Unicode. -/
def unicodeClass? (caseless : Bool) : ClassSyntax → Option CharSet
  | .char c => some (.single c.char)
  | .range lo hi => some (.range lo.char.toNat hi.char.toNat)
  -- Case variants are added before the class is negated.
  | .ascii name negated => some (negateIf negated (foldIf caseless (asciiSet name)))
  | .letter kind negated => some (negateIf negated (letterClass kind))
  | .property query negated =>
    (propertySet? query).map fun s => negateIf negated (foldIf caseless s)
  | .bracket negated body =>
    (unicodeClass? caseless body).map fun s => negateIf negated (foldIf caseless s)
  | .union items => unicodeUnion? caseless items
  | .op kind lhs rhs => do
    let l ← unicodeClass? caseless lhs
    let r ← unicodeClass? caseless rhs
    return kind.apply (foldIf caseless l) (foldIf caseless r)

def unicodeUnion? (caseless : Bool) : List ClassSyntax → Option CharSet
  | [] => some .empty
  | c :: rest => do
    let s ← unicodeClass? caseless c
    let t ← unicodeUnion? caseless rest
    return .union s t

end

def otherBytes (s : CharSet) : CharSet := .diff (.range 0 255) s

def asciiOnly? (s : CharSet) : Option CharSet :=
  if (List.range 128).all fun i => !s.has (128 + i) then some s else none

/-- The set with case variants and negated as asked for, if it holds ASCII only. -/
def byteSet? (caseless negated : Bool) (s : CharSet) : Option CharSet :=
  let folded : CharSet := if caseless then .asciiFolded s else s
  asciiOnly? (if negated then otherBytes folded else folded)

def byteOf? (c : WrittenChar) : Option Nat :=
  if c.char.toNat < 0x80 ∨ (c.isByte ∧ c.char.toNat < 0x100) then some c.char.toNat else none

mutual

/-- The set of a class where classes know ASCII only. -/
def byteClass? (caseless : Bool) : ClassSyntax → Option CharSet
  | .char c => (byteOf? c).map fun n => .range n n
  | .range lo hi => do return .range (← byteOf? lo) (← byteOf? hi)
  | .ascii name negated => byteSet? caseless negated (asciiSet name)
  | .letter kind negated => byteSet? false negated (asciiLetterClass kind)
  | .property _ _ => none
  | .bracket negated body => do byteSet? caseless negated (← byteClass? caseless body)
  | .union items => byteUnion? caseless items
  | .op kind lhs rhs => do
    let l ← byteClass? caseless lhs
    let r ← byteClass? caseless rhs
    let fold := fun s => if caseless then CharSet.asciiFolded s else s
    return kind.apply (fold l) (fold r)

def byteUnion? (caseless : Bool) : List ClassSyntax → Option CharSet
  | [] => some .empty
  | c :: rest => do
    let s ← byteClass? caseless c
    let t ← byteUnion? caseless rest
    return .union s t

end

/-! ## Patterns -/

def charSet? (f : Flags) (c : WrittenChar) : Option CharSet :=
  if f.unicode then some (foldIf f.caseless (.single c.char))
  else if c.isByte ∧ 0x80 ≤ c.char.toNat then none
  else some (if f.caseless then .asciiFolded (.single c.char) else .single c.char)

def dotSet? (f : Flags) : Option CharSet :=
  -- Where classes know ASCII only, the dot could take a part of a character.
  if !f.unicode then none
  else if f.dotAll then some .all
  else if f.crlf then some (.compl (CharSet.ofList ['\n', '\r']))
  else some (.compl (.single '\n'))

/-- The kind of place that is asked for. -/
def boundary (f : Flags) : EdgeSyntax → Boundary
  | .caret => if f.multiLine then (if f.crlf then .crlfLineStart else .lineStart) else .textStart
  | .dollar => if f.multiLine then (if f.crlf then .crlfLineEnd else .lineEnd) else .textEnd
  | .textStart => .textStart
  | .textEnd => .textEnd
  | .wordEdge => .wordEdge words
  | .noWordEdge => .noWordEdge words
  | .wordStart => .wordStart words
  | .wordEnd => .wordEnd words
  | .notAfterWord => .notAfterWord words
  | .notBeforeWord => .notBeforeWord words
where
  /-- The word characters that the flags ask for. -/
  words : CharSet := if f.unicode then .word else asciiSet "word"

mutual

/-- The pattern of a written one, and the flags behind it. -/
def meaning? (f : Flags) : Syntax → Option (Pattern × Flags)
  | .empty => some (.empty, f)
  | .flags change => some (.empty, f.changed change)
  | .char c => (charSet? f c).map fun s => (.one s, f)
  | .dot => (dotSet? f).map fun s => (.one s, f)
  | .edge kind => some (.edge (boundary f kind), f)
  | .cls c =>
    (if f.unicode then unicodeClass? f.caseless c else byteClass? f.caseless c).map fun s =>
      (.one s, f)
  | .rep least most greedy p =>
    (meaning? f p).map fun (p, f) => (.rep least most greedy p, f)
  -- Flags that change within a group do not count behind it.
  | .group change captures p =>
    (meaning? (f.changed change) p).map fun (p, _) => (if captures then .group 0 p else p, f)
  | .alt branches => (meaningOfBranches? f branches).map fun (ps, f) => (choice ps, f)
  | .concat items => (meaningOfItems? f items).map fun (ps, f) => (sequence ps, f)

def meaningOfBranches? (f : Flags) : List Syntax → Option (List Pattern × Flags)
  | [] => some ([], f)
  | p :: rest => do
    let (q, f) ← meaning? f p
    let (qs, f) ← meaningOfBranches? f rest
    return (q :: qs, f)

def meaningOfItems? (f : Flags) : List Syntax → Option (List Pattern × Flags)
  | [] => some ([], f)
  | p :: rest => do
    let (q, f) ← meaning? f p
    let (qs, f) ← meaningOfItems? f rest
    return (q :: qs, f)

end

/-! ## Size -/

/-- An estimate of the bytes that a matcher for a set takes up. -/
def setSize : CharSet → Nat
  | .empty => 32
  | .range lo hi => if hi < 128 then (if lo = hi then 32 else 80) else 200
  | .word => 50316
  | .digit => 5184
  | .blank => 680
  | .table ranges => 64 + 45 * ranges.length
  | .union a b => setSize a + setSize b
  | .inter a b => setSize a + setSize b
  | .diff a b => setSize a + setSize b
  | .symDiff a b => setSize a + setSize b
  | .compl a => setSize a + 900
  | .folded (.range lo hi) => if lo = hi then 80 else setSize (.range lo hi)
  | .folded a => setSize a
  | .asciiFolded a => setSize a + 48

def size : Pattern → Nat
  | .empty => 32
  | .one s => setSize s
  | .edge _ => 32
  | .seq p q => size p + size q
  | .alt p q => size p + size q + 40
  | .rep least most _ p =>
    match most with
    | some m => least * size p + (m - least) * (size p + 40) + 32
    | none => max 1 least * size p + 40
  | .group _ p => size p + 64

/-- A matcher takes up no more bytes than this, ten times 1024 times 1024. -/
def sizeLimit : Nat := 10485760

/-- Can the pattern take no piece but the empty one? -/
def takesNothing : Pattern → Bool
  | .empty => true
  | .one _ => false
  | .edge _ => true
  | .seq p q => takesNothing p && takesNothing q
  | .alt p q => takesNothing p && takesNothing q
  | .rep _ most _ p => most == some 0 || takesNothing p
  | .group _ p => takesNothing p

/-- The pattern with repetitions of empty pieces cut down to one. -/
def trimmed : Pattern → Pattern
  | .seq p q => .seq (trimmed p) (trimmed q)
  | .alt p q => .alt (trimmed p) (trimmed q)
  | .rep least most greedy p =>
    if most = some 0 then .empty
    else if takesNothing p then .rep (min least 1) (some (min (most.getD 1) 1)) greedy (trimmed p)
    else .rep least most greedy (trimmed p)
  | .group n p => .group n (trimmed p)
  | p => p

/-- The pattern of a text in which letter case does not count, if the text is one. -/
def caseless? (s : List Char) : Option Pattern :=
  match Syntax.ofChars? s with
  | none => none
  | some written =>
    match meaning? ⟨true, false, false, true, false⟩ written with
    | none => none
    | some (p, _) =>
      let q := trimmed p
      if q.size ≤ sizeLimit then some q else none

end TableQuery.Pattern
