import TableQuery.Text.CaseTable
import TableQuery.Text.Property.Category
import TableQuery.Text.Property.Flag
import TableQuery.Text.Property.Script
import TableQuery.Text.Property.ScriptExtension
import TableQuery.Pattern.CharSet

/-! # Properties by name

The sets of characters that a Unicode property names: a general category, a script or a
yes-or-no property. Names are compared without case, blanks, hyphens and underscores, and
a leading `is` is left aside.
-/

namespace TableQuery.Text.Property

def hexDigitValue (c : Char) : Nat :=
  if c.isDigit then c.toNat - 48 else if c.isUpper then c.toNat - 55 else c.toNat - 87

/-- Read ranges such as `41-5A 5F`: the range that is being read is from `lo`, and `hi`
    is its last number so far. -/
def rangesFrom (lo : Option Nat) (hi : Nat) : List Char → CodeRanges
  | [] => [(lo.getD hi, hi)]
  | c :: rest =>
    if c = ' ' then (lo.getD hi, hi) :: rangesFrom none 0 rest
    else if c = '-' then rangesFrom (some hi) 0 rest
    else rangesFrom lo (16 * hi + hexDigitValue c) rest

def rangesOf (lines : List String) : CodeRanges := lines.flatMap fun s => rangesFrom none 0 s.toList

def entry? (table : List (List String × List String)) (name : String) : Option CharSet :=
  (table.find? (·.1.contains name)).map fun e => .table (rangesOf e.2)

/-- A name as it is compared. -/
def normalName (s : List Char) : String :=
  let isPrefixed := s.take 2 == ['i', 's'] || s.take 2 == ['I', 's'] ||
    s.take 2 == ['i', 'S'] || s.take 2 == ['I', 'S']
  let kept := ((if isPrefixed then s.drop 2 else s).filter fun c =>
    c != ' ' && c != '_' && c != '-' && c.toNat < 0x80).map Char.toLower
  if isPrefixed && kept == ['c'] then "isc" else String.ofList kept

/-- The categories that gather others, by their names and the short names of those. -/
def groupedCategories : List (List String × List String) := [
  (["c", "other"], ["cc", "cf", "co", "cn"]),
  (["l", "letter"], ["lu", "ll", "lt", "lm", "lo"]),
  (["lc", "casedletter"], ["lu", "ll", "lt"]),
  (["m", "mark", "combiningmark"], ["mn", "mc", "me"]),
  (["n", "number"], ["nd", "nl", "no"]),
  (["p", "punctuation", "punct"], ["pc", "pd", "pe", "pf", "pi", "po", "ps"]),
  (["s", "symbol"], ["sc", "sk", "sm", "so"]),
  (["z", "separator"], ["zl", "zp", "zs"])]

def assigned : CharSet := categories.foldr (fun e s => .union (.table (rangesOf e.2)) s) .empty

def plainCategory? (name : String) : Option CharSet :=
  if name = "cn" ∨ name = "unassigned" then some (.compl assigned) else entry? categories name

def category? (name : String) : Option CharSet :=
  if name = "any" then some .all
  else if name = "assigned" then some assigned
  else if name = "ascii" then some (.range 0 0x7F)
  else match groupedCategories.find? (·.1.contains name) with
    | some g => some <| g.2.foldr (fun n s => .union ((plainCategory? n).getD .empty) s) .empty
    | none => plainCategory? name

def script? (name : String) : Option CharSet := entry? scripts name

def scriptExtension? (name : String) : Option CharSet :=
  entry? scriptExtensions name <|> entry? scripts name

def spelled (line : String) : CharSet := .table (rangesOf [line])

def known (name : String) : CharSet := ((category? name).orElse fun _ => entry? flags name).getD .empty

/-- The code points that patterns of text keep for themselves. -/
def patternOwn : CharSet := .union (known "patsyn") (known "patws")

def identifierStart : CharSet :=
  .diff (.union (.union (known "l") (known "nl")) (spelled "1885-1886 2118 212E 309B-309C"))
    patternOwn

/-- The code points that an identifier can go on with. -/
def identifierContinue : CharSet :=
  .diff (.union identifierStart <| .union (.union (known "mn") (known "mc")) <|
    .union (.union (known "nd") (known "pc")) (spelled "B7 387 1369-1371 19DA 200C-200D 30FB FF65"))
    patternOwn

def unstableInIdentifier : CharSet :=
  spelled "37A 309B-309C FC5E-FC63 FDFA-FDFB FE70 FE72 FE74 FE76 FE78 FE7A FE7C FE7E"

/-- The code points that no normal form keeps at the beginning of an identifier. -/
def unstableAtStart : CharSet := .union unstableInIdentifier (spelled "E33 EB3 FF9E-FF9F")

/-- The code points that join the character before them. -/
def graphemeExtend : CharSet :=
  .union (.union (known "me") (known "mn")) <| .table <| rangesOf [
    "9BE 9D7 B3E B57 BBE BD7 CC0 CC2 CC7-CC8 CCA-CCB CD5-CD6 D3E D57 DCF DDF 1715 1734 1B35",
    "1B3B 1B3D 1B43-1B44 1BAA 1BF2-1BF3 200C 302E-302F A953 A9C0 FF9E-FF9F 111C0 11235 1133E",
    "1134D 11357 113B8 113C2 113C5 113C7-113C9 113CF 114B0 114BD 115AF 116B6 11930 1193D 11F41",
    "16FF0-16FF1 1D165-1D166 1D16D-1D172 E0020-E007F"]

def graphemeBase : CharSet :=
  .diff assigned <| .union graphemeExtend <| .union (.union (known "cc") (known "cf")) <|
    .union (known "co") (.union (known "zl") (known "zp"))

def derived? (name : String) : Option CharSet :=
  if name = "ids" ∨ name = "idstart" then some identifierStart
  else if name = "idc" ∨ name = "idcontinue" then some identifierContinue
  else if name = "xids" ∨ name = "xidstart" then some (.diff identifierStart unstableAtStart)
  else if name = "xidc" ∨ name = "xidcontinue" then
    some (.diff identifierContinue unstableInIdentifier)
  else if name = "grext" ∨ name = "graphemeextend" then some graphemeExtend
  else if name = "grbase" ∨ name = "graphemebase" then some graphemeBase
  else none

def flag? (name : String) : Option CharSet :=
  if name = "cased" then some (.table casedRanges)
  else if name = "ci" ∨ name = "caseignorable" then some (.table caseIgnorableRanges)
  else if name = "upper" ∨ name = "uppercase" then
    some (.union (.range 65 90) (.table uppercaseRanges))
  else if name = "wspace" ∨ name = "whitespace" ∨ name = "space" then some .blank
  else derived? name <|> entry? flags name

def named? (name : List Char) : Option CharSet :=
  let n := normalName name
  flag? n <|> category? n <|> script? n

/-- The set that a property's name and value stand for. -/
def valued? (property value : List Char) : Option CharSet :=
  let p := normalName property
  let v := normalName value
  if p = "gc" ∨ p = "generalcategory" then category? v
  else if p = "sc" ∨ p = "script" then script? v
  else if p = "scx" ∨ p = "scriptextensions" then scriptExtension? v
  else none

end TableQuery.Text.Property
