/-! # Reading comma-separated text

Bytes are cut into records and these into fields. A comma ends a field and a carriage
return or line feed ends a record; records without any byte are skipped. A field that
begins with a quote runs to the next single quote, two quotes stand for one, and what
follows the closing quote up to the next comma or line end still belongs to it. The end
of the bytes ends whatever is being read. Records may differ in length.

Only what a field holds in the end is read as UTF-8, so the bytes of one character may
have the closing quote between them.
-/

namespace TableQuery.Csv

/-- Where in a record the reader stands. -/
inductive Place where
  | record
  | field
  | bare
  | quoted
  /-- Behind a quote that closes the field or is the first of two. -/
  | afterQuote
deriving DecidableEq, Repr

/-- What a byte or a character is to the reader. -/
inductive Sign where
  | comma
  | quote
  | lineEnd
  | other
deriving DecidableEq, Repr

def Sign.ofCode (code : Nat) : Sign :=
  if code = ','.toNat then .comma
  else if code = '"'.toNat then .quote
  else if code = '\n'.toNat ∨ code = '\r'.toNat then .lineEnd
  else .other

def Sign.ofByte (b : UInt8) : Sign := ofCode b.toNat

inductive Step where
  | take (next : Place)
  | pass (next : Place)
  | endField
  | endRecord
deriving DecidableEq, Repr

def step : Place → Sign → Step
  | .record, .lineEnd => .pass .record
  | .record, .quote | .field, .quote => .pass .quoted
  | .quoted, .quote => .pass .afterQuote
  | .quoted, _ => .take .quoted
  | .afterQuote, .quote => .take .quoted
  | _, .comma => .endField
  | _, .lineEnd => .endRecord
  | _, _ => .take .bare

/-- Read on: `field` holds what was taken for the field so far and `fields` the fields of
    the record so far, both latest first. A record that has begun ends where the text does,
    even between quotes. -/
def readFrom {α : Type} (sign : α → Sign) (place : Place) (field : List α)
    (fields : List (List α)) : List α → List (List (List α))
  | [] => if place = .record then [] else [(field.reverse :: fields).reverse]
  | c :: rest =>
    match step place (sign c) with
    | .take next => readFrom sign next (c :: field) fields rest
    | .pass next => readFrom sign next field fields rest
    | .endField => readFrom sign .field [] (field.reverse :: fields) rest
    | .endRecord => (field.reverse :: fields).reverse :: readFrom sign .record [] [] rest

/-- The mark that may stand at the beginning of a text. -/
def byteOrderMark : Char := '\ufeff'

def withoutMark (bytes : List UInt8) : List UInt8 :=
  let mark := String.utf8EncodeChar byteOrderMark
  if mark.isPrefixOf bytes then bytes.drop mark.length else bytes

def decoded? (field : List UInt8) : Option (List Char) :=
  (String.fromUTF8? field.toByteArray).map String.toList

/-- The records of bytes, unless a field of them is not UTF-8. -/
def records? (bytes : List UInt8) : Option (List (List (List Char))) :=
  (readFrom Sign.ofByte .record [] [] (withoutMark bytes)).mapM (·.mapM decoded?)

end TableQuery.Csv
