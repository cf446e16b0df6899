import HttpCourier.Bytes.Base64
import HttpCourier.Text.Ranges

/-!
# Blocks of text

Keys and certificates are kept as text (RFC 7468): Base64 between two lines with a label. Other
lines are skipped. `Pem.read` gives the blocks up to the first one that breaks the rules.
-/

namespace HttpCourier

open Text

/-- A labelled block. -/
structure Pem where
  label : String
  content : Bytes
  /-- The lines in front of the content, as blocks of the old encrypted form have them. -/
  header : List String := []
  deriving DecidableEq

namespace Pem

/-- The start of the line before a block. -/
def beginMark : List Char := "-----BEGIN ".toList

/-- The start of the line after a block. -/
def endMark : List Char := "-----END ".toList

/-- The end of both lines. -/
def tailMark : List Char := "-----".toList

/-- The lines of a text, without blanks at their ends. -/
def lines (text : List Char) : List (List Char) :=
  (splitOn '\n' text).map fun l => (l.reverse.dropWhile fun c => decide (c.toNat ≤ 32)).reverse

/-- The label of a line that begins a block. -/
def label? (line : List Char) : Option (List Char) :=
  let rest := line.drop beginMark.length
  if beginMark.isPrefixOf line && tailMark.isSuffixOf rest then
    some (rest.take (rest.length - tailMark.length))
  else none

/-- Base64 that consists of whole groups; a dash ends it. -/
def decode? (text : List Char) : Option Bytes :=
  let digits := (text.takeWhile (· != '-')).filter fun c => decide (32 < c.toNat)
  let data := (digits.reverse.dropWhile (· == '=')).reverse
  if digits.isEmpty ∨ digits.length % 4 ≠ 0 ∨ digits.length > data.length + 2
    ∨ data.any (fun c => (Base64.digitValue? c).isNone) then none
  else (Base64.decode digits).toOption

/-- The block of the lines between its two marks. -/
def ofLines? (label : List Char) (inner : List (List Char)) : Option Pem :=
  let header := inner.takeWhile fun l => !l.isEmpty
  let data := if header.length = inner.length then inner else inner.drop (header.length + 1)
  if data.any List.isEmpty then none
  else (decode? data.flatten).map fun content =>
    { label := String.ofList label, content,
      header := if header.length = inner.length then [] else header.map String.ofList }

/-- Reads the blocks of lines; `inside` is the label of the block that the lines are in, with its
lines so far. The second part of the result says whether all blocks keep the rules. -/
def readLines : (inside : Option (List Char × List (List Char))) → List (List Char) → List Pem × Bool
  | none, [] => ([], true)
  | some _, [] => ([], false)
  | none, line :: rest => readLines ((label? line).map fun l => (l, [])) rest
  | some (label, inner), line :: rest =>
    if endMark.isPrefixOf line then
      if !(label ++ tailMark).isPrefixOf (line.drop endMark.length) then ([], false)
      else match ofLines? label inner with
        | none => ([], false)
        | some block =>
          let (blocks, complete) := readLines none rest
          (block :: blocks, complete)
    else readLines (some (label, inner ++ [line])) rest

/-- The blocks of a file up to the first one that breaks the rules, and whether none does. -/
def read (file : Bytes) : List Pem × Bool := readLines none (lines (Bytes.latin1 file))

end Pem

end HttpCourier
