import HttpCourier.Text.Digit
import HttpCourier.Text.Ranges
import HttpCourier.Url.Percent

/-!
# Numeric host addresses

`looksDotted` recognises a host that is written like an IPv4 address, that is, as four runs of
digits with one character between each two; such a host has to be one (`isIPv4`). `isIPv6` accepts
the written forms of an IPv6 address.
-/

namespace HttpCourier.Url

open Text

/-- One step of the recogniser of four runs of digits with single characters between them. State
`2 * k` waits for the first digit of run `k`, state `2 * k + 1` is inside it. -/
def dottedStep (states : List Nat) (c : Char) : List Nat :=
  (states.flatMap fun q =>
    let inside := if isAsciiDigit c then [if q % 2 = 0 then q + 1 else q] else []
    let between := if q % 2 = 1 ∧ q < 7 then [q + 1] else []
    inside ++ between).eraseDups

/-- Whether a host is four runs of digits with one character, of any kind, between each two. -/
def looksDotted (host : List Char) : Bool := (host.foldl dottedStep [0]).contains 7

/-- A number from 0 to 255 without leading zeros. -/
def isOctet (s : List Char) : Bool :=
  !s.isEmpty && s.all isAsciiDigit && decide (s.length ≤ 3)
    && (s == ['0'] || s.head? != some '0')
    && decide (s.foldl (fun n c => 10 * n + (c.toNat - 48)) 0 ≤ 255)

/-- Four octets with dots between them. -/
def isIPv4 (s : List Char) : Bool :=
  let parts := splitOn '.' s
  decide (parts.length = 4) && parts.all isOctet

/-- One to four hexadecimal digits. -/
def isHextet (s : List Char) : Bool :=
  !s.isEmpty && decide (s.length ≤ 4) && s.all fun c => (Bytes.hexValue? c).isSome

/-- The parts between the colons of an IPv6 address, an IPv4 ending counting as two. -/
def ipv6Parts? (s : List Char) : Option (List (List Char)) :=
  let parts := splitOn ':' s
  let last := parts.getLastD []
  if parts.length < 3 then none
  else if last.contains '.' then
    if isIPv4 last then some (parts.dropLast ++ [['0'], ['0']]) else none
  else some parts

/-- Whether the parts form eight groups, or fewer with one empty part for the groups left out. -/
def isIPv6Parts (parts : List (List Char)) : Bool :=
  let inner := parts.tail.dropLast
  let gaps := inner.countP List.isEmpty
  let first := parts.headD []
  let last := parts.getLastD []
  if 9 < parts.length then false
  else if gaps = 0 then decide (parts.length = 8) && parts.all isHextet
  else if gaps = 1 then
    let before := 1 + (inner.takeWhile fun p => !p.isEmpty).length
    let after := parts.length - before - 1
    let high := if first.isEmpty then before - 1 else before
    let low := if last.isEmpty then after - 1 else after
    (!first.isEmpty || high = 0) && (!last.isEmpty || low = 0) && decide (high + low < 8)
      && (parts.filter fun p => !p.isEmpty).all isHextet
  else false

/-- Whether a text is an IPv6 address, with or without a zone after a percent sign. -/
def isIPv6 (s : List Char) : Bool :=
  let address := s.takeWhile (· != '%')
  let zoneFine := match s.dropWhile (· != '%') with
    | [] => true
    | _ :: zone => !zone.isEmpty && !zone.contains '%'
  zoneFine && !s.contains '/' && (ipv6Parts? address).any isIPv6Parts

end HttpCourier.Url
