import WalletTopUp.Url.Basic
import WalletTopUp.Url.Punycode

/-!
# Hosts

How the host of an address is read: a domain, an address of four bytes in any of its spellings, an
address of eight pieces in brackets, or, for other schemes, a name.
-/

namespace WalletTopUp

namespace Host

/-- Cut a text at a character. -/
def splitAt (mark : Char) (text : List Char) : List (List Char) :=
  text.foldr (fun c parts =>
    if c = mark then [] :: parts
    else match parts with
      | [] => [[c]]
      | part :: rest => (c :: part) :: rest) [[]]

/-! ## Four bytes -/

/-- The value of digits of a base, `none` if one of them is none. -/
def baseValue? (base : Nat) (digits : List Char) : Option Nat :=
  digits.foldlM (fun value c =>
    match Text.hexDigit? c with
    | some digit => if digit < base then some (value * base + digit) else none
    | none => none) 0

/-- The value of a part of an address, which may be octal or hexadecimal. -/
def partValue? (part : List Char) : Option Nat :=
  match part with
  | [] => none
  | '0' :: 'x' :: digits => baseValue? 16 digits
  | '0' :: 'X' :: digits => baseValue? 16 digits
  | '0' :: c :: digits => baseValue? 8 (c :: digits)
  | digits => baseValue? 10 digits

/-- The parts of a domain, without the empty one behind a trailing point. -/
def parts (domain : List Char) : List (List Char) :=
  let all := splitAt '.' domain
  if all.length > 1 && all.getLast? == some [] then all.dropLast else all

/-- Whether a domain ends with a number and so has to be an address. -/
def endsInNumber (domain : List Char) : Bool :=
  match (parts domain).getLast? with
  | none => false
  | some last =>
    (!last.isEmpty && last.all Char.isDigit)
      || (match last with
        | '0' :: 'x' :: digits => (baseValue? 16 digits).isSome
        | '0' :: 'X' :: digits => (baseValue? 16 digits).isSome
        | _ => false)

/-- The address of its parts: the last one fills all bytes that are left. -/
def ipv4OfParts? : Nat → List Nat → Option Nat
  | _, [] => none
  | room, [last] => if last < twoPow (8 * room) then some last else none
  | room, part :: rest =>
    if 256 ≤ part then none
    else (ipv4OfParts? (room - 1) rest).map fun value => part * twoPow (8 * (room - 1)) + value

/-- Read an address of four bytes. -/
def ipv4? (domain : List Char) : Option Nat :=
  let parts := parts domain
  if 4 < parts.length then none
  else (parts.mapM partValue?).bind (ipv4OfParts? 4)

/-! ## Eight pieces -/

/-- The value of a decimal part of the last four bytes. -/
def byteValue? (digits : List Char) : Option Nat :=
  match digits with
  | [] => none
  | ['0'] => some 0
  | '0' :: _ => none
  | digits =>
    if 3 < digits.length then none
    else (baseValue? 10 digits).bind fun value => if value < 256 then some value else none

/-- The two pieces that four bytes with points between them fill. -/
def embedded? (text : List Char) : Option (List Nat) :=
  match (splitAt '.' text).mapM byteValue? with
  | some [a, b, c, d] => some [a * 256 + b, c * 256 + d]
  | _ => none

/-- The pieces of a text between colons; the last part may be four bytes. -/
def pieces? : List (List Char) → Option (List Nat)
  | [] => some []
  | [last] =>
    if last.contains '.' then embedded? last
    else if last.isEmpty || 4 < last.length then none
    else (baseValue? 16 last).map fun value => [value]
  | part :: rest =>
    if part.isEmpty || 4 < part.length then none
    else match baseValue? 16 part, pieces? rest with
      | some value, some others => some (value :: others)
      | _, _ => none

/-- The pieces of a text that may be empty. -/
def side? (text : List Char) : Option (List Nat) :=
  if text.isEmpty then some [] else pieces? (splitAt ':' text)

/-- Cut a text at its first pair of colons. -/
def cutAtGap : List Char → Option (List Char × List Char)
  | ':' :: ':' :: rest => some ([], rest)
  | c :: rest => (cutAtGap rest).map fun (before, behind) => (c :: before, behind)
  | [] => none

/-- Read an address of eight pieces; a pair of colons stands for at least one piece of zero. -/
def ipv6? (text : List Char) : Option (List Nat) :=
  match cutAtGap text with
  | none => (side? text).bind fun pieces => if pieces.length = 8 then some pieces else none
  | some (before, behind) =>
    if before.contains '.' then none
    else match side? before, side? behind with
      | some left, some right =>
        if left.length + right.length < 8 then
          some (left ++ List.replicate (8 - left.length - right.length) 0 ++ right)
        else none
      | _, _ => none

/-! ## Names -/

/-- Whether a character may not stand in the name of a host. -/
def isForbidden (c : Char) : Bool :=
  c == '\x00' || c == '\t' || c == '\n' || c == '\r' || c == ' '
    || ['#', '/', ':', '<', '>', '?', '@', '[', '\\', ']', '^', '|'].contains c

/-- Whether a character may not stand in a domain. -/
def isForbiddenInDomain (c : Char) : Bool :=
  isForbidden c || c.toNat < 0x20 || c == '%' || c.toNat = 0x7f

/-- Whether a character has to be written with percent signs everywhere. -/
def isControl (c : Char) : Bool := c.toNat < 0x20 || 0x7e < c.toNat

/-- A small letter for a capital one of the common alphabets, and the plain form of a wide one. -/
def foldLetter (c : Char) : Char :=
  let n := c.toNat
  let even := n % 2 = 0
  if (0x41 ≤ n ∧ n ≤ 0x5a) ∨ (0xc0 ≤ n ∧ n ≤ 0xde ∧ n ≠ 0xd7) ∨ (0x391 ≤ n ∧ n ≤ 0x3ab)
      ∨ (0x410 ≤ n ∧ n ≤ 0x42f) then Char.ofNat (n + 32)
  else if 0x400 ≤ n ∧ n ≤ 0x40f then Char.ofNat (n + 80)
  else if 0xff21 ≤ n ∧ n ≤ 0xff3a then Char.ofNat (n - 0xff21 + 0x61)
  else if 0xff01 ≤ n ∧ n ≤ 0xff5e then Char.ofNat (n - 0xfee0)
  else if n = 0x3002 ∨ n = 0xff61 then '.'
  else if even ∧ ((0x100 ≤ n ∧ n ≤ 0x12e) ∨ (0x132 ≤ n ∧ n ≤ 0x136) ∨ (0x14a ≤ n ∧ n ≤ 0x176)
      ∨ (0x460 ≤ n ∧ n ≤ 0x480) ∨ (0x1e00 ≤ n ∧ n ≤ 0x1e94) ∨ (0x1ea0 ≤ n ∧ n ≤ 0x1efe)) then
    Char.ofNat (n + 1)
  else if ¬even ∧ ((0x139 ≤ n ∧ n ≤ 0x147) ∨ (0x179 ≤ n ∧ n ≤ 0x17d)) then Char.ofNat (n + 1)
  else c

/-- A label in ASCII. -/
def asciiLabel (label : List Char) : List Char :=
  if label.all fun c => c.toNat < 0x80 then label
  else 'x' :: 'n' :: '-' :: '-' :: Punycode.encode label

/-- A domain in ASCII and small letters.  A soft hyphen does not count. -/
def asciiDomain (domain : List Char) : List Char :=
  let folded := (domain.filter fun c => c.toNat != 0xad).map foldLetter
  [('.' : Char)].intercalate ((splitAt '.' folded).map asciiLabel)

/-- Read the host of a scheme whose hosts are domains. -/
def domain? (text : List Char) : Option Host :=
  let domain := asciiDomain (Text.ofUtf8 (Text.percentDecode text))
  if domain.isEmpty || domain.any isForbiddenInDomain then none
  else if endsInNumber domain then (ipv4? domain).map .ipv4
  else some (.domain domain)

/-- Read a host. -/
def ofChars? (isSpecial : Bool) (text : List Char) : Option Host :=
  match text with
  | '[' :: rest =>
    if rest.getLast? = some ']' then (ipv6? rest.dropLast).map .ipv6 else none
  | text =>
    if isSpecial then domain? text
    else if text.any isForbidden then none
    else some (.name (Text.percentEncode (fun c => !isControl c) text))

end Host

end WalletTopUp
