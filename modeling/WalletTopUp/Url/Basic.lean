import WalletTopUp.Decimal.Power
import WalletTopUp.Text.Percent

/-!
# Addresses

Absolute addresses in their normal form: scheme, authority, path, query and fragment.  The texts of
the parts are encoded already.
-/

namespace WalletTopUp

/-- Who answers at an address. -/
inductive Host where
  /-- A host of a scheme whose hosts are no domains, or no host at all. -/
  | name (text : List Char)
  | domain (text : List Char)
  | ipv4 (address : Nat)
  /-- Eight pieces of sixteen bits. -/
  | ipv6 (pieces : List Nat)
deriving DecidableEq, Inhabited

/-- Host, port and credentials. -/
structure Authority where
  username : List Char := []
  password : List Char := []
  host : Host
  /-- The port, unless it is the usual one of the scheme. -/
  port : Option Nat := none
deriving DecidableEq, Inhabited

/-- What an address leads to at its host. -/
inductive UrlPath where
  /-- The names between slashes. -/
  | segments (names : List (List Char))
  /-- A text that has no parts. -/
  | plain (text : List Char)
deriving DecidableEq, Inhabited

/-- An absolute address. -/
structure Url where
  scheme : List Char
  authority : Option Authority := none
  path : UrlPath
  query : Option (List Char) := none
  fragment : Option (List Char) := none
deriving DecidableEq, Inhabited

namespace Url

/-- The usual port of a scheme whose addresses always have a host, `none` for other schemes. -/
def usualPort? (scheme : List Char) : Option (Option Nat) :=
  match String.ofList scheme with
  | "http" => some (some 80)
  | "https" => some (some 443)
  | "ws" => some (some 80)
  | "wss" => some (some 443)
  | "ftp" => some (some 21)
  | "file" => some none
  | _ => none

/-- Whether the hosts of a scheme are domains and its paths always begin with a slash. -/
def isSpecial (scheme : List Char) : Bool := (usualPort? scheme).isSome

/-- Whether addresses of a web service have this scheme. -/
def isWeb (url : Url) : Bool :=
  url.scheme == ['h', 't', 't', 'p'] || url.scheme == ['h', 't', 't', 'p', 's']

/-! ## Paths -/

/-- Whether a name stands for the place itself. -/
def isSingleDot (name : List Char) : Bool :=
  name == ['.'] || name.map Char.toLower == ['%', '2', 'e']

/-- Whether a name stands for the place above. -/
def isDoubleDot (name : List Char) : Bool :=
  match name.map Char.toLower with
  | ['.', '.'] => true
  | ['.', '%', '2', 'e'] => true
  | ['%', '2', 'e', '.'] => true
  | ['%', '2', 'e', '%', '2', 'e'] => true
  | _ => false

/-- Follow names from a place, given how to leave a place.  A path that ends with a name for a place
ends with an empty name. -/
def follow (up : List (List Char) → List (List Char)) (place : List (List Char)) :
    List (List Char) → List (List Char)
  | [] => place
  | name :: rest =>
    let next :=
      if isDoubleDot name then (if rest.isEmpty then up place ++ [[]] else up place)
      else if isSingleDot name then (if rest.isEmpty then place ++ [[]] else place)
      else place ++ [name]
    follow up next rest

/-! ## Writing -/

/-- A number in hexadecimal digits. -/
def lowerHex (n : Nat) : List Char := Nat.toDigits 16 n

/-- The start and length of the first longest run of zeros of more than one piece, given the index
of the first piece. -/
def longestZeros (pieces : List Nat) : Option (Nat × Nat) :=
  let runs := (List.range pieces.length).map fun start =>
    (start, ((pieces.drop start).takeWhile (· == 0)).length)
  runs.foldl (fun best run =>
    if run.2 < 2 then best
    else match best with
      | none => some run
      | some longest => if longest.2 < run.2 then some run else best) none

/-- Pieces between colons. -/
def colonSeparated (pieces : List Nat) : List Char :=
  [(':' : Char)].intercalate (pieces.map lowerHex)

/-- The text of an address of eight pieces: the longest run of zeros is left out. -/
def ipv6Chars (pieces : List Nat) : List Char :=
  match longestZeros pieces with
  | none => colonSeparated pieces
  | some (start, length) =>
    colonSeparated (pieces.take start) ++ ':' :: ':' ::
      colonSeparated (pieces.drop (start + length))

/-- The text of an address of four bytes. -/
def ipv4Chars (address : Nat) : List Char :=
  [('.' : Char)].intercalate ([twoPow 24, twoPow 16, twoPow 8, 1].map fun unit =>
    Nat.toDigits 10 (address / unit % 256))

/-- The text of a host. -/
def hostChars : Host → List Char
  | .name text => text
  | .domain text => text
  | .ipv4 address => ipv4Chars address
  | .ipv6 pieces => '[' :: ipv6Chars pieces ++ [']']

/-- The text of an authority. -/
def authorityChars (authority : Authority) : List Char :=
  let credentials :=
    if authority.username.isEmpty && authority.password.isEmpty then []
    else authority.username
      ++ (if authority.password.isEmpty then [] else ':' :: authority.password) ++ ['@']
  let port := match authority.port with
    | none => []
    | some port => ':' :: Nat.toDigits 10 port
  credentials ++ hostChars authority.host ++ port

/-- The text of a path. -/
def pathChars : UrlPath → List Char
  | .segments names => names.flatMap fun name => '/' :: name
  | .plain text => text

/-- A part of an address with the character that begins it. -/
def marked (mark : Char) : Option (List Char) → List Char
  | none => []
  | some text => mark :: text

/-- What stands between scheme and path.  A path that would be taken for an authority is told apart
by a dot. -/
def middleChars (url : Url) : List Char :=
  match url.authority, url.path with
  | some authority, _ => '/' :: '/' :: authorityChars authority
  | none, .segments ([] :: _ :: _) => ['/', '.']
  | none, _ => []

/-- The text of an address. -/
def toChars (url : Url) : List Char :=
  url.scheme ++ ':' :: url.middleChars ++ pathChars url.path ++ marked '?' url.query
    ++ marked '#' url.fragment

/-- The text of an address. -/
def toText (url : Url) : String := String.ofList url.toChars

/-- Path and query. -/
def target (url : Url) : String := String.ofList (pathChars url.path ++ marked '?' url.query)

end Url

end WalletTopUp
