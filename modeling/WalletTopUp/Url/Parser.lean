import WalletTopUp.Url.Host

/-!
# Reading addresses

How an absolute address is read and brought into its normal form.  Blanks around it and line breaks
within it do not count; a backslash is a slash where the scheme has domains.
-/

namespace WalletTopUp

namespace Url

/-! ## Which characters stand for themselves -/

/-- Whether a character stands for itself in a fragment. -/
def isFragmentSafe (c : Char) : Bool :=
  !Host.isControl c && !([' ', '"', '<', '>', '\x60'].contains c)

/-- Whether a character stands for itself in a query. -/
def isQuerySafe (isSpecial : Bool) (c : Char) : Bool :=
  !Host.isControl c && !([' ', '"', '#', '<', '>'].contains c) && !(isSpecial && c == '\'')

/-- Whether a character stands for itself in a path. -/
def isPathSafe (c : Char) : Bool :=
  isFragmentSafe c && !(['#', '?', '^', '\x7b', '\x7d'].contains c)

/-- Whether a character stands for itself in credentials. -/
def isCredentialSafe (c : Char) : Bool :=
  isPathSafe c && !(['/', ':', ';', '=', '@', '[', '\\', ']', '|'].contains c)

/-! ## Parts -/

/-- The text without the blanks and control characters around it, and without tabs and line breaks.
-/
def clean (text : List Char) : List Char :=
  let outside (c : Char) : Bool := c.toNat ≤ 0x20
  let inner := ((text.dropWhile outside).reverse.dropWhile outside).reverse
  inner.filter fun c => !(c == '\t' || c == '\n' || c == '\r')

/-- Cut a text at the first character that satisfies `p`. -/
def cut (p : Char → Bool) (text : List Char) : List Char × Option (List Char) :=
  match text.dropWhile fun c => !p c with
  | [] => (text, none)
  | _ :: rest => (text.takeWhile fun c => !p c, some rest)

/-- The scheme of an address, in small letters, and what stands behind its colon. -/
def scheme? (text : List Char) : Option (List Char × List Char) :=
  match text, cut (· == ':') text with
  | first :: _, (scheme, some rest) =>
    if first.isAlpha && scheme.all fun c => c.isAlphanum || c == '+' || c == '-' || c == '.' then
      some (scheme.map Char.toLower, rest)
    else none
  | _, _ => none

/-- Whether a character divides the names of a path. -/
def isSlash (isSpecial : Bool) (c : Char) : Bool := c == '/' || (isSpecial && c == '\\')

/-- Whether a name stands for a drive, and whether in its normal form. -/
def isDrive (normal : Bool) : List Char → Bool
  | [letter, mark] => letter.isAlpha && (mark == ':' || (!normal && mark == '|'))
  | _ => false

/-- Leave a place on a file system; a drive is not left. -/
def leaveFile : List (List Char) → List (List Char)
  | [only] => if isDrive true only then [only] else []
  | place => place.dropLast

/-- The names of a path that begins with a slash. -/
def names (isSpecial : Bool) : List Char → List (List Char)
  | [] => []
  | _ :: rest =>
    (Host.splitAt '/' (rest.map fun c => if isSlash isSpecial c then '/' else c)).map
      (Text.percentEncode isPathSafe)

/-- The path of names. -/
def pathOf (isFile : Bool) (all : List (List Char)) : UrlPath :=
  if isFile then
    let all := match all with
      | first :: rest => if isDrive false first then (first.take 1 ++ [':']) :: rest else all
      | [] => all
    .segments (follow leaveFile [] all)
  else .segments (follow List.dropLast [] all)

/-- A port, unless it is the usual one.  No digits are no port. -/
def port? (usual : Option Nat) (digits : List Char) : Option (Option Nat) :=
  if digits.isEmpty then some none
  else if !digits.all Char.isDigit then none
  else
    let port := digits.foldl (fun value c => value * 10 + (c.toNat - 0x30)) 0
    if 65535 < port then none
    else some (if usual = some port then none else some port)

/-- The text of a host and the digits of its port.  A colon within brackets begins no port. -/
def cutPort (inside : Bool) : List Char → List Char × Option (List Char)
  | [] => ([], none)
  | c :: rest =>
    if c = ':' ∧ ¬inside then ([], some rest)
    else
      let (host, port) := cutPort (if c = '[' then true else if c = ']' then false else inside) rest
      (c :: host, port)

/-- The credentials before the last at sign, and the text behind it. -/
def cutCredentials (text : List Char) : Option (List Char) × List Char :=
  match cut (· == '@') text.reverse with
  | (behind, some before) => (some before.reverse, behind.reverse)
  | (_, none) => (none, text)

/-- Read an authority. -/
def authority? (scheme text : List Char) : Option Authority := do
  let usual := usualPort? scheme
  let (credentials, hostAndPort) := cutCredentials text
  let (hostText, digits) := cutPort false hostAndPort
  if hostText.isEmpty && (usual.isSome || credentials.isSome || digits.isSome) then none
  else
    let host ← if hostText.isEmpty then some (.name []) else Host.ofChars? usual.isSome hostText
    let port ← port? usual.join (digits.getD [])
    let (user, password) := cut (· == ':') (credentials.getD [])
    let encoded := Text.percentEncode isCredentialSafe
    return { username := encoded user, password := encoded (password.getD []), host, port }

/-- The authority and the path of a file. -/
def file? (text : List Char) : Option (Authority × UrlPath) := do
  let nowhere : Authority := { host := .name [] }
  match text with
  | a :: b :: rest =>
    if isSlash true a && isSlash true b then
      let hostText := rest.takeWhile fun c => !isSlash true c
      let behind := rest.dropWhile fun c => !isSlash true c
      if isDrive false hostText then
        return (nowhere, pathOf true (names true ('/' :: rest)))
      else
        let host ← if hostText.isEmpty then some (.name []) else Host.ofChars? true hostText
        let isLocal := host = .domain ['l', 'o', 'c', 'a', 'l', 'h', 'o', 's', 't']
        return ({ host := if isLocal then .name [] else host },
          pathOf true (names true (if behind.isEmpty then ['/'] else behind)))
    else if isSlash true a then return (nowhere, pathOf true (names true text))
    else return (nowhere, pathOf true (names true ('/' :: text)))
  | [c] =>
    return (nowhere, pathOf true (names true (if isSlash true c then [c] else ['/', c])))
  | [] => return (nowhere, pathOf true (names true ['/']))

/-- Authority and path of a scheme, from what stands before query and fragment. -/
def hierarchy? (scheme text : List Char) : Option (Option Authority × UrlPath) :=
  let isSpecial := isSpecial scheme
  let withAuthority (text : List Char) : Option (Option Authority × UrlPath) :=
    let behind := text.dropWhile fun c => !isSlash isSpecial c
    let path := if isSpecial && behind.isEmpty then ['/'] else behind
    (authority? scheme (text.takeWhile fun c => !isSlash isSpecial c)).map fun authority =>
      (some authority, pathOf false (names isSpecial path))
  if scheme == ['f', 'i', 'l', 'e'] then
    (file? text).map fun (authority, path) => (some authority, path)
  else if isSpecial then withAuthority (text.dropWhile (isSlash true))
  else match text with
    | '/' :: '/' :: rest => withAuthority rest
    | '/' :: _ => some (none, pathOf false (names false text))
    | _ => some (none, .plain (Text.percentEncode (fun c => !Host.isControl c) text))

/-- Read an absolute address. -/
def parse? (text : String) : Option Url := do
  let (scheme, rest) ← scheme? (clean text.toList)
  let (rest, fragment) := cut (· == '#') rest
  let (rest, query) := cut (· == '?') rest
  let (authority, path) ← hierarchy? scheme rest
  return {
    scheme, authority, path
    query := query.map (Text.percentEncode (isQuerySafe (isSpecial scheme)))
    fragment := fragment.map (Text.percentEncode isFragmentSafe) }

/-! ## Other places at the same host -/

/-- Where the path of a reference begins at an address, and who answers there.  On a file system a
drive is not left, and it belongs to no host. -/
def root (base : Url) (names : List (List Char)) : Option Authority × List (List Char) :=
  match base.scheme == ['f', 'i', 'l', 'e'], names with
  | true, first :: _ =>
    if isDrive true first then (some { host := .name [] }, [first]) else (base.authority, [])
  | _, _ => (base.authority, [])

/-- The address that a text which begins with one slash, and names no drive, refers to at an
address.  There is none where addresses have no places. -/
def resolve? (base : Url) (text : List Char) : Option Url :=
  match base.path with
  | .plain _ => none
  | .segments old =>
    let (rest, fragment) := cut (· == '#') (clean text)
    let (rest, query) := cut (· == '?') rest
    let (authority, place) := base.root old
    let leave := if base.scheme == ['f', 'i', 'l', 'e'] then leaveFile else List.dropLast
    some { base with
      authority
      path := .segments (follow leave place (names (isSpecial base.scheme) rest))
      query := query.map (Text.percentEncode (isQuerySafe (isSpecial base.scheme)))
      fragment := fragment.map (Text.percentEncode isFragmentSafe) }

/-- An address with named values added to its query. -/
def withPairs (url : Url) (pairs : List (String × String)) : Url :=
  if pairs.isEmpty then url
  else { url with
    query := match url.query with
      | none | some [] => some (Text.formQuery pairs)
      | some query => some (query ++ '&' :: Text.formQuery pairs) }

end Url

end WalletTopUp
