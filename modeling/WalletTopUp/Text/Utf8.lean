/-!
# Bytes and characters

The bytes of a text, and the text that bytes stand for.  Bytes that stand for no character are told
apart in the longest pieces that could have begun one.
-/

namespace WalletTopUp

namespace Text

/-- The bytes of a text. -/
def utf8 (text : List Char) : List UInt8 := text.flatMap String.utf8EncodeChar

/-- What a first byte promises: how many bytes follow it, its share of the code point, and the
range of the byte behind it. -/
structure Lead where
  following : Nat
  share : Nat
  low : UInt8
  high : UInt8
deriving DecidableEq, Inhabited

/-- What a first byte promises, `none` if no character begins with it. -/
def lead? (b : UInt8) : Option Lead :=
  let n := b.toNat
  if n < 0x80 then some ⟨0, n, 0x80, 0xbf⟩
  else if n < 0xc2 then none
  else if n < 0xe0 then some ⟨1, n - 0xc0, 0x80, 0xbf⟩
  else if n = 0xe0 then some ⟨2, 0, 0xa0, 0xbf⟩
  else if n = 0xed then some ⟨2, n - 0xe0, 0x80, 0x9f⟩
  else if n < 0xf0 then some ⟨2, n - 0xe0, 0x80, 0xbf⟩
  else if n = 0xf0 then some ⟨3, 0, 0x90, 0xbf⟩
  else if n < 0xf4 then some ⟨3, n - 0xf0, 0x80, 0xbf⟩
  else if n = 0xf4 then some ⟨3, 4, 0x80, 0x8f⟩
  else none

/-- Read the bytes that follow a first one: the code point, if all are there, and the bytes behind
those that fit. -/
def readFollowing (share : Nat) (low high : UInt8) : Nat → List UInt8 → Option Nat × List UInt8
  | 0, bytes => (some share, bytes)
  | _ + 1, [] => (none, [])
  | following + 1, b :: bytes =>
    if low ≤ b ∧ b ≤ high then
      readFollowing (share * 64 + b.toNat % 64) 0x80 0xbf following bytes
    else (none, b :: bytes)

theorem length_readFollowing_le (share : Nat) (low high : UInt8) (following : Nat)
    (bytes : List UInt8) :
    (readFollowing share low high following bytes).2.length ≤ bytes.length := by
  fun_induction readFollowing with
  | case1 => exact Nat.le_refl _
  | case2 => exact Nat.le_refl _
  | case3 _ _ _ _ _ _ _ ih => exact Nat.le_succ_of_le ih
  | case4 => exact Nat.le_refl _

/-- Read a character that begins with a byte: the character, if there is one, and the bytes behind
what was read. -/
def readChar (b : UInt8) (bytes : List UInt8) : Option Char × List UInt8 :=
  match lead? b with
  | none => (none, bytes)
  | some lead =>
    let (code, rest) := readFollowing lead.share lead.low lead.high lead.following bytes
    (code.map Char.ofNat, rest)

theorem length_readChar_le (b : UInt8) (bytes : List UInt8) :
    (readChar b bytes).2.length ≤ bytes.length := by
  unfold readChar
  split
  · exact Nat.le_refl _
  · exact length_readFollowing_le _ _ _ _ _

/-- The characters that bytes stand for, with `none` for each piece that stands for none. -/
def characters : List UInt8 → List (Option Char)
  | [] => []
  | b :: bytes =>
    have := length_readChar_le b bytes
    (readChar b bytes).1 :: characters (readChar b bytes).2
termination_by bytes => bytes.length
decreasing_by simp; omega

/-- The text that bytes stand for, if all of them do. -/
def ofUtf8? (bytes : List UInt8) : Option (List Char) := (characters bytes).mapM id

/-- The text that bytes stand for, with U+FFFD for each piece that stands for nothing. -/
def ofUtf8 (bytes : List UInt8) : List Char :=
  (characters bytes).map fun c => c.getD '\ufffd'

/-! ## Byte order marks -/

/-- The sixteen bit units of bytes, with `none` for a byte that is left over. -/
def units (join : UInt8 → UInt8 → Nat) : List UInt8 → List (Option Nat)
  | [] => []
  | [_] => [none]
  | a :: b :: rest => some (join a b) :: units join rest

/-- The characters that sixteen bit units stand for, with U+FFFD for what stands for none. -/
def ofUnits : List (Option Nat) → List Char
  | [] => []
  | none :: rest => '\ufffd' :: ofUnits rest
  | some high :: rest =>
    if 0xd800 ≤ high ∧ high < 0xdc00 then
      match rest with
      | some low :: others =>
        if 0xdc00 ≤ low ∧ low < 0xe000 then
          Char.ofNat (0x10000 + (high - 0xd800) * 0x400 + (low - 0xdc00)) :: ofUnits others
        else '\ufffd' :: ofUnits (some low :: others)
      | [none] => ['\ufffd']
      | others => '\ufffd' :: ofUnits others
    else if 0xdc00 ≤ high ∧ high < 0xe000 then '\ufffd' :: ofUnits rest
    else Char.ofNat high :: ofUnits rest

/-- The text that bytes stand for when a byte order mark may tell how they are to be read. -/
def ofMarkedBytes : List UInt8 → List Char
  | 0xef :: 0xbb :: 0xbf :: rest => ofUtf8 rest
  | 0xff :: 0xfe :: rest => ofUnits (units (fun a b => b.toNat * 256 + a.toNat) rest)
  | 0xfe :: 0xff :: rest => ofUnits (units (fun a b => a.toNat * 256 + b.toNat) rest)
  | bytes => ofUtf8 bytes

end Text

end WalletTopUp
