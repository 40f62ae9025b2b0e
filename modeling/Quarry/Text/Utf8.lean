/-!
The UTF-8 form of texts. Bytes that are no such form are read too: the start of a character that
is cut short, or else a single byte, stands for the replacement character.
-/

namespace Quarry.Text

def isContinuation (b : UInt8) : Bool := 0x80 ≤ b && b < 0xc0

def mayFollow (first second : UInt8) : Bool :=
  if first = 0xe0 then 0xa0 ≤ second && second < 0xc0
  else if first = 0xed then 0x80 ≤ second && second < 0xa0
  else if first = 0xf0 then 0x90 ≤ second && second < 0xc0
  else if first = 0xf4 then 0x80 ≤ second && second < 0x90
  else isContinuation second

def lowBits (b : UInt8) (modulus : Nat) : Nat := b.toNat % modulus

/-- The number of bytes of a character by its first byte; none if no character starts with it. -/
def characterSize? (b : UInt8) : Option Nat :=
  if b < 0x80 then some 1
  else if 0xc2 ≤ b && b < 0xe0 then some 2
  else if 0xe0 ≤ b && b < 0xf0 then some 3
  else if 0xf0 ≤ b && b < 0xf5 then some 4
  else none

def ofUtf8Lossy : List UInt8 → List Char
  | [] => []
  | a :: rest =>
    match characterSize? a, rest with
    | some 1, rest => Char.ofNat a.toNat :: ofUtf8Lossy rest
    | some 2, b :: after =>
      if isContinuation b then
        Char.ofNat (lowBits a 32 * 64 + lowBits b 64) :: ofUtf8Lossy after
      else '\ufffd' :: ofUtf8Lossy (b :: after)
    | some 3, b :: after =>
      if mayFollow a b then
        match after with
        | c :: last =>
          if isContinuation c then
            Char.ofNat (lowBits a 16 * 4096 + lowBits b 64 * 64 + lowBits c 64) ::
              ofUtf8Lossy last
          else '\ufffd' :: ofUtf8Lossy (c :: last)
        | [] => ['\ufffd']
      else '\ufffd' :: ofUtf8Lossy (b :: after)
    | some 4, b :: after =>
      if mayFollow a b then
        match after with
        | c :: further =>
          if isContinuation c then
            match further with
            | d :: last =>
              if isContinuation d then
                Char.ofNat (lowBits a 8 * 262144 + lowBits b 64 * 4096 + lowBits c 64 * 64 +
                  lowBits d 64) :: ofUtf8Lossy last
              else '\ufffd' :: ofUtf8Lossy (d :: last)
            | [] => ['\ufffd']
          else '\ufffd' :: ofUtf8Lossy (c :: further)
        | [] => ['\ufffd']
      else '\ufffd' :: ofUtf8Lossy (b :: after)
    | _, rest => '\ufffd' :: ofUtf8Lossy rest

end Quarry.Text
