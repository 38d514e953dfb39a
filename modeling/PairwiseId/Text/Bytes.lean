import PairwiseId.Digest.Block

/- Bytes and texts. A text has its UTF-8 bytes. Bytes are written as two hexadecimal
   digits each, in lower case and read in either, or in the standard alphabet of 64
   characters without padding: three bytes make four characters, one byte two and
   two bytes three. -/
namespace PairwiseId.Text

set_option autoImplicit false

def utf8 (s : String) : Digest.Bytes := s.toList.flatMap String.utf8EncodeChar

-- Fails on bytes that no text has.
def ofUtf8? (bytes : Digest.Bytes) : Option (List Char) :=
  (String.fromUTF8? (ByteArray.mk bytes.toArray)).map String.toList

theorem utf8_append (a b : String) : utf8 (a ++ b) = utf8 a ++ utf8 b := by
  simp [utf8]

def hexDigit (n : Nat) : Char := "0123456789abcdef".toList.getD n '0'

def hexValue? (c : Char) : Option Nat :=
  if '0' ≤ c ∧ c ≤ '9' then some (c.toNat - 48)
  else if 'a' ≤ c ∧ c ≤ 'f' then some (c.toNat - 87)
  else if 'A' ≤ c ∧ c ≤ 'F' then some (c.toNat - 55)
  else none

def isHexDigit (c : Char) : Bool := (hexValue? c).isSome

def hexByte (b : UInt8) : List Char := [hexDigit (b.toNat / 16), hexDigit (b.toNat % 16)]

def hexOfBytes (bytes : Digest.Bytes) : List Char := bytes.flatMap hexByte

-- Fails on a character that is no digit and on an odd count of digits.
def bytesOfHex? : List Char → Option Digest.Bytes
  | [] => some []
  | [_] => none
  | a :: b :: rest => do
    let high ← hexValue? a
    let low ← hexValue? b
    let bytes ← bytesOfHex? rest
    return UInt8.ofNat (16 * high + low) :: bytes

theorem hex_value_of_digit : ∀ n < 16, hexValue? (hexDigit n) = some n := by decide

theorem bytes_of_hex_of_bytes (bytes : Digest.Bytes) :
    bytesOfHex? (hexOfBytes bytes) = some bytes := by
  induction bytes with
  | nil => rfl
  | cons b rest ih =>
    have bound : b.toNat < 256 := b.toNat_lt
    have high := hex_value_of_digit (b.toNat / 16) (by omega)
    have low := hex_value_of_digit (b.toNat % 16) (by omega)
    have whole : 16 * (b.toNat / 16) + b.toNat % 16 = b.toNat := by omega
    have back : UInt8.ofNat b.toNat = b := by simp
    simp only [hexOfBytes, List.flatMap_cons, hexByte, List.cons_append, List.nil_append] at ih ⊢
    simp only [bytesOfHex?, high, low, ih, Option.bind_eq_bind, Option.bind_some, whole, back,
      Option.pure_def]

theorem hex_of_bytes_length (bytes : Digest.Bytes) :
    (hexOfBytes bytes).length = 2 * bytes.length := by
  induction bytes with
  | nil => rfl
  | cons b rest ih =>
    simp only [hexOfBytes, List.flatMap_cons, hexByte, List.length_append, List.length_cons,
      List.length_nil] at ih ⊢
    omega

def base64Char (n : Nat) : Char :=
  "ABCDEFGHIJKLMNOPQRSTUVWXYZabcdefghijklmnopqrstuvwxyz0123456789+/".toList.getD n 'A'

def base64Chars : Digest.Bytes → List Char
  | [] => []
  | [a] => [base64Char (a.toNat / 4), base64Char (a.toNat % 4 * 16)]
  | [a, b] =>
    [base64Char (a.toNat / 4), base64Char (a.toNat % 4 * 16 + b.toNat / 16),
      base64Char (b.toNat % 16 * 4)]
  | a :: b :: c :: rest =>
    base64Char (a.toNat / 4) :: base64Char (a.toNat % 4 * 16 + b.toNat / 16) ::
      base64Char (b.toNat % 16 * 4 + c.toNat / 64) :: base64Char (c.toNat % 64) ::
      base64Chars rest

def base64 (bytes : Digest.Bytes) : String := String.ofList (base64Chars bytes)

end PairwiseId.Text
