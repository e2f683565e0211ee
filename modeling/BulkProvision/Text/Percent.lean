import BulkProvision.Text.Digits

/-!
# Percent encoding

A percent sign and two hexadecimal digits stand for a byte; the bytes of a decoded text are UTF-8.
Bytes that are no text are either refused or replaced.
-/

namespace BulkProvision

namespace Text

/-- The bytes an encoded text stands for; a percent sign without two digits is itself. -/
def percentBytes : List Char → List UInt8
  | [] => []
  | '%' :: a :: b :: rest =>
    if isDigit 16 a && isDigit 16 b then
      UInt8.ofNat (ofDigits 16 [a, b]) :: percentBytes rest
    else "%".toUTF8.toList ++ percentBytes (a :: b :: rest)
  | c :: rest => (String.singleton c).toUTF8.toList ++ percentBytes rest

/-- Decodes a text; nothing when the bytes are no text. -/
def percentDecode? (s : List Char) : Option String :=
  String.fromUTF8? ⟨(percentBytes s).toArray⟩

/-- The character that stands for bytes that are none. -/
def replacement : Char := '\uFFFD'

/-- The character at the front of bytes and the number of bytes it takes; a byte that starts no
character is replaced. -/
def leadingChar (bytes : List UInt8) : Char × Nat :=
  let decoded := [1, 2, 3, 4].findSome? fun count =>
    (String.fromUTF8? ⟨(bytes.take count).toArray⟩).bind fun s =>
      s.toList.head?.map fun c => (c, count)
  decoded.getD (replacement, 1)

/-- The text of bytes, what is no text replaced; at most `rounds` characters of it. -/
def lossyText : (rounds : Nat) → List UInt8 → List Char
  | 0, _ => []
  | _, [] => []
  | rounds + 1, bytes =>
    let (c, count) := leadingChar bytes
    c :: lossyText rounds (bytes.drop count)

/-- Decodes a text; bytes that are no text are replaced. -/
def percentDecodeLossy (s : List Char) : String :=
  let bytes := percentBytes s
  String.ofList (lossyText bytes.length bytes)

/-- Whether two hexadecimal digits follow every percent sign. -/
def isPercentEncoded : List Char → Bool
  | [] => true
  | '%' :: a :: b :: rest => isDigit 16 a && isDigit 16 b && isPercentEncoded rest
  | '%' :: _ => false
  | _ :: rest => isPercentEncoded rest

end Text

end BulkProvision
