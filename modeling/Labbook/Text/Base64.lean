namespace Labbook

namespace Base64

def alphabet : Array Char :=
  "ABCDEFGHIJKLMNOPQRSTUVWXYZabcdefghijklmnopqrstuvwxyz0123456789+/".toList.toArray

def letter (n shift : Nat) : Char := alphabet.getD ((n >>> shift) % 64) '='

def encodeChars : List UInt8 → List Char
  | [] => []
  | [a] =>
    let n := a.toNat * 65536
    [letter n 18, letter n 12, '=', '=']
  | [a, b] =>
    let n := a.toNat * 65536 + b.toNat * 256
    [letter n 18, letter n 12, letter n 6, '=']
  | a :: b :: c :: rest =>
    let n := a.toNat * 65536 + b.toNat * 256 + c.toNat
    letter n 18 :: letter n 12 :: letter n 6 :: letter n 0 :: encodeChars rest

def encode (bytes : List UInt8) : String := String.ofList (encodeChars bytes)

end Base64

end Labbook
