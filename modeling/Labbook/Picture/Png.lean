import Labbook.Picture.Bitmap

namespace Labbook

namespace Png

def word (n : Nat) : List UInt8 :=
  [UInt8.ofNat (n >>> 24), UInt8.ofNat (n >>> 16), UInt8.ofNat (n >>> 8), UInt8.ofNat n]

def half (n : Nat) : List UInt8 := [UInt8.ofNat n, UInt8.ofNat (n >>> 8)]

def ascii (text : String) : List UInt8 := text.toList.map fun c => UInt8.ofNat c.toNat

def crcBit (crc : UInt32) : UInt32 :=
  if crc &&& 1 = 1 then (crc >>> 1) ^^^ 0xEDB88320 else crc >>> 1

def crcByte (crc : UInt32) (byte : UInt8) : UInt32 :=
  crcBit (crcBit (crcBit (crcBit (crcBit (crcBit (crcBit (crcBit (crc ^^^ byte.toUInt32))))))))

def crc (bytes : List UInt8) : UInt32 := bytes.foldl crcByte 0xFFFFFFFF ^^^ 0xFFFFFFFF

def adler (bytes : List UInt8) : Nat :=
  let (a, b) := bytes.foldl (fun (a, b) byte =>
    let a := (a + byte.toNat) % 65521
    (a, (b + a) % 65521)) (1, 0)
  b * 65536 + a

-- A chunk of a file: the length of its data, its name, the data and a check of both.
def chunk (name : String) (data : List UInt8) : List UInt8 :=
  let body := ascii name ++ data
  word data.length ++ body ++ word (crc body).toNat

-- Bytes in blocks that are stored as they are; `limit` bounds the number of blocks.
def storedBlocks (bytes : List UInt8) : Nat → List UInt8
  | 0 => []
  | limit + 1 =>
    let block := bytes.take 65535
    let rest := bytes.drop 65535
    let last := if rest.isEmpty then 1 else 0
    last :: half block.length ++ half (65535 - block.length) ++ block ++
      (if rest.isEmpty then [] else storedBlocks rest limit)

def stored (bytes : List UInt8) : List UInt8 :=
  [0x78, 0x01] ++ storedBlocks bytes (bytes.length / 65535 + 1) ++ word (adler bytes)

def rows (b : Bitmap) : List UInt8 :=
  (List.range b.height).flatMap fun row =>
    0 :: (Bitmap.rowSlice b.bytes b.width 0 b.width row).toList

def header (b : Bitmap) : List UInt8 := word b.width ++ word b.height ++ [8, 2, 0, 0, 0]

def encode (b : Bitmap) : List UInt8 :=
  [0x89, 0x50, 0x4E, 0x47, 0x0D, 0x0A, 0x1A, 0x0A] ++ chunk "IHDR" (header b) ++
    chunk "IDAT" (stored (rows b)) ++ chunk "IEND" []

end Png

end Labbook
