namespace Labbook

-- The characters with the Unicode property `White_Space`.
def isBlank (c : Char) : Bool :=
  let n := c.toNat
  (0x09 ≤ n && n ≤ 0x0D) || n == 0x20 || n == 0x85 || n == 0xA0 || n == 0x1680 ||
    (0x2000 ≤ n && n ≤ 0x200A) || n == 0x2028 || n == 0x2029 || n == 0x202F || n == 0x205F ||
    n == 0x3000

def dropEndBlanks (cs : List Char) : List Char := (cs.reverse.dropWhile isBlank).reverse

def trimBlanks (cs : List Char) : List Char := dropEndBlanks (cs.dropWhile isBlank)

def trimmed (text : String) : String := String.ofList (trimBlanks text.toList)

-- The maximal runs of characters that are not blank, `word` being the part of a word already read,
-- last character first.
def wordsFrom (word : List Char) : List Char → List (List Char)
  | [] => if word.isEmpty then [] else [word.reverse]
  | c :: rest =>
    if isBlank c then
      if word.isEmpty then wordsFrom [] rest else word.reverse :: wordsFrom [] rest
    else wordsFrom (c :: word) rest

def wordList (cs : List Char) : List (List Char) := wordsFrom [] cs

def words (text : String) : List String := (wordList text.toList).map String.ofList

def normalizeBlanks (text : String) : String := " ".intercalate (words text)

end Labbook
