/-!
# Blank characters

White space in the sense of the Unicode property, which is wider than ASCII, with the two operations
that depend on it: cutting blanks off both ends, and splitting a text into words.
-/

namespace PushWake.Text

/-- The characters with the property White_Space. -/
def isBlank (c : Char) : Bool :=
  let n := c.toNat
  (0x09 ≤ n && n ≤ 0x0D) || n == 0x20 || n == 0x85 || n == 0xA0 || n == 0x1680 ||
    (0x2000 ≤ n && n ≤ 0x200A) || n == 0x2028 || n == 0x2029 || n == 0x202F || n == 0x205F ||
    n == 0x3000

/-- The characters without the blanks at either end. -/
def trimChars (cs : List Char) : List Char :=
  ((cs.dropWhile isBlank).reverse.dropWhile isBlank).reverse

/-- The text without the blanks at either end. -/
def trim (s : String) : String :=
  String.ofList (trimChars s.toList)

/-- Whether nothing but blanks is left. -/
def isAllBlank (s : String) : Bool :=
  s.toList.all isBlank

/-- How many runs of characters the blanks separate, given whether one is running. -/
def countWordsFrom : Bool → List Char → Nat
  | _, [] => 0
  | inWord, c :: rest =>
    if isBlank c then countWordsFrom false rest
    else (if inWord then 0 else 1) + countWordsFrom true rest

/-- The number of words of a text. -/
def wordCount (s : String) : Nat :=
  countWordsFrom false s.toList

end PushWake.Text
