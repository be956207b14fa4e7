/-!
# Blanks

Which characters are blank, and the functions on texts that look at blanks only: cutting them off
at the ends and asking whether anything else is there.
-/

namespace ErpLens.Text

/-- A blank is a character that separates words or lines: a space of any width, a tab, or one of
the line and record separators. -/
def isBlank (c : Char) : Bool :=
  let code := c.toNat
  (9 ≤ code && code ≤ 13) || (28 ≤ code && code ≤ 32) || code == 0x85 || code == 0xa0 ||
    code == 0x1680 || (0x2000 ≤ code && code ≤ 0x200a) || code == 0x2028 || code == 0x2029 ||
    code == 0x202f || code == 0x205f || code == 0x3000

def trimStart (chars : List Char) : List Char :=
  chars.dropWhile isBlank

def trimEnd (chars : List Char) : List Char :=
  (chars.reverse.dropWhile isBlank).reverse

def trim (chars : List Char) : List Char :=
  trimEnd (trimStart chars)

def trimmed (text : String) : String :=
  String.ofList (trim text.toList)

def isBlankText (text : String) : Bool :=
  text.toList.all isBlank

def words (text : String) : List String :=
  go text.toList []
where
  go : List Char → List Char → List String
    | [], word => if word.isEmpty then [] else [String.ofList word.reverse]
    | c :: rest, word =>
      if isBlank c then
        if word.isEmpty then go rest [] else String.ofList word.reverse :: go rest []
      else go rest (c :: word)

end ErpLens.Text
