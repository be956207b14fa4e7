import ErpLens.Text.CharSet

/-!
# Characters by name

The code point that a character name stands for. Names are compared without regard to case. The
names of ideographs and of Hangul syllables are made from the code point. Of all others, a table has
those of the signs and letters that are common in sources; more of them can be added to it.
-/

namespace ErpLens.Text.CharName

/-- The names that end in the code point: what stands before it, and the code points. -/
def numberedNames : List (String × String) :=
  [("CJK UNIFIED IDEOGRAPH-",
      "3400-4dbf 4e00-9fff 20000-2a6df 2a700-2b738 2b740-2b81d 2b820-2cea1 2ceb0-2ebe0 30000-3134a"),
    ("CJK COMPATIBILITY IDEOGRAPH-", "f900-fa6d fa70-fad9 2f800-2fa1d"),
    ("KHITAN SMALL SCRIPT CHARACTER-", "18b00-18cd5"), ("NUSHU CHARACTER-", "1b170-1b2fb")]

/-- The leading consonants, vowels and trailing consonants of Hangul syllables, as spelled in
names. -/
def leadingLetters : List String :=
  ["G", "GG", "N", "D", "DD", "R", "M", "B", "BB", "S", "SS", "", "J", "JJ", "C", "K", "T", "P",
    "H"]

def vowelLetters : List String :=
  ["A", "AE", "YA", "YAE", "EO", "E", "YEO", "YE", "O", "WA", "WAE", "OE", "YO", "U", "WEO", "WE",
    "WI", "YU", "EU", "YI", "I"]

def trailingLetters : List String :=
  ["", "G", "GG", "GS", "N", "NJ", "NH", "D", "L", "LG", "LM", "LB", "LS", "LT", "LP", "LH", "M",
    "B", "BS", "S", "SS", "NG", "J", "C", "K", "T", "P", "H"]

def syllable? (spelling : String) : Option Nat :=
  let numbered (letters : List String) : List (Nat × String) :=
    (List.range letters.length).zip letters
  (numbered leadingLetters).findSome? fun (l, lead) =>
    (numbered vowelLetters).findSome? fun (v, vowel) =>
      (numbered trailingLetters).findSome? fun (t, trail) =>
        if lead ++ vowel ++ trail == spelling then some (0xac00 + (l * 21 + v) * 28 + t) else none

def after? (start text : String) : Option (List Char) :=
  if start.toList.isPrefixOf text.toList then some (text.toList.drop start.length) else none

def numbered? (name : String) : Option Nat :=
  numberedNames.findSome? fun (start, ranges) =>
    (after? start name).bind fun digits =>
      let code := readHex digits
      let spelled := (Nat.toDigits 16 code).map Char.toUpper
      if digits == spelled && (CharSet.ofText ranges).containsCode code then some code else none

/-- Names of characters in a row: the first code point, what all the names start with, and how each
of them goes on. -/
def namedRows : List (Nat × String × String) :=
  [(0x0, "",
      "NULL,START OF HEADING,START OF TEXT,END OF TEXT,END OF TRANSMISSION,ENQUIRY,ACKNOWLEDGE,
      ALERT,BACKSPACE,CHARACTER TABULATION,LINE FEED,LINE TABULATION,FORM FEED,CARRIAGE RETURN,
      SHIFT OUT,SHIFT IN,DATA LINK ESCAPE,DEVICE CONTROL ONE,DEVICE CONTROL TWO,
      DEVICE CONTROL THREE,DEVICE CONTROL FOUR,NEGATIVE ACKNOWLEDGE,SYNCHRONOUS IDLE,
      END OF TRANSMISSION BLOCK,CANCEL,END OF MEDIUM,SUBSTITUTE,ESCAPE,INFORMATION SEPARATOR FOUR,
      INFORMATION SEPARATOR THREE,INFORMATION SEPARATOR TWO,INFORMATION SEPARATOR ONE"),
    (0x20, "",
      "SPACE,EXCLAMATION MARK,QUOTATION MARK,NUMBER SIGN,DOLLAR SIGN,PERCENT SIGN,AMPERSAND,
      APOSTROPHE,LEFT PARENTHESIS,RIGHT PARENTHESIS,ASTERISK,PLUS SIGN,COMMA,HYPHEN-MINUS,
      FULL STOP,SOLIDUS,DIGIT ZERO,DIGIT ONE,DIGIT TWO,DIGIT THREE,DIGIT FOUR,DIGIT FIVE,
      DIGIT SIX,DIGIT SEVEN,DIGIT EIGHT,DIGIT NINE,COLON,SEMICOLON,LESS-THAN SIGN,EQUALS SIGN,
      GREATER-THAN SIGN,QUESTION MARK,COMMERCIAL AT"),
    (0x41, "LATIN CAPITAL LETTER ", "A,B,C,D,E,F,G,H,I,J,K,L,M,N,O,P,Q,R,S,T,U,V,W,X,Y,Z"),
    (0x5b, "",
      "LEFT SQUARE BRACKET,REVERSE SOLIDUS,RIGHT SQUARE BRACKET,CIRCUMFLEX ACCENT,LOW LINE,
      GRAVE ACCENT"),
    (0x61, "LATIN SMALL LETTER ", "A,B,C,D,E,F,G,H,I,J,K,L,M,N,O,P,Q,R,S,T,U,V,W,X,Y,Z"),
    (0x7b, "", "LEFT CURLY BRACKET,VERTICAL LINE,RIGHT CURLY BRACKET,TILDE"),
    (0xa0, "", "NO-BREAK SPACE"),
    (0xa3, "", "POUND SIGN"),
    (0xa7, "", "SECTION SIGN"),
    (0xa9, "", "COPYRIGHT SIGN"),
    (0xae, "", "REGISTERED SIGN"),
    (0xb0, "", "DEGREE SIGN,PLUS-MINUS SIGN,SUPERSCRIPT TWO,SUPERSCRIPT THREE"),
    (0xb5, "", "MICRO SIGN"),
    (0xb7, "", "MIDDLE DOT"),
    (0xd7, "", "MULTIPLICATION SIGN"),
    (0xe9, "LATIN SMALL LETTER ", "E WITH ACUTE"),
    (0xf7, "", "DIVISION SIGN"),
    (0x391, "GREEK CAPITAL LETTER ",
      "ALPHA,BETA,GAMMA,DELTA,EPSILON,ZETA,ETA,THETA,IOTA,KAPPA,LAMDA,MU,NU,XI,OMICRON,PI,RHO"),
    (0x3a3, "GREEK CAPITAL LETTER ", "SIGMA,TAU,UPSILON,PHI,CHI,PSI,OMEGA"),
    (0x3b1, "GREEK SMALL LETTER ",
      "ALPHA,BETA,GAMMA,DELTA,EPSILON,ZETA,ETA,THETA,IOTA,KAPPA,LAMDA,MU,NU,XI,OMICRON,PI,RHO,
      FINAL SIGMA,SIGMA,TAU,UPSILON,PHI,CHI,PSI,OMEGA"),
    (0x200b, "", "ZERO WIDTH SPACE,ZERO WIDTH NON-JOINER,ZERO WIDTH JOINER"),
    (0x2013, "", "EN DASH,EM DASH"),
    (0x2018, "", "LEFT SINGLE QUOTATION MARK,RIGHT SINGLE QUOTATION MARK"),
    (0x201c, "", "LEFT DOUBLE QUOTATION MARK,RIGHT DOUBLE QUOTATION MARK"),
    (0x2020, "", "DAGGER,DOUBLE DAGGER,BULLET"),
    (0x2026, "", "HORIZONTAL ELLIPSIS"),
    (0x20ac, "", "EURO SIGN"),
    (0x2116, "", "NUMERO SIGN"),
    (0x2122, "", "TRADE MARK SIGN"),
    (0x2190, "",
      "LEFTWARDS ARROW,UPWARDS ARROW,RIGHTWARDS ARROW,DOWNWARDS ARROW,LEFT RIGHT ARROW"),
    (0x2212, "", "MINUS SIGN"),
    (0x221e, "", "INFINITY"),
    (0x2260, "", "NOT EQUAL TO"),
    (0x2264, "", "LESS-THAN OR EQUAL TO,GREATER-THAN OR EQUAL TO"),
    (0x25a0, "", "BLACK SQUARE,WHITE SQUARE"),
    (0x25cf, "", "BLACK CIRCLE"),
    (0x2605, "", "BLACK STAR,WHITE STAR"),
    (0x2713, "", "CHECK MARK,HEAVY CHECK MARK"),
    (0x274c, "", "CROSS MARK"),
    (0x2764, "", "HEAVY BLACK HEART"),
    (0xfeff, "", "ZERO WIDTH NO-BREAK SPACE"),
    (0xfffd, "", "REPLACEMENT CHARACTER"),
    (0x1f600, "", "GRINNING FACE"),
    (0x1f680, "", "ROCKET")]

def rowNames (endings : String) : List String :=
  (endings.toList.splitOnP (· == ',')).map fun ending =>
    String.ofList (ending.dropWhile Char.isWhitespace)

def listed? (name : String) : Option Nat :=
  namedRows.findSome? fun (first, start, endings) =>
    (after? start name).bind fun ending =>
      ((rowNames endings).idxOf? (String.ofList ending)).map (first + ·)

def code? (name : String) : Option Nat :=
  let upper := String.ofList (name.toList.map Char.toUpper)
  match after? "HANGUL SYLLABLE " upper with
  | some spelling => syllable? (String.ofList spelling)
  | none =>
    (numbered? upper).orElse fun _ => listed? upper

end ErpLens.Text.CharName
