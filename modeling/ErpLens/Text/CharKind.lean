import ErpLens.Text.CharSet

/-!
# Kinds of characters

What characters may be part of (Unicode 14): words, names, or printed text at all. The characters of
a kind mostly stand in rows, and a table gives the kind and length of each row.
-/

namespace ErpLens.Text

inductive CharKind where
  /-- Neither in words nor in names, and not printed. -/
  | hidden
  /-- Printed, but neither in words nor in names. -/
  | sign
  /-- Inside names only. -/
  | mark
  /-- At the start of names and inside, but not in words. -/
  | joiner
  /-- In words only. -/
  | numeral
  /-- In words and inside names. -/
  | digit
  /-- In words, and in names at any place. -/
  | letter
deriving Repr, DecidableEq, Inhabited

/-- What a character says about the case of a word. -/
inductive Casing where
  | plain
  | cased
  /-- Marks, modifiers and some punctuation, which do not end a word. -/
  | skipped
deriving Repr, DecidableEq, Inhabited

namespace CharKind

def ofSymbol? : Char → Option CharKind
  | 'H' => some .hidden
  | 'S' => some .sign
  | 'M' => some .mark
  | 'J' => some .joiner
  | 'N' => some .numeral
  | 'D' => some .digit
  | 'L' => some .letter
  | _ => none

/-- The rows of characters of one kind, in hexadecimal: the code point that a line starts with, and
the symbol of each kind with how many there are of it unless it is one. `^` stands after the symbol
of characters with a case, and `~` after that of skipped ones. All after them are hidden. -/
def rowTable : String :=
  "0: H20 S7 S~ S6 S~ S Da S~ S6 L^1a S3 S~ J S~ L^1a S4 H22 S7 S~ S L^ S2 H~ S S~ S2 N2 S~ L^ S M~
  b8: S~ N L^ S N3 S L^17 S L^1f S L^c3 L L^4 L4 L^d0 L L^1b L~12 S~4 L~c S~e L~5 S~7 L~ S~ L~ S~11
  300: M~70 L^4 L~ S~ L^2 H2 N~ L^3 S L^ H4 S~2 L^ M~ L^3 H L^ H L^14 H L^53 S L^8b S M~5 S~2 L^a6
  530: H L^26 H2 L~ S5 S~ L^29 S2 H2 S3 H M~2d S M~ S M~2 S M~2 S M~ H8 L1b H4 L4 S S~ Hb H~6 Sa
  610: M~b S H~ S3 L20 L~ La M~15 Da S4 L2 M~ L63 S L M~7 H~ S M~6 L~2 M~2 S M~4 L2 Da L3 S2 L Se H
  70f: H~ L M~ L1e M~1b H2 L59 M~b L He Da L21 M~9 L~2 S4 L~ H2 M~ S2 L16 M~4 L~ M~9 L~ M~3 L~ M~5
  82e: H2 Sf H L19 M~3 H2 S H Lb H5 L18 S~ L6 H H~2 H6 M~8 L29 L~ M~18 H~ M~20 M L36 M~ M M~ L M3
  941: M~8 M4 M~ M2 L M~7 La M~2 S2 Da S L~ Lf M~ M2 H L8 H2 L2 H2 L16 H L7 H L H3 L4 H2 M~ L M3
  9c1: M~4 H2 M2 H2 M2 M~ L H8 M H4 L2 H L3 M~2 H2 Da L2 S2 N6 S2 L S M~ H2 M~2 M H L6 H4 L2 H2 L16
  a29: H L7 H L2 H L2 H L2 H2 M~ H M3 M~2 H4 M~2 H2 M~3 H3 M~ H7 L4 H L H7 Da M~2 L3 M~ S Ha M~2 M
  a84: H L9 H L3 H L16 H L7 H L2 H L5 H2 M~ L M3 M~5 H M~2 M H M2 M~ H2 L Hf L2 M~2 H2 Da S2 H7 L
  afa: M~6 H M~ M2 H L8 H2 L2 H2 L16 H L7 H L2 H L5 H2 M~ L M M~ M M~4 H2 M2 H2 M2 M~ H7 M~2 M H4
  b5c: L2 H L3 M~2 H2 Da S L N6 Ha M~ L H L6 H3 L3 H L4 H3 L2 H L H L2 H3 L2 H3 L3 H3 Lc H4 M2 M~
  bc1: M2 H3 M3 H M3 M~ H2 L H6 M He Da N3 S8 H5 M~ M3 M~ L8 H L3 H L17 H L10 H2 M~ L M~3 M4 H M~3
  c49: H M~4 H7 M~2 H L3 H2 L H2 L2 M~2 H2 Da H7 S N7 S L M~ M2 S L8 H L3 H L17 H La H L5 H2 M~ L M
  cbf: M~ M5 H M~ M2 H M2 M~2 H7 M2 H6 L2 H L2 M~2 H2 Da H L2 Hd M~2 M2 L9 H L3 H L29 M~2 L M3 M~4
  d45: H M3 H M3 M~ L S H4 L3 M N7 L3 M~2 H2 Da N9 S L6 H M~ M2 H L12 H3 L18 H L9 H L H2 L7 H3 M~
  dcb: H4 M3 M~3 H M~ H M8 H6 Da H2 M2 S Hc L30 M~ L D M~7 H4 S L6 L~ M~8 S Da S2 H25 L2 H L H L5 H
  e8c: L18 H L H La M~ L D M~9 L H2 L5 H L~ H M~6 H2 Da H2 L4 H20 L S17 M~2 S6 Da Na S M~ S M~ S M~
  f3a: S4 M2 L8 H L24 H4 M~e M M~5 S M~2 L5 M~b H M~24 H S8 M~ S6 H Sd H25 L2b M2 M~4 M M~6 M M~2
  103b: M2 M~2 L Da S6 L6 M2 M~2 L4 M~3 L M3 L2 M7 L3 M~4 Ld M~ M2 M~2 M6 M~ L M Da M3 M~ S2 L^26 H
  10c7: L^ H5 L^ H2 L^2b S L~ L^3 L149 H L4 H2 L7 H L H L4 H2 L29 H L4 H2 L21 H L4 H2 L7 H L H L4
  12c6: H2 Lf H L39 H L4 H2 L43 H2 M~3 S9 D9 Nb H3 L10 Sa H6 L^56 H2 L^6 H2 S L26c S2 L11 H L1a S2
  169d: H3 L4b S3 Lb H7 L12 M~3 M H9 L13 M~2 M S2 H9 L12 M~2 Hc Ld H L3 H M~2 Hc L34 M~2 M M~7 M8
  17c6: M~ M2 M~b S3 L~ S4 L M~ H2 Da H6 Na H6 Sb M~3 H~ M~ Da H6 L23 L~ L35 H7 L5 J~2 L22 M~ L H5
  18b0: L46 Ha L1f H M~3 M4 M~2 M3 H4 M2 M~ M6 M~3 H4 S H3 S2 Da L1e H2 L5 Hb L2c H4 L1a H6 Db H3
  19de: S22 L17 M~2 M2 M~ H2 S2 L35 M M~ M M~7 H M~ M M~ M2 M~8 M6 M~a H2 M~ Da H6 Da H6 S7 L~ S6
  1aae: H2 M~e S~ M~10 H31 M~4 M L2f M~ M M~5 M M~ M5 M~ M2 L8 H3 Da S11 M~9 Sb H M~2 M L1e M M~4
  1ba6: M2 M~2 M M~3 L2 Da L2c M~ M M~2 M3 M~ M M~3 M2 H8 S4 L24 M8 M~8 M2 M~2 H3 S5 Da H3 L3 Da
  1c5a: L1e L~6 S2 L^9 H7 L^2b H2 L^3 S8 H8 M~3 S M~d M M~7 L4 M~ L6 M~ L2 M M~2 L H5 L^2c L~3f L^d
  1d78: L~ L^22 L~25 M~40 L^116 H2 L^6 H2 L^26 H2 L^6 H2 L^8 H L^ H L^ H L^ H L^1f H2 L^35 H L^7 S~
  1fbe: L^ S~3 L^3 H L^7 S~3 L^4 H2 L^6 H S~3 L^d S~3 H2 L^3 H L^7 S~2 Hc H~5 S8 S~2 Sa S~ S2 S~ H2
  202a: H~5 H Sf M2 S13 M Sa H H~5 H H~a N L~ H2 N6 S5 L~ Na S5 H L~d H3 S21 Hf M~d S~4 M~ S~3 M~c
  20f1: Hf S2 L^ S4 L^ S2 L^a S L^ S2 J L^5 S6 L^ S L^ S L^ S L^4 J L^6 L4 L^ S2 L^4 S5 L^5 S4 L^ S
  2150: N10 L^20 L3 L^2 L4 N S2 H4 S297 H19 Sb H15 N3c S1a S^34 N16 S276 N1e S3e0 H2 S20 H S69 L^7c
  2c7c: L~2 L^67 S6 L^4 M~3 L^2 H5 S4 N S2 L^26 H L^ H5 L^ H2 L38 H7 L~ S He M~ L17 H9 L7 H L7 H L7
  2db7: H L7 H L7 H L7 H L7 H L7 H M~20 S2f N~ S2e H22 S1a H S59 Hc Sd6 H1a Sc H5 S4 L~ L2 S19 L9
  302a: M~4 M2 S L~5 S2 L3 L~ L S3 H L56 H2 M~2 S~2 L~2 L S L5a S L~3 L H5 L2b H L5e H S2 N4 Sa L20
  31c0: S24 Hc L10 S1f H Na S1e N8 S Nf S20 Na S27 Nf S140 L19c0 S40 L5215 L~ L477 H3 S37 H9 L28
  a4f8: L~6 S2 L10c L~ S3 L10 Da L2 H14 L^2e L M~ S~3 S M~a S L~ L^1c L~2 M~2 L50 M~2 S6 H8 S~17
  a717: L~9 S~2 L^4e L~ L^17 L~ S~2 L^4 L L^3b H5 L^2 H L^ H L^5 H18 L~3 L^2 L L~2 L^ L7 M~ L3 M~
  a807: L4 M~ L17 M2 M~2 M S4 M~ H3 N6 S4 H6 L34 S4 H8 M2 L32 M10 M~2 H8 S2 Da H6 M~12 L6 S3 L S L2
  a8ff: M~ Da L1c M~8 S2 L17 M~b M2 Hb S L1d H3 M~3 M L2f M~ M2 M~4 M2 M~2 M3 Sd H L~ Da H4 S2 L5
  a9e5: M~ L~ L9 Da L5 H L29 M~6 M2 M~2 M2 M~2 H9 L3 M~ L8 M~ M H2 Da H2 S4 L10 L~ L6 S3 L M M~ M
  aa7e: L32 M~ L M~3 L2 M~2 L5 M~2 L M~ L H18 L2 L~ S2 Lb M M~2 M2 S2 L L~2 M M~ Ha L6 H2 L6 H2 L6
  ab17: H9 L7 H L7 H L^2b S~ L~4 L^9 L~ S~2 H4 L^50 L23 M2 M~ M2 M~ M2 S M M~ H2 Da H6 L2ba4 Hc L17
  d7c7: H4 L31 H2104 L16e H2 L6a H26 L^7 Hc L^5 H5 L M~ La S Ld H L5 H L H L2 H L2 H L6c S~11 H10
  fbd3: L8b N6 Lda S12 L40 H2 L36 H7 S H20 La N2 S4 M~10 S3 S~ S6 H6 M~10 S3 M2 S18 M3 S2 S~ H S S~
  fe56: S11 H S4 H4 N L N L N H N L N L N L N L N L7e H2 H~ H S6 S~ S6 S~ S Da S~ S6 L^1a S3 S~ M
  ff40: S~ L^1a Sb La L~ L2d D~2 L1f H3 L6 H2 L6 H2 L6 H2 L3 H3 S3 S~ S3 H S7 Ha H~3 S2 H2 Lc H L1a
  10027: H L13 H L2 H Lf H2 Le H22 L7b H5 S3 H4 N2d H3 S9 L35 N4 S11 N2 S3 H Sd H3 S H2f S2d M~ H82
  10280: L1d H3 L31 Hf M~ N1b H4 L20 N4 H9 L1e H5 L26 M~5 H5 L1e H S L24 H4 L8 S L5 H2a L^50 L4e H2
  104a0: Da H6 L^24 H4 L^24 H4 L28 H8 L34 Hb S L^b H L^f H L^7 H L^2 H L^b H L^f H L^7 H L^2 H43
  10600: L137 H9 L16 Ha L8 H18 L~6 H L~2a H L~9 H45 L6 H2 L H L2c H L2 H3 L H2 L17 H S N8 L17 S2 N7
  10880: L1f H8 N9 H30 L13 H L2 H5 N5 L16 N6 H3 S L1a H5 S H40 L38 H4 N2 L2 N10 H2 N2e L M~3 H M~2
  10a07: H5 M~4 L4 H L3 H L1d H2 M~3 H4 M~ N9 H7 S9 H7 L1d N2 S L1d N3 H20 L8 S L1c M~2 H4 N5 S7 H9
  10b00: L36 H3 S7 L16 H2 N8 L13 H5 N8 L12 H7 S4 Hc N7 H50 L49 H37 L^33 Hd L^33 H7 N6 L24 M~4 H8 Da
  10d3a: H126 N1f H L2a H M~2 S H2 L2 H4e L1d Na L H8 L16 M~b N4 S5 H16 L12 M~4 S4 H26 L15 N7 H14
  10fe0: L17 H9 M M~ M L35 M~f S7 H4 N14 Da M~ L2 M~2 L H9 M~3 M L2d M3 M~4 M2 M~2 S2 H~ S4 M~ Ha
  110cd: H~ H2 L19 H7 Da H6 M~3 L24 M~5 M M~8 H Da S4 L M2 L H8 L23 M~ S2 L H9 M~2 M L30 M3 M~9 M2
  111c1: L4 S4 M~4 S M M~ Da L S L S3 H N14 Hb L12 H L19 M3 M~3 M2 M~ M M~2 S6 M~ H41 L7 H L H L4 H
  1128f: Lf H La S H6 L2f M~ M3 M~8 H5 Da H6 M~2 M2 H L8 H2 L2 H2 L16 H L7 H L2 H L5 H M~2 L M2 M~
  11341: M4 H2 M2 H2 M3 H2 L H6 M H5 L5 M2 H2 M~7 H3 M~5 H8b L35 M3 M~8 M2 M~3 M M~ L4 S5 Da S2 H S
  1145e: M~ L3 H1e L30 M3 M~6 M M~ M4 M~2 M M~2 L2 S L H8 Da Ha6 L2f M3 M~4 H2 M4 M~2 M M~2 S17 L4
  115dc: M~2 H22 L30 M3 M~8 M2 M~ M M~2 S3 L Hb Da H6 Sd H13 L2b M~ M M~ M2 M~6 M M~ L S H6 Da H36
  11700: L1b H2 M~3 M2 M~4 M M~5 H4 Da N2 S4 L7 Hb9 L2c M3 M~9 M M~2 S H64 L^40 Da N9 Hc L8 H2 L H2
  1190c: L8 H L2 H L18 M6 H M2 H2 M~2 M M~ L M L M M~ S3 H9 Da H46 L8 H2 L27 M3 M~4 H2 M~2 M4 M~ L
  119e2: S L M H1b L M~a L28 M~6 M L M~4 S8 M~ H8 L M~6 M2 M~3 L2e M~d M M~2 S3 L S5 Hd L49 H107 L9
  11c09: H L25 M M~7 H M~6 M M~ L S5 Ha Da N13 H3 S2 L1e H2 M~16 H M M~7 M M~2 M M~2 H49 L7 H L2 H
  11d0b: L26 M~6 H3 M~ H M~2 H M~7 L M~ H8 Da H6 L6 H L2 H L20 M5 H M~2 H M2 M~ M M~ L H7 Da H136
  11ee0: L13 M~2 M2 S2 Hb7 L Hf N15 S1d Hd S L39a H66 L6f H S5 Hb Lc4 Ha4c L61 S2 Hd L42f H H~9
  13439: Hfc7 L247 H21b9 L239 H7 L1f H Da H4 S2 L4f H Da H6 L1e H2 M~5 S Ha L30 M~7 S9 L~4 S2 Ha Da
  16b5a: H N7 H L15 H5 L13 H2b0 L^40 N17 S4 H65 L4b H4 M~ L M37 H7 M~4 L~d H40 L~2 S L~ M~ Hb M2 He
  17000: L17f8 H8 L4d6 H2a L9 H22e7 L~4 H L~7 H L~2 H L123 H2d L3 H11 L4 H8 L18c H904 L6b H5 Ld H3
  1bc80: L9 H7 La H2 S M~2 S H~4 H125c M~2e H2 M~17 H9 S74 H3c Sf6 Ha S27 H2 S3c M2 M~3 S3 M6 H~8
  1d17b: M~8 S2 M~7 S1e M~4 S3d H15 S42 M~3 S H9a N14 Hc S57 H9 N19 H87 L^55 H L^47 H L^2 H2 L^ H2
  1d4a5: L^2 H2 L^4 H L^c H L^ H L^7 H L^41 H L^4 H2 L^8 H L^7 H L^1c H L^4 H L^5 H L^ H3 L^7 H
  1d552: L^154 H2 L^19 S L^19 S L^1f S L^19 S L^1f S L^19 S L^1f S L^19 S L^1f S L^19 S L^8 H2 D32
  1d800: S200 M~37 S4 M~32 S8 M~ Se M~ S7 Hf M~5 H M~f H450 L^a L L^14 He1 M~7 H M~11 H2 M~7 H M~2
  1e025: H M~5 Hd5 L2d H3 M~7 L~7 H2 Da H4 L S H140 L1e M~ H11 L2c M~4 Da H5 S H4e0 L7 H L4 H L2 H
  1e7f0: Lf H Lc5 H2 N9 M~7 H29 L^44 M~7 L~ H4 Da H4 S2 H311 N3b S N3 S N4 H4c N2d S Nf Hc2 L4 H
  1ee05: L1b H L2 H L H2 L H La H L4 H L H L H6 L H4 L H L H L H L3 H L2 H L H2 L H L H L H L H L H
  1ee61: L2 H L H2 L4 H L7 H L4 H L4 H L H La H L11 H5 L3 H L5 H L11 H34 S2 H10e S2c H4 S64 Hc Sf
  1f0af: H2 Sf H Sf H S25 Ha Nd S23 S^1a S6 S^1a S6 S^1a S24 H38 S1d Hd S2c H4 S9 H7 S2 He S6 H9a
  1f300: Sfb S~5 S2d8 H5 S10 H3 Sd H3 S74 Hc S59 H7 Sc H4 S Hf Sc H4 S38 H8 Sa H6 S28 H8 S1e H2 S2
  1f8b2: H4e S154 Hc Se H2 S5 H3 S5 H3 S7 H9 S1d H3 Sb H5 S6 Ha Sa H6 S8 H8 S7 H9 S93 H S37 H25 Da
  1fbfa: H406 La6e0 H20 L1039 H7 Lde H2 L1682 He L1d31 Hc1f L21e H5e2 L134b Haecb6 H~ H1e H~60 H80
  e0100: M~f0"

structure Row where
  first : Nat
  kind : CharKind
  casing : Casing
deriving Inhabited

/-- Reads `41:`, `L^1a`, `L1a` and `L`. -/
def readRows (first : Nat) : List (List Char) → List Row
  | [] => [⟨first, .hidden, .plain⟩]
  | word :: rest =>
    if word.getLast? == some ':' then readRows (readHex word.dropLast) rest
    else
      let kind := (word.head?.bind ofSymbol?).getD .hidden
      let (casing, digits) : Casing × List Char := match word.drop 1 with
        | '^' :: digits => (.cased, digits)
        | '~' :: digits => (.skipped, digits)
        | digits => (.plain, digits)
      ⟨first, kind, casing⟩ ::
        readRows (first + if digits.isEmpty then 1 else readHex digits) rest

def rows : Thunk (Array Row) := Thunk.mk fun _ =>
  (readRows 0 ((tableEntries rowTable).map (·.toList))).toArray

/-- The row of a code point that does not come before the row at `low` and comes before that at
`high`. -/
def search (rows : Array Row) (code low high : Nat) : Row :=
  if _apart : low + 1 < high then
    let middle := (low + high) / 2
    if code < (rows.getD middle default).first then search rows code low middle
    else search rows code middle high
  else rows.getD low default
termination_by high - low
decreasing_by all_goals omega

def rowOf (code : Nat) : Row :=
  search rows.get code 0 rows.get.size

def ofCode (code : Nat) : CharKind :=
  (rowOf code).kind

def isOfWords (kind : CharKind) : Bool :=
  kind matches .numeral | .digit | .letter

def startsNames (kind : CharKind) : Bool :=
  kind matches .joiner | .letter

def isOfNames (kind : CharKind) : Bool :=
  kind matches .mark | .joiner | .digit | .letter

end CharKind

def isAlphanumeric (c : Char) : Bool :=
  if c.toNat < 128 then c.isAlphanum else (CharKind.ofCode c.toNat).isOfWords

/-! ## Printable characters -/

/-- A character is printable unless it is a control, format, surrogate, private or unassigned code
point, or a separator other than the blank. -/
def isPrintableCode (code : Nat) : Bool :=
  if code < 127 then 32 ≤ code else CharKind.ofCode code != .hidden

/-! ## Identifiers

They begin and go on with the characters of the properties `XID_Start` and `XID_Continue`, and the
underscore.
-/

namespace Identifier

def isStart (c : Char) : Bool :=
  if c.toNat < 128 then c.isAlpha || c == '_' else (CharKind.ofCode c.toNat).startsNames

def isContinue (c : Char) : Bool :=
  if c.toNat < 128 then c.isAlphanum || c == '_' else (CharKind.ofCode c.toNat).isOfNames

def isIdentifier : List Char → Bool
  | [] => false
  | c :: rest => isStart c && rest.all isContinue

end Identifier

/-! ## Words

Letters, numerals and the underscore make words. A word boundary lies between a character of a word
and one that is none, and at the ends of a text that starts or ends in a word.
-/

def isWordChar (c : Char) : Bool :=
  c == '_' || isAlphanumeric c

def isBoundary (before after : Option Char) : Bool :=
  (before.map isWordChar).getD false != (after.map isWordChar).getD false

/-- Whether `part` occurs in a text with a word boundary at both of its ends; `before` is the
character before the text. -/
def occursAsWord (part : List Char) (before : Option Char) : List Char → Bool
  | [] => part.isEmpty && isBoundary before none
  | c :: rest =>
    (part.isPrefixOf (c :: rest) && isBoundary before (some c) &&
      isBoundary ((part.getLast?).orElse fun _ => before) ((c :: rest).drop part.length).head?) ||
      occursAsWord part (some c) rest

def firstWord (text : String) : String :=
  String.ofList (text.toList.takeWhile isWordChar)

end ErpLens.Text
