import AgentSpec.Text.Printable

/-!
# Where a line may be broken

The rules of Unicode line breaking. Each character has a class, and whether a line may be broken
between two characters follows from their classes and from the blanks between them.
-/

namespace AgentSpec.Text

inductive BreakClass where
  | mandatory
  | blank
  | zeroSpace
  | joiner
  | glue
  | combining
  | openMark
  | closeMark
  | closeParenthesis
  | quote
  | nonStarter
  | exclamation
  | slash
  | infixMark
  | numberPrefix
  | numberSuffix
  | digit
  | letter
  | ideograph
  | hyphen
  | breakAfter
  | breakBefore
  | dash
  | ellipsis
  deriving DecidableEq, Repr

namespace BreakClass

def asciiClass (c : Char) : BreakClass :=
  if c == '\n' || c == '\r' || c == '\x0b' || c == '\x0c' then mandatory
  else if c == '\t' || c == '|' then breakAfter
  else if c < ' ' || c == '\x7f' then combining
  else if c == ' ' then blank
  else if c == '!' || c == '?' then exclamation
  else if c == '"' || c == '\'' then quote
  else if c == '$' || c == '+' || c == '\\' then numberPrefix
  else if c == '%' then numberSuffix
  else if c == '(' || c == '[' || c == '{' then openMark
  else if c == ')' || c == ']' then closeParenthesis
  else if c == '}' then closeMark
  else if c == ',' || c == '.' || c == ':' || c == ';' then infixMark
  else if c == '-' then hyphen
  else if c == '/' then slash
  else if '0' ≤ c && c ≤ '9' then digit
  else letter

/-- Classes beyond ASCII; what is not listed is a combining mark or a letter. -/
def table : List (BreakClass × Ranges) :=
  [(mandatory, [(0x85, 0x85), (0x2028, 0x2029)]),
   (zeroSpace, [(0x200b, 0x200b)]),
   (joiner, [(0x2060, 0x2060), (0xfeff, 0xfeff)]),
   (glue, [(0xa0, 0xa0), (0x2007, 0x2007), (0x2011, 0x2011), (0x202f, 0x202f)]),
   (openMark, [(0xa1, 0xa1), (0xbf, 0xbf), (0x201a, 0x201a), (0x201e, 0x201e), (0x2045, 0x2045),
     (0x207d, 0x207d), (0x208d, 0x208d), (0x2308, 0x2308), (0x230a, 0x230a), (0x2329, 0x2329),
     (0x3008, 0x3008), (0x300a, 0x300a), (0x300c, 0x300c), (0x300e, 0x300e), (0x3010, 0x3010),
     (0x3014, 0x3014), (0x3016, 0x3016), (0x3018, 0x3018), (0x301a, 0x301a), (0x301d, 0x301d),
     (0xff08, 0xff08), (0xff3b, 0xff3b), (0xff5b, 0xff5b), (0xff5f, 0xff5f), (0xff62, 0xff62)]),
   (closeMark, [(0x2046, 0x2046), (0x207e, 0x207e), (0x208e, 0x208e), (0x2309, 0x2309),
     (0x230b, 0x230b), (0x232a, 0x232a), (0x3001, 0x3002), (0x3009, 0x3009), (0x300b, 0x300b),
     (0x300d, 0x300d), (0x300f, 0x300f), (0x3011, 0x3011), (0x3015, 0x3015), (0x3017, 0x3017),
     (0x3019, 0x3019), (0x301b, 0x301b), (0x301e, 0x301f), (0xff09, 0xff09), (0xff0c, 0xff0c),
     (0xff0e, 0xff0e), (0xff3d, 0xff3d), (0xff5d, 0xff5d), (0xff60, 0xff61), (0xff63, 0xff64)]),
   (quote, [(0xab, 0xab), (0xbb, 0xbb), (0x2018, 0x2019), (0x201b, 0x201d), (0x201f, 0x201f),
     (0x2039, 0x203a)]),
   (nonStarter, [(0x203c, 0x203d), (0x2047, 0x2049), (0x3005, 0x3005), (0x301c, 0x301c),
     (0x303b, 0x303c), (0x3041, 0x3041), (0x3043, 0x3043), (0x3045, 0x3045), (0x3047, 0x3047),
     (0x3049, 0x3049), (0x3063, 0x3063), (0x3083, 0x3083), (0x3085, 0x3085), (0x3087, 0x3087),
     (0x308e, 0x308e), (0x3095, 0x3096), (0x309b, 0x309e), (0x30a0, 0x30a1), (0x30a3, 0x30a3),
     (0x30a5, 0x30a5), (0x30a7, 0x30a7), (0x30a9, 0x30a9), (0x30c3, 0x30c3), (0x30e3, 0x30e3),
     (0x30e5, 0x30e5), (0x30e7, 0x30e7), (0x30ee, 0x30ee), (0x30f5, 0x30f6), (0x30fb, 0x30fe),
     (0x31f0, 0x31ff), (0xff1a, 0xff1b), (0xff65, 0xff65), (0xff67, 0xff70), (0xff9e, 0xff9f)]),
   (exclamation, [(0xff01, 0xff01), (0xff1f, 0xff1f)]),
   (infixMark, [(0x37e, 0x37e), (0x589, 0x589), (0x60c, 0x60d), (0x2044, 0x2044)]),
   (numberPrefix, [(0xa3, 0xa5), (0xb1, 0xb1), (0x20a0, 0x20a6), (0x20a8, 0x20b5),
     (0x20b7, 0x20ba), (0x20bc, 0x20bd), (0x20bf, 0x20bf), (0x20c1, 0x20cf), (0x2116, 0x2116),
     (0x2212, 0x2213), (0xff04, 0xff04), (0xffe1, 0xffe1), (0xffe5, 0xffe6)]),
   (numberSuffix, [(0xa2, 0xa2), (0xb0, 0xb0), (0x2030, 0x2037), (0x2057, 0x2057),
     (0x20a7, 0x20a7), (0x20b6, 0x20b6), (0x20bb, 0x20bb), (0x20be, 0x20be), (0x20c0, 0x20c0),
     (0x2103, 0x2103), (0x2109, 0x2109), (0xff05, 0xff05), (0xffe0, 0xffe0)]),
   (digit, [(0x660, 0x669), (0x66b, 0x66c), (0x6f0, 0x6f9), (0x966, 0x96f)]),
   (breakAfter, [(0xad, 0xad), (0x1680, 0x1680), (0x2000, 0x2006), (0x2008, 0x200a),
     (0x2010, 0x2010), (0x2012, 0x2013), (0x2027, 0x2027), (0x2056, 0x2056), (0x2058, 0x205b),
     (0x205d, 0x205f), (0x3000, 0x3000)]),
   (breakBefore, [(0xb4, 0xb4), (0x2c8, 0x2c8), (0x2cc, 0x2cc), (0x2df, 0x2df)]),
   (dash, [(0x2014, 0x2014)]),
   (ellipsis, [(0x2024, 0x2026), (0x22ef, 0x22ef), (0xfe19, 0xfe19)]),
   (ideograph, [(0x231a, 0x231b), (0x23f0, 0x23f3), (0x2600, 0x2603), (0x2614, 0x2615),
     (0x261d, 0x261d), (0x270a, 0x270d), (0x2e80, 0x2fff), (0x3003, 0x3004), (0x3006, 0x3007),
     (0x3012, 0x3013), (0x3020, 0x3029), (0x3030, 0x3034), (0x3036, 0x303a), (0x303d, 0x4dbf),
     (0x4e00, 0xa4cf), (0xac00, 0xd7a3), (0xf900, 0xfaff), (0xff02, 0xff5e), (0xff66, 0xffdc),
     (0x1f000, 0x1f3fa), (0x1f400, 0x1faff), (0x20000, 0x2fffd), (0x30000, 0x3fffd)])]

def ofChar (c : Char) : BreakClass :=
  if c < '\x80' then asciiClass c
  else
    match table.find? fun x => x.2.contains c with
    | some x => x.1
    | none => if isExtending c ∨ (c < '\xa0') then combining else letter

/-! ## Rules -/

/-- Between neighbours without a blank, where none of the earlier rules has decided. -/
def bound (a b : BreakClass) : Bool :=
  match a, b with
  | quote, _ | _, quote => true
  | _, breakAfter | _, hyphen | _, nonStarter => true
  | breakBefore, _ => true
  | _, ellipsis => true
  | letter, digit | digit, letter => true
  | numberPrefix, ideograph | ideograph, numberSuffix => true
  | numberPrefix, letter | numberSuffix, letter => true
  | letter, numberPrefix | letter, numberSuffix => true
  | closeMark, numberSuffix | closeParenthesis, numberSuffix => true
  | closeMark, numberPrefix | closeParenthesis, numberPrefix => true
  | digit, numberSuffix | digit, numberPrefix => true
  | numberSuffix, openMark | numberSuffix, digit => true
  | numberPrefix, openMark | numberPrefix, digit => true
  | hyphen, digit | infixMark, digit | digit, digit | slash, digit => true
  | letter, letter => true
  | infixMark, letter => true
  | letter, openMark | digit, openMark => true
  | closeParenthesis, letter | closeParenthesis, digit => true
  | _, _ => false

/-- Whether a line may be broken between `a` and `b`, with blanks between them if `spaced`. -/
def mayBreak (a : BreakClass) (spaced : Bool) (b : BreakClass) : Bool :=
  if a = mandatory then true
  else if b = mandatory ∨ b = blank ∨ b = zeroSpace then false
  else if a = zeroSpace then true
  else if b = joiner ∨ (a = joiner ∧ !spaced) then false
  else if a = glue ∧ !spaced then false
  else if b = glue ∧ !spaced ∧ a ≠ breakAfter ∧ a ≠ hyphen then false
  else if [closeMark, closeParenthesis, exclamation, infixMark, slash].contains b then false
  else if a = openMark then false
  else if a = quote ∧ b = openMark then false
  else if (a = closeMark ∨ a = closeParenthesis) ∧ b = nonStarter then false
  else if a = dash ∧ b = dash then false
  else spaced || !bound a b

/-- A combining mark belongs to the character before it; where there is none, it is a letter. -/
def standsAlone (a : BreakClass) (spaced : Bool) : Bool :=
  spaced || a == mandatory || a == zeroSpace

end BreakClass

open BreakClass in
/-- Cut before the characters where a line may be broken. `run` is the piece begun, reversed, `a`
the class of its last character other than a blank. -/
def pieces (run : List Char) (a : BreakClass) (spaced : Bool) : List Char → List (List Char)
  | [] => [run.reverse]
  | c :: cs =>
    let k := BreakClass.ofChar c
    if k = combining ∧ !standsAlone a spaced then pieces (c :: run) a false cs
    else
      let b := if k = combining then letter else k
      let cut := mayBreak a spaced b
      let next := if cut then [c] else c :: run
      let rest := if b = blank then pieces next a true cs else pieces next b false cs
      if cut then run.reverse :: rest else rest

/-- The pieces of a text between which a line may be broken. -/
def breakable (cs : List Char) : List (List Char) :=
  match cs with
  | [] => []
  | c :: rest =>
    let k := BreakClass.ofChar c
    if k = .blank then pieces [c] .joiner true rest
    else pieces [c] (if k = .combining then .letter else k) false rest

end AgentSpec.Text
