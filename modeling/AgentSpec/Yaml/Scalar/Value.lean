import AgentSpec.Tree
import AgentSpec.Yaml.Tag

/-!
# The value of a scalar

A plain scalar without a tag is null, a truth value, an integer, a float or, failing these, text. A
tag of the core schema asks for one of them.
-/

namespace AgentSpec.Yaml

/-- What a value cannot be. -/
inductive Mismatch where
  | localTag
  | sequenceKey (first : Bool)
  | mappingKey (first : Bool)
  | notBoolean (text : String)
  | notInteger (text : String)
  | notFloat (text : String)
  | notNull (text : String)
  | outOfRange
  deriving DecidableEq, Repr

namespace Scalar

def isNull (text : String) : Bool := ["null", "Null", "NULL", "~"].contains text

def boolean? (text : String) : Option Bool :=
  if ["true", "True", "TRUE"].contains text then some true
  else if ["false", "False", "FALSE"].contains text then some false
  else none

/-! ## Integers -/

def digit? (radix : Nat) (c : Char) : Option Nat := (Text.hexValue? c).filter (· < radix)

/-- A number without a sign; at least one digit. -/
def natural? (radix : Nat) (cs : List Char) : Option Nat :=
  if cs.isEmpty then none else cs.foldlM (fun n c => (digit? radix c).map (radix * n + ·)) 0

def radix? (c : Char) : Option Nat :=
  if c = 'x' then some 16 else if c = 'o' then some 8 else if c = 'b' then some 2 else none

/-- A sign and what follows it. -/
def signed (cs : List Char) : Bool × List Char :=
  match cs with
  | '-' :: ds => (true, ds)
  | '+' :: ds => (false, ds)
  | ds => (false, ds)

/-- Several digits of which the first is a zero are no number. -/
def isPadded (ds : List Char) : Bool := 1 < ds.length && ds.head? == some '0' && ds.all isDecimal

/-- A decimal number, or one in the radix that a letter after a zero names. -/
def magnitude? (ds : List Char) : Option Nat :=
  match ds with
  | '0' :: letter :: more =>
    match radix? letter with
    | some radix => natural? radix more
    | none => natural? 10 ds
  | _ => natural? 10 ds

/-- The integer that is written, if 128 bits hold it; only 64 bits are in range. -/
def integer? (cs : List Char) : Option (Except Mismatch Tree) :=
  let (negative, ds) := signed cs
  if isPadded ds then none
  else
    match magnitude? ds with
    | none => none
    | some n =>
      let inRange := if negative then n ≤ twoTo 63 else n < twoTo 64
      let held := if negative then n ≤ twoTo 127 else n < twoTo 128
      if inRange then some (.ok (.number (.integer (if negative then -(n : Int) else n))))
      else if held then some (.error .outOfRange)
      else none

/-! ## Floats -/

/-- An exponent after its letter. -/
def exponent? (cs : List Char) : Option Int :=
  let (negative, ds) := signed cs
  (natural? 10 ds).map fun n => if negative then -(n : Int) else n

/-- Digits with or without a point among them, and an exponent or none. -/
def decimal? (negative : Bool) (cs : List Char) : Option (Option Binary64) :=
  let whole := cs.takeWhile isDecimal
  let afterWhole := cs.dropWhile isDecimal
  let (fraction, afterFraction) := match afterWhole with
    | '.' :: more => (more.takeWhile isDecimal, more.dropWhile isDecimal)
    | more => ([], more)
  let digits := whole ++ fraction
  let exponent? := match afterFraction with
    | [] => some 0
    | c :: more => if c = 'e' ∨ c = 'E' then exponent? more else none
  if digits.isEmpty then none
  else exponent?.map fun e =>
    Binary64.ofDecimal? negative (Decimal.value digits) (e - fraction.length)

def isInfinity (text : String) : Bool := [".inf", ".Inf", ".INF"].contains text

def isNotANumber (text : String) : Bool := [".nan", ".NaN", ".NAN"].contains text

/-- The float that is written. Infinities and what is not a number have no value in a tree. -/
def float? (text : String) : Option Tree :=
  let cs := text.toList
  let (negative, ds) := signed cs
  if isInfinity (String.ofList ds) ∨ isNotANumber text then some .null
  else
    match decimal? negative ds with
    | some (some x) => some (.number (.float x))
    | _ => none

/-! ## Scalars -/

def plainValue (text : String) : Except Mismatch Tree :=
  let cs := text.toList
  if text.isEmpty ∨ isNull text then .ok .null
  else
    match boolean? text with
    | some b => .ok (.boolean b)
    | none =>
      match integer? cs with
      | some x => x
      | none =>
        if isPadded (signed cs).2 then .ok (.text text)
        else .ok ((float? text).getD (.text text))

def coreTag (name : String) : Bytes := bytesOf ("tag:yaml.org,2002:" ++ name).toList

/-- A tag of the document's own, for which no value stands. -/
def isLocal (tag : Bytes) : Bool :=
  tag.head? == some 33 && ByteArray.validateUTF8 ⟨tag.toArray⟩

/-- The value of a scalar that has a tag. -/
def taggedValue (tag : Bytes) (text : String) (plain : Bool) : Except Mismatch Tree :=
  if tag = coreTag "bool" then
    match boolean? text with
    | some b => .ok (.boolean b)
    | none => .error (.notBoolean text)
  else if tag = coreTag "int" then (integer? text.toList).getD (.error (.notInteger text))
  else if tag = coreTag "float" then
    match float? text with
    | some x => .ok x
    | none => .error (.notFloat text)
  else if tag = coreTag "null" then
    if isNull text then .ok .null else .error (.notNull text)
  else if tag.head? = some 33 ∧ plain then plainValue text
  else .ok (.text text)

def value (tag? : Option Bytes) (text : String) (plain : Bool) : Except Mismatch Tree :=
  match tag? with
  | some tag => taggedValue tag text plain
  | none => if plain then plainValue text else .ok (.text text)

end Scalar
end AgentSpec.Yaml
