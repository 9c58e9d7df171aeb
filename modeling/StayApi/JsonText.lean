import StayApi.Json
import StayApi.OrdMap
import StayApi.Run

/-!
# The text of a JSON value

`JSON.stringify` spells the tokens of a value; `JSON.parse` scans a text into
tokens and reads them with a stack. Both are machines that take one character,
or one token, at a time. The fields of an object are listed in the order of its
text. A lone surrogate, which a `String` cannot hold, is read as U+FFFD.
-/

namespace StayApi

namespace JsonText

inductive Token where
  | openArray
  | closeArray
  | openObject
  | closeObject
  | comma
  | colon
  | null
  | bool (b : Bool)
  | num (text : String)
  | str (s : String)
  deriving DecidableEq

/-! ## Numbers -/

/-- What of a number has been read. -/
inductive Numeral where
  | start
  | minus
  | zero
  | digits
  | point
  | fraction
  | exponent
  | sign
  | power
  deriving DecidableEq

namespace Numeral

def isE (c : Char) : Bool := c = 'e' || c = 'E'

def step : Numeral → Char → Option Numeral
  | start, c => if c = '-' then some minus else if c = '0' then some zero else if c.isDigit then some digits else none
  | minus, c => if c = '0' then some zero else if c.isDigit then some digits else none
  | zero, c => if c = '.' then some point else if isE c then some exponent else none
  | digits, c =>
    if c.isDigit then some digits else if c = '.' then some point else if isE c then some exponent else none
  | point, c => if c.isDigit then some fraction else none
  | fraction, c => if c.isDigit then some fraction else if isE c then some exponent else none
  | exponent, c => if c = '+' ∨ c = '-' then some sign else if c.isDigit then some power else none
  | sign, c => if c.isDigit then some power else none
  | power, c => if c.isDigit then some power else none

def accepted : Numeral → Bool
  | zero => true
  | digits => true
  | fraction => true
  | power => true
  | _ => false

end Numeral

def isNumber (text : List Char) : Bool := ((run Numeral.step .start text).map Numeral.accepted).getD false

/-! ## Strings -/

/-- The characters written as a backslash and a letter. -/
def escapes : List (Char × Char) :=
  [('"', '"'), ('\\', '\\'), (Char.ofNat 8, 'b'), (Char.ofNat 9, 't'), (Char.ofNat 10, 'n'), (Char.ofNat 12, 'f'),
    (Char.ofNat 13, 'r')]

def unescape (letter : Char) : Option Char :=
  if letter = '/' then some '/' else (escapes.find? fun e => e.2 = letter).map Prod.fst

def hexDigit (n : Nat) : Char := Char.ofNat (if n < 10 then n + 48 else n + 87)

def hexValue (c : Char) : Option Nat :=
  if c.isDigit then some (c.toNat - 48)
  else if 'a' ≤ c ∧ c ≤ 'f' then some (c.toNat - 87)
  else if 'A' ≤ c ∧ c ≤ 'F' then some (c.toNat - 55)
  else none

def escape (c : Char) : List Char :=
  match escapes.lookup c with
  | some letter => ['\\', letter]
  | none => if c.toNat < 32 then ['\\', 'u', '0', '0', hexDigit (c.toNat / 16), hexDigit (c.toNat % 16)] else [c]

/-! ## Writing -/

def spell : Token → List Char
  | .openArray => ['[']
  | .closeArray => [']']
  | .openObject => ['{']
  | .closeObject => ['}']
  | .comma => [',']
  | .colon => [':']
  | .null => "null".toList
  | .bool b => if b then "true".toList else "false".toList
  | .num text => text.toList
  | .str s => '"' :: s.toList.flatMap escape ++ ['"']

mutual
def tokens : Json → List Token
  | .null => [.null]
  | .bool b => [.bool b]
  | .num text => [.num text]
  | .str s => [.str s]
  | .arr [] => [.openArray, .closeArray]
  | .arr (x :: xs) => .openArray :: tokens x ++ moreElements xs ++ [.closeArray]
  | .obj [] => [.openObject, .closeObject]
  | .obj ((key, x) :: fields) => .openObject :: .str key :: .colon :: tokens x ++ moreMembers fields ++ [.closeObject]

def moreElements : List Json → List Token
  | [] => []
  | x :: xs => .comma :: tokens x ++ moreElements xs

def moreMembers : List (String × Json) → List Token
  | [] => []
  | (key, x) :: fields => .comma :: .str key :: .colon :: tokens x ++ moreMembers fields
end

def stringify (v : Json) : String := String.ofList ((tokens v).flatMap spell)

/-! ## Scanning -/

/-- Where a scanner is. `high` is a high surrogate whose low one may follow. -/
inductive Scan where
  | between
  | word (text : List Char)
  | string (text : List Char)
  | escape (text : List Char) (high : Option Nat)
  | hex (text : List Char) (high : Option Nat) (digits : List Nat)
  | pair (text : List Char) (high : Nat)

structure Scanner where
  scan : Scan
  tokens : List Token

def isSpace (c : Char) : Bool := c = ' ' || c = '\t' || c = '\n' || c = '\r'

/-- The characters of numbers and of `null`, `true` and `false`. -/
def isWord (c : Char) : Bool := c.isLower || c.isDigit || c = '-' || c = '+' || c = '.' || c = 'E'

def punctuation : List (Char × Token) :=
  [('[', .openArray), (']', .closeArray), ('{', .openObject), ('}', .closeObject), (',', .comma), (':', .colon)]

def wordToken (text : List Char) : Option Token :=
  if text = "null".toList then some .null
  else if text = "true".toList then some (.bool true)
  else if text = "false".toList then some (.bool false)
  else if isNumber text then some (.num (String.ofList text))
  else none

def between (ts : List Token) (c : Char) : Option Scanner :=
  if isSpace c then some ⟨.between, ts⟩
  else if c = '"' then some ⟨.string [], ts⟩
  else if isWord c then some ⟨.word [c], ts⟩
  else (punctuation.lookup c).map fun t => ⟨.between, ts ++ [t]⟩

def inString (text : List Char) (ts : List Token) (c : Char) : Option Scanner :=
  if c = '"' then some ⟨.between, ts ++ [.str (String.ofList text)]⟩
  else if c = '\\' then some ⟨.escape text none, ts⟩
  else if c.toNat < 32 then none
  else some ⟨.string (text ++ [c]), ts⟩

def replacement : Char := Char.ofNat 65533

def inEscape (text : List Char) (ts : List Token) (c : Char) : Option Scanner :=
  if c = 'u' then some ⟨.hex text none [], ts⟩
  else (unescape c).map fun d => ⟨.string (text ++ [d]), ts⟩

/-- A code unit with no high surrogate before it. -/
def codeUnit (text : List Char) (n : Nat) : Scan :=
  if 55296 ≤ n ∧ n < 56320 then .pair text n
  else if 56320 ≤ n ∧ n < 57344 then .string (text ++ [replacement])
  else .string (text ++ [Char.ofNat n])

def codeUnitAfter (text : List Char) (n : Nat) : Option Nat → Scan
  | none => codeUnit text n
  | some high =>
    if 56320 ≤ n ∧ n < 57344 then .string (text ++ [Char.ofNat (65536 + (high - 55296) * 1024 + (n - 56320))])
    else codeUnit (text ++ [replacement]) n

def inHex (text : List Char) (high : Option Nat) (digits : List Nat) (ts : List Token) (c : Char) : Option Scanner :=
  (hexValue c).map fun d =>
    match digits with
    | [x, y, z] => ⟨codeUnitAfter text (4096 * x + 256 * y + 16 * z + d) high, ts⟩
    | _ => ⟨.hex text high (digits ++ [d]), ts⟩

def scanStep (s : Scanner) (c : Char) : Option Scanner :=
  match s.scan with
  | .between => between s.tokens c
  | .word text =>
    if isWord c then some ⟨.word (text ++ [c]), s.tokens⟩
    else (wordToken text).bind fun t => between (s.tokens ++ [t]) c
  | .string text => inString text s.tokens c
  | .escape text none => inEscape text s.tokens c
  | .escape text (some high) =>
    if c = 'u' then some ⟨.hex text (some high) [], s.tokens⟩ else inEscape (text ++ [replacement]) s.tokens c
  | .hex text high digits => inHex text high digits s.tokens c
  | .pair text high =>
    if c = '\\' then some ⟨.escape text (some high), s.tokens⟩ else inString (text ++ [replacement]) s.tokens c

def scanned (s : Scanner) : Option (List Token) :=
  match s.scan with
  | .between => some s.tokens
  | .word text => (wordToken text).map fun t => s.tokens ++ [t]
  | _ => none

def scan (text : List Char) : Option (List Token) := (run scanStep ⟨.between, []⟩ text).bind scanned

/-! ## Reading -/

/-- A value that is being read, up to where the value inside it starts. -/
inductive Context where
  | arr (xs : List Json)
  | obj (fields : List (String × Json)) (key : String)

/-- What a reader expects. After an opening bracket, the end of the array or of the object may follow at once. -/
inductive Expect where
  | value
  | firstElement
  | firstMember
  | member (fields : List (String × Json))
  | colon (fields : List (String × Json)) (key : String)
  | nextElement (xs : List Json)
  | nextMember (fields : List (String × Json))
  | nothing (v : Json)

structure Reader where
  expect : Expect
  stack : List Context

/-- Of two members of one name the later counts. -/
def deliver (v : Json) : List Context → Reader
  | [] => ⟨.nothing v, []⟩
  | .arr xs :: stack => ⟨.nextElement (xs ++ [v]), stack⟩
  | .obj fields key :: stack => ⟨.nextMember (OrdMap.upsert key v fields), stack⟩

def readValue (stack : List Context) : Token → Option Reader
  | .openArray => some ⟨.firstElement, stack⟩
  | .openObject => some ⟨.firstMember, stack⟩
  | .null => some (deliver .null stack)
  | .bool b => some (deliver (.bool b) stack)
  | .num text => some (deliver (.num text) stack)
  | .str s => some (deliver (.str s) stack)
  | _ => none

def readStep (r : Reader) (t : Token) : Option Reader :=
  match r.expect, t with
  | .value, t => readValue r.stack t
  | .firstElement, .closeArray => some (deliver (.arr []) r.stack)
  | .firstElement, t => readValue (.arr [] :: r.stack) t
  | .firstMember, .closeObject => some (deliver (.obj []) r.stack)
  | .firstMember, .str key => some ⟨.colon [] key, r.stack⟩
  | .member fields, .str key => some ⟨.colon fields key, r.stack⟩
  | .colon fields key, .colon => some ⟨.value, .obj fields key :: r.stack⟩
  | .nextElement xs, .comma => some ⟨.value, .arr xs :: r.stack⟩
  | .nextElement xs, .closeArray => some (deliver (.arr xs) r.stack)
  | .nextMember fields, .comma => some ⟨.member fields, r.stack⟩
  | .nextMember fields, .closeObject => some (deliver (.obj fields) r.stack)
  | _, _ => none

def result (r : Reader) : Option Json :=
  match r.expect with
  | .nothing v => some v
  | _ => none

def read (ts : List Token) : Option Json := (run readStep ⟨.value, []⟩ ts).bind result

def parse (text : String) : Option Json := (scan text.toList).bind read

/-! ## Values that have a text -/

mutual
/-- The numbers are numbers, and no object has two members of one name. -/
def wellFormed : Json → Bool
  | .num text => isNumber text.toList
  | .arr xs => elementsWellFormed xs
  | .obj fields => decide (fields.map Prod.fst).Nodup && fieldsWellFormed fields
  | _ => true

def elementsWellFormed : List Json → Bool
  | [] => true
  | x :: xs => wellFormed x && elementsWellFormed xs

def fieldsWellFormed : List (String × Json) → Bool
  | [] => true
  | (_, x) :: fields => wellFormed x && fieldsWellFormed fields
end

end JsonText

end StayApi
