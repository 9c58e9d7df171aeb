/-!
# Values and errors

The values of `JSON.parse`, the property accesses the handlers make on them, and
thrown errors. A number is kept as its text: no handler computes with one.
-/

namespace StayApi

structure JsError where
  message : String
  deriving DecidableEq

inductive Json where
  | null
  | bool (b : Bool)
  | num (text : String)
  | str (s : String)
  | arr (xs : List Json)
  | obj (fields : List (String × Json))

/-- A frame's text: it is not JSON, or it is the text of a JSON value. -/
inductive RawData where
  | malformed
  | json (v : Json)

namespace Json

/-- `v.key` on a value other than null: `none` is `undefined`. -/
def field (v : Json) (key : String) : Option Json :=
  match v with
  | .obj fields => fields.lookup key
  | _ => none

/-- `x === s` for a string `s`. -/
def isText (x : Option Json) (s : String) : Bool :=
  match x with
  | some (.str t) => t = s
  | _ => false

/-- `x === true`. -/
def isTrue : Option Json → Bool
  | some (.bool b) => b
  | _ => false

mutual
/-- The text of a value used as a property key. An object with a `toString` of its own, which is no function, has none. -/
def text : Json → Option String
  | .null => some "null"
  | .bool b => some (if b then "true" else "false")
  | .num t => some t
  | .str s => some s
  | .arr xs => (elements xs).map ",".intercalate
  | .obj fields => if (fields.lookup "toString").isSome then none else some "[object Object]"

/-- The texts of an array's elements; a null element's text is empty. -/
def elements : List Json → Option (List String)
  | [] => some []
  | .null :: xs => (elements xs).map ("" :: ·)
  | x :: xs => x.text.bind fun t => (elements xs).map (t :: ·)
end

/-- The key under which `object[x]` looks; without one the access throws. -/
def propertyKey : Option Json → Option String
  | none => some "undefined"
  | some x => x.text

end Json

end StayApi
