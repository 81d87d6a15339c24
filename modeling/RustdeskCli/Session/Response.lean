import RustdeskCli.Foundation.Text
set_option autoImplicit false

/-!
# Session: errors and responses (`src/session.rs`)

What the layers of the program say to each other: `anyhow` errors with their
contexts, JSON values, and the `SessionResponse` the daemon writes to its client,
one line of JSON each.  Texts are lists of characters throughout, since errors are
classified by what their text contains.
-/

namespace RustdeskCli.Session

open RustdeskCli.Foundation

/-- An `anyhow::Error`: its message, and what caused it, outermost first. -/
structure Error where
  message : Text
  causes : List Text
  deriving DecidableEq, Repr

namespace Error

/-- `anyhow!` and `bail!`. -/
def msg (message : Text) : Error := ⟨message, []⟩

/-- `.context(..)`. -/
def context (e : Error) (message : Text) : Error := ⟨message, e.message :: e.causes⟩

/-- `format!("{e}")`. -/
def display (e : Error) : Text := e.message

/-- `format!("{e:#}")`: the whole chain, joined by colons. -/
def alternate (e : Error) : Text := ": ".toList.intercalate (e.message :: e.causes)

end Error

/-- A `serde_json::Value` with the numbers the program uses. -/
inductive Json where
  | null
  | bool (b : Bool)
  | int (n : Int)
  | str (s : Text)
  | arr (elems : List Json)
  | obj (fields : List (String × Json))
  deriving Repr

namespace Json

/-- `Value::get` with a key. -/
def get (key : String) : Json → Option Json
  | .obj fields => fields.lookup key
  | _ => none

/-- `Value::as_str`. -/
def asStr : Json → Option Text
  | .str s => some s
  | _ => none

/-- `Value::as_bool`. -/
def asBool : Json → Option Bool
  | .bool b => some b
  | _ => none

/-- `Value::as_i64`. -/
def asI64 : Json → Option Int
  | .int n => if -(2 ^ 63) ≤ n ∧ n < 2 ^ 63 then some n else none
  | _ => none

/-- `Value::as_u64`. -/
def asU64 : Json → Option Nat
  | .int n => if 0 ≤ n ∧ n < 2 ^ 64 then some n.toNat else none
  | _ => none

/-- `Value::as_array`. -/
def asArray : Json → Option (List Json)
  | .arr elems => some elems
  | _ => none

/-- `value[key]`: what is missing is `null`. -/
def index (key : String) (value : Json) : Json := (value.get key).getD .null

/-- A character inside a JSON string. -/
def escape (c : Char) : Text :=
  if c = '"' then "\\\"".toList
  else if c = '\\' then "\\\\".toList
  else if c = '\n' then "\\n".toList
  else if c = '\r' then "\\r".toList
  else if c = '\t' then "\\t".toList
  else if c.toNat = 8 then "\\b".toList
  else if c.toNat = 12 then "\\f".toList
  else if c.toNat < 32 then
    "\\u00".toList ++ [Nat.digitChar (c.toNat / 16), Nat.digitChar (c.toNat % 16)]
  else [c]

/-- A JSON string. -/
def quote (text : Text) : Text := "\"".toList ++ text.flatMap escape ++ "\"".toList

mutual

/-- `Value::to_string`, with the keys of an object in order. -/
def render : Json → Text
  | .null => "null".toList
  | .bool b => if b then "true".toList else "false".toList
  | .int n => (toString n).toList
  | .str s => quote s
  | .arr elems => "[".toList ++ ",".toList.intercalate (renderElems elems) ++ "]".toList
  | .obj fields =>
      let entries := (renderFields fields).mergeSort fun a b => a.1 ≤ b.1
      "\x7b".toList ++ ",".toList.intercalate (entries.map Prod.snd) ++ "\x7d".toList

/-- The elements of an array. -/
def renderElems : List Json → List Text
  | [] => []
  | elem :: elems => render elem :: renderElems elems

/-- The entries of an object, each with its key. -/
def renderFields : List (String × Json) → List (String × Text)
  | [] => []
  | (key, value) :: fields =>
      (key, quote key.toList ++ ":".toList ++ render value) :: renderFields fields

end

end Json

/-- The `as i32` cast of an `i64`. -/
def asI32 (n : Int) : Int := n.bmod (2 ^ 32)

/-- `SessionResponse`. -/
structure SessionResponse where
  success : Bool
  message : Option Text
  data : Option Json
  deriving Repr

namespace SessionResponse

/-- `SessionResponse::ok`. -/
def ok (message : Text) : SessionResponse := ⟨true, some message, none⟩

/-- `SessionResponse::ok_with_data`. -/
def okWithData (message : Text) (data : Json) : SessionResponse := ⟨true, some message, some data⟩

/-- `SessionResponse::error`. -/
def error (message : Text) : SessionResponse := ⟨false, some message, none⟩

end SessionResponse

end RustdeskCli.Session
