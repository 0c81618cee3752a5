/-
The JSON values that the policy tools take and return, as the two languages see them.

A string is the list of its characters. An object is the list of its fields. A number is its
literal, with whether it is zero. The case maps are parameters; what the tools rely on is
`LowerCase` and `UpperCase`.
-/
import OvcaCore.Types
import OvcaCore.Lib.Texts
import Mathlib.Data.List.Infix

set_option autoImplicit false

namespace OvcaCore

open OvcaCore.Texts

namespace PolicyTools

inductive Value where
  | Null
  | Boolean (value : Bool)
  | Number (literal : Text) (zero : Bool)
  | String (value : Text)
  | Array (items : List Value)
  | Object (fields : List (Text × Value))

/-- The arguments of a call are an object. -/
abbrev Args : Type := List (Text × Value)

namespace Value

def as_str : Value → Option Text
  | .String value => some value
  | _ => none

def as_array : Value → Option (List Value)
  | .Array items => some items
  | _ => none

/-- `bool(value)` in Python. -/
def truthy : Value → Bool
  | .Null => false
  | .Boolean value => value
  | .Number _ zero => !zero
  | .String value => value ≠ []
  | .Array items => !items.isEmpty
  | .Object fields => !fields.isEmpty

end Value

def field (fields : List (Text × Value)) (key : String) : Option Value := fields.lookup key.toList

/-- A text argument; absent or of another type, it is empty. -/
def text_arg (args : Args) (key : String) : Text := ((field args key).bind Value.as_str).getD []

def object (fields : List (String × Value)) : Value :=
  .Object (fields.map fun field => (field.1.toList, field.2))

def strings (texts : List Text) : Value := .Array (texts.map .String)

def text (value : String) : Value := .String value.toList

def optional_text : Option Text → Value
  | some value => .String value
  | none => .Null

/-- `"{}"` of a count. -/
def count_text (n : ℕ) : Text := (toString n).toList

def comma_separated (texts : List Text) : Text := ", ".toList.intercalate texts

/-! ## Case maps -/

/-- The characters that the keywords are made of: ASCII and Thai. -/
def keyword_char (c : Char) : Bool := c.toNat < 0x80 || (0x0E00 ≤ c.toNat && c.toNat ≤ 0x0E7F)

/-- Lower case maps these one by one, and white space ends what it looks at. -/
structure LowerCase (to_lowercase : Text → Text) : Prop where
  plain : ∀ s : Text, (∀ c ∈ s, keyword_char c = true) → to_lowercase s = s.map Char.toLower
  blank : ∀ (s : Text) (c : Char) (t : Text), is_whitespace c = true →
    to_lowercase (s ++ c :: t) = to_lowercase s ++ c :: to_lowercase t

structure UpperCase (to_uppercase : Text → Text) : Prop where
  plain : ∀ s : Text, (∀ c ∈ s, keyword_char c = true) → to_uppercase s = s.map Char.toUpper

end PolicyTools

end OvcaCore
