/-
  TlsHandshake.Diagnostic.Text

  The layout of diagnostic text: quoted strings, sequences, optional values and records
  with named fields. A record may end with two dots for parts that are not shown.
-/

import TlsHandshake.Diagnostic.Unprintable

namespace TlsHandshake.Diagnostic

/-- A hexadecimal digit in lower case. -/
def hexDigit (n : Nat) : Char :=
  if n < 10 then Char.ofNat (n + 48) else Char.ofNat (n + 87)

/-- A number in hexadecimal, without leading zeros. -/
def hex (n : Nat) : List Char :=
  if _h : n < 16 then [hexDigit n] else hex (n / 16) ++ [hexDigit (n % 16)]
termination_by n
decreasing_by omega

/-- A character inside a quoted string: the quote and the backslash get a backslash, four
    controls have a letter of their own, and any other unprintable character is written
    by its code point. -/
def escape (c : Char) : List Char :=
  if c = '"' then ['\\', '"']
  else if c = '\\' then ['\\', '\\']
  else if c = '\n' then ['\\', 'n']
  else if c = '\r' then ['\\', 'r']
  else if c = '\t' then ['\\', 't']
  else if c = '\x00' then ['\\', '0']
  else if isUnprintable c then "\\u\x7b".toList ++ hex c.toNat ++ "\x7d".toList
  else [c]

/-- A quoted string. -/
def quoted (s : String) : String :=
  "\"" ++ String.ofList (s.toList.flatMap escape) ++ "\""

/-- A truth value. -/
def bool (b : Bool) : String := if b then "true" else "false"

/-- Items in brackets. -/
def sequence (items : List String) : String := "[" ++ ", ".intercalate items ++ "]"

/-- A value that may be absent. -/
def optional (item : Option String) : String :=
  match item with
  | some text => "Some(" ++ text ++ ")"
  | none => "None"

/-- One named field of a record. -/
structure Field where
  name : String
  text : String

/-- The fields of a record, each with its name. -/
def Field.list (fields : List Field) : List String :=
  fields.map fun field => field.name ++ ": " ++ field.text

/-- A record that shows all its fields. -/
def record (name : String) (fields : List Field) : String :=
  name ++ " \x7b " ++ ", ".intercalate (Field.list fields) ++ " \x7d"

/-- A record that has more than it shows. -/
def partialRecord (name : String) (fields : List Field) : String :=
  name ++ " \x7b " ++ ", ".intercalate (Field.list fields ++ [".."]) ++ " \x7d"

/-- What stands in place of a secret. -/
def redacted : String := quoted "<redacted>"

end TlsHandshake.Diagnostic
