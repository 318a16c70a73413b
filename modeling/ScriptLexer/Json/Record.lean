import ScriptLexer.Diagnostic.Basic
import ScriptLexer.Token.Basic

/-!
# JSON text

JSON written without any space. A string escapes the quote, the backslash
and the control characters below U+0020 – five of them by a letter, the others
by `\u` and four lower-case hexadecimal digits – and leaves every other
character as it is. So the text of a value never holds a line break, and two
values never run into each other.

The records a scan produces are written as objects. Fields stand in a fixed
order, and the file and the span of a diagnostic are left out, name and all,
when there is none.
-/

namespace ScriptLexer

namespace Json

/-- The hexadecimal digit of a number below sixteen, in lower case. -/
def hexDigit (n : Nat) : Char :=
  Nat.digitChar n

/-- How a character is written inside a string. -/
def escapeChar (c : Char) : List Char :=
  if c = '"' then ['\\', '"']
  else if c = '\\' then ['\\', '\\']
  else if c = '\x08' then ['\\', 'b']
  else if c = '\t' then ['\\', 't']
  else if c = '\n' then ['\\', 'n']
  else if c = '\x0c' then ['\\', 'f']
  else if c = '\r' then ['\\', 'r']
  else if c.toNat < 0x20 then
    ['\\', 'u', '0', '0', hexDigit (c.toNat / 16), hexDigit (c.toNat % 16)]
  else [c]

/-- A string value. -/
def string (s : String) : String :=
  String.ofList ('"' :: s.toList.flatMap escapeChar ++ ['"'])

/-- A number value. -/
def number (n : Nat) : String :=
  String.ofList (Nat.toDigits 10 n)

/-- The texts of values, with a comma between any two. -/
def commaSeparated : List String → String
  | [] => ""
  | [v] => v
  | v :: w :: vs => v ++ "," ++ commaSeparated (w :: vs)

/-- An array of values. -/
def array (values : List String) : String :=
  "[" ++ commaSeparated values ++ "]"

/-- A field of an object: its name and the text of its value. -/
def field (name value : String) : String :=
  string name ++ ":" ++ value

/-- An object, from its fields. -/
def object (fields : List String) : String :=
  String.singleton '{' ++ commaSeparated fields ++ String.singleton '}'

end Json

/-! ## Tokens and diagnostics -/

/-- A token as JSON. -/
def Token.json (t : Token) : String :=
  Json.object
    [Json.field "kind" (Json.string t.kind.name),
      Json.field "literal" (Json.string t.literal)]

/-- A span as JSON. -/
def Span.json (s : Span) : String :=
  Json.object
    [Json.field "start" (Json.number s.start.toNat),
      Json.field "length" (Json.number s.length.toNat)]

/-- A diagnostic as JSON. -/
def Diagnostic.json (d : Diagnostic) : String :=
  Json.object
    ((d.file.map (fun f => Json.field "file" (Json.string f))).toList
      ++ (d.span.map (fun s => Json.field "span" s.json)).toList
      ++ [Json.field "message_text" (Json.string d.text),
        Json.field "code" (Json.number d.code.toNat),
        Json.field "category" (Json.string d.severity.name)])

end ScriptLexer
