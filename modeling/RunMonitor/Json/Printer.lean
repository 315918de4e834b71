import RunMonitor.Json.Basic
import RunMonitor.Text.Hex

namespace RunMonitor.Json

def escapeChar (c : Char) : List Char :=
  if c = '"' then ['\\', '"']
  else if c = '\\' then ['\\', '\\']
  else if c = '\n' then ['\\', 'n']
  else if c = '\r' then ['\\', 'r']
  else if c = '\t' then ['\\', 't']
  else if c = '\x08' then ['\\', 'b']
  else if c = '\x0c' then ['\\', 'f']
  else if c < ' ' then
    ['\\', 'u', '0', '0', Text.hexDigit (c.toNat / 16), Text.hexDigit (c.toNat % 16)]
  else [c]

def quotedChars (text : String) : List Char :=
  '"' :: text.toList.flatMap escapeChar ++ ['"']

mutual
def chars : Json → List Char
  | .null | .unreadable => ['n', 'u', 'l', 'l']
  | .bool true => ['t', 'r', 'u', 'e']
  | .bool false => ['f', 'a', 'l', 's', 'e']
  | .int value => (toString value).toList
  | .real literal => literal.toList
  | .str text => quotedChars text
  | .arr [] => ['[', ']']
  | .arr (item :: rest) => '[' :: item.chars ++ itemChars rest ++ [']']
  | .obj [] => ['\x7b', '\x7d']
  | .obj ((key, value) :: rest) =>
      '\x7b' :: quotedChars key ++ ':' :: value.chars ++ fieldChars rest ++ ['\x7d']

def itemChars : List Json → List Char
  | [] => []
  | item :: rest => ',' :: item.chars ++ itemChars rest

def fieldChars : List (String × Json) → List Char
  | [] => []
  | (key, value) :: rest => ',' :: quotedChars key ++ ':' :: value.chars ++ fieldChars rest
end

def text (json : Json) : String :=
  String.ofList json.chars

def bytes (json : Json) : ByteArray :=
  json.text.toByteArray

end RunMonitor.Json
