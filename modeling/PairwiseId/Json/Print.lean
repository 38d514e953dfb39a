import PairwiseId.Json.Basic
import PairwiseId.Text.Bytes

/- Writes JSON texts: compact on one line, or indented by two spaces a level. -/
namespace PairwiseId.Json

set_option autoImplicit false

-- Quotes, backslashes and control characters are escaped, nothing else is.
def escape (c : Char) : List Char :=
  match c with
  | '"' => ['\\', '"']
  | '\\' => ['\\', '\\']
  | '\n' => ['\\', 'n']
  | '\t' => ['\\', 't']
  | _ =>
    if c = '\x0d' then ['\\', 'r']
    else if c = '\x08' then ['\\', 'b']
    else if c = '\x0c' then ['\\', 'f']
    else if c < ' ' then
      ['\\', 'u', '0', '0', Text.hexDigit (c.toNat / 16), Text.hexDigit (c.toNat % 16)]
    else [c]

def quote (s : String) : String := String.ofList ('"' :: s.toList.flatMap escape ++ ['"'])

def opening : String := "\x7b"

def closing : String := "\x7d"

mutual
def compact : Json → String
  | null => "null"
  | bool b => if b then "true" else "false"
  | int n => toString n
  | decimal text => text
  | str s => quote s
  | arr items => "[" ++ compactItems items ++ "]"
  | obj fields => opening ++ compactFields fields ++ closing

def compactItems : List Json → String
  | [] => ""
  | [item] => compact item
  | item :: rest => compact item ++ "," ++ compactItems rest

def compactFields : List (String × Json) → String
  | [] => ""
  | [(key, value)] => quote key ++ ":" ++ compact value
  | (key, value) :: rest => quote key ++ ":" ++ compact value ++ "," ++ compactFields rest
end

def indentation (level : Nat) : String := String.ofList (List.replicate (2 * level) ' ')

mutual
def indented (level : Nat) : Json → String
  | arr [] => "[]"
  | obj [] => opening ++ closing
  | arr (item :: rest) =>
    "[\n" ++ indentation (level + 1) ++ indented (level + 1) item ++ indentedItems level rest ++
      "\n" ++ indentation level ++ "]"
  | obj ((key, value) :: rest) =>
    opening ++ "\n" ++ indentation (level + 1) ++ quote key ++ ": " ++
      indented (level + 1) value ++ indentedFields level rest ++
      "\n" ++ indentation level ++ closing
  | other => compact other

def indentedItems (level : Nat) : List Json → String
  | [] => ""
  | item :: rest =>
    ",\n" ++ indentation (level + 1) ++ indented (level + 1) item ++ indentedItems level rest

def indentedFields (level : Nat) : List (String × Json) → String
  | [] => ""
  | (key, value) :: rest =>
    ",\n" ++ indentation (level + 1) ++ quote key ++ ": " ++ indented (level + 1) value ++
      indentedFields level rest
end

def pretty (j : Json) : String := indented 0 j

end PairwiseId.Json
