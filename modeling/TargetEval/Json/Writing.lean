import TargetEval.Json.Basic

set_option autoImplicit false

namespace TargetEval.Json

def hexDigit (n : Nat) : Char := Nat.digitChar n

def escaped (c : Char) : List Char :=
  if c = '"' then ['\\', '"']
  else if c = '\\' then ['\\', '\\']
  else if c = '\x08' then ['\\', 'b']
  else if c = '\t' then ['\\', 't']
  else if c = '\n' then ['\\', 'n']
  else if c = '\x0c' then ['\\', 'f']
  else if c = '\r' then ['\\', 'r']
  else if c.toNat < 0x20 then ['\\', 'u', '0', '0', hexDigit (c.toNat / 16), hexDigit (c.toNat % 16)]
  else [c]

def stringChars (s : String) : List Char := '"' :: s.toList.flatMap escaped ++ ['"']

inductive Style where
  | compact
  | indented
deriving DecidableEq, Repr

namespace Style

def lineBreak (style : Style) (level : Nat) : List Char :=
  match style with
  | compact => []
  | indented => '\n' :: List.replicate (2 * level) ' '

def colon : Style → List Char
  | compact => [':']
  | indented => [':', ' ']

end Style

mutual

def chars (style : Style) (level : Nat) : Json → List Char
  | .null => ['n', 'u', 'l', 'l']
  | .boolean true => ['t', 'r', 'u', 'e']
  | .boolean false => ['f', 'a', 'l', 's', 'e']
  | .number n => n.text
  | .string text => stringChars (text.getD "")
  | .array [] => ['[', ']']
  | .array (first :: rest) =>
      '[' :: style.lineBreak (level + 1) ++ chars style (level + 1) first
        ++ itemChars style (level + 1) rest ++ style.lineBreak level ++ [']']
  | .object [] => ['{', '}']
  | .object ((name, first) :: rest) =>
      '{' :: style.lineBreak (level + 1) ++ stringChars (name.getD "") ++ style.colon
        ++ chars style (level + 1) first ++ memberChars style (level + 1) rest
        ++ style.lineBreak level ++ ['}']

def itemChars (style : Style) (level : Nat) : List Json → List Char
  | [] => []
  | item :: rest =>
      ',' :: style.lineBreak level ++ chars style level item ++ itemChars style level rest

def memberChars (style : Style) (level : Nat) : List (Option String × Json) → List Char
  | [] => []
  | (name, item) :: rest =>
      ',' :: style.lineBreak level ++ stringChars (name.getD "") ++ style.colon
        ++ chars style level item ++ memberChars style level rest

end

def compactText (json : Json) : String := String.ofList (chars .compact 0 json)

def indentedText (json : Json) : String := String.ofList (chars .indented 0 json)

end TargetEval.Json
