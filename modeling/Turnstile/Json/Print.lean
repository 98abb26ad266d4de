import Turnstile.Json.Basic

/-! The compact text of a value. -/
namespace Turnstile.Json

def hexDigit (n : Nat) : Char := if n < 10 then Char.ofNat (48 + n) else Char.ofNat (87 + n)

/-- Quotes, backslashes and controls are escaped; all else stands for itself. -/
def escapeChar (c : Char) : List Char :=
  match c with
  | '"' => ['\\', '"']
  | '\\' => ['\\', '\\']
  | '\n' => ['\\', 'n']
  | '\r' => ['\\', 'r']
  | '\t' => ['\\', 't']
  | '\x08' => ['\\', 'b']
  | '\x0c' => ['\\', 'f']
  | c =>
    if c.toNat < 32 then ['\\', 'u', '0', '0', hexDigit (c.toNat / 16), hexDigit (c.toNat % 16)]
    else [c]

def quote (s : String) : List Char := '"' :: (s.toList.flatMap escapeChar ++ ['"'])

def renderNumber : Number → List Char
  | .whole n => (toString n.val).toList
  | .float x => (x.value.render .interchange).toList

mutual
def render : Json → List Char
  | null => "null".toList
  | bool true => "true".toList
  | bool false => "false".toList
  | number n => renderNumber n
  | string s => quote s
  | array items => '[' :: (renderItems items ++ [']'])
  | object members => '\x7b' :: (renderMembers members ++ ['\x7d'])

def renderItems : List Json → List Char
  | [] => []
  | [v] => render v
  | v :: r => render v ++ ',' :: renderItems r

def renderMembers : List (String × Json) → List Char
  | [] => []
  | [(n, v)] => quote n ++ ':' :: render v
  | (n, v) :: r => quote n ++ ':' :: render v ++ ',' :: renderMembers r
end

def text (v : Json) : String := .ofList v.render

end Turnstile.Json
