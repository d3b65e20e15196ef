import QueryWatch.Text.Digits
import QueryWatch.Text.Visible

namespace QueryWatch.Text.Quoted

open Digits (hexadecimal)

/-- The quote, the backslash and the controls below the blank are escaped, the rest stands as it is. -/
def escape (c : Char) : List Char :=
  if c = '"' then ['\\', '"']
  else if c = '\\' then ['\\', '\\']
  else if c = '\x08' then ['\\', 'b']
  else if c = '\x0c' then ['\\', 'f']
  else if c = '\n' then ['\\', 'n']
  else if c = '\r' then ['\\', 'r']
  else if c = '\t' then ['\\', 't']
  else if c.toNat < 32 then ['\\', 'u'] ++ hexadecimal 4 c.toNat
  else [c]

def encode (s : List Char) : List Char :=
  '"' :: (s.flatMap escape ++ ['"'])

end QueryWatch.Text.Quoted

namespace QueryWatch.Text.Literal

open Digits (shortHexadecimal)

def escape (c : Char) : List Char :=
  if c = '"' then ['\\', '"']
  else if c = '\\' then ['\\', '\\']
  else if c = '\n' then ['\\', 'n']
  else if c = '\r' then ['\\', 'r']
  else if c = '\t' then ['\\', 't']
  else if c.toNat = 0 then ['\\', '0']
  else if isVisible c then [c]
  else '\\' :: 'u' :: '\x7b' :: (shortHexadecimal c.toNat ++ ['\x7d'])

def quote (s : String) : String :=
  String.ofList ('"' :: (s.toList.flatMap escape ++ ['"']))

end QueryWatch.Text.Literal
