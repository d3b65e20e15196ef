import QueryWatch.Json.Basic
import QueryWatch.Decimal.Layout
import QueryWatch.Text.Quoted

namespace QueryWatch.Json

open Text (Digits.integer Quoted.encode)

def numberText (x : Binary64) : List Char :=
  if x.isFinite then Decimal.document.text x else "null".toList

mutual

def chars : Json → List Char
  | .null => "null".toList
  | .bool true => "true".toList
  | .bool false => "false".toList
  | .int n => Digits.integer n
  | .float x => numberText x
  | .string s => Quoted.encode s.toList
  | .array items => '[' :: (itemChars items ++ [']'])
  | .object members => '\x7b' :: (memberChars members ++ ['\x7d'])

def itemChars : List Json → List Char
  | [] => []
  | [j] => chars j
  | j :: rest => chars j ++ ',' :: itemChars rest

def memberChars : List (String × Json) → List Char
  | [] => []
  | [(name, j)] => Quoted.encode name.toList ++ ':' :: chars j
  | (name, j) :: rest => Quoted.encode name.toList ++ ':' :: (chars j ++ ',' :: memberChars rest)

end

def render (j : Json) : String :=
  String.ofList j.chars

end QueryWatch.Json
