import QueryWatch.HostName.Direction
import QueryWatch.HostName.Joining
import QueryWatch.HostName.Mapping
import QueryWatch.HostName.Punycode
import QueryWatch.Text.Composition

namespace QueryWatch.HostName

/-- What no host name may hold: controls, blanks, and what ends or marks parts of an address. -/
def isForbidden (c : Char) : Bool :=
  c.toNat ≤ 32 || c.toNat = 127 || "%#/:<>?@[\\]^|".toList.contains c

def encodedMark : List Char := "xn--".toList

def greatestLabel : Nat := 1000
def greatestEncoded : Nat := 2000

def isAscii (s : List Char) : Bool :=
  s.all (·.toNat < 128)

/-- Whether a label is one: it does not begin with a mark, and its joiners stand where they may. -/
def isLabel (s : List Char) : Bool :=
  !s.head?.any Text.isMark && Joining.isSound [] s

/-- The characters that a label stands for, if they are in the form that they would be brought into. -/
def decoded? (s : List Char) : Option (List Char) := do
  let label ← Punycode.decode? s
  let isFinal := ¬isAscii label ∧ label.all isPlain ∧ Text.compose label = label
  if s.length ≤ greatestEncoded ∧ isFinal then some label
  else none

def label? (s : List Char) : Option (List Char) := do
  let label ←
    if encodedMark.isPrefixOf s then decoded? (s.drop encodedMark.length)
    else if isAscii s ∨ s.length ≤ greatestLabel then some s
    else none
  if isLabel label then some label else none

/-- A name in its small and composed form, with each label in the characters that it stands for. -/
def ofText? (s : List Char) : Option (List Char) := do
  let mapped := Text.compose (← s.mapM map?).flatten
  if mapped.any isForbidden then none
  else
    let labels ← (mapped.splitOn '.').mapM label?
    if isReadable labels then some (['.'].intercalate labels) else none

end QueryWatch.HostName
