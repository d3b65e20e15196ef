namespace QueryWatch.Text

def blankRanges : List (Nat × Nat) :=
  [(0x9, 0xd), (0x20, 0x20), (0x85, 0x85), (0xa0, 0xa0), (0x1680, 0x1680), (0x2000, 0x200a),
    (0x2028, 0x2029), (0x202f, 0x202f), (0x205f, 0x205f), (0x3000, 0x3000)]

def isBlank (c : Char) : Bool :=
  blankRanges.any fun r => r.1 ≤ c.toNat && c.toNat ≤ r.2

def trim (s : List Char) : List Char :=
  ((s.dropWhile isBlank).reverse.dropWhile isBlank).reverse

def withoutReturn (s : List Char) : List Char :=
  if s.getLast? = some '\r' then s.dropLast else s

/-- The lines of a text, of which the first has been read up to some place. -/
def linesFrom (line : List Char) : List Char → List (List Char)
  | [] => if line = [] then [] else [line.reverse]
  | c :: r =>
    if c = '\n' then withoutReturn line.reverse :: linesFrom [] r else linesFrom (c :: line) r

/-- A line ends with its line feed, which a carriage return may precede; behind the last line feed there is
no line unless something stands there. -/
def lines (s : List Char) : List (List Char) :=
  linesFrom [] s

def byteLength : List Char → Nat
  | [] => 0
  | c :: r => c.utf8Size + byteLength r

/-- The text on both sides of a place, if the place is between two characters or at an end. -/
def splitAtByte? : Nat → List Char → Option (List Char × List Char)
  | 0, s => some ([], s)
  | _ + 1, [] => none
  | n + 1, c :: r =>
    if c.utf8Size ≤ n + 1 then
      (splitAtByte? (n + 1 - c.utf8Size) r).map fun (a, b) => (c :: a, b)
    else none

def slice? (first last : Nat) (s : List Char) : Option (List Char) := do
  let (_, behind) ← splitAtByte? first s
  let (piece, _) ← splitAtByte? (last - first) behind
  return piece

end QueryWatch.Text
