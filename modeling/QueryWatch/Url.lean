import QueryWatch.HostName.Basic
import QueryWatch.Text.Digits

namespace QueryWatch.Url

open Text.Digits (isDecimal)

inductive Fault
  | relative
  | emptyHost
  | port
  | domain
  | character
  | ipv4
  | ipv6
  deriving DecidableEq

def Fault.message : Fault → String
  | .relative => "relative URL without a base"
  | .emptyHost => "empty host"
  | .port => "invalid port number"
  | .domain => "invalid international domain name"
  | .character => "invalid domain character"
  | .ipv4 => "invalid IPv4 address"
  | .ipv6 => "invalid IPv6 address"

/-- A number in base ten, or in base sixteen or eight when its beginning says so. -/
def number? (s : List Char) : Option Nat :=
  match s with
  | [] => none
  | '0' :: x :: r =>
    if x = 'x' ∨ x = 'X' then Text.Digits.accumulate 16 0 r
    else Text.Digits.natural? 8 (x :: r)
  | s => Text.Digits.natural? 10 s

def parts (s : List Char) : List (List Char) :=
  let ps := s.splitOn '.'
  if ps.length > 1 ∧ ps.getLast? = some [] then ps.dropLast else ps

/-- A text whose last part is a number has to be an address of numbers. -/
def endsInNumber (s : List Char) : Bool :=
  match (parts s).getLast? with
  | none => false
  | some p => (p != [] && p.all isDecimal) ||
    match p with
    | '0' :: x :: r => (x = 'x' || x = 'X') && (Text.Digits.accumulate 16 0 r).isSome
    | _ => false

/-- Up to four numbers, each of one byte save the last, which fills the bytes that are left. -/
def isIpv4 (s : List Char) : Bool :=
  let ps := parts s
  match ps.mapM number? with
  | none => false
  | some ns =>
    ns.length ≤ 4 && ns.dropLast.all (· < 256) &&
      (ns.getLast?.getD 0) < Nat.pow 256 (5 - ns.length)

def isDotted (s : List Char) : Bool :=
  let ps := s.splitOn '.'
  ps.length = 4 && ps.all fun p =>
    p.length ≤ 3 && (p.length = 1 || p.head? ≠ some '0') &&
      ((Text.Digits.natural? 10 p).any (· < 256))

def isGroup (p : List Char) : Bool :=
  p.length ≤ 4 && (Text.Digits.natural? 16 p).isSome

def groups? (s : List Char) (tail : Bool) : Option Nat :=
  if s = [] then some 0
  else
    let ps := s.splitOn ':'
    if ps.all isGroup then some ps.length
    else if tail ∧ ps.dropLast.all isGroup ∧ (ps.getLast?.any isDotted) then some (ps.length + 1)
    else none

def gap? : List Char → Option (List Char × List Char)
  | ':' :: ':' :: r => some ([], r)
  | c :: r => (gap? r).map fun (a, b) => (c :: a, b)
  | [] => none

/-- Eight groups, or fewer with one gap. -/
def isIpv6 (s : List Char) : Bool :=
  match gap? s with
  | some (a, b) =>
    match groups? a false, groups? b true with
    | some m, some n => m + n ≤ 7
    | _, _ => false
  | none => groups? s true = some 8

def percentDecode : List Char → List UInt8
  | '%' :: a :: b :: r =>
    match Text.Digits.value? 16 a, Text.Digits.value? 16 b with
    | some x, some y => (x * 16 + y).toUInt8 :: percentDecode r
    | _, _ => '%'.toNat.toUInt8 :: percentDecode (a :: b :: r)
  | c :: r => (String.ofList [c]).toByteArray.data.toList ++ percentDecode r
  | [] => []
termination_by s => s.length

def checkHost (s : List Char) : Except Fault Unit :=
  match s with
  | '[' :: r =>
    if r.getLast? = some ']' ∧ isIpv6 r.dropLast then .ok () else .error .ipv6
  | s =>
    match (String.fromUTF8? ⟨(percentDecode s).toArray⟩).bind (HostName.ofText? ·.toList) with
    | none => .error .domain
    | some [] => .error .emptyHost
    | some name => if endsInNumber name ∧ ¬isIpv4 name then .error .ipv4 else .ok ()

def opaqueForbidden : List Char :=
  "\x00\t\n\r #/:<>?@[\\]^|".toList

def checkOpaqueHost (s : List Char) : Except Fault Unit :=
  match s with
  | '[' :: r =>
    if r.getLast? = some ']' ∧ isIpv6 r.dropLast then .ok () else .error .ipv6
  | s => if s.any opaqueForbidden.contains then .error .character else .ok ()

def webSchemes : List String :=
  ["http", "https", "ws", "wss", "ftp"]

def endsAuthority (web : Bool) (c : Char) : Bool :=
  c = '/' || c = '?' || c = '#' || (web && c = '\\')

def splitHost : (within : Bool) → List Char → List Char × List Char
  | _, [] => ([], [])
  | within, c :: r =>
    if c = ':' ∧ ¬within then ([], c :: r)
    else
      let within := if c = '[' then true else if c = ']' then false else within
      let (host, rest) := splitHost within r
      (c :: host, rest)

/-- A port ends at a backslash, too, whatever the scheme. -/
def checkPort (s : List Char) : Except Fault Unit :=
  match s with
  | ':' :: r =>
    let digits := r.takeWhile (· ≠ '\\')
    if digits = [] ∨ (Text.Digits.natural? 10 digits).any (· < 65536) then .ok ()
    else .error .port
  | _ => .ok ()

/-- Who asks, the host and the port, in front of the path. Who asks may be left out before its sign, but not
the host behind it; a colon alone tells nobody. -/
def checkAuthority (web : Bool) (s : List Char) : Except Fault Unit := do
  let authority := s.takeWhile (!endsAuthority web ·)
  let behind := (authority.reverse.takeWhile (· ≠ '@')).reverse
  let asking := (authority.reverse.dropWhile (· ≠ '@')).reverse.dropLast
  if authority.contains '@' ∧ asking = [] ∧ behind = [] then .error .emptyHost
  let (host, port) := splitHost false behind
  if web then
    if host = [] then .error .emptyHost
    checkHost host
  else
    checkOpaqueHost host
    if host = [] ∧ port ≠ [] then .error .emptyHost
  checkPort port
  if host = [] ∧ asking ≠ [] ∧ asking ≠ [':'] then .error .emptyHost

def isDrive (s : List Char) : Bool :=
  match s with
  | [letter, c] => letter.isAlpha && (c = ':' || c = '|')
  | _ => false

def checkFileHost (s : List Char) : Except Fault Unit :=
  let host := s.takeWhile (!endsAuthority true ·)
  if host = [] ∨ isDrive host then .ok () else checkHost host

/-- What is behind the two slashes that a text begins with; with `web` backslashes count as slashes. -/
def behindSlashes? (web : Bool) (s : List Char) : Option (List Char) :=
  let isSlash (c : Char) : Bool := c = '/' || (web && c = '\\')
  match s with
  | a :: b :: r => if isSlash a ∧ isSlash b then some r else none
  | _ => none

def isSchemeChar (c : Char) : Bool :=
  c.isAlphanum || c = '+' || c = '-' || c = '.'

def scheme? (s : List Char) : Option (String × List Char) :=
  match s with
  | c :: _ =>
    if c.isAlpha then
      match s.dropWhile isSchemeChar with
      | ':' :: r => some (String.ofList ((s.takeWhile isSchemeChar).map Char.toLower), r)
      | _ => none
    else none
  | [] => none

/-- Controls and blanks around an address do not count, nor do tabs and line ends within. -/
def clean (s : List Char) : List Char :=
  let outer (c : Char) : Bool := c.toNat ≤ 32
  (((s.dropWhile outer).reverse.dropWhile outer).reverse).filter
    fun c => c ≠ '\t' && c ≠ '\n' && c ≠ '\r'

/-- The schemes of the web have to name a host; other schemes may do without. -/
def check (s : String) : Except Fault Unit :=
  match scheme? (clean s.toList) with
  | none => .error .relative
  | some (scheme, r) =>
    if webSchemes.contains scheme then
      checkAuthority true (r.dropWhile fun c => c = '/' || c = '\\')
    else
      let file := scheme = "file"
      match behindSlashes? file r with
      | some r => if file then checkFileHost r else checkAuthority false r
      | none => .ok ()

end QueryWatch.Url
