import QueryWatch.Config.Malformed

namespace QueryWatch.Config

abbrev Reader (α : Type) := Json → Except Malformed α

inductive Dialect
  | json
  | toml
  deriving DecidableEq

variable {α σ : Type}

def typeFault (j : Json) (expected : Expected) : Except Malformed α :=
  .error (.type (.ofJson j) expected)

def readString : Reader String
  | .string s => .ok s
  | j => typeFault j .string

def readBool : Reader Bool
  | .bool b => .ok b
  | j => typeFault j .boolean

def readNat (bound : Nat) (type : String) : Reader Nat
  | .int n =>
    if 0 ≤ n ∧ n < bound then .ok n.toNat else .error (.value (.integer n) (.number type))
  | j => typeFault j (.number type)

def readUInt16 : Reader UInt16 := fun j => (readNat UInt16.size "u16" j).map Nat.toUInt16

def readUInt32 : Reader UInt32 := fun j => (readNat UInt32.size "u32" j).map Nat.toUInt32

def readUInt64 : Reader UInt64 := fun j => (readNat UInt64.size "u64" j).map Nat.toUInt64

def readSize : Reader UInt64 := fun j => (readNat UInt64.size "usize" j).map Nat.toUInt64

def readInt64 : Reader Int64
  | .int n =>
    if Int64.minValue.toInt ≤ n ∧ n ≤ Int64.maxValue.toInt then .ok (Int64.ofInt n)
    else .error (.value (.integer n) (.number "i64"))
  | j => typeFault j (.number "i64")

/-- A whole number is rounded once; a fraction was rounded to a double before. -/
def readBinary32 : Reader Binary32
  | .int n => .ok (.ofRatio (n < 0) n.natAbs 1)
  | .float x => .ok (.ofBinary64 x)
  | j => typeFault j (.number "f32")

def readOption (read : Reader α) : Reader (Option α)
  | .null => .ok none
  | j => (read j).map some

def readList (read : Reader α) : Reader (List α)
  | .array items => items.mapM read
  | j => typeFault j .sequence

/-- An object as a map. Only a TOML document can hold numbers that are not finite; they become null. -/
def readMap (d : Dialect) : Reader (KeyMap Json)
  | .object members =>
    .ok (.ofList (match d with
      | .json => members
      | .toml => Json.finiteMembers members))
  | j => typeFault j .map

/-- One of some names: a text, or an object whose only member has the name and nothing in it. -/
def readChoice (choices : List (String × α)) : Reader α
  | .string s => pick s
  | .object [(name, j)] => do
    let a ← pick name
    match j with
    | .null => return a
    | j => typeFault j .unit
  | .object _ => .error (.value .map .singleKey)
  | j => typeFault j .stringOrMap
where
  pick (name : String) : Except Malformed α :=
    match choices.lookup name with
    | some a => .ok a
    | none => .error (.variant name (choices.map Prod.fst))

/-- One field of a record: its names, whether it has to be given, and what reading it does to the
record. -/
structure RecordField (σ : Type) where
  name : String
  otherNames : List String := []
  required : Bool := false
  read : Json → σ → Except Malformed σ

def RecordField.of (name : String) (read : Reader α) (set : α → σ → σ) : RecordField σ where
  name := name
  read j s := (read j).map (set · s)

def RecordField.mandatory (f : RecordField σ) : RecordField σ :=
  { f with required := true }

def RecordField.answersTo (f : RecordField σ) (key : String) : Bool :=
  f.name = key || f.otherNames.contains key

/-- A record is read from an object, whose members are visited in their order and may be unknown, or from a
list of its fields in the order of their declaration. The first fault that is met is the one that is told;
fields that are missing are looked for after all members were read. -/
structure Record (σ : Type) where
  name : String
  fields : List (RecordField σ)
  start : σ

namespace Record

def visit (r : Record σ) (state : List String × σ) (member : String × Json) :
    Except Malformed (List String × σ) :=
  match r.fields.find? (·.answersTo member.1) with
  | none => .ok state
  | some f =>
    if state.1.contains f.name then .error (.duplicate f.name)
    else (f.read member.2 state.2).map (f.name :: state.1, ·)

def readMembers (r : Record σ) (members : List (String × Json)) : Except Malformed σ := do
  let (seen, s) ← members.foldlM r.visit ([], r.start)
  match r.fields.find? (fun f => f.required && !seen.contains f.name) with
  | some f => .error (.missing f.name)
  | none => .ok s

def readItemsFrom (r : Record σ) (taken : Nat) :
    List (RecordField σ) → List Json → σ → Except Malformed (σ × List Json)
  | [], items, s => .ok (s, items)
  | f :: fs, [], s =>
    if f.required then .error (.short taken r.name r.fields.length)
    else r.readItemsFrom taken fs [] s
  | f :: fs, j :: items, s => do
    let s ← f.read j s
    r.readItemsFrom (taken + 1) fs items s

/-- In a TOML document a list may go on behind the last field. -/
def readItems (r : Record σ) (d : Dialect) (items : List Json) : Except Malformed σ := do
  let (s, rest) ← r.readItemsFrom 0 r.fields items r.start
  if d = .toml ∨ rest.isEmpty then .ok s else .error (.long items.length)

def read (r : Record σ) (d : Dialect) : Reader σ
  | .object members => r.readMembers members
  | .array items => r.readItems d items
  | j => typeFault j (.record r.name)

def readOptions (r : Record σ) (options : KeyMap Json) : Except Malformed σ :=
  r.readMembers options.entries

end Record

end QueryWatch.Config
