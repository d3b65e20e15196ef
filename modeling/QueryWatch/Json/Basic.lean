import QueryWatch.KeyMap
import QueryWatch.Binary.Word

namespace QueryWatch

/-- Whole numbers and fractions are told apart, and the members of an object stand in key order. -/
inductive Json
  | null
  | bool (b : Bool)
  | int (n : Int)
  | float (x : Binary64)
  | string (s : String)
  | array (items : List Json)
  | object (members : List (String × Json))
  deriving Inhabited

namespace Json

/-- An object of the given members; of two with one name the later one stays. -/
def ofMembers (members : List (String × Json)) : Json :=
  .object (KeyMap.ofList members).entries

def get? (j : Json) (name : String) : Option Json :=
  match j with
  | .object members => members.lookup name
  | _ => none

mutual

/-- The value with null in place of every number that is not finite. -/
def finite : Json → Json
  | .float x => if x.isFinite then .float x else .null
  | .array items => .array (finiteItems items)
  | .object members => .object (finiteMembers members)
  | j => j

def finiteItems : List Json → List Json
  | [] => []
  | j :: rest => finite j :: finiteItems rest

def finiteMembers : List (String × Json) → List (String × Json)
  | [] => []
  | (name, j) :: rest => (name, finite j) :: finiteMembers rest

end

end Json

end QueryWatch
