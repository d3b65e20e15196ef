import QueryWatch.Json.Basic

namespace QueryWatch.Toml

/-- A table is defined once, by a header or by dotted keys; a header may still open a table that so far was
only passed through, and a dotted key may still enter a table that dotted keys have made. -/
inductive Item
  | value (j : Json)
  /-- A table. It is implied until a header of its own opens it, and dotted when dotted keys made it. -/
  | table (implied dotted : Bool) (members : List (String × Item))
  | tables (elements : List (List (String × Item)))

abbrev Members := List (String × Item)

namespace Item

mutual

def document : Item → Json
  | .value j => j
  | .table _ _ members => .ofMembers (memberDocuments members)
  | .tables elements => .array (elementDocuments elements)

def memberDocuments : List (String × Item) → List (String × Json)
  | [] => []
  | (key, item) :: rest => (key, document item) :: memberDocuments rest

def elementDocuments : List (List (String × Item)) → List Json
  | [] => []
  | members :: rest => .ofMembers (memberDocuments members) :: elementDocuments rest

end

end Item

namespace Members

variable {α : Type}

def change (key : String) (f : Option Item → Option (Item × α)) : Members → Option (Members × α)
  | [] => (f none).map fun (item, a) => ([(key, item)], a)
  | (k, item) :: rest =>
    if k = key then (f (some item)).map fun (item, a) => ((key, item) :: rest, a)
    else (change key f rest).map fun (rest, a) => ((k, item) :: rest, a)

/-- Acts on the table at the end of a path. Tables on the way that are not there are made; those that are
there are entered if the path may: one of dotted keys enters implied tables only, and of a list of tables
the last is entered. -/
def within (dotted : Bool) (act : (isDotted : Bool) → Members → Option (Members × α)) :
    (path : List String) → (isDotted : Bool) → Members → Option (Members × α)
  | [], isDotted, ms => act isDotted ms
  | key :: path, _, ms =>
    ms.change key fun
      | none => (within dotted act path dotted []).map fun (ms, a) => (.table true dotted ms, a)
      | some (.value _) => none
      | some (.table implied d ms) =>
        if dotted && !implied then none
        else (within dotted act path d ms).map fun (ms, a) => (.table implied d ms, a)
      | some (.tables elements) =>
        match elements.getLast? with
        | none => none
        | some ms =>
          (within dotted act path false ms).map fun (ms, a) =>
            (.tables (elements.dropLast ++ [ms]), a)

/-- Puts a value under a key of keys. The last table on the way is one that dotted keys made, or, when
there is no way, one that they did not make. -/
def put (path : List String) (key : String) (j : Json) (ms : Members) : Option Members :=
  (within true (fun isDotted ms =>
    if isDotted = path.isEmpty ∨ (ms.lookup key).isSome then none
    else some (ms ++ [(key, .value j)], ())) path false ms).map Prod.fst

end Members

/-- A document in the making: what has been closed, and the table that is open with the path that its
header gave it. -/
structure Draft where
  closed : Members := []
  current : Members := []
  path : List String := []
  listed : Bool := false

namespace Draft

def close (d : Draft) : Option Members :=
  match d.path.getLast? with
  | none => some d.current
  | some key =>
    (Members.within false (fun _ ms =>
      ms.change key fun
        | none =>
          some (if d.listed then .tables [d.current] else .table false false d.current, ())
        | some (.tables elements) =>
          if d.listed then some (.tables (elements ++ [d.current]), ()) else none
        | some _ => none) d.path.dropLast false d.closed).map Prod.fst

def openTable (d : Draft) (path : List String) : Option Draft := do
  let root ← d.close
  let key ← path.getLast?
  let (closed, current) ← Members.within false (fun _ ms =>
    match ms.lookup key with
    | none => some (ms, [])
    | some (.table true false members) => some (ms.filter (·.1 ≠ key), members)
    | some _ => none) path.dropLast false root
  return ⟨closed, current, path, false⟩

def openElement (d : Draft) (path : List String) : Option Draft := do
  let root ← d.close
  let key ← path.getLast?
  let (closed, _) ← Members.within false (fun _ ms =>
    match ms.lookup key with
    | none => some (ms, ())
    | some (.tables _) => some (ms, ())
    | some _ => none) path.dropLast false root
  return ⟨closed, [], path, true⟩

def put (d : Draft) (path : List String) (key : String) (j : Json) : Option Draft :=
  (d.current.put path key j).map fun ms => { d with current := ms }

def document (d : Draft) : Option Json :=
  d.close.map fun ms => Item.document (.table false false ms)

end Draft

end QueryWatch.Toml
