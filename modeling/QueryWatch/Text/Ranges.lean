namespace QueryWatch.Text

def seekBetween {α : Type} (range : α → Nat × Nat) (table : Array α) (n : Nat) :
    (fuel low high : Nat) → Option α
  | 0, _, _ => none
  | fuel + 1, low, high =>
    if high ≤ low then none
    else
      let middle := (low + high) / 2
      match table[middle]? with
      | none => none
      | some entry =>
        if n < (range entry).1 then seekBetween range table n fuel low middle
        else if (range entry).2 < n then seekBetween range table n fuel (middle + 1) high
        else some entry

def seek? {α : Type} (range : α → Nat × Nat) (table : Array α) (n : Nat) : Option α :=
  seekBetween range table n (table.size + 1) 0 table.size

def inRanges (table : Array (Nat × Nat)) (n : Nat) : Bool :=
  (seek? id table n).isSome

end QueryWatch.Text
