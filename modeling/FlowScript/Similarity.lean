import FlowScript.Text.LowerCase

/-!
# Similar names

How far two texts are apart, and the name that someone most likely meant. The distance
counts single characters inserted, deleted or replaced, and is computed row by row: a
row holds the distances from what has been read of the first text to every front part
of the second.
-/

namespace FlowScript

/-! ### Distance -/

/-- The entries of the next row from the one above it: `above` starts with the entry
diagonally above the next one, and `left` is the entry before it. -/
def nextEntries (a : Char) (left : Nat) : List Char → List Nat → List Nat
  | b :: bs, diagonal :: up :: above =>
    let entry := min (up + 1) (min (left + 1) (diagonal + if a = b then 0 else 1))
    entry :: nextEntries a entry bs (up :: above)
  | _, _ => []

/-- The row behind a further character of the first text. -/
def nextRow (bs : List Char) (row : List Nat) (a : Char) : List Nat :=
  let start := row.headD 0 + 1
  start :: nextEntries a start bs row

/-- The number of single-character changes between two texts. -/
def editDistance (as bs : List Char) : Nat :=
  (as.foldl (nextRow bs) (List.range (bs.length + 1))).getLastD 0

/-! ### Suggestions -/

/-- The distance between two names when their case is ignored. -/
def nameDistance (a b : String) : Nat :=
  editDistance (Text.lowerCase a.toList) (Text.lowerCase b.toList)

/-- The greatest distance at which a name still counts as similar to a misspelt one: half
the misspelt name's size in bytes, and two more. -/
def similarityBound (name : String) : Nat := name.utf8ByteSize / 2 + 2

/-- The first of the candidates that are nearest to a name, with its distance. -/
def nearest? (name : String) : List String → Option (String × Nat)
  | [] => none
  | candidate :: rest =>
    let distance := nameDistance name candidate
    match nearest? name rest with
    | some (other, least) =>
      if least < distance then some (other, least) else some (candidate, distance)
    | none => some (candidate, distance)

/-- The first of the nearest candidates, if it is similar at all. -/
def similarName? (name : String) (candidates : List String) : Option String :=
  match nearest? name candidates with
  | some (candidate, distance) =>
    if distance ≤ similarityBound name then some candidate else none
  | none => none

end FlowScript
