/-!
# Edit distance

The least number of single-character insertions, deletions and substitutions that turn one
text into another, computed row by row: after the characters of `a` read so far, the row
holds the distances to every initial part of `b`. `closest?` uses it to suggest a spelling.
-/

namespace SqlAlgebra.Text

/-- The rest of a row, given the entry to the `left`, the entry before it in the row above
(`diagonal`) and the remaining entries of the row above. -/
def distanceRow (c : Char) : List Char → Nat → Nat → List Nat → List Nat
  | b :: bs, left, diagonal, above :: rest =>
    let here := min (min (above + 1) (left + 1)) (diagonal + if c == b then 0 else 1)
    here :: distanceRow c bs here above rest
  | _, _, _, _ => []

/-- The row after one more character `c` of the first text. -/
def nextDistanceRow (c : Char) (bs : List Char) : List Nat → List Nat
  | [] => []
  | d :: rest => (d + 1) :: distanceRow c bs (d + 1) d rest

/-- The row after all of `cs`, starting from `row`. -/
def distanceRows (bs : List Char) (row : List Nat) (cs : List Char) : List Nat :=
  cs.foldl (fun row c => nextDistanceRow c bs row) row

/-- The edit distance of two texts. -/
def editDistance (a b : String) : Nat :=
  let bs := b.toList
  (distanceRows bs (List.range (bs.length + 1)) a.toList).getLastD 0

/-- Keeps the option that is nearer to the target, the earlier one on a tie, and none that
is more than three edits away. -/
def nearer (target : String) (best : Option (Nat × String)) (option : String) :
    Option (Nat × String) :=
  let d := editDistance target option
  if d ≤ 3 && best.all (fun b => d < b.1) then some (d, option) else best

/-- The first option at the least distance from the target, if that is at most three. -/
def closest? (target : String) (options : List String) : Option String :=
  (options.foldl (nearer target) none).map Prod.snd

end SqlAlgebra.Text
