import CrossBrowser.Text.Lines

/-! Differences between two texts, line by line.

The lines that the texts have in common are found with a table of the lengths of common lines of
their beginnings. The texts are then told apart into segments that both have, that only the old one
has, and that only the new one has; `before` and `after` put either text together again. -/
namespace CrossBrowser.Text

/-! ### Common lines -/

/-- The rest of a row of the table. `above` is the row above from here on, `corner` the number above
and to the left, and `left` the one to the left. -/
def tableRow (line : String) (corner left : Nat) : List String → List Nat → List Nat
  | other :: others, up :: above =>
    let here := if line = other then corner + 1 else max left up
    here :: tableRow line up here others above
  | _, _ => []

/-- The rows of the table, given the row above them. -/
def tableRows (new : List String) (above : List Nat) : List String → List (List Nat)
  | [] => []
  | line :: rest =>
    let row := tableRow line 0 0 new above
    row :: tableRows new row rest

/-- The table: in row `i` and column `j` the length of the common lines of the old lines up to the
`i`-th and the new lines up to the `j`-th. -/
def table (old new : List String) : Array (Array Nat) :=
  ((tableRows new (new.map fun _ => 0) old).map List.toArray).toArray

/-- The number in a row and column; zero outside of the table. -/
def entryAt (t : Array (Array Nat)) (i j : Nat) : Nat := (t.getD i (Array.mkEmpty 0)).getD j 0

/-- Whether the walk goes on to the left rather than up. In the first column the number on the left
is the last one of the row above. -/
def goesLeft (t : Array (Array Nat)) (width i j : Nat) : Bool :=
  match i, j with
  | 0, _ => true
  | i + 1, 0 => entryAt t i 0 < entryAt t i (width - 1)
  | i + 1, j + 1 => entryAt t i (j + 1) < entryAt t (i + 1) j

/-- The common lines found on a walk through the table, from the last one to the first. `i` and `j`
are the numbers of old and new lines that are left. -/
def walk (t : Array (Array Nat)) (old new : Array String) : Nat → Nat → Nat → List String
  | fuel + 1, i + 1, j + 1 =>
    let line := old.getD i ""
    if line = new.getD j "" then line :: walk t old new fuel i j
    else if goesLeft t new.size i j then walk t old new fuel (i + 1) j
    else walk t old new fuel i (j + 1)
  | _, _, _ => []

/-- The lines that two lists of lines have in common. -/
def commonLines (old new : List String) : List String :=
  (walk (table old new) old.toArray new.toArray (old.length + new.length) old.length
    new.length).reverse

/-! ### Segments -/

/-- Lines that belong together. -/
inductive Segment where
  /-- Lines of both texts. -/
  | same (lines : List String)
  /-- Lines of the old text. -/
  | removed (lines : List String)
  /-- Lines of the new text. -/
  | added (lines : List String)
  deriving DecidableEq

/-- A segment of these lines, if there are any. -/
def segment (kind : List String → Segment) (lines : List String) : List Segment :=
  if lines = [] then [] else [kind lines]

/-- The lines at the front of three lists as far as they agree. -/
def agreeing : List String → List String → List String → List String
  | x :: xs, y :: ys, z :: zs => if x = y ∧ x = z then x :: agreeing xs ys zs else []
  | _, _, _ => []

/-- The lines at the front up to the first one that is also the first of `common`. -/
def missing (common lines : List String) : List String :=
  lines.takeWhile fun line => common.head? ≠ some line

/-- The segments of an old and a new list of lines that have these lines in common. -/
def segments : Nat → List String → List String → List String → List Segment
  | 0, _, _, _ => []
  | fuel + 1, old, new, common =>
    if old = [] ∧ new = [] then []
    else
      let both := agreeing old new common
      let old := old.drop both.length
      let new := new.drop both.length
      let common := common.drop both.length
      let gone := missing common old
      let come := missing common new
      segment .same both ++ segment .removed gone ++ segment .added come ++
        segments fuel (old.drop gone.length) (new.drop come.length) common

/-- The lines of a text for the segments: an empty text has none. -/
def linesToMerge (s : String) : List String := if s = "" then [] else pieces s

/-- The segments that tell two texts apart. Common lines that are nothing but one empty line are as
good as none. -/
def difference (old new : String) : List Segment :=
  let common := commonLines (pieces old) (pieces new)
  let common := if common = [""] then [] else common
  let old := linesToMerge old
  let new := linesToMerge new
  segments (old.length + new.length + 1) old new common

/-- The lines of the old text. -/
def before (segments : List Segment) : List String :=
  segments.flatMap fun
    | .same lines | .removed lines => lines
    | .added _ => []

/-- The lines of the new text. -/
def after (segments : List Segment) : List String :=
  segments.flatMap fun
    | .same lines | .added lines => lines
    | .removed _ => []

/-! ### Printing -/

/-- The lines of a segment as they are shown, each with a mark in front. A segment is shown as a
text of its own, so an empty line at its end does not show. -/
def shown : Segment → List String
  | .same lines => marked " " lines
  | .removed lines => marked "-" lines
  | .added lines => marked "+" lines
where
  marked (mark : String) (segment : List String) : List String :=
    (lines ("\n".intercalate segment)).map (mark ++ ·)

/-- The lines that show a difference. -/
def showDifference (old new : String) : List String := (difference old new).flatMap shown

end CrossBrowser.Text
