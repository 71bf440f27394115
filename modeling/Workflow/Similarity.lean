import Workflow.Text.Search

/-!
# Similarity of names

The score of a pattern against a text rewards patterns whose characters occur in order, close
together and at the starts of words.  The best alignment is found row by row: a row belongs to
a character of the pattern, a column to a character of the text, and a cell holds the best
score of an alignment that ends there and of one that has left it behind.

A run of matches keeps the bonus of the word start at which it began.  These run bonuses outlive
a match: a search for the closest of several names scores them one after the other, and each
match begins with what the one before has left.
-/

namespace Workflow.Similarity

/-- The kinds of characters that matter for finding the starts of words. -/
inductive CharacterClass where
  | start
  | hardSeparator
  | softSeparator
  | digit
  | upper
  | other
  deriving DecidableEq, Repr

/-- The characters that separate words most strongly. -/
def hardSeparators : List Char := [' ', '/', '\\', '|', '(', ')', '[', ']', '{', '}']

/-- The other ASCII punctuation. -/
def softSeparators : List Char :=
  ['!', '"', '#', '$', '%', '&', '\'', '*', '+', ',', '-', '.', ':', ';', '<', '=', '>', '?',
   '@', '^', '_', '`', '~']

/-- The class of a character. -/
def classify (c : Char) : CharacterClass :=
  if c == '\x00' then .start
  else if hardSeparators.contains c then .hardSeparator
  else if softSeparators.contains c then .softSeparator
  else if '0' ≤ c && c ≤ '9' then .digit
  else if 'A' ≤ c && c ≤ 'Z' then .upper
  else .other

/-- The bonus for matching a character after a character of the given class. -/
def bonus (before : CharacterClass) (c : Char) : Int :=
  match before, classify c with
  | .start, _ | .hardSeparator, _ => 8
  | .softSeparator, _ => 7
  | .digit, .upper | .other, .upper => 6
  | _, _ => 0

/-- The characters of a text with their bonuses. -/
def withBonus : CharacterClass → List Char → List (Char × Int)
  | _, [] => []
  | before, c :: text => (c, bonus before c) :: withBonus (classify c) text

/-- The columns of a text; the bonus of the first one counts twice. -/
def columns (text : List Char) : List (Char × Int) :=
  match withBonus .start text with
  | [] => []
  | (c, points) :: rest => (c, 2 * points) :: rest

/-- Equality of two characters without regard to the case of ASCII letters. -/
def same (left right : Char) : Bool := Text.lowerAscii left == Text.lowerAscii right

/-- The columns at which a pattern is first found in order, counted from `column`; none if it
is not found. -/
def firstColumns : (column : Nat) → (text pattern : List Char) → Option (List Nat)
  | _, _, [] => some []
  | _, [], _ :: _ => none
  | column, c :: text, p :: pattern =>
      if same c p then (firstColumns (column + 1) text pattern).map (column :: ·)
      else firstColumns (column + 1) text (p :: pattern)

/-- A score below every real one. -/
def hopeless : Int := -32768

/-- The best score of an alignment that ends in this column, and of one that ended before. -/
structure Cell where
  matched : Int
  gap : Int

/-- The cell of no alignment. -/
def Cell.none : Cell := ⟨hopeless, hopeless⟩

/-- One row from a column on: its cells, and its run bonuses from the column before on.  `left`
and `run` are the cell before the column and its run bonus, `above` holds the cells of the row
before, shifted by one column, and `runs` the run bonuses the row has so far.  A match continues
the run that ends before it, at no less than its own bonus, and a column without a match ends
the run. -/
def rowFrom (p : Char) (first : Nat) :
    (column : Nat) → (left : Cell) → (run : Int) → List (Char × Int) → (above : List Cell) →
      (runs : List Int) → List Cell × List Int
  | column, left, run, (c, points) :: text, diagonal :: above, next :: runs =>
      if column < first then
        let rest := rowFrom p first (column + 1) .none next text above runs
        (.none :: rest.1, run :: rest.2)
      else
        let gap := max (left.matched - 4) (left.gap - 1)
        if same c p then
          let kept := max run (max points 4)
          let cell : Cell :=
            ⟨max (diagonal.matched + kept) (diagonal.gap + points) + (if c == p then 16 else 14),
              gap⟩
          let rest := rowFrom p first (column + 1) cell next text above runs
          (cell :: rest.1, kept :: rest.2)
        else
          let cell : Cell := ⟨hopeless, gap⟩
          let rest := rowFrom p first (column + 1) cell 0 text above runs
          (cell :: rest.1, run :: rest.2)
  | _, _, run, _, _, _ => ([], [run])

/-- The last row for a pattern, with the run bonuses of the row that would follow it and of the
row itself.  Rows take turns in two rows of run bonuses: `runs` for the next one, `others` for
the one after. -/
def lastRow (text : List (Char × Int)) :
    (pattern : List Char) → (firsts : List Nat) → (above : List Cell) →
      (runs others : List Int) → List Cell × List Int × List Int
  | p :: pattern, first :: firsts, above, run :: runs, others =>
      let row := rowFrom p first 1 .none run text above runs
      lastRow text pattern firsts (.none :: row.1) others row.2
  | _, _, above, runs, others => (above, runs, others)

/-- The run bonuses of both rows, one after the other, as a match left them.  Later matches of
the same search go on from them. -/
abbrev Runs := List Int

/-- The two rows of run bonuses with which a match begins: the first is cleared, and the second
takes what stands at its places, but for the place before the first match. -/
def Runs.rows (left : Runs) (width first : Nat) : List Int × List Int :=
  let second := ((left ++ List.replicate (2 * width) 0).drop width).take width
  (List.replicate width 0, second.set (first - 1) 0)

/-- The score of a pattern against a text; none if its characters do not occur in order. -/
def score (text pattern : List Char) : StateM Runs (Option Int) := fun left =>
  match pattern, firstColumns 1 text pattern with
  | [], _ => (some 0, left)
  | _, none | _, some [] => (none, left)
  | _, some (first :: firsts) =>
      let width := text.length + 1
      let start := List.replicate width (Cell.mk hopeless (-1))
      let begun := left.rows width first
      let (row, runs, others) :=
        lastRow (columns text) pattern (first :: firsts) start begun.2 begun.1
      (some (row.foldl (fun best cell => max best cell.matched) hopeless),
        if pattern.length % 2 = 0 then others ++ runs else runs ++ others)

/-- The larger of two scores, where there is one. -/
def better : Option Int → Option Int → Option Int
  | some left, some right => some (max left right)
  | left, none => left
  | none, right => right

/-- How close two names are: the better score of one against the other. -/
def closeness (candidate asked : String) : StateM Runs (Option Int) := do
  let forward ← score candidate.toList asked.toList
  let backward ← score asked.toList candidate.toList
  return better forward backward

/-- The best of the candidates with a score; the last of those with the same score. -/
def best (asked : String) :
    List String → Option (Int × String) → StateM Runs (Option (Int × String))
  | [], found => return found
  | candidate :: rest, found => do
      match ← closeness candidate asked, found with
      | some points, some (most, name) =>
          best asked rest (if most ≤ points then some (points, candidate) else some (most, name))
      | some points, none => best asked rest (some (points, candidate))
      | none, found => best asked rest found

/-- The candidate that was most likely meant: one that differs only in case, or else the
closest one. -/
def suggest (candidates : List String) (asked : String) : Option String :=
  match candidates.find? fun candidate => Text.sameIgnoringCase candidate asked with
  | some exact => some exact
  | none => (best asked candidates none [] : Id _).1.map Prod.snd

end Workflow.Similarity
