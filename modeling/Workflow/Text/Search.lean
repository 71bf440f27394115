/-!
# Searching and splitting

Substring search, splitting at a character, and comparison without regard to ASCII
case.  `splitFirst` is the one search function: it returns what stands before and
after the first occurrence, so that finding and cutting never disagree.
-/

namespace Workflow.Text

/-- What follows `pattern` if the text starts with it. -/
def stripStart : (pattern text : List Char) → Option (List Char)
  | [], text => some text
  | _ :: _, [] => none
  | p :: pattern, c :: text => if p = c then stripStart pattern text else none

theorem isSome_stripStart_iff {pattern text : List Char} :
    (stripStart pattern text).isSome = true ↔ pattern <+: text := by
  induction pattern generalizing text with
  | nil => simp [stripStart]
  | cons p pattern ih =>
      cases text with
      | nil => simp [stripStart]
      | cons c text =>
          rw [stripStart, List.cons_prefix_cons]
          by_cases same : p = c
          · rw [if_pos same, ih]
            exact ⟨fun starts => ⟨same, starts⟩, And.right⟩
          · rw [if_neg same]
            exact ⟨nofun, fun starts => absurd starts.1 same⟩

/-- The text before and after the first occurrence of `pattern`. -/
def splitFirst (pattern : List Char) : List Char → Option (List Char × List Char)
  | [] => (stripStart pattern []).map fun rest => ([], rest)
  | c :: text =>
      match stripStart pattern (c :: text) with
      | some rest => some ([], rest)
      | none => (splitFirst pattern text).map fun found => (c :: found.1, found.2)

/-- Whether `pattern` occurs in the text. -/
def occurs (pattern text : List Char) : Bool := (splitFirst pattern text).isSome

/-- The maximal pieces between the characters that satisfy `isSeparator`; a text with `n`
separators has `n + 1` pieces. -/
def pieces (isSeparator : Char → Bool) : List Char → List (List Char)
  | [] => [[]]
  | c :: text =>
      if isSeparator c then [] :: pieces isSeparator text
      else
        match pieces isSeparator text with
        | [] => [[c]]
        | piece :: rest => (c :: piece) :: rest

def commaPieces (text : List Char) : List (List Char) := pieces (· == ',') text

/-- The text before and after the first character that satisfies `isSeparator`. -/
def splitOnce (isSeparator : Char → Bool) : List Char → Option (List Char × List Char)
  | [] => none
  | c :: text =>
      if isSeparator c then some ([], text)
      else (splitOnce isSeparator text).map fun found => (c :: found.1, found.2)

/-- What follows a separator is shorter than the text. -/
theorem length_splitOnce {isSeparator : Char → Bool} {text before after : List Char}
    (found : splitOnce isSeparator text = some (before, after)) :
    after.length < text.length := by
  induction text generalizing before with
  | nil => simp [splitOnce] at found
  | cons c text ih =>
    simp only [splitOnce] at found
    split at found
    · cases found; simp
    · rw [Option.map_eq_some_iff] at found
      obtain ⟨⟨inner, rest⟩, here, same⟩ := found
      simp only [Prod.mk.injEq] at same
      obtain ⟨rfl, rfl⟩ := same
      have shorter := ih here
      rw [List.length_cons]
      omega

/-- The ASCII letters in lower case, every other character as it is. -/
def lowerAscii (c : Char) : Char := if 'A' ≤ c ∧ c ≤ 'Z' then Char.ofNat (c.toNat + 32) else c

/-- The ASCII letters in upper case, every other character as it is. -/
def upperAscii (c : Char) : Char := if 'a' ≤ c ∧ c ≤ 'z' then Char.ofNat (c.toNat - 32) else c

/-- Equality without regard to the case of ASCII letters. -/
def sameIgnoringCase (left right : String) : Bool :=
  left.toList.map lowerAscii == right.toList.map lowerAscii

/-- An ASCII letter or digit. -/
def isAsciiAlphanumeric (c : Char) : Bool :=
  ('a' ≤ c && c ≤ 'z') || ('A' ≤ c && c ≤ 'Z') || ('0' ≤ c && c ≤ '9')

end Workflow.Text
