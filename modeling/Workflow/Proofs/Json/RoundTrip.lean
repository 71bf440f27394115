import Workflow.Proofs.Json.Shape

/-!
# Reading written values

The indented form of a value whose numbers are integers is read back as this value, provided that
the reader allows its depth.  Where it does not, the depth is what the reader complains about.
-/

namespace Workflow.Json

/-- A value whose numbers are integers.  Zero with a minus sign is kept as a float. -/
inductive HasWholeNumbers : Json → Prop where
  | null : HasWholeNumbers .null
  | boolean (truth : Bool) : HasWholeNumbers (.boolean truth)
  | integer (number : Int) : HasWholeNumbers (.integer number)
  | negativeZero : HasWholeNumbers (.float negativeZero)
  | text (content : String) : HasWholeNumbers (.text content)
  | array {items : List Json} (every : ∀ item ∈ items, HasWholeNumbers item) :
      HasWholeNumbers (.array items)
  | object {members : List (String × Json)} (every : ∀ member ∈ members, HasWholeNumbers member.2) :
      HasWholeNumbers (.object members)

/-- The answer of a reader that needs some depth: what was to be found, or a complaint about the
depth if it exceeds the bound. -/
structure Answers {α : Type} (answer : Step α) (bound needed : Nat) (found : α)
    (rest : List Char) : Prop where
  fits : needed ≤ bound → answer = .ok (found, rest)
  tooDeep : bound < needed → ∃ bytesLeft, answer = .error ⟨.tooDeep, bytesLeft⟩

theorem Answers.of_eq {α : Type} {answer : Step α} {found : α} {rest : List Char}
    (same : answer = .ok (found, rest)) (bound : Nat) : Answers answer bound 0 found rest where
  fits _ := same
  tooDeep deep := absurd deep (Nat.not_lt_zero bound)

/-- What two readers, one behind the other, need is the greater of their depths. -/
theorem Answers.andThen {α β : Type} {first : Step α} {answer : Step β}
    {bound needed further : Nat} {found : α} {last : β} {middle rest : List Char}
    (front : Answers first bound needed found middle)
    (stops : ∀ fault, first = .error fault → answer = .error fault)
    (goes : first = .ok (found, middle) → Answers answer bound further last rest) :
    Answers answer bound (max needed further) last rest where
  fits within := by
    have reads := front.fits (Nat.le_trans (Nat.le_max_left _ _) within)
    exact (goes reads).fits (Nat.le_trans (Nat.le_max_right _ _) within)
  tooDeep deep := by
    rcases Nat.lt_or_ge bound needed with early | within
    · obtain ⟨bytesLeft, complains⟩ := front.tooDeep early
      exact ⟨bytesLeft, stops _ complains⟩
    · have further := (lt_max_iff.mp deep).resolve_left (Nat.not_lt.mpr within)
      exact (goes (front.fits within)).tooDeep further

/-- A bracket needs one level more than what it holds. -/
theorem Answers.opened {α : Type} (answer : Nat → Step α) {inside : Nat → Step α} {needed : Nat}
    {found : α} {rest : List Char} (shut : ∃ bytesLeft, answer 0 = .error ⟨.tooDeep, bytesLeft⟩)
    (opens : ∀ bound, answer (bound + 1) = inside bound)
    (within : ∀ bound, Answers (inside bound) bound needed found rest) (bound : Nat) :
    Answers (answer bound) bound (needed + 1) found rest := by
  cases bound with
  | zero => exact ⟨fun fits => absurd fits (Nat.not_succ_le_zero needed), fun _ => shut⟩
  | succ bound =>
      rw [opens]
      constructor
      · intro fits
        exact (within bound).fits (Nat.le_of_succ_le_succ fits)
      · intro deep
        exact (within bound).tooDeep (Nat.lt_of_succ_lt_succ deep)

section Blanks

theorem skipBlanks_cons {c : Char} (visible : isBlank c = false) (rest : List Char) :
    skipBlanks (c :: rest) = c :: rest :=
  List.dropWhile_cons_of_neg (by simp [visible])

theorem skipBlanks_newLine (level : Nat) (rest : List Char) :
    skipBlanks (newLine level ++ rest) = skipBlanks rest := by
  have indentation (count : Nat) :
      skipBlanks (List.replicate count ' ' ++ rest) = skipBlanks rest := by
    induction count with
    | zero => rfl
    | succ count ih => exact ih
  exact indentation (2 * level)

theorem value_blank (fuel bound : Nat) (rest : List Char) :
    value (fuel + 1) bound (' ' :: rest) = value (fuel + 1) bound rest := by
  unfold value
  rfl

end Blanks

/-- The written form of a value is read back. -/
def ReadsBack (whole : Json) : Prop :=
  ∀ (level fuel bound : Nat) (rest : List Char), IsBehindNumber rest →
    (prettyList level whole).length < fuel →
      Answers (value fuel bound (prettyList level whole ++ rest)) bound whole.depth whole rest

section Scalars

theorem readsBack_of_scalar {whole : Json} (shallow : whole.depth = 0)
    (written : ∀ level, prettyList level whole = scalar whole)
    (reads : ∀ (fuel bound : Nat) (rest : List Char), IsBehindNumber rest →
      (scalar whole).length ≤ fuel →
        value (fuel + 1) bound (scalar whole ++ rest) = .ok (whole, rest)) :
    ReadsBack whole := by
  intro level fuel bound rest behind enough
  rw [written] at enough ⊢
  obtain ⟨fuel, rfl⟩ := Nat.exists_eq_add_of_le' (Nat.zero_lt_of_lt enough)
  rw [shallow]
  exact .of_eq (reads fuel bound rest behind (Nat.le_of_lt_succ enough)) bound

theorem readsBack_null : ReadsBack .null := by
  apply readsBack_of_scalar rfl (fun _ => rfl)
  intro fuel bound rest behind enough
  rw [value]
  rfl

theorem readsBack_boolean (truth : Bool) : ReadsBack (.boolean truth) := by
  apply readsBack_of_scalar rfl (fun _ => rfl)
  intro fuel bound rest behind enough
  cases truth <;> (rw [value]; rfl)

theorem value_minus (fuel bound : Nat) (rest : List Char) :
    value (fuel + 1) bound ('-' :: rest) = number true rest := by
  rw [value]
  rfl

theorem isBlank_of_isDigit {c : Char} (digit : Decimal.isDigit c = true) : isBlank c = false := by
  apply Bool.eq_false_iff.mpr
  intro blank
  simp only [isBlank, Bool.or_eq_true, beq_iff_eq] at blank
  rcases blank with ((rfl | rfl) | rfl) | rfl <;> exact absurd digit (by decide)

theorem value_digit {c : Char} (digit : Decimal.isDigit c = true) (fuel bound : Nat)
    (rest : List Char) : value (fuel + 1) bound (c :: rest) = number false (c :: rest) := by
  unfold value
  rw [skipBlanks_cons (isBlank_of_isDigit digit)]
  -- No other kind of value starts with a digit.
  split <;> rename_i same <;> cases same
  all_goals first | exact absurd digit (by decide) | exact if_pos digit

theorem readsBack_integer {n : Int} (word : IsWord n) : ReadsBack (.integer n) := by
  apply readsBack_of_scalar rfl (fun _ => rfl)
  intro fuel bound rest behind enough
  simp only [scalar, Decimal.signedNumeral]
  split
  · next negative =>
      rw [List.cons_append, value_minus]
      exact number_natAbs behind word negative
  · next positive =>
      have fits : n.natAbs ≤ maxUnsigned := by
        have high := word.2
        simp only [maxUnsigned, Nat.pow_eq] at high ⊢
        omega
      obtain ⟨c, digits, starts⟩ :=
        List.exists_cons_of_ne_nil (Decimal.numeral_ne_nil n.natAbs)
      have digit : Decimal.isDigit c = true :=
        Decimal.isDigit_of_mem_numeral (starts ▸ List.mem_cons_self)
      have same : (n.natAbs : Int) = n := by omega
      have reads := number_numeral behind false fits
      rw [wholeNumber, if_neg Bool.false_ne_true, same] at reads
      rw [← reads, starts, List.cons_append, value_digit digit]

theorem readsBack_negativeZero : ReadsBack (.float negativeZero) := by
  apply readsBack_of_scalar rfl (fun _ => rfl)
  intro fuel bound rest behind enough
  rw [scalar, render_negativeZero]
  exact (value_minus fuel bound _).trans (number_negativeZero behind)

theorem value_quote (fuel bound : Nat) (rest : List Char) :
    value (fuel + 1) bound ('"' :: rest) =
      match quoted fuel [] rest with
      | .error fault => .error fault
      | .ok (content, rest) => .ok (.text content, rest) := by
  rw [value]
  rfl

theorem readsBack_text (content : String) : ReadsBack (.text content) := by
  apply readsBack_of_scalar rfl (fun _ => rfl)
  intro fuel bound rest behind enough
  have short := length_le_length_escape content.toList
  simp only [scalar, quote, List.length_cons, List.length_append] at enough
  simp only [scalar, quote, List.cons_append, List.append_assoc, List.nil_append]
  rw [value_quote, quoted_flatMap_escape [] rest (by omega)]
  simp only [List.reverse_nil, List.nil_append, String.ofList_toList]

end Scalars

section Arrays

/-- An item of an array with the comma in front of it. -/
def furtherItem (level : Nat) (item : Json) : List Char :=
  ',' :: (newLine level ++ prettyList level item)

theorem prettyItems_cons (level : Nat) (item : Json) (rest : List Json) :
    prettyItems level (item :: rest) =
      newLine level ++ prettyList level item ++ rest.flatMap (furtherItem level) := by
  induction rest generalizing item with
  | nil => exact (List.append_nil _).symm
  | cons next rest ih =>
      rw [List.flatMap_cons, furtherItem, List.cons_append, ← ih next]
      rfl

/-- The first character of a written value starts no other token. -/
theorem exists_prettyList_eq_cons {whole : Json} (numbers : whole.HasWholeNumbers) (level : Nat) :
    ∃ c rest, prettyList level whole = c :: rest ∧ isBlank c = false ∧ c ≠ ']' := by
  cases numbers with
  | null => exact ⟨'n', _, rfl, rfl, by decide⟩
  | boolean truth =>
      cases truth
      · exact ⟨'f', _, rfl, rfl, by decide⟩
      · exact ⟨'t', _, rfl, rfl, by decide⟩
  | integer number =>
      by_cases negative : number < 0
      · exact ⟨'-', _, if_pos negative, rfl, by decide⟩
      · obtain ⟨c, digits, starts⟩ :=
          List.exists_cons_of_ne_nil (Decimal.numeral_ne_nil number.natAbs)
        have digit : Decimal.isDigit c = true :=
          Decimal.isDigit_of_mem_numeral (starts ▸ List.mem_cons_self)
        refine ⟨c, digits, (if_neg negative).trans starts, isBlank_of_isDigit digit, ?_⟩
        rintro rfl
        exact absurd digit (by decide)
  | negativeZero => exact ⟨'-', _, congrArg String.toList render_negativeZero, rfl, by decide⟩
  | text content => exact ⟨'"', _, rfl, rfl, by decide⟩
  | @array items _ => cases items <;> exact ⟨'[', _, rfl, rfl, by decide⟩
  | @object members _ => cases members <;> exact ⟨'\x7b', _, rfl, rfl, by decide⟩

theorem isBehindNumber_items (items : List Json) (inner level : Nat) (rest : List Char) :
    IsBehindNumber (items.flatMap (furtherItem inner) ++ (newLine level ++ ']' :: rest)) := by
  cases items <;> exact isBehindNumber_cons _ (by decide)

theorem moreItems_comma {input visible : List Char} {c : Char}
    (starts : skipBlanks input = c :: visible) (other : c ≠ ']') (fuel bound : Nat)
    (read : List Json) :
    moreItems (fuel + 1) bound read (',' :: input) =
      match value fuel bound (c :: visible) with
      | .error fault => .error fault
      | .ok (item, rest) => moreItems fuel bound (item :: read) (skipBlanks rest) := by
  rw [moreItems, starts]
  simp only [beq_self_eq_true, if_true]
  rw [if_neg (by decide)]
  split
  · next same => cases same
  · next same => exact absurd (List.cons.inj same).1 other
  · rfl

theorem answers_moreItems {items : List Json} (every : ∀ item ∈ items, ReadsBack item)
    (numbers : ∀ item ∈ items, item.HasWholeNumbers) (inner level : Nat) {fuel : Nat} (bound : Nat)
    (read : List Json) (rest : List Char)
    (enough : (items.flatMap (furtherItem inner)).length < fuel) :
    Answers
      (moreItems fuel bound read
        (skipBlanks (items.flatMap (furtherItem inner) ++ (newLine level ++ ']' :: rest))))
      bound (depthOfItems items) (.array (read.reverse ++ items)) rest := by
  induction items generalizing fuel read with
  | nil =>
      obtain ⟨fuel, rfl⟩ := Nat.exists_eq_add_of_le' (Nat.zero_lt_of_lt enough)
      rw [List.flatMap_nil, List.nil_append, skipBlanks_newLine, skipBlanks_cons rfl,
        List.append_nil]
      apply Answers.of_eq
      rw [moreItems]
      rfl
  | cons item items ih =>
      obtain ⟨fuel, rfl⟩ := Nat.exists_eq_add_of_le' (Nat.zero_lt_of_lt enough)
      simp only [List.flatMap_cons, furtherItem, List.length_append, List.length_cons] at enough
      obtain ⟨c, visible, starts, nonblank, other⟩ :=
        exists_prettyList_eq_cons (numbers item List.mem_cons_self) inner
      have front := every item List.mem_cons_self inner fuel bound _
        (isBehindNumber_items items inner level rest) (by omega)
      have shorter : (items.flatMap (furtherItem inner)).length < fuel := by omega
      have behind := ih (fun item later => every item (List.mem_cons_of_mem _ later))
        (fun item later => numbers item (List.mem_cons_of_mem _ later)) (item :: read) shorter
      rw [List.reverse_cons, List.append_assoc] at behind
      simp only [List.flatMap_cons, furtherItem, List.cons_append, List.append_assoc]
      have skips : skipBlanks (newLine inner ++ (prettyList inner item ++
          (items.flatMap (furtherItem inner) ++ (newLine level ++ ']' :: rest)))) =
          c :: (visible ++
            (items.flatMap (furtherItem inner) ++ (newLine level ++ ']' :: rest))) := by
        rw [skipBlanks_newLine, starts]
        exact skipBlanks_cons nonblank _
      rw [skipBlanks_cons rfl, moreItems_comma skips other, ← List.cons_append, ← starts,
        depthOfItems]
      apply front.andThen
      · intro fault fails
        rw [fails]
      · intro reads
        rw [reads]
        exact behind

theorem firstItem_cons {c : Char} (other : c ≠ ']') (fuel bound : Nat) (rest : List Char) :
    firstItem (fuel + 1) bound (c :: rest) =
      match value fuel bound (c :: rest) with
      | .error fault => .error fault
      | .ok (item, rest) => moreItems fuel bound [item] (skipBlanks rest) := by
  rw [firstItem]
  exact if_neg (by simpa using other)

theorem answers_value_bracket {fuel needed : Nat} {input rest : List Char} {found : Json}
    (within : ∀ bound, Answers (firstItem fuel bound (skipBlanks input)) bound needed found rest)
    (bound : Nat) :
    Answers (value (fuel + 1) bound ('[' :: input)) bound (needed + 1) found rest := by
  apply Answers.opened (fun bound => value (fuel + 1) bound ('[' :: input)) _ _ within
  · rw [value]
    exact ⟨_, rfl⟩
  · intro bound
    rw [value]
    rfl

/-- An array is read back if all its items are. -/
theorem readsBack_array {items : List Json} (every : ∀ item ∈ items, ReadsBack item)
    (numbers : ∀ item ∈ items, item.HasWholeNumbers) : ReadsBack (.array items) := by
  intro level fuel bound rest behind enough
  have brackets : 2 ≤ (prettyList level (.array items)).length := by
    cases items with
    | nil => rw [prettyList]; exact Nat.le_refl 2
    | cons item items =>
        simp only [prettyList, List.length_cons, List.length_append]
        omega
  obtain ⟨fuel, rfl⟩ := Nat.exists_eq_add_of_le' (Nat.le_trans brackets (Nat.le_of_lt enough))
  cases items with
  | nil =>
      rw [prettyList, depth, depthOfItems]
      apply answers_value_bracket
      intro bound
      apply Answers.of_eq
      rw [firstItem.eq_def]
      rfl
  | cons item items =>
      rw [prettyList, prettyItems_cons] at enough ⊢
      simp only [List.length_cons, List.length_append] at enough
      obtain ⟨c, visible, starts, nonblank, other⟩ :=
        exists_prettyList_eq_cons (numbers item List.mem_cons_self) (level + 1)
      rw [depth, depthOfItems]
      simp only [List.cons_append, List.append_assoc, List.nil_append]
      apply answers_value_bracket
      intro bound
      have front := every item List.mem_cons_self (level + 1) fuel bound _
        (isBehindNumber_items items (level + 1) level rest) (by omega)
      have behind := answers_moreItems (fun item later => every item (List.mem_cons_of_mem _ later))
        (fun item later => numbers item (List.mem_cons_of_mem _ later)) (level + 1) level bound
        [item] rest (show (items.flatMap (furtherItem (level + 1))).length < fuel by omega)
      rw [skipBlanks_newLine, starts, List.cons_append, skipBlanks_cons nonblank,
        firstItem_cons other, ← List.cons_append, ← starts]
      apply front.andThen
      · intro fault fails
        rw [fails]
      · intro reads
        rw [reads]
        exact behind

end Arrays

section Objects

/-- A member of an object on a line of its own, without the first quote of its key. -/
def keyedText (level : Nat) (member : String × Json) : List Char :=
  member.1.toList.flatMap escape ++ '"' :: ':' :: ' ' :: prettyList level member.2

/-- A member of an object with the comma in front of it. -/
def furtherMember (level : Nat) (member : String × Json) : List Char :=
  ',' :: (newLine level ++ '"' :: keyedText level member)

theorem keyedText_eq (level : Nat) (key : String) (value : Json) :
    newLine level ++ quote key ++ ':' :: ' ' :: prettyList level value =
      newLine level ++ '"' :: keyedText level (key, value) := by
  simp only [quote, keyedText, List.append_assoc, List.cons_append, List.nil_append]

theorem prettyMembers_cons (level : Nat) (member : String × Json) (rest : List (String × Json)) :
    prettyMembers level (member :: rest) =
      newLine level ++ '"' :: keyedText level member ++ rest.flatMap (furtherMember level) := by
  induction rest generalizing member with
  | nil => exact (keyedText_eq level member.1 member.2).trans (List.append_nil _).symm
  | cons next rest ih =>
      have first := keyedText_eq level member.1 member.2
      rw [List.flatMap_cons, furtherMember, List.cons_append, ← ih next, ← first, prettyMembers]
      · simp only [List.append_assoc, List.cons_append]
      · exact List.cons_ne_nil next rest

theorem answers_keyedValue {member : String × Json} (reads : ReadsBack member.2)
    {level fuel : Nat} (bound : Nat) {rest : List Char}
    (behind : IsBehindNumber rest) (enough : (keyedText level member).length < fuel) :
    Answers (keyedValue (fuel + 1) bound (keyedText level member ++ rest)) bound member.2.depth
      member rest := by
  have short := length_le_length_escape member.1.toList
  simp only [keyedText, List.length_append, List.length_cons] at enough
  obtain ⟨fuel, rfl⟩ := Nat.exists_eq_add_of_le' (Nat.zero_lt_of_lt enough)
  have key : quoted (fuel + 1) [] (keyedText level member ++ rest) =
      .ok (member.1, ':' :: ' ' :: (prettyList level member.2 ++ rest)) := by
    simp only [keyedText, List.append_assoc, List.cons_append]
    rw [quoted_flatMap_escape [] _ (by omega), List.reverse_nil, List.nil_append,
      String.ofList_toList]
  have front := reads level (fuel + 1) bound rest behind (by omega)
  have step : keyedValue (fuel + 1 + 1) bound (keyedText level member ++ rest) =
      match value (fuel + 1) bound (prettyList level member.2 ++ rest) with
      | .error fault => .error fault
      | .ok (found, rest) => .ok ((member.1, found), rest) := by
    rw [keyedValue, key, ← value_blank]
    rfl
  rw [step, ← Nat.max_zero member.2.depth]
  apply front.andThen
  · intro fault fails
    rw [fails]
  · intro reads
    rw [reads]
    exact .of_eq rfl bound

theorem isBehindNumber_members (members : List (String × Json)) (inner level : Nat)
    (rest : List Char) :
    IsBehindNumber
      (members.flatMap (furtherMember inner) ++ (newLine level ++ '\x7d' :: rest)) := by
  cases members <;> exact isBehindNumber_cons _ (by decide)

theorem moreMembers_comma (fuel bound : Nat) (read : List (String × Json)) (level : Nat)
    (rest : List Char) :
    moreMembers (fuel + 1) bound read (',' :: (newLine level ++ '"' :: rest)) =
      match keyedValue fuel bound rest with
      | .error fault => .error fault
      | .ok (found, rest) => moreMembers fuel bound (found :: read) (skipBlanks rest) := by
  rw [moreMembers, skipBlanks_newLine]
  rfl

theorem firstMember_quote (fuel bound : Nat) (rest : List Char) :
    firstMember (fuel + 1) bound ('"' :: rest) =
      match keyedValue fuel bound rest with
      | .error fault => .error fault
      | .ok (found, rest) => moreMembers fuel bound [found] (skipBlanks rest) := by
  rw [firstMember]
  rfl

theorem answers_moreMembers {members : List (String × Json)}
    (every : ∀ member ∈ members, ReadsBack member.2) (inner level : Nat) {fuel : Nat}
    (bound : Nat) (read : List (String × Json)) (rest : List Char)
    (enough : (members.flatMap (furtherMember inner)).length < fuel) :
    Answers
      (moreMembers fuel bound read
        (skipBlanks (members.flatMap (furtherMember inner) ++ (newLine level ++ '\x7d' :: rest))))
      bound (depthOfMembers members) (ofMembers (read.reverse ++ members)) rest := by
  induction members generalizing fuel read with
  | nil =>
      obtain ⟨fuel, rfl⟩ := Nat.exists_eq_add_of_le' (Nat.zero_lt_of_lt enough)
      rw [List.flatMap_nil, List.nil_append, skipBlanks_newLine, skipBlanks_cons rfl,
        List.append_nil]
      apply Answers.of_eq
      rw [moreMembers]
      rfl
  | cons member members ih =>
      obtain ⟨fuel, rfl⟩ := Nat.exists_eq_add_of_le' (Nat.zero_lt_of_lt enough)
      simp only [List.flatMap_cons, furtherMember, List.length_append, List.length_cons] at enough
      obtain ⟨fuel, rfl⟩ : ∃ fewer, fuel = fewer + 1 := Nat.exists_eq_add_of_le' (by omega)
      have front := answers_keyedValue (every member List.mem_cons_self) bound
        (isBehindNumber_members members inner level rest)
        (show (keyedText inner member).length < fuel by omega)
      have shorter : (members.flatMap (furtherMember inner)).length < fuel + 1 := by omega
      have behind := ih (fun member later => every member (List.mem_cons_of_mem _ later))
        (member :: read) shorter
      rw [List.reverse_cons, List.append_assoc] at behind
      simp only [List.flatMap_cons, furtherMember, List.cons_append, List.append_assoc]
      rw [skipBlanks_cons rfl, moreMembers_comma, depthOfMembers]
      apply front.andThen
      · intro fault fails
        rw [fails]
      · intro reads
        rw [reads]
        exact behind

theorem answers_value_brace {fuel needed : Nat} {input rest : List Char} {found : Json}
    (within : ∀ bound, Answers (firstMember fuel bound (skipBlanks input)) bound needed found rest)
    (bound : Nat) :
    Answers (value (fuel + 1) bound ('\x7b' :: input)) bound (needed + 1) found rest := by
  apply Answers.opened (fun bound => value (fuel + 1) bound ('\x7b' :: input)) _ _ within
  · rw [value]
    exact ⟨_, rfl⟩
  · intro bound
    rw [value]
    rfl

theorem readsBack_object {members : List (String × Json)} (sorted : IsSorted members)
    (every : ∀ member ∈ members, ReadsBack member.2) : ReadsBack (.object members) := by
  intro level fuel bound rest behind enough
  have braces : 2 ≤ (prettyList level (.object members)).length := by
    cases members with
    | nil => rw [prettyList]; exact Nat.le_refl 2
    | cons member members =>
        simp only [prettyList, List.length_cons, List.length_append]
        omega
  obtain ⟨fuel, rfl⟩ := Nat.exists_eq_add_of_le' (Nat.le_trans braces (Nat.le_of_lt enough))
  cases members with
  | nil =>
      rw [prettyList, depth, depthOfMembers]
      apply answers_value_brace
      intro bound
      apply Answers.of_eq
      rw [firstMember.eq_def]
      rfl
  | cons member members =>
      rw [prettyList, prettyMembers_cons] at enough ⊢
      simp only [List.length_cons, List.length_append] at enough
      obtain ⟨fuel, rfl⟩ : ∃ fewer, fuel = fewer + 1 := Nat.exists_eq_add_of_le' (by omega)
      rw [depth, depthOfMembers, ← ofMembers_of_isSorted sorted]
      simp only [List.cons_append, List.append_assoc, List.nil_append]
      apply answers_value_brace
      intro bound
      have front := answers_keyedValue (every member List.mem_cons_self) bound
        (isBehindNumber_members members (level + 1) level rest)
        (show (keyedText (level + 1) member).length < fuel by omega)
      have shorter : (members.flatMap (furtherMember (level + 1))).length < fuel + 1 := by omega
      have behind := answers_moreMembers
        (fun member later => every member (List.mem_cons_of_mem _ later)) (level + 1) level bound
        [member] rest shorter
      rw [skipBlanks_newLine, skipBlanks_cons rfl, firstMember_quote]
      apply front.andThen
      · intro fault fails
        rw [fails]
      · intro reads
        rw [reads]
        exact behind

end Objects

/-- A value as it is kept whose numbers are integers is read back. -/
theorem readsBack {whole : Json} (numbers : whole.HasWholeNumbers) (normal : whole.IsNormal) :
    ReadsBack whole := by
  induction numbers with
  | null => exact readsBack_null
  | boolean truth => exact readsBack_boolean truth
  | integer number =>
      cases normal with
      | integer word => exact readsBack_integer word
  | negativeZero => exact readsBack_negativeZero
  | text content => exact readsBack_text content
  | array numbers ih =>
      cases normal with
      | array every =>
          apply readsBack_array _ numbers
          intro item member
          exact ih item member (every item member)
  | object numbers ih =>
      cases normal with
      | object sorted every =>
          apply readsBack_object sorted
          intro member present
          exact ih member present (every member present)

/-- The written form of a value is read back as this value if the reader allows its depth, and
refused for its depth if not. -/
theorem read_pretty {whole : Json} (numbers : whole.HasWholeNumbers) (normal : whole.IsNormal) :
    (whole.depth ≤ maxDepth → read whole.pretty = .ok whole) ∧
      (maxDepth < whole.depth →
        ∃ error, read whole.pretty = .error error ∧ error.cause = .tooDeep) := by
  have characters : whole.pretty.toList = prettyList 0 whole := String.toList_ofList
  have answers := readsBack numbers normal 0 (2 * (prettyList 0 whole).length + 2) maxDepth []
    (by intro c none; cases none) (by omega)
  rw [List.append_nil] at answers
  constructor
  · intro within
    have reads : document (prettyList 0 whole) = .ok whole := by
      simp only [document, bind, Except.bind, answers.fits within]
      rfl
    simp only [read, characters, reads]
  · intro deep
    obtain ⟨bytesLeft, complains⟩ := answers.tooDeep deep
    have refuses : document (prettyList 0 whole) = .error ⟨.tooDeep, bytesLeft⟩ := by
      simp only [document, bind, Except.bind, complains]
    refine ⟨locate (prettyList 0 whole) ⟨.tooDeep, bytesLeft⟩, ?_, rfl⟩
    simp only [read, characters, refuses]

end Workflow.Json
