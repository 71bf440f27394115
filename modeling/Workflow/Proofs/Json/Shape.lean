import Mathlib.Data.String.Basic
import Workflow.Proofs.Json.Tokens

/-!
# The shape of JSON values that are read

The depth of a value is the number of arrays and objects around its innermost part.  A value that
is read lies within the depth that the reader allows; its integers fit 64 bits, and the members of
its objects are sorted by distinct keys.
-/

namespace Workflow.Json

mutual

/-- The number of arrays and objects that are open at the innermost place of a value. -/
def depth : Json → Nat
  | .array items => depthOfItems items + 1
  | .object members => depthOfMembers members + 1
  | _ => 0

/-- The depth of the deepest item. -/
def depthOfItems : List Json → Nat
  | [] => 0
  | item :: rest => max (depth item) (depthOfItems rest)

/-- The depth of the deepest member. -/
def depthOfMembers : List (String × Json) → Nat
  | [] => 0
  | (_, value) :: rest => max (depth value) (depthOfMembers rest)

end

theorem depthOfItems_le_iff {items : List Json} {bound : Nat} :
    depthOfItems items ≤ bound ↔ ∀ item ∈ items, item.depth ≤ bound := by
  induction items with
  | nil => simp [depthOfItems]
  | cons item rest ih => rw [depthOfItems, Nat.max_le, ih, List.forall_mem_cons]

theorem depthOfMembers_le_iff {members : List (String × Json)} {bound : Nat} :
    depthOfMembers members ≤ bound ↔ ∀ member ∈ members, member.2.depth ≤ bound := by
  induction members with
  | nil => simp [depthOfMembers]
  | cons member rest ih => rw [depthOfMembers, Nat.max_le, ih, List.forall_mem_cons]

/-- Members that are sorted by distinct keys. -/
def IsSorted (members : List (String × Json)) : Prop :=
  members.Pairwise fun earlier later => earlier.1 < later.1

/-- A value as it is kept: integers fit 64 bits, and members are sorted by distinct keys. -/
inductive IsNormal : Json → Prop where
  | null : IsNormal .null
  | boolean (truth : Bool) : IsNormal (.boolean truth)
  | integer {number : Int} (word : IsWord number) : IsNormal (.integer number)
  | float (number : Float) : IsNormal (.float number)
  | text (content : String) : IsNormal (.text content)
  | array {items : List Json} (every : ∀ item ∈ items, IsNormal item) : IsNormal (.array items)
  | object {members : List (String × Json)} (sorted : IsSorted members)
      (every : ∀ member ∈ members, IsNormal member.2) : IsNormal (.object members)

section Members

variable {key : String} {value : Json} {members : List (String × Json)}

theorem mem_write {member : String × Json} (present : member ∈ write key value members) :
    member = (key, value) ∨ member ∈ members := by
  induction members with
  | nil => exact .inl (List.mem_singleton.mp present)
  | cons first rest ih =>
      rw [write] at present
      split at present
      · rcases List.mem_cons.mp present with rfl | kept
        · exact .inl rfl
        · exact .inr (List.mem_cons_of_mem _ kept)
      · split at present
        · exact List.mem_cons.mp present
        · rcases List.mem_cons.mp present with rfl | later
          · exact .inr List.mem_cons_self
          · exact (ih later).imp_right (List.mem_cons_of_mem _)

theorem IsSorted.write (sorted : IsSorted members) (key : String) (value : Json) :
    IsSorted (write key value members) := by
  induction members with
  | nil => exact List.pairwise_singleton _ _
  | cons first rest ih =>
      obtain ⟨before, later⟩ := List.pairwise_cons.mp sorted
      rw [Json.write]
      split
      · next same =>
          subst same
          exact List.pairwise_cons.mpr ⟨before, later⟩
      · next other =>
          split
          · next less =>
              apply List.pairwise_cons.mpr
              constructor
              · intro member present
                rcases List.mem_cons.mp present with rfl | after
                · exact less
                · exact lt_trans less (before member after)
              · exact sorted
          · next notLess =>
              apply List.pairwise_cons.mpr
              constructor
              · intro member present
                rcases mem_write present with rfl | after
                · exact lt_of_le_of_ne (not_lt.mp notLess) (Ne.symm other)
                · exact before member after
              · exact ih later

theorem isSorted_foldl_write (written : List (String × Json)) (sorted : IsSorted members) :
    IsSorted (written.foldl (fun sorted member => write member.1 member.2 sorted) members) := by
  induction written generalizing members with
  | nil => exact sorted
  | cons member rest ih => exact ih (sorted.write member.1 member.2)

theorem mem_of_mem_foldl_write {written : List (String × Json)} {member : String × Json}
    (present : member ∈
      written.foldl (fun sorted member => write member.1 member.2 sorted) members) :
    member ∈ members ∨ member ∈ written := by
  induction written generalizing members with
  | nil => exact .inl present
  | cons first rest ih =>
      rcases ih present with kept | later
      · rcases mem_write kept with rfl | before
        · exact .inr List.mem_cons_self
        · exact .inl before
      · exact .inr (List.mem_cons_of_mem _ later)

theorem write_of_less {first : String × Json} (less : key < first.1) (value : Json)
    (rest : List (String × Json)) :
    write key value (first :: rest) = (key, value) :: first :: rest := by
  rw [write, if_neg (ne_of_lt less), if_pos less]

theorem write_of_greater (greater : ∀ member ∈ members, member.1 < key) (value : Json) :
    write key value members = members ++ [(key, value)] := by
  induction members with
  | nil => rfl
  | cons first rest ih =>
      have before := greater first List.mem_cons_self
      rw [write, if_neg (ne_of_gt before), if_neg (lt_asymm before),
        ih fun member later => greater member (List.mem_cons_of_mem _ later), List.cons_append]

theorem foldl_write_of_isSorted {front : List (String × Json)}
    (sorted : IsSorted (front ++ members)) :
    members.foldl (fun sorted member => write member.1 member.2 sorted) front =
      front ++ members := by
  induction members generalizing front with
  | nil => exact (List.append_nil front).symm
  | cons member rest ih =>
      have before : ∀ earlier ∈ front, earlier.1 < member.1 := fun earlier present =>
        (List.pairwise_append.mp sorted).2.2 earlier present member List.mem_cons_self
      rw [List.foldl_cons, write_of_greater before, ih, List.append_assoc]
      · rfl
      · rwa [List.append_assoc]

/-- Sorted members make up an object as they are. -/
theorem ofMembers_of_isSorted (sorted : IsSorted members) :
    ofMembers members = .object members := by
  have whole : IsSorted ([] ++ members) := sorted
  rw [ofMembers, foldl_write_of_isSorted whole, List.nil_append]

/-- The members of an object are sorted in whatever order they come. -/
theorem isNormal_ofMembers (every : ∀ member ∈ members, IsNormal member.2) :
    (ofMembers members).IsNormal := by
  apply IsNormal.object (isSorted_foldl_write members List.Pairwise.nil)
  intro member present
  exact every member ((mem_of_mem_foldl_write present).resolve_left List.not_mem_nil)

end Members

/-- A value that may be read where the given number of arrays and objects may still be opened. -/
def IsReadable (bound : Nat) (value : Json) : Prop := value.IsNormal ∧ value.depth ≤ bound

section Readable

variable {bound : Nat}

theorem isReadable_array {items : List Json} (every : ∀ item ∈ items, IsReadable bound item) :
    IsReadable (bound + 1) (.array items) := by
  constructor
  · exact .array fun item member => (every item member).1
  · rw [depth]
    exact Nat.succ_le_succ (depthOfItems_le_iff.mpr fun item member => (every item member).2)

theorem isReadable_ofMembers {members : List (String × Json)}
    (every : ∀ member ∈ members, IsReadable bound member.2) :
    IsReadable (bound + 1) (ofMembers members) := by
  constructor
  · exact isNormal_ofMembers fun member present => (every member present).1
  · rw [ofMembers, depth]
    apply Nat.succ_le_succ
    apply depthOfMembers_le_iff.mpr
    intro member present
    exact (every member ((mem_of_mem_foldl_write present).resolve_left List.not_mem_nil)).2

/-- What is read from a number: a float, or an integer of 64 bits. -/
inductive IsNumber : Json → Prop where
  | float (number : Float) : IsNumber (.float number)
  | integer {number : Int} (word : IsWord number) : IsNumber (.integer number)

theorem IsNumber.isReadable {value : Json} (number : IsNumber value) : IsReadable bound value := by
  cases number with
  | float number => exact ⟨.float number, Nat.zero_le bound⟩
  | integer word => exact ⟨.integer word, Nat.zero_le bound⟩

variable {negative : Bool} {digits : Nat} {exponent : Int} {input rest : List Char} {value : Json}

theorem isNumber_of_finishFloat
    (reads : finishFloat negative digits exponent input = .ok (value, rest)) : IsNumber value := by
  simp only [finishFloat] at reads
  split at reads
  · cases reads
    exact .float _
  · cases reads

theorem isNumber_of_exponentPart
    (reads : exponentPart negative digits exponent input = .ok (value, rest)) :
    IsNumber value := by
  unfold exponentPart at reads
  split at reads
  split at reads
  · cases reads
  · split at reads
    · split at reads
      · exact isNumber_of_finishFloat reads
      · split at reads
        · cases reads
        · cases reads
          exact .float _
    · cases reads

theorem isNumber_of_afterDigits
    (reads : afterDigits negative digits exponent input = .ok (value, rest)) :
    IsNumber value := by
  unfold afterDigits at reads
  split at reads
  · exact isNumber_of_exponentPart reads
  · exact isNumber_of_exponentPart reads
  · exact isNumber_of_finishFloat reads

theorem isNumber_of_fraction
    (reads : fraction negative digits exponent input = .ok (value, rest)) : IsNumber value := by
  simp only [fraction] at reads
  split at reads
  · split at reads
    · exact isNumber_of_afterDigits reads
    · split at reads
      · cases reads
      · exact isNumber_of_afterDigits reads
  · split at reads
    · cases reads
    · exact isNumber_of_afterDigits reads

theorem isNumber_wholeNumber (negative : Bool) (fits : digits ≤ maxUnsigned) :
    IsNumber (wholeNumber negative digits) := by
  have bound : digits < 2 ^ 64 := by
    simp only [maxUnsigned, Nat.pow_eq] at fits
    omega
  unfold wholeNumber
  split
  · split
    · next small =>
        have low := small.2
        simp only [Nat.pow_eq] at low
        apply IsNumber.integer
        simp only [IsWord, Nat.pow_eq]
        omega
    · exact .float _
  · apply IsNumber.integer
    simp only [IsWord, Nat.pow_eq]
    omega

theorem isNumber_of_afterWhole (fits : digits ≤ maxUnsigned)
    (reads : afterWhole negative digits input = .ok (value, rest)) : IsNumber value := by
  unfold afterWhole at reads
  split at reads
  · exact isNumber_of_fraction reads
  · exact isNumber_of_exponentPart reads
  · exact isNumber_of_exponentPart reads
  · cases reads
    exact isNumber_wholeNumber negative fits

theorem significand_le (fits : digits ≤ maxUnsigned) (taken : Nat) (input : List Char) :
    (significand digits taken input).1 ≤ maxUnsigned := by
  induction input generalizing digits taken with
  | nil => exact fits
  | cons c input ih =>
      simp only [significand]
      split
      · split
        · next small => exact ih small _
        · exact fits
      · exact fits

theorem digitValue_le {c : Char} (digit : Decimal.isDigit c = true) :
    Decimal.digitValue c ≤ maxUnsigned := by
  simp only [Decimal.isDigit, Bool.and_eq_true, decide_eq_true_eq] at digit
  have last : c.toNat ≤ '9'.toNat := digit.2
  simp only [Decimal.digitValue, maxUnsigned, Nat.pow_eq]
  exact Nat.le_trans (Nat.sub_le _ _) (Nat.le_trans last (by decide))

theorem isNumber_of_number (reads : number negative input = .ok (value, rest)) :
    IsNumber value := by
  unfold number at reads
  split at reads
  · cases reads
  · split at reads
    · split at reads
      · cases reads
      · exact isNumber_of_afterWhole (Nat.zero_le _) reads
    · exact isNumber_of_afterWhole (Nat.zero_le _) reads
  · next c rest _ =>
      split at reads
      · next digit =>
          have fits := significand_le (digitValue_le digit) 1 rest
          dsimp only at reads
          split at reads
          · exact isNumber_of_afterWhole fits reads
          · split at reads
            · exact isNumber_of_fraction reads
            · exact isNumber_of_afterDigits reads
      · cases reads

/-- What the parts of the reader return within a bound on the depth. -/
structure ReadsWithin (fuel : Nat) : Prop where
  value {bound : Nat} {input rest : List Char} {found : Json}
    (reads : Json.value fuel bound input = .ok (found, rest)) : IsReadable bound found
  firstItem {bound : Nat} {input rest : List Char} {found : Json}
    (reads : Json.firstItem fuel bound input = .ok (found, rest)) : IsReadable (bound + 1) found
  moreItems {bound : Nat} {input rest : List Char} {read : List Json} {found : Json}
    (before : ∀ item ∈ read, IsReadable bound item)
    (reads : Json.moreItems fuel bound read input = .ok (found, rest)) :
    IsReadable (bound + 1) found
  firstMember {bound : Nat} {input rest : List Char} {found : Json}
    (reads : Json.firstMember fuel bound input = .ok (found, rest)) : IsReadable (bound + 1) found
  moreMembers {bound : Nat} {input rest : List Char} {read : List (String × Json)} {found : Json}
    (before : ∀ member ∈ read, IsReadable bound member.2)
    (reads : Json.moreMembers fuel bound read input = .ok (found, rest)) :
    IsReadable (bound + 1) found
  keyedValue {bound : Nat} {input rest : List Char} {found : String × Json}
    (reads : Json.keyedValue fuel bound input = .ok (found, rest)) : IsReadable bound found.2

theorem isReadable_of_word {found : Json} {expected : List Char}
    (readable : IsReadable bound found)
    (reads : word found expected input = .ok (value, rest)) : IsReadable bound value := by
  induction expected generalizing input with
  | nil =>
      cases reads
      exact readable
  | cons e expected ih =>
      cases input with
      | nil => cases reads
      | cons c input =>
          rw [word] at reads
          split at reads
          · exact ih reads
          · cases reads

theorem readsWithin_zero : ReadsWithin 0 := by
  constructor
  · intro bound input rest found reads
    simp only [value, failHere, reduceCtorEq] at reads
  · intro bound input rest found reads
    simp only [firstItem, failHere, reduceCtorEq] at reads
  · intro bound input rest read found before reads
    simp only [moreItems, failHere, reduceCtorEq] at reads
  · intro bound input rest found reads
    simp only [firstMember, failHere, reduceCtorEq] at reads
  · intro bound input rest read found before reads
    simp only [moreMembers, failHere, reduceCtorEq] at reads
  · intro bound input rest found reads
    simp only [keyedValue, failHere, reduceCtorEq] at reads

end Readable

section Steps

variable {fuel bound : Nat} {input rest : List Char} {found : Json}

theorem isReadable_of_value (within : ReadsWithin fuel)
    (reads : value (fuel + 1) bound input = .ok (found, rest)) : IsReadable bound found := by
  unfold value at reads
  split at reads
  · cases reads
  · exact isReadable_of_word ⟨.null, Nat.zero_le bound⟩ reads
  · exact isReadable_of_word ⟨.boolean true, Nat.zero_le bound⟩ reads
  · exact isReadable_of_word ⟨.boolean false, Nat.zero_le bound⟩ reads
  · exact (isNumber_of_number reads).isReadable
  · split at reads
    · cases reads
    · cases reads
      exact ⟨.text _, Nat.zero_le bound⟩
  · cases bound with
    | zero => cases reads
    | succ bound => exact within.firstItem reads
  · cases bound with
    | zero => cases reads
    | succ bound => exact within.firstMember reads
  · split at reads
    · exact (isNumber_of_number reads).isReadable
    · cases reads

theorem isReadable_of_firstItem (within : ReadsWithin fuel)
    (reads : firstItem (fuel + 1) bound input = .ok (found, rest)) :
    IsReadable (bound + 1) found := by
  cases input with
  | nil => simp only [firstItem, failHere, reduceCtorEq] at reads
  | cons c input =>
      rw [firstItem] at reads
      split at reads
      · cases reads
        exact isReadable_array (by simp)
      · split at reads
        · cases reads
        · next item after first =>
            apply within.moreItems _ reads
            simp only [List.mem_singleton, forall_eq]
            exact within.value first

theorem isReadable_of_moreItems (within : ReadsWithin fuel) {read : List Json}
    (before : ∀ item ∈ read, IsReadable bound item)
    (reads : moreItems (fuel + 1) bound read input = .ok (found, rest)) :
    IsReadable (bound + 1) found := by
  cases input with
  | nil => simp only [moreItems, failHere, reduceCtorEq] at reads
  | cons c input =>
      rw [moreItems] at reads
      split at reads
      · cases reads
        apply isReadable_array
        simpa only [List.mem_reverse] using before
      · split at reads
        · split at reads
          · cases reads
          · cases reads
          · split at reads
            · cases reads
            · next item after next =>
                apply within.moreItems _ reads
                exact List.forall_mem_cons.mpr ⟨within.value next, before⟩
        · cases reads

theorem isReadable_of_firstMember (within : ReadsWithin fuel)
    (reads : firstMember (fuel + 1) bound input = .ok (found, rest)) :
    IsReadable (bound + 1) found := by
  cases input with
  | nil => simp only [firstMember, failHere, reduceCtorEq] at reads
  | cons c input =>
      rw [firstMember] at reads
      split at reads
      · cases reads
        have none : ∀ member ∈ ([] : List (String × Json)), IsReadable bound member.2 := by simp
        exact isReadable_ofMembers none
      · split at reads
        · split at reads
          · cases reads
          · next member after first =>
              apply within.moreMembers _ reads
              simp only [List.mem_singleton, forall_eq]
              exact within.keyedValue first
        · cases reads

theorem isReadable_of_moreMembers (within : ReadsWithin fuel) {read : List (String × Json)}
    (before : ∀ member ∈ read, IsReadable bound member.2)
    (reads : moreMembers (fuel + 1) bound read input = .ok (found, rest)) :
    IsReadable (bound + 1) found := by
  cases input with
  | nil => simp only [moreMembers, failHere, reduceCtorEq] at reads
  | cons c input =>
      rw [moreMembers] at reads
      split at reads
      · cases reads
        apply isReadable_ofMembers
        simpa only [List.mem_reverse] using before
      · split at reads
        · split at reads
          · cases reads
          · cases reads
          · split at reads
            · cases reads
            · next member after next =>
                apply within.moreMembers _ reads
                exact List.forall_mem_cons.mpr ⟨within.keyedValue next, before⟩
          · cases reads
        · cases reads

theorem isReadable_of_keyedValue (within : ReadsWithin fuel) {member : String × Json}
    (reads : keyedValue (fuel + 1) bound input = .ok (member, rest)) :
    IsReadable bound member.2 := by
  rw [keyedValue] at reads
  split at reads
  · cases reads
  · split at reads
    · cases reads
    · split at reads
      · cases reads
      · next value after valued =>
          cases reads
          exact within.value valued

theorem readsWithin (fuel : Nat) : ReadsWithin fuel := by
  induction fuel with
  | zero => exact readsWithin_zero
  | succ fuel within =>
      exact
        { value := isReadable_of_value within
          firstItem := isReadable_of_firstItem within
          moreItems := isReadable_of_moreItems within
          firstMember := isReadable_of_firstMember within
          moreMembers := isReadable_of_moreMembers within
          keyedValue := isReadable_of_keyedValue within }

/-- Every value that is read is normal and within the depth that the reader allows. -/
theorem isReadable_of_read {text : String} (reads : Json.read text = .ok found) :
    IsReadable maxDepth found := by
  simp only [Json.read] at reads
  split at reads
  · next document =>
      cases reads
      simp only [Json.document, bind, Except.bind] at document
      split at document
      · cases document
      · next valued =>
          split at document
          · cases document
            exact (readsWithin _).value valued
          · cases document
  · cases reads

end Steps

end Workflow.Json
