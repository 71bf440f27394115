import Workflow.Proofs.Delimited.RoundTrip
import Workflow.Table

/-!
# Characters and bytes of delimited text

A text with an ASCII delimiter may be read character by character or byte by byte.  An ASCII
character is one byte with the same meaning, and the bytes of any other character have no meaning
of their own, so that both ways find the same records.
-/

namespace Workflow

namespace Text

variable {c d : Char}

/-- The bytes of several characters. -/
def encodeAll (text : List Char) : List UInt8 := text.flatMap String.utf8EncodeChar

theorem encode_eq_encodeAll (text : String) : encode text = encodeAll text.toList := by
  rw [encode, encodeAll, String.toUTF8_eq_toByteArray, ← String.utf8Encode_toList]
  simp [List.utf8Encode]

theorem encode_ofList (text : List Char) : encode (String.ofList text) = encodeAll text := by
  rw [encode_eq_encodeAll, String.toList_ofList]

theorem utf8EncodeChar_of_ascii (ascii : c.toNat < 0x80) :
    String.utf8EncodeChar c = [UInt8.ofNat c.toNat] := by
  have small : c.val.toNat ≤ 0x7F := Nat.le_of_lt_succ ascii
  rw [String.utf8EncodeChar, if_pos small]
  rfl

theorem le_toNat_of_mem_utf8EncodeChar (high : 0x80 ≤ c.toNat) {byte : UInt8}
    (member : byte ∈ String.utf8EncodeChar c) : 0x80 ≤ byte.toNat := by
  have large : ¬ c.val.toNat ≤ 0x7F := Nat.not_le_of_lt high
  have marked {value limit mark : Nat} (some : 0 < limit) (low : 0x80 ≤ mark)
      (fits : limit + mark ≤ 256) : 0x80 ≤ (UInt8.ofNat (value % limit + mark)).toNat := by
    have small := Nat.mod_lt value some
    rw [UInt8.toNat_ofNat']
    omega
  rw [String.utf8EncodeChar, if_neg large] at member
  split_ifs at member
  all_goals simp only [List.mem_cons, List.not_mem_nil, or_false] at member
  · rcases member with rfl | rfl <;> exact marked (by decide) (by decide) (by decide)
  · rcases member with rfl | rfl | rfl <;> exact marked (by decide) (by decide) (by decide)
  · rcases member with rfl | rfl | rfl | rfl <;> exact marked (by decide) (by decide) (by decide)

theorem ofNat_beq_ofNat (ascii : c.toNat < 0x80) (other : d.toNat < 0x80) :
    (UInt8.ofNat c.toNat == UInt8.ofNat d.toNat) = (c == d) := by
  rw [Bool.eq_iff_iff, beq_iff_eq, beq_iff_eq, ← UInt8.toNat_inj, UInt8.toNat_ofNat',
    UInt8.toNat_ofNat', Nat.mod_eq_of_lt (by omega), Nat.mod_eq_of_lt (by omega), Char.toNat_inj]

theorem encodeAll_cons (c : Char) (text : List Char) :
    encodeAll (c :: text) = String.utf8EncodeChar c ++ encodeAll text := by
  rw [encodeAll, List.flatMap_cons, ← encodeAll]

theorem encodeAll_concat (text : List Char) (c : Char) :
    encodeAll (text ++ [c]) = encodeAll text ++ String.utf8EncodeChar c := by
  simp [encodeAll]

end Text

namespace Delimited

/-! ## Moves -/

section

variable {σ τ : Type}

/-- The same move for another type of symbols. -/
def Move.forget : Move σ → Move τ
  | .skip mode => .skip mode
  | .add mode => .add mode
  | .endField => .endField
  | .endRecord => .endRecord

variable [BEq σ] [BEq τ] {left : Symbols σ} {right : Symbols τ}

/-- Two symbols have the same meaning. -/
structure Symbols.Agree (left : Symbols σ) (right : Symbols τ) (symbol : σ) (other : τ) : Prop where
  delimiter : (symbol == left.delimiter) = (other == right.delimiter)
  quote : (symbol == left.quote) = (other == right.quote)
  endsLine : left.endsLine symbol = right.endsLine other

/-- The reader does the same with symbols of the same meaning. -/
theorem Symbols.Agree.move_eq {symbol : σ} {other : τ} (agree : left.Agree right symbol other)
    (mode : Mode) : move right mode other = (move left mode symbol).forget := by
  have plain : plainMove right other = (plainMove left symbol).forget := by
    rw [plainMove, plainMove, agree.delimiter, agree.endsLine]
    split_ifs <;> rfl
  cases mode with
  | unquoted => exact plain
  | beforeRecord | beforeField | quoted | afterQuote =>
      simp only [move, fieldMove, agree.quote, agree.endsLine, plain]
      split_ifs <;> rfl

end

section

variable {σ : Type} [BEq σ] {symbols : Symbols σ}

/-- Where the reader is behind a symbol without a meaning of its own. -/
def Mode.within : Mode → Mode
  | .quoted => .quoted
  | _ => .unquoted

/-- A symbol without a meaning of its own is added to the field. -/
theorem move_of_needsQuotes_eq_false {symbol : σ} (plain : symbols.needsQuotes symbol = false)
    (mode : Mode) : move symbols mode symbol = .add mode.within := by
  simp only [Symbols.needsQuotes, Bool.or_eq_false_iff] at plain
  obtain ⟨⟨noDelimiter, noQuote⟩, noEnd⟩ := plain
  cases mode with
  | beforeRecord | beforeField | unquoted | quoted | afterQuote =>
      simp [move, fieldMove, plainMove, noDelimiter, noQuote, noEnd, Mode.within]

/-- Symbols without a meaning of their own are added one after the other. -/
theorem readFrom_append {text : List σ}
    (plain : ∀ symbol ∈ text, symbols.needsQuotes symbol = false)
    (some : text ≠ []) (mode : Mode) (field : List σ) (fields : List (List σ))
    (start rest : List σ) :
    readFrom symbols mode field fields start (text ++ rest) =
      readFrom symbols mode.within (text.reverse ++ field) fields start rest := by
  induction text generalizing mode field with
  | nil => exact absurd rfl some
  | cons symbol text ih =>
      rw [List.forall_mem_cons] at plain
      rw [List.cons_append, readFrom_of_add (move_of_needsQuotes_eq_false plain.1 mode)]
      by_cases last : text = []
      · subst last
        rfl
      · have same : mode.within.within = mode.within := by cases mode <;> rfl
        rw [ih plain.2 last, same, List.reverse_cons, List.append_assoc, List.singleton_append]

end

/-! ## Reading -/

open Text

variable {delimiter c : Char}

theorem agree_of_ascii (ascii : delimiter.toNat < 0x80) (own : c.toNat < 0x80) :
    (Symbols.characters delimiter).Agree (.bytes (UInt8.ofNat delimiter.toNat)) c
      (UInt8.ofNat c.toNat) where
  delimiter := (ofNat_beq_ofNat own ascii).symm
  quote := (ofNat_beq_ofNat own (d := '"') (by decide)).symm
  endsLine := by
    rw [Symbols.endsLine, Symbols.endsLine]
    exact congrArg₂ _ (ofNat_beq_ofNat own (d := '\r') (by decide)).symm
      (ofNat_beq_ofNat own (d := '\n') (by decide)).symm

theorem needsQuotes_of_high {byte : UInt8} (ascii : delimiter.toNat < 0x80)
    (high : 0x80 ≤ byte.toNat) :
    (Symbols.bytes (UInt8.ofNat delimiter.toNat)).needsQuotes byte = false := by
  have other {low : UInt8} (small : low.toNat < 0x80) : (byte == low) = false := by
    rw [beq_eq_false_iff_ne]
    rintro rfl
    omega
  have own : (UInt8.ofNat delimiter.toNat).toNat < 0x80 := by
    rw [UInt8.toNat_ofNat', Nat.mod_eq_of_lt (by omega)]
    exact ascii
  simp only [Symbols.needsQuotes, Symbols.endsLine, Symbols.bytes, Bool.or_eq_false_iff]
  exact ⟨⟨other own, other (by decide)⟩, other (by decide), other (by decide)⟩

theorem needsQuotes_of_not_ascii (ascii : delimiter.toNat < 0x80) (high : 0x80 ≤ c.toNat) :
    (Symbols.characters delimiter).needsQuotes c = false := by
  have other {low : Char} (small : low.toNat < 0x80) : (c == low) = false := by
    rw [beq_eq_false_iff_ne]
    rintro rfl
    omega
  simp only [Symbols.needsQuotes, Symbols.endsLine, Symbols.characters, Bool.or_eq_false_iff]
  exact ⟨⟨other ascii, other (by decide)⟩, other (by decide), other (by decide)⟩

/-- The records of the characters are those of the bytes. -/
theorem map_readFrom_encodeAll (ascii : delimiter.toNat < 0x80) (mode : Mode) (field : List Char)
    (fields : List (List Char)) (start : List Char) (other : List UInt8) (input : List Char) :
    (readFrom (.characters delimiter) mode field fields start input).map
        (fun reading => reading.fields.map encodeAll) =
      (readFrom (.bytes (UInt8.ofNat delimiter.toNat)) mode (encodeAll field.reverse).reverse
        (fields.map encodeAll) other (encodeAll input)).map (·.fields) := by
  induction input generalizing mode field fields start other with
  | nil =>
      rw [show encodeAll [] = [] from rfl]
      cases mode <;> simp [readFrom]
  | cons c rest ih =>
      rw [encodeAll_cons]
      by_cases own : c.toNat < 0x80
      · have moves := (agree_of_ascii ascii own).move_eq mode
        rw [utf8EncodeChar_of_ascii own, List.singleton_append, readFrom, readFrom, moves]
        cases move (Symbols.characters delimiter) mode c with
        | skip next => exact ih ..
        | add next =>
            have longer := ih next (c :: field) fields start other
            rw [List.reverse_cons, encodeAll_concat, utf8EncodeChar_of_ascii own] at longer
            simpa [Move.forget] using longer
        | endField =>
            have longer := ih .beforeField [] (field.reverse :: fields) start other
            simpa [Move.forget, encodeAll] using longer
        | endRecord =>
            have others := ih .beforeRecord [] [] rest (encodeAll rest)
            simpa [Move.forget, encodeAll] using others
      · have high := Nat.le_of_not_lt own
        have inField := move_of_needsQuotes_eq_false (needsQuotes_of_not_ascii ascii high) mode
        have plain : ∀ byte ∈ String.utf8EncodeChar c,
            (Symbols.bytes (UInt8.ofNat delimiter.toNat)).needsQuotes byte = false :=
          fun byte member => needsQuotes_of_high ascii (le_toNat_of_mem_utf8EncodeChar high member)
        rw [readFrom_of_add inField, readFrom_append plain String.utf8EncodeChar_ne_nil,
          ih _ (c :: field) fields start other]
        rw [List.reverse_cons, encodeAll_concat, List.reverse_append]

theorem records_encodeAll (ascii : delimiter.toNat < 0x80) (input : List Char) :
    records (.bytes (UInt8.ofNat delimiter.toNat)) (encodeAll input) =
      (records (.characters delimiter) input).map (·.map encodeAll) := by
  have same := map_readFrom_encodeAll ascii .beforeRecord [] [] input (encodeAll input) input
  rw [records, readings, records, readings, List.map_map]
  exact same.symm

end Delimited

/-! ## Files -/

namespace Table

open Text

/-- Only the mark of the byte order starts with the three bytes of the mark. -/
theorem eq_mark_of_encodeAll {c : Char} {text : List Char} {bytes : List UInt8}
    (starts : encodeAll (c :: text) = 0xEF :: 0xBB :: 0xBF :: bytes) : c = '\uFEFF' := by
  have number {value : Nat} {byte : UInt8} (same : UInt8.ofNat value = byte) :
      value % 256 = byte.toNat := by
    rw [← same, UInt8.toNat_ofNat']
  rw [encodeAll_cons, String.utf8EncodeChar] at starts
  have code : c.val.toNat = 0xFEFF := by
    split_ifs at starts
    all_goals simp only [List.cons_append, List.nil_append, List.cons.injEq] at starts
    all_goals have first : _ % 256 = 0xEF := number starts.1
    · omega
    · omega
    · have second : _ % 256 = 0xBB := number starts.2.1
      have third : _ % 256 = 0xBF := number starts.2.2.1
      omega
    · omega
  exact Char.toNat_inj.mp code

theorem withoutByteMark_encodeAll (text : List Char) :
    withoutByteMark (encodeAll text) = encodeAll (withoutMark text) := by
  cases text with
  | nil => rfl
  | cons c text =>
      by_cases mark : c = '\uFEFF'
      · subst mark
        rw [encodeAll_cons]
        rfl
      · rw [withoutMark]
        · rw [withoutByteMark]
          intro bytes starts
          exact mark (eq_mark_of_encodeAll starts)
        · rintro rest same
          exact mark (List.cons.inj same).1

theorem encode_of_decode? {bytes : List UInt8} {text : String}
    (decodes : decode? bytes = some text) : encode text = bytes := by
  rw [decode?, String.fromUTF8?] at decodes
  split at decodes
  · cases decodes
    rfl
  · cases decodes

theorem map_encode_of_decodeCells {cell : Nat} {fields : List (List UInt8)} {cells : List String}
    (decoded : decodeCells cell fields = .ok cells) : cells.map encode = fields := by
  induction fields generalizing cell cells with
  | nil =>
      cases decoded
      rfl
  | cons bytes rest ih =>
      rw [decodeCells] at decoded
      split at decoded
      · next text own =>
          cases others : decodeCells (cell + 1) rest with
          | error problem =>
              rw [others] at decoded
              cases decoded
          | ok tail =>
              rw [others] at decoded
              cases decoded
              rw [List.map_cons, encode_of_decode? own, ih others]
      · cases decoded

theorem map_encode_of_decodeRecords {bytes : List UInt8} {number : Nat}
    {readings : List (Delimited.Reading UInt8)} {records : List (List String)}
    (decoded : decodeRecords bytes number readings = .ok records) :
    records.map (·.map encode) = readings.map (·.fields) := by
  induction readings generalizing number records with
  | nil =>
      cases decoded
      rfl
  | cons reading rest ih =>
      rw [decodeRecords] at decoded
      split at decoded
      · next cells own =>
          cases others : decodeRecords bytes (number + 1) rest with
          | error problem =>
              rw [others] at decoded
              cases decoded
          | ok tail =>
              rw [others] at decoded
              cases decoded
              rw [List.map_cons, List.map_cons, map_encode_of_decodeCells own, ih others]
      · cases decoded

/-- In their bytes, the records of a file are those of its bytes, in whatever way they are read. -/
theorem map_encode_of_readRecords {content : ByteArray} {delimiter : UInt8}
    {records : List (List String)} (found : readRecords content delimiter = .ok records) :
    records.map (·.map encode) =
      Delimited.records (.bytes delimiter) (withoutByteMark content.data.toList) := by
  rw [readRecords] at found
  split at found
  · next text isText =>
      cases found
      split at isText
      · next ascii =>
          have small : delimiter.toNat < 0x80 := ascii
          have own : (Char.ofNat delimiter.toNat).toNat = delimiter.toNat := by
            rw [Char.ofNat, dif_pos (.inl (Nat.lt_trans small (by decide)))]
            rfl
          have bytes : content.data.toList = encodeAll text.toList := by
            rw [← encode_of_decode? isText, encode_eq_encodeAll]
          have same := Delimited.records_encodeAll (own ▸ small) (withoutMark text.toList)
          rw [own, UInt8.ofNat_toNat] at same
          rw [bytes, withoutByteMark_encodeAll, same, List.map_map]
          apply List.map_congr_left
          intro fields _
          rw [Function.comp_apply, List.map_map]
          exact List.map_congr_left fun field _ => encode_ofList field
      · cases isText
  · exact map_encode_of_decodeRecords found

end Table

end Workflow
