import Mathlib.Data.List.TakeWhile
import Stanza.Loading
import Stanza.Proofs.Decimal.Numerals
import Stanza.Proofs.Document.Values
import Stanza.Value.Printer

set_option autoImplicit false

/-!
The reader of JSON inverts the compact printer: the text of a value is read as that value,
when no object has a key twice, the lists and objects are not too deep, and the text of each
number is read as that number, which holds of all integers of a machine word.
-/

namespace Stanza

namespace Value

mutual
/-- Every number in the value has a property. -/
def EachNumber (property : Number → Prop) : Value → Prop
  | .number held => property held
  | .list items => EachNumberOfItems property items
  | .object members => EachNumberOfMembers property members
  | _ => True
termination_by structural value => value

def EachNumberOfItems (property : Number → Prop) : List Value → Prop
  | [] => True
  | item :: rest => item.EachNumber property ∧ EachNumberOfItems property rest
termination_by structural items => items

def EachNumberOfMembers (property : Number → Prop) : List (String × Value) → Prop
  | [] => True
  | (_, value) :: rest => value.EachNumber property ∧ EachNumberOfMembers property rest
termination_by structural members => members
end

end Value

namespace Document.Json

open Value (compact compactItems compactMembers stringText escapeChar numberText hexDigit)

/-! ### Strings -/

theorem unit?_hexDigit : ∀ number < 32,
    unit? '0' '0' (hexDigit (number / 16)) (hexDigit (number % 16)) = some number := by decide

theorem joinPieces?_char (c : Char) (pieces : List Piece) :
    joinPieces? (.char c :: pieces) = (joinPieces? pieces).map (c :: ·) := rfl

theorem joinPieces?_unit {number : Nat} (small : number < 0xD800) (pieces : List Piece) :
    joinPieces? (.unit number :: pieces) = (joinPieces? pieces).map (Char.ofNat number :: ·) := by
  have notLeading : isLeading number = false := by simp [isLeading]; omega
  have notTrailing : isTrailing number = false := by simp [isTrailing]; omega
  rcases pieces with _ | ⟨_ | _, _⟩ <;> simp [joinPieces?, notLeading, notTrailing]

theorem readPieces_escape {letter c : Char} (means : escaped? letter = some c) (notUnit : letter ≠ 'u')
    (taken : List Piece) (rest : List Char) :
    readPieces taken ('\\' :: letter :: rest) = readPieces (.char c :: taken) rest := by
  rw [readPieces.eq_def]
  split <;> grind

theorem readPieces_plain {c : Char} (notQuote : c ≠ '"') (notSlash : c ≠ '\\')
    (printable : 32 ≤ c.toNat) (taken : List Piece) (rest : List Char) :
    readPieces taken (c :: rest) = readPieces (.char c :: taken) rest := by
  rw [readPieces.eq_def]
  split <;> simp_all

theorem readPieces_unit {a b c d : Char} {number : Nat} (means : unit? a b c d = some number)
    (taken : List Piece) (rest : List Char) :
    readPieces taken ('\\' :: 'u' :: a :: b :: c :: d :: rest) =
      readPieces (.unit number :: taken) rest := by
  simp [readPieces, means]

/-- A character is written behind a backslash, by its number, or as it is. -/
theorem escapeChar_cases (c : Char) :
    (∃ letter, escapeChar c = ['\\', letter] ∧ escaped? letter = some c ∧ letter ≠ 'u') ∨
    (c.toNat < 32 ∧ escapeChar c =
      ['\\', 'u', '0', '0', hexDigit (c.toNat / 16), hexDigit (c.toNat % 16)]) ∨
    (escapeChar c = [c] ∧ c ≠ '"' ∧ c ≠ '\\' ∧ 32 ≤ c.toNat) := by
  have known (number : Nat) (same : c.toNat = number) : c = Char.ofNat number := by
    rw [← same, Char.ofNat_toNat]
  unfold escapeChar
  split
  · next same => exact .inl ⟨'"', rfl, by simp [escaped?, same], by decide⟩
  split
  · next same => exact .inl ⟨'\\', rfl, by simp [escaped?, same], by decide⟩
  split
  · next same => exact .inl ⟨'b', rfl, by simp [escaped?, known 8 same], by decide⟩
  split
  · next same => exact .inl ⟨'t', rfl, by simp [escaped?, known 9 same], by decide⟩
  split
  · next same => exact .inl ⟨'n', rfl, by simp [escaped?, known 10 same], by decide⟩
  split
  · next same => exact .inl ⟨'f', rfl, by simp [escaped?, known 12 same], by decide⟩
  split
  · next same => exact .inl ⟨'r', rfl, by simp [escaped?, known 13 same], by decide⟩
  split
  · next control => exact .inr (.inl ⟨control, rfl⟩)
  · next notQuote notSlash _ _ _ _ _ printable =>
    exact .inr (.inr ⟨rfl, notQuote, notSlash, Nat.le_of_not_lt printable⟩)

/-- An escaped character is read as one piece, and the piece stands for the character. -/
theorem readPieces_escapeChar (c : Char) (taken : List Piece) (rest : List Char) :
    ∃ piece, readPieces taken (escapeChar c ++ rest) = readPieces (piece :: taken) rest ∧
      ∀ pieces, joinPieces? (piece :: pieces) = (joinPieces? pieces).map (c :: ·) := by
  rcases escapeChar_cases c with ⟨letter, written, means, notUnit⟩ | ⟨control, written⟩ |
    ⟨written, notQuote, notSlash, printable⟩
  · rw [written]
    exact ⟨.char c, readPieces_escape means notUnit taken rest, joinPieces?_char c⟩
  · rw [written]
    have joined := joinPieces?_unit (Nat.lt_trans control (by decide))
    rw [Char.ofNat_toNat] at joined
    exact ⟨.unit c.toNat, readPieces_unit (unit?_hexDigit _ control) taken rest, joined⟩
  · rw [written]
    exact ⟨.char c, readPieces_plain notQuote notSlash printable taken rest, joinPieces?_char c⟩

theorem readPieces_flatMap_escapeChar (chars : List Char) (taken : List Piece)
    (rest : List Char) :
    ∃ pieces, readPieces taken (chars.flatMap escapeChar ++ '"' :: rest) =
        some (taken.reverse ++ pieces, rest) ∧ joinPieces? pieces = some chars := by
  induction chars generalizing taken with
  | nil => exact ⟨[], by simp [readPieces], rfl⟩
  | cons c chars ih =>
      obtain ⟨piece, read, joined⟩ :=
        readPieces_escapeChar c taken (chars.flatMap escapeChar ++ '"' :: rest)
      obtain ⟨pieces, readLater, joinedLater⟩ := ih (piece :: taken)
      refine ⟨piece :: pieces, ?_, by simp [joined, joinedLater]⟩
      rw [List.flatMap_cons, List.append_assoc, read, readLater]
      simp

theorem readString_stringText (text : String) (rest : List Char) :
    readString (text.toList.flatMap escapeChar ++ '"' :: rest) = some (.quoted text, rest) := by
  obtain ⟨pieces, read, joined⟩ := readPieces_flatMap_escapeChar text.toList [] rest
  simp [readString, read, joined]

/-! ### Numbers -/

/-- The text of a number is read as that number again. -/
def ReadsBack (number : Number) : Prop :=
  (∀ c ∈ (numberText number).toList, isNumberChar c = true) ∧
    ∃ text, readNumber? (numberText number).toList = some (.word text (.number number))

theorem natOfDigits_eq_ofDigitChars {digits : List Char} (each : ∀ c ∈ digits, c.isDigit = true)
    (number : Nat) :
    digits.foldl (fun number digit => number * 10 + Decimal.digitValue digit) number =
      Nat.ofDigitChars 10 digits number := by
  induction digits generalizing number with
  | nil => rfl
  | cons digit rest ih =>
      obtain ⟨here, later⟩ := List.forall_mem_cons.mp each
      have same : number * 10 + Decimal.digitValue digit =
          10 * number + (digit.toNat - '0'.toNat) := by
        simp [Decimal.digitValue, here]
        omega
      rw [List.foldl_cons, Nat.ofDigitChars_cons, ih later, same]

theorem natOfDigits_toDigits (number : Nat) :
    Decimal.natOfDigits 10 (Nat.toDigits 10 number) = number := by
  rw [Decimal.natOfDigits, natOfDigits_eq_ofDigitChars
    (fun c inside => Nat.isDigit_of_mem_toDigits (by decide) (by decide) inside)]
  exact Nat.ofDigitChars_toDigits (by decide) (by decide)

theorem head?_toDigits_ne_zero {number : Nat} (positive : 0 < number) :
    (Nat.toDigits 10 number).head? ≠ some '0' := by
  induction number using Nat.strongRecOn with
  | ind number ih =>
      by_cases small : number < 10
      · rw [Nat.toDigits_of_lt_base small]
        have notZero : number.digitChar ≠ '0' := by
          rw [ne_eq, Nat.digitChar_eq_zero]
          omega
        simpa using notZero
      · have shorter := ih (number / 10) (by omega) (by omega)
        rwa [Nat.toDigits_of_base_le (by decide) (by omega),
          List.head?_append_of_ne_nil _ Nat.toDigits_ne_nil]

theorem numeral_read?_of_digits {chars digits : List Char} {negative : Bool}
    (sign : Decimal.splitSign chars = (negative, digits)) (nonempty : digits ≠ [])
    (each : ∀ c ∈ digits, c.isDigit = true) :
    Decimal.Numeral.read? chars = some ⟨negative, digits, [], 0⟩ := by
  have whole : digits.takeWhile Char.isDigit = digits := List.takeWhile_eq_self_iff.mpr each
  have ended : digits.dropWhile Char.isDigit = [] := List.dropWhile_eq_nil_iff.mpr each
  simp [Decimal.Numeral.read?, sign, whole, ended, Decimal.splitFraction, Decimal.readScale?,
    nonempty]

/-- Digits, behind a minus sign perhaps, are read as a number when no needless zero leads. -/
theorem readNumber?_of_digits {chars digits : List Char} {negative : Bool} {integer : Int}
    (sign : Decimal.splitSign chars = (negative, digits)) (nonempty : digits ≠ [])
    (each : ∀ c ∈ digits, c.isDigit = true) (signed : ∀ c ∈ chars, c = '-' ∨ c.isDigit = true)
    (leading : digits.head? ≠ some '0' ∨ digits.length = 1)
    (inWord : wordInteger? ⟨negative, digits, [], 0⟩ = some integer) :
    readNumber? chars = some (.word (String.ofList chars) (.number (.int integer))) := by
  have without (c : Char) (noMinus : c ≠ '-') (noDigit : c.isDigit = false) : c ∉ chars := by
    intro inside
    rcases signed c inside with same | digit
    · exact noMinus same
    · rw [noDigit] at digit
      cases digit
  have noPoint := without '.' (by decide) (by decide)
  have noPlus : chars.head? ≠ some '+' := by
    intro first
    exact without '+' (by decide) (by decide) (List.mem_of_mem_head? first)
  have wellFormed : isWellFormed chars ⟨negative, digits, [], 0⟩ = true := by
    simp [isWellFormed, nonempty, noPoint, noPlus, leading]
  have isWhole : isInteger chars = true := by
    simp [isInteger, noPoint, without 'e' (by decide) (by decide),
      without 'E' (by decide) (by decide)]
  simp [readNumber?, numeral_read?_of_digits sign nonempty each, wellFormed, numberMeaning, isWhole,
    inWord]

theorem isNumberChar_of_signed {c : Char} (signed : c = '-' ∨ c.isDigit = true) :
    isNumberChar c = true := by
  rcases signed with rfl | digit
  · decide
  · simp [isNumberChar, digit]

/-- Every integer that a machine word holds is read back. -/
theorem readsBack_int {integer : Int} (least : -(Decimal.twoTo 63 : Int) ≤ integer)
    (greatest : integer < Decimal.wordBound) : ReadsBack (.int integer) := by
  have digit {size : Nat} : ∀ c ∈ Nat.toDigits 10 size, c.isDigit = true :=
    fun c inside => Nat.isDigit_of_mem_toDigits (by decide) (by decide) inside
  cases integer with
  | ofNat size =>
      have written : (numberText (.int (.ofNat size))).toList = Nat.toDigits 10 size :=
        Nat.toList_repr
      have signed : ∀ c ∈ Nat.toDigits 10 size, c = '-' ∨ c.isDigit = true :=
        fun c inside => .inr (digit c inside)
      have leading : (Nat.toDigits 10 size).head? ≠ some '0' ∨
          (Nat.toDigits 10 size).length = 1 := by
        rcases Nat.eq_zero_or_pos size with rfl | positive
        · exact .inr rfl
        · exact .inl (head?_toDigits_ne_zero positive)
      have inWord : wordInteger? ⟨false, Nat.toDigits 10 size, [], 0⟩ =
          some (.ofNat size) := by
        have below : size < Decimal.wordBound := Int.ofNat_lt.mp greatest
        simp [wordInteger?, natOfDigits_toDigits, below]
      rw [ReadsBack, written]
      exact ⟨fun c inside => isNumberChar_of_signed (signed c inside), _,
        readNumber?_of_digits (Decimal.splitSign_digits digit) Nat.toDigits_ne_nil digit signed
          leading inWord⟩
  | negSucc size =>
      have written : (numberText (.int (.negSucc size))).toList =
          '-' :: Nat.toDigits 10 (size + 1) := by
        show ("-" ++ (size + 1).repr).toList = _
        simp
      have signed : ∀ c ∈ '-' :: Nat.toDigits 10 (size + 1), c = '-' ∨ c.isDigit = true := by
        intro c inside
        rcases List.mem_cons.mp inside with same | later
        · exact .inl same
        · exact .inr (digit c later)
      have inWord : wordInteger? ⟨true, Nat.toDigits 10 (size + 1), [], 0⟩ =
          some (.negSucc size) := by
        have bounds : 0 < size + 1 ∧ size + 1 ≤ Decimal.twoTo 63 := by omega
        simp only [wordInteger?, natOfDigits_toDigits, if_pos bounds]
        rfl
      rw [ReadsBack, written]
      exact ⟨fun c inside => isNumberChar_of_signed (signed c inside), _,
        readNumber?_of_digits rfl Nat.toDigits_ne_nil digit signed
          (.inl (head?_toDigits_ne_zero (Nat.succ_pos size))) inWord⟩

/-! ### Values -/

/-- What follows a number, so that the number ends before it. -/
def Ends (rest : List Char) : Prop := ∀ c ∈ rest.head?, isNumberChar c = false

/-- A document that is read as a value, no deeper than the document of the value. -/
def Stands (value : Value) (document : Document) : Prop :=
  Reading.json.value document = .ok value ∧ document.depth = (ofValue value).depth

theorem skipSpace_cons {c : Char} (noSpace : isSpace c = false) (tail : List Char) :
    skipSpace (c :: tail) = c :: tail := by
  simp [skipSpace, noSpace]

theorem exists_first_of_readsBack {number : Number} (back : ReadsBack number) :
    ∃ c tail, (numberText number).toList = c :: tail ∧ isNumberChar c = true := by
  obtain ⟨each, text, read⟩ := back
  cases written : (numberText number).toList with
  | nil =>
      rw [written] at read
      cases read
  | cons c tail => exact ⟨c, tail, rfl, each c (by simp [written])⟩

theorem ne_of_isNumberChar {c other : Char} (inNumber : isNumberChar c = true)
    (outside : isNumberChar other = false) : c ≠ other := by
  intro same
  rw [same, outside] at inNumber
  cases inNumber

theorem plain_of_isNumberChar {c : Char} (inNumber : isNumberChar c = true) :
    isSpace c = false ∧ c ≠ '"' ∧ c ≠ '[' ∧ c ≠ ']' ∧ c ≠ '\x7b' := by
  have differs (other : Char) (outside : isNumberChar other = false) : c ≠ other :=
    ne_of_isNumberChar inNumber outside
  refine ⟨?_, differs _ (by decide), differs _ (by decide), differs _ (by decide),
    differs _ (by decide)⟩
  simp [isSpace, differs ' ' (by decide), differs '\n' (by decide), differs '\t' (by decide),
    differs '\r' (by decide)]

theorem readWord_number {number : Number} (back : ReadsBack number) {rest : List Char}
    (ends : Ends rest) :
    ∃ text, readWord ((numberText number).toList ++ rest) =
      some (.word text (.number number), rest) := by
  obtain ⟨c, tail, first, isFirst⟩ := exists_first_of_readsBack back
  obtain ⟨each, text, read⟩ := back
  have taken : ((numberText number).toList ++ rest).takeWhile isNumberChar =
      (numberText number).toList := by
    rw [List.takeWhile_append_of_pos each]
    cases rest with
    | nil => simp
    | cons next rest => simp [ends next rfl]
  have dropped : ((numberText number).toList ++ rest).dropWhile isNumberChar = rest := by
    rw [List.dropWhile_append_of_pos each]
    cases rest with
    | nil => rfl
    | cons next rest => simp [ends next rfl]
  refine ⟨text, ?_⟩
  rw [first] at taken dropped read ⊢
  rw [readWord.eq_def]
  split
  · next same =>
    exact absurd (List.cons.inj same).1 (ne_of_isNumberChar isFirst (by decide))
  · next same =>
    exact absurd (List.cons.inj same).1 (ne_of_isNumberChar isFirst (by decide))
  · next same =>
    exact absurd (List.cons.inj same).1 (ne_of_isNumberChar isFirst (by decide))
  · rw [taken, dropped, read]
    rfl

/-! ### Steps of the reader -/

theorem toList_stringText (text : String) :
    (stringText text).toList = '"' :: (text.toList.flatMap escapeChar ++ ['"']) := by
  rw [stringText, String.toList_ofList]

theorem readValue_stringText (fuel : Nat) (text : String) (rest : List Char) :
    readValue (fuel + 1) ((stringText text).toList ++ rest) = some (.quoted text, rest) := by
  have read := readString_stringText text rest
  rw [toList_stringText, List.cons_append, List.append_assoc, List.singleton_append]
  exact read

theorem readValue_list {fuel : Nat} {c : Char} {tail rest : List Char} {documents : List Document}
    (noSpace : isSpace c = false) (notClosing : c ≠ ']')
    (read : readItems fuel (c :: tail) = some (documents, rest)) :
    readValue (fuel + 1) ('[' :: c :: tail) = some (.list documents, rest) := by
  rw [readValue, skipSpace_cons (by decide)]
  simp only [skipSpace_cons noSpace]
  split
  · next same => exact absurd (List.cons.inj same).1 notClosing
  · rw [read]
    rfl

theorem readValue_object {fuel : Nat} {tail rest : List Char}
    {entries : List (Document × Document)}
    (read : readMembers fuel ('"' :: tail) = some (entries, rest)) :
    readValue (fuel + 1) ('\x7b' :: '"' :: tail) = some (.map entries, rest) := by
  show (readMembers fuel ('"' :: tail)).map _ = _
  rw [read]
  rfl

theorem readItems_last {fuel : Nat} {chars rest : List Char} {document : Document}
    (read : readValue fuel chars = some (document, ']' :: rest)) :
    readItems (fuel + 1) chars = some ([document], rest) := by
  rw [readItems, read]
  rfl

theorem readItems_more {fuel : Nat} {chars more rest : List Char} {document : Document}
    {documents : List Document} (read : readValue fuel chars = some (document, ',' :: more))
    (readMore : readItems fuel more = some (documents, rest)) :
    readItems (fuel + 1) chars = some (document :: documents, rest) := by
  rw [readItems, read]
  show (readItems fuel more).map _ = _
  rw [readMore]
  rfl

theorem readMembers_last {fuel : Nat} {key : String} {chars rest : List Char} {document : Document}
    (read : readValue fuel chars = some (document, '\x7d' :: rest)) :
    readMembers (fuel + 1) ((stringText key).toList ++ ':' :: chars) =
      some ([(.quoted key, document)], rest) := by
  rw [toList_stringText, List.cons_append, List.append_assoc, List.singleton_append, readMembers,
    skipSpace_cons (by decide)]
  simp only [readString_stringText, skipSpace_cons (c := ':') (by decide), read]
  rfl

theorem readMembers_more {fuel : Nat} {key : String} {chars more rest : List Char}
    {document : Document} {entries : List (Document × Document)}
    (read : readValue fuel chars = some (document, ',' :: more))
    (readMore : readMembers fuel more = some (entries, rest)) :
    readMembers (fuel + 1) ((stringText key).toList ++ ':' :: chars) =
      some ((.quoted key, document) :: entries, rest) := by
  rw [toList_stringText, List.cons_append, List.append_assoc, List.singleton_append, readMembers,
    skipSpace_cons (by decide)]
  simp only [readString_stringText, skipSpace_cons (c := ':') (by decide), read]
  show (readMembers fuel more).map _ = _
  rw [readMore]
  rfl

/-! ### Whole values -/

theorem ends_cons {c : Char} (noNumber : isNumberChar c = false) (rest : List Char) :
    Ends (c :: rest) := by
  intro first isFirst
  obtain rfl := Option.mem_some_iff.mp isFirst
  exact noNumber

theorem exists_first_of_compact {value : Value} (numbers : value.EachNumber ReadsBack) :
    ∃ c tail, (compact value).toList = c :: tail ∧ isSpace c = false ∧ c ≠ ']' := by
  cases value with
  | null => exact ⟨'n', _, rfl, by decide, by decide⟩
  | bool holds => cases holds <;> exact ⟨_, _, rfl, by decide, by decide⟩
  | number number =>
      obtain ⟨c, tail, first, isFirst⟩ := exists_first_of_readsBack numbers
      obtain ⟨noSpace, _, _, notClosing, _⟩ := plain_of_isNumberChar isFirst
      exact ⟨c, tail, first, noSpace, notClosing⟩
  | string text => exact ⟨_, _, toList_stringText text, by decide, by decide⟩
  | list items => exact ⟨'[', _, by simp [compact]; rfl, by decide, by decide⟩
  | object members => exact ⟨'\x7b', _, by simp [compact]; rfl, by decide, by decide⟩

theorem readValue_number {number : Number} (back : ReadsBack number) {rest : List Char}
    (ends : Ends rest) (fuel : Nat) :
    ∃ text, readValue (fuel + 1) ((numberText number).toList ++ rest) =
      some (.word text (.number number), rest) := by
  obtain ⟨c, tail, first, isFirst⟩ := exists_first_of_readsBack back
  obtain ⟨text, read⟩ := readWord_number back ends
  obtain ⟨noSpace, noQuote, noList, _, noObject⟩ := plain_of_isNumberChar isFirst
  refine ⟨text, ?_⟩
  rw [first, List.cons_append] at read ⊢
  rw [readValue, skipSpace_cons noSpace]
  split
  · next same => exact absurd (List.cons.inj same).1 noQuote
  · next same => exact absurd (List.cons.inj same).1 noList
  · next same => exact absurd (List.cons.inj same).1 noObject
  · exact read

/-! ### Lists and objects -/

def itemsText (items : List Value) : List Char := (",".intercalate (compactItems items)).toList

def membersText (members : List (String × Value)) : List Char :=
  (",".intercalate (compactMembers members)).toList

theorem toList_compact_list (items : List Value) :
    (compact (.list items)).toList = '[' :: (itemsText items ++ [']']) := by
  simp [compact, itemsText]

theorem toList_compact_object (members : List (String × Value)) :
    (compact (.object members)).toList = '\x7b' :: (membersText members ++ ['\x7d']) := by
  simp [compact, membersText]

theorem itemsText_single (item : Value) : itemsText [item] = (compact item).toList := by
  simp [itemsText, compactItems]

theorem itemsText_cons_cons (item next : Value) (rest : List Value) :
    itemsText (item :: next :: rest) = (compact item).toList ++ ',' :: itemsText (next :: rest) := by
  simp [itemsText, compactItems, String.intercalate_cons_cons]

theorem membersText_single (key : String) (value : Value) :
    membersText [(key, value)] = (stringText key).toList ++ ':' :: (compact value).toList := by
  simp [membersText, compactMembers]

theorem membersText_cons_cons (key : String) (value : Value) (next : String × Value)
    (rest : List (String × Value)) :
    membersText ((key, value) :: next :: rest) =
      (stringText key).toList ++ ':' :: ((compact value).toList ++
        ',' :: membersText (next :: rest)) := by
  simp [membersText, compactMembers, String.intercalate_cons_cons]

theorem exists_first_of_itemsText {item : Value} (numbers : item.EachNumber ReadsBack)
    (others : List Value) :
    ∃ c tail, itemsText (item :: others) = c :: tail ∧ isSpace c = false ∧ c ≠ ']' := by
  obtain ⟨c, tail, first, plain⟩ := exists_first_of_compact numbers
  cases others with
  | nil => exact ⟨c, tail, by rw [itemsText_single, first], plain⟩
  | cons next rest => exact ⟨c, _, by rw [itemsText_cons_cons, first, List.cons_append], plain⟩

theorem exists_first_of_membersText (member : String × Value) (others : List (String × Value)) :
    ∃ tail, membersText (member :: others) = '"' :: tail := by
  obtain ⟨key, value⟩ := member
  cases others with
  | nil => exact ⟨_, by rw [membersText_single, toList_stringText, List.cons_append]⟩
  | cons next rest =>
      exact ⟨_, by rw [membersText_cons_cons, toList_stringText, List.cons_append]⟩

/-- Documents that are read as items, no deeper than the items' own. -/
def ItemsStand (items : List Value) (documents : List Document) : Prop :=
  Reading.json.values documents = .ok items ∧ depthOfAll documents = depthOfAll (ofItems items)

/-- Entries that are read as members behind those present, no deeper than the members' own. -/
def EntriesStand (members : List (String × Value)) (entries : List (Document × Document)) : Prop :=
  (∀ present, ((present ++ members).map Prod.fst).Nodup →
    Reading.json.members present entries = .ok (present ++ members)) ∧
  depthOfEntries entries = depthOfEntries (ofMembers members)

section Reading

variable (fuel : Nat)

def ReadsValues : Prop :=
  ∀ (value : Value) (rest : List Char), value.EachNumber ReadsBack → value.Distinct →
    2 * (compact value).toList.length ≤ fuel → Ends rest →
      ∃ document, readValue fuel ((compact value).toList ++ rest) = some (document, rest) ∧
        Stands value document

def ReadsItems : Prop :=
  ∀ (item : Value) (others : List Value) (rest : List Char),
    Value.EachNumberOfItems ReadsBack (item :: others) → Value.DistinctItems (item :: others) →
    2 * (itemsText (item :: others)).length < fuel →
      ∃ documents,
        readItems fuel (itemsText (item :: others) ++ ']' :: rest) = some (documents, rest) ∧
        ItemsStand (item :: others) documents

def ReadsMembers : Prop :=
  ∀ (member : String × Value) (others : List (String × Value)) (rest : List Char),
    Value.EachNumberOfMembers ReadsBack (member :: others) →
    Value.DistinctMembers (member :: others) →
    2 * (membersText (member :: others)).length < fuel →
      ∃ entries,
        readMembers fuel (membersText (member :: others) ++ '\x7d' :: rest) =
          some (entries, rest) ∧
        EntriesStand (member :: others) entries

variable {fuel}

theorem ReadsItems.readsList (reads : ReadsItems fuel) {items : List Value} (rest : List Char)
    (numbers : (Value.list items).EachNumber ReadsBack) (distinct : (Value.list items).Distinct)
    (enough : 2 * (compact (.list items)).toList.length ≤ fuel + 1) :
    ∃ document, readValue (fuel + 1) ((compact (.list items)).toList ++ rest) =
      some (document, rest) ∧ Stands (.list items) document := by
  cases items with
  | nil => exact ⟨_, rfl, rfl, rfl⟩
  | cons item others =>
      rw [toList_compact_list] at enough ⊢
      simp only [List.length_cons, List.length_append] at enough
      obtain ⟨documents, read, values, depth⟩ := reads item others rest numbers distinct (by omega)
      obtain ⟨c, tail, first, noSpace, notClosing⟩ := exists_first_of_itemsText numbers.1 others
      refine ⟨.list documents, ?_, ?_, ?_⟩
      · rw [List.cons_append, List.append_assoc, List.singleton_append]
        rw [first, List.cons_append] at read ⊢
        exact readValue_list noSpace notClosing read
      · rw [Reading.value, values]
        rfl
      · rw [Document.depth, depth]
        rfl

theorem ReadsMembers.readsObject (reads : ReadsMembers fuel) {members : List (String × Value)}
    (rest : List Char) (numbers : (Value.object members).EachNumber ReadsBack)
    (distinct : (Value.object members).Distinct)
    (enough : 2 * (compact (.object members)).toList.length ≤ fuel + 1) :
    ∃ document, readValue (fuel + 1) ((compact (.object members)).toList ++ rest) =
      some (document, rest) ∧ Stands (.object members) document := by
  cases members with
  | nil => exact ⟨_, rfl, rfl, rfl⟩
  | cons member others =>
      rw [toList_compact_object] at enough ⊢
      simp only [List.length_cons, List.length_append] at enough
      obtain ⟨entries, read, asMembers, depth⟩ :=
        reads member others rest numbers distinct.2 (by omega)
      obtain ⟨tail, first⟩ := exists_first_of_membersText member others
      refine ⟨.map entries, ?_, ?_, ?_⟩
      · rw [List.cons_append, List.append_assoc, List.singleton_append]
        rw [first, List.cons_append] at read ⊢
        exact readValue_object read
      · rw [Reading.value, asMembers [] distinct.1]
        rfl
      · rw [Document.depth, depth]
        rfl

theorem readsValues_succ (items : ReadsItems fuel) (members : ReadsMembers fuel) :
    ReadsValues (fuel + 1) := by
  intro value rest numbers distinct enough ends
  cases value with
  | null => exact ⟨_, rfl, rfl, rfl⟩
  | bool holds => cases holds <;> exact ⟨_, rfl, rfl, rfl⟩
  | number number =>
      obtain ⟨text, read⟩ := readValue_number numbers ends fuel
      exact ⟨_, read, rfl, rfl⟩
  | string text => exact ⟨_, readValue_stringText fuel text rest, rfl, rfl⟩
  | list each => exact items.readsList rest numbers distinct enough
  | object each => exact members.readsObject rest numbers distinct enough

theorem readsItems_succ (values : ReadsValues fuel) (items : ReadsItems fuel) :
    ReadsItems (fuel + 1) := by
  intro item others rest numbers distinct enough
  cases others with
  | nil =>
      rw [itemsText_single] at enough ⊢
      obtain ⟨document, read, value, depth⟩ := values item (']' :: rest) numbers.1 distinct.1
        (by omega) (ends_cons (by decide) rest)
      refine ⟨[document], readItems_last read, ?_, ?_⟩
      · rw [Reading.values, value]
        rfl
      · rw [depthOfAll, depth]
        rfl
  | cons next others =>
      rw [itemsText_cons_cons, List.length_append, List.length_cons] at enough
      rw [itemsText_cons_cons, List.append_assoc, List.cons_append]
      obtain ⟨document, read, value, depth⟩ := values item
        (',' :: (itemsText (next :: others) ++ ']' :: rest)) numbers.1 distinct.1 (by omega)
        (ends_cons (by decide) _)
      obtain ⟨documents, readMore, each, depths⟩ :=
        items next others rest numbers.2 distinct.2 (by omega)
      refine ⟨document :: documents, readItems_more read readMore, ?_, ?_⟩
      · rw [Reading.values, value, each]
        rfl
      · rw [depthOfAll, depth, depths]
        rfl

theorem readsMembers_succ (values : ReadsValues fuel) (members : ReadsMembers fuel) :
    ReadsMembers (fuel + 1) := by
  rintro ⟨key, value⟩ others rest numbers distinct enough
  cases others with
  | nil =>
      rw [membersText_single, List.length_append, List.length_cons] at enough
      rw [membersText_single, List.append_assoc, List.cons_append]
      obtain ⟨document, read, asValue, depth⟩ := values value ('\x7d' :: rest) numbers.1 distinct.1
        (by omega) (ends_cons (by decide) rest)
      refine ⟨[(.quoted key, document)], readMembers_last read, ?_, ?_⟩
      · intro present keys
        rw [Reading.members_quoted .json keys asValue]
        rfl
      · rw [depthOfEntries, depth]
        rfl
  | cons next others =>
      rw [membersText_cons_cons] at enough ⊢
      simp only [List.length_append, List.length_cons] at enough
      simp only [List.append_assoc, List.cons_append]
      obtain ⟨document, read, asValue, depth⟩ := values value
        (',' :: (membersText (next :: others) ++ '\x7d' :: rest)) numbers.1 distinct.1 (by omega)
        (ends_cons (by decide) _)
      obtain ⟨entries, readMore, asMembers, depths⟩ :=
        members next others rest numbers.2 distinct.2 (by omega)
      refine ⟨(.quoted key, document) :: entries, readMembers_more read readMore, ?_, ?_⟩
      · intro present keys
        rw [Reading.members_quoted .json keys asValue, asMembers _ (by simpa using keys)]
        simp
      · rw [depthOfEntries, depth, depths]
        rfl

end Reading

/-- By induction on the fuel, which the text of a value never uses up. -/
theorem reads_all (fuel : Nat) : ReadsValues fuel ∧ ReadsItems fuel ∧ ReadsMembers fuel := by
  induction fuel with
  | zero =>
      refine ⟨?_, fun _ _ _ _ _ enough => absurd enough (Nat.not_lt_zero _),
        fun _ _ _ _ _ enough => absurd enough (Nat.not_lt_zero _)⟩
      intro value rest numbers distinct enough ends
      obtain ⟨c, tail, first, _⟩ := exists_first_of_compact numbers
      rw [first, List.length_cons] at enough
      omega
  | succ fuel ih =>
      obtain ⟨values, items, members⟩ := ih
      exact ⟨readsValues_succ items members, readsItems_succ values items,
        readsMembers_succ values members⟩

end Document.Json

/-- A JSON text that is read as a value. -/
def Document.ReadsAs (text : String) (value : Value) : Prop :=
  decodeWith Document.Json.read? Document.Reading.json.value text = some value

namespace Document

theorem distinct_of_readsAs {text : String} {value : Value} (reads : ReadsAs text value) :
    value.Distinct := by
  obtain ⟨document, _, decoded⟩ := Option.bind_eq_some_iff.mp reads
  cases outcome : Reading.json.value document with
  | error error =>
      rw [outcome] at decoded
      cases decoded
  | ok result =>
      rw [outcome] at decoded
      cases decoded
      exact Reading.distinct_of_value _ outcome

/-- The compact text of a value whose numbers are read back is read as that value. -/
theorem readsAs_compact {value : Value} (numbers : value.EachNumber Json.ReadsBack)
    (distinct : value.Distinct) (shallow : (ofValue value).depth ≤ Json.depthLimit) :
    ReadsAs (Value.compact value) value := by
  obtain ⟨document, read, asValue, depth⟩ := (Json.reads_all _).1 value [] numbers distinct
    (Nat.le_add_right _ 2) (by simp [Json.Ends])
  rw [List.append_nil] at read
  have parsed : Json.parse? (Value.compact value) = some document := by
    rw [Json.parse?, read]
    rfl
  have looked : Json.read? (Value.compact value) = some document := by
    rw [Json.read?, parsed, Option.bind_some, within?, if_pos (depth ▸ shallow)]
  rw [ReadsAs, decodeWith, looked, Option.bind_some, asValue]
  rfl

end Document
end Stanza
