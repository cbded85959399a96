import Mathlib.Data.String.Basic
import Stanza.Text.Interpolation

set_option autoImplicit false

/-!
What escaping changes. An interpolation opens at a dollar that is followed by an opening brace
and not preceded by another dollar. Escaping puts one more dollar before each such place and
leaves all else alone; after it no interpolation opens anywhere.
-/

namespace Stanza.Text

/-! ### Where interpolations open -/

/-- The character at a position is the dollar of an interpolation. -/
def Opens (chars : List Char) (position : Nat) : Prop :=
  chars[position]? = some '$' ∧ chars[position + 1]? = some '\x7b' ∧
    (position = 0 ∨ chars[position - 1]? ≠ some '$')

instance (chars : List Char) (position : Nat) : Decidable (Opens chars position) :=
  inferInstanceAs (Decidable (_ ∧ _ ∧ (_ ∨ _)))

def openings (chars : List Char) : Nat :=
  (List.range chars.length).countP fun position => decide (Opens chars position)

theorem Opens.lt_length {chars : List Char} {position : Nat} (opens : Opens chars position) :
    position < chars.length :=
  (List.getElem?_eq_some_iff.mp opens.1).1

theorem openings_eq_zero_iff (chars : List Char) :
    openings chars = 0 ↔ ∀ position, ¬ Opens chars position := by
  simp only [openings, List.countP_eq_zero, List.mem_range, decide_eq_true_eq]
  constructor
  · intro none position opens
    exact none position opens.lt_length opens
  · intro none position _
    exact none position

/-- A character after `front` opens an interpolation by what stands right beside it. -/
theorem opens_after_iff (front rest : List Char) (c : Char) :
    Opens (front ++ c :: rest) front.length ↔
      c = '$' ∧ rest.head? = some '\x7b' ∧ front.getLast? ≠ some '$' := by
  have here : (front ++ c :: rest)[front.length]? = some c := by simp
  have next : (front ++ c :: rest)[front.length + 1]? = rest.head? := by
    rw [List.getElem?_append_right (by omega)]
    simp [List.head?_eq_getElem?]
  have before : (front.length = 0 ∨ (front ++ c :: rest)[front.length - 1]? ≠ some '$') ↔
      front.getLast? ≠ some '$' := by
    cases front with
    | nil => simp
    | cons first others =>
        rw [List.getElem?_append_left (by simp), ← List.getLast?_eq_getElem?]
        simp
  rw [Opens, here, next, before, Option.some.injEq]

/-! ### What is inserted -/

/-- A character as it is, with a dollar before it where an interpolation opens. -/
def doubled (chars : List Char) (entry : Char × Nat) : List Char :=
  if Opens chars entry.2 then ['$', entry.1] else [entry.1]

/-- By induction on what is left to escape, behind what has been escaped already. -/
theorem escapeAfter_eq_flatMap (front rest : List Char) :
    escapeAfter front.getLast? rest =
      (rest.zipIdx front.length).flatMap (doubled (front ++ rest)) := by
  induction rest generalizing front with
  | nil => rfl
  | cons c rest ih =>
      have later := ih (front ++ [c])
      rw [List.getLast?_concat, List.length_append, List.append_assoc] at later
      rw [escapeAfter, List.zipIdx_cons, List.flatMap_cons, later, doubled]
      by_cases opens : Opens (front ++ c :: rest) front.length
      · obtain ⟨rfl, ahead, behind⟩ := (opens_after_iff front rest c).mp opens
        rw [if_pos ⟨rfl, ahead, behind⟩, if_pos opens]
        rfl
      · rw [if_neg (mt (opens_after_iff front rest c).mpr opens), if_neg opens]
        rfl

theorem escape_eq_flatMap (chars : List Char) :
    escapeAfter none chars = chars.zipIdx.flatMap (doubled chars) :=
  escapeAfter_eq_flatMap [] chars

/-- Under every measure that adds up, escaping adds as much as the inserted dollars measure. -/
theorem size_escape (size : List Char → Nat)
    (additive : ∀ left right, size (left ++ right) = size left + size right)
    (dollar : size ['$'] = 1) (chars : List Char) :
    size (escapeAfter none chars) = size chars + openings chars := by
  have empty : size [] = 0 := by
    have twice := additive [] []
    rw [List.append_nil] at twice
    omega
  have inserted (entries : List (Char × Nat)) :
      size (entries.flatMap (doubled chars)) = size (entries.map Prod.fst) +
        (entries.map Prod.snd).countP fun position => decide (Opens chars position) := by
    induction entries with
    | nil => rw [List.flatMap_nil, List.map_nil, List.map_nil, List.countP_nil, empty]
    | cons entry rest ih =>
        have split : size (entry.1 :: rest.map Prod.fst) =
            size [entry.1] + size (rest.map Prod.fst) := additive [entry.1] _
        rw [List.flatMap_cons, additive, ih, List.map_cons, List.map_cons, split, doubled]
        by_cases opens : Opens chars entry.2
        · have pair : size ['$', entry.1] = 1 + size [entry.1] := by
            rw [← dollar]
            exact additive ['$'] [entry.1]
          rw [if_pos opens, pair, List.countP_cons_of_pos (by simpa using opens)]
          omega
        · rw [if_neg opens, List.countP_cons_of_neg (by simpa using opens)]
          omega
  rw [escape_eq_flatMap, inserted, List.zipIdx_map_fst, List.zipIdx_map_snd, openings,
    List.range_eq_range']

/-! ### Escaping again -/

/-- What is inserted repeats the character before which it stands. -/
theorem head?_escapeAfter (previous : Option Char) (chars : List Char) :
    (escapeAfter previous chars).head? = chars.head? := by
  cases chars with
  | nil => rfl
  | cons c rest =>
      rw [escapeAfter]
      by_cases opens : c = '$' ∧ rest.head? = some '\x7b' ∧ previous ≠ some '$'
      · rw [if_pos opens, opens.1]
        rfl
      · rw [if_neg opens]
        rfl

theorem escapeAfter_escapeAfter (previous : Option Char) (chars : List Char) :
    escapeAfter previous (escapeAfter previous chars) = escapeAfter previous chars := by
  induction chars generalizing previous with
  | nil => rfl
  | cons c rest ih =>
      rw [escapeAfter]
      by_cases opens : c = '$' ∧ rest.head? = some '\x7b' ∧ previous ≠ some '$'
      · rw [if_pos opens]
        obtain ⟨rfl, _, _⟩ := opens
        -- The first of the two dollars is followed by a dollar, the second comes after one.
        rw [escapeAfter, if_neg (by simp), escapeAfter, if_neg (by simp), ih]
      · rw [if_neg opens, escapeAfter, head?_escapeAfter, if_neg opens, ih]

theorem escape_eq_self_iff (chars : List Char) :
    escapeAfter none chars = chars ↔ ∀ position, ¬ Opens chars position := by
  rw [← openings_eq_zero_iff]
  constructor
  · intro same
    have grown := size_escape List.length (fun _ _ => List.length_append) rfl chars
    rw [same] at grown
    omega
  · intro none
    have plain : doubled chars = fun entry => [entry.1] := funext fun entry =>
      if_neg ((openings_eq_zero_iff chars).mp none entry.2)
    rw [escape_eq_flatMap, plain, ← List.map_eq_flatMap, List.zipIdx_map_fst]

theorem not_opens_escape (chars : List Char) (position : Nat) :
    ¬ Opens (escapeAfter none chars) position :=
  (escape_eq_self_iff _).mp (escapeAfter_escapeAfter none chars) position

/-! ### Texts put together -/

/-- Only a dollar before it changes how a text is escaped. -/
theorem escapeAfter_of_ne_dollar {previous : Option Char} (other : previous ≠ some '$')
    (chars : List Char) : escapeAfter previous chars = escapeAfter none chars := by
  cases chars with
  | nil => rfl
  | cons c rest => simp [escapeAfter, other]

/-- By induction on the first text; its last character, or the one before it if it is empty,
is all that the second text could see. -/
theorem escapeAfter_append (previous : Option Char) {left : List Char} (right : List Char)
    (ended : left.getLast?.or previous ≠ some '$') :
    escapeAfter previous (left ++ right) =
      escapeAfter previous left ++ escapeAfter none right := by
  induction left generalizing previous with
  | nil => exact escapeAfter_of_ne_dollar ended right
  | cons c rest ih =>
      have later : rest.getLast?.or (some c) ≠ some '$' := by
        rw [List.getLast?_cons] at ended
        cases last : rest.getLast? <;> simpa [last] using ended
      have ahead : c = '$' → (rest ++ right).head? = rest.head? := by
        rintro rfl
        cases rest with
        | nil => exact absurd rfl later
        | cons d others => rfl
      rw [List.cons_append, escapeAfter, escapeAfter, ih (some c) later]
      by_cases opens : c = '$' ∧ rest.head? = some '\x7b' ∧ previous ≠ some '$'
      · rw [if_pos opens, if_pos ⟨opens.1, (ahead opens.1).trans opens.2.1, opens.2.2⟩]
        rfl
      · have still : ¬ (c = '$' ∧ (rest ++ right).head? = some '\x7b' ∧ previous ≠ some '$') := by
          rintro ⟨dollar, brace, behind⟩
          exact opens ⟨dollar, ahead dollar ▸ brace, behind⟩
        rw [if_neg opens, if_neg still]
        rfl

/--
Escaping inserts one dollar before each position at which an interpolation opens, and changes
nothing else. So every dollar before an opening brace follows another dollar; as many
characters, and as many bytes, are added as interpolations open; a second time escaping does
nothing; it does nothing to exactly the texts in which no interpolation opens, among them those
without a dollar before an opening brace; and two texts of which the first does not end in a
dollar are escaped one by one.
-/
theorem escapeInterpolation_inserts_dollars (text : String) :
    ((escapeInterpolation text).toList = text.toList.zipIdx.flatMap fun entry =>
      if Opens text.toList entry.2 then ['$', entry.1] else [entry.1]) ∧
    (∀ position, (escapeInterpolation text).toList[position]? = some '$' →
      (escapeInterpolation text).toList[position + 1]? = some '\x7b' →
      ∃ before, position = before + 1 ∧
        (escapeInterpolation text).toList[before]? = some '$') ∧
    (escapeInterpolation text).length = text.length + openings text.toList ∧
    (escapeInterpolation text).utf8ByteSize = text.utf8ByteSize + openings text.toList ∧
    escapeInterpolation (escapeInterpolation text) = escapeInterpolation text ∧
    (escapeInterpolation text = text ↔ ∀ position, ¬ Opens text.toList position) ∧
    ((∀ position, text.toList[position]? = some '$' →
        text.toList[position + 1]? ≠ some '\x7b') → escapeInterpolation text = text) ∧
    ∀ other, text.toList.getLast? ≠ some '$' →
      escapeInterpolation (text ++ other) =
        escapeInterpolation text ++ escapeInterpolation other := by
  have unchanged : escapeInterpolation text = text ↔ ∀ position, ¬ Opens text.toList position := by
    rw [← escape_eq_self_iff, escapeInterpolation, ← String.toList_inj, String.toList_ofList]
  refine ⟨?_, ?_, ?_, ?_, ?_, unchanged, ?_, ?_⟩
  · rw [escapeInterpolation, String.toList_ofList, escape_eq_flatMap]
    rfl
  · intro position dollar brace
    have closed := not_opens_escape text.toList position
    rw [escapeInterpolation, String.toList_ofList] at dollar brace ⊢
    obtain ⟨inside, behind⟩ : position ≠ 0 ∧
        (escapeAfter none text.toList)[position - 1]? = some '$' := by
      simpa [Opens, dollar, brace] using closed
    exact ⟨position - 1, by omega, behind⟩
  · rw [escapeInterpolation, String.length_ofList, ← String.length_toList]
    exact size_escape List.length (fun _ _ => List.length_append) rfl text.toList
  · rw [escapeInterpolation, String.utf8ByteSize_ofList,
      size_escape String.utf8Len String.utf8Len_append rfl, ← String.utf8ByteSize_ofList,
      String.ofList_toList]
  · rw [escapeInterpolation, escapeInterpolation, String.toList_ofList, escapeAfter_escapeAfter]
  · intro absent
    exact unchanged.mpr fun position opens => absent position opens.1 opens.2.1
  · intro other ended
    have apart : text.toList.getLast?.or none ≠ some '$' := by rwa [Option.or_none]
    rw [escapeInterpolation, String.toList_append, escapeAfter_append none other.toList apart,
      String.ofList_append]
    rfl

/-- Adjacent openings, one that is doubled already, and a dollar that opens nothing. -/
theorem adjacent_openings_doubled :
    escapeInterpolation "$\x7b$\x7b$$\x7b" = "$$\x7b$$\x7b$$\x7b" ∧
      escapeInterpolation ("$\x7b$\x7b$$\x7b" ++ "$\x7bx\x7d$") =
        "$$\x7b$$\x7b$$\x7b" ++ "$$\x7bx\x7d$" ∧
      (∃ before, 4 = before + 1 ∧ (escapeInterpolation "$\x7b$\x7b").toList[before]? = some '$') ∧
      escapeInterpolation "\x7b$" = "\x7b$" := by
  have inserted (text : String) := escapeInterpolation_inserts_dollars text
  refine ⟨rfl, ?_, ?_, ?_⟩
  · exact (inserted _).2.2.2.2.2.2.2 "$\x7bx\x7d$" (by decide)
  · exact (inserted "$\x7b$\x7b").2.1 4 (by decide) (by decide)
  · refine (inserted "\x7b$").2.2.2.2.2.2.1 ?_
    rintro (_ | _ | position) dollar brace
    · cases dollar
    · cases brace
    · cases dollar

end Stanza.Text
