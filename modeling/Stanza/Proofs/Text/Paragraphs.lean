import Mathlib.Data.List.Forall2
import Stanza.Text.Stanzas

set_option autoImplicit false

/-!
Joined stanzas as paragraphs: what trimming leaves of the texts that are not blank, with one
blank line between neighbours and one line end after the last. Texts whose ends are not blank
are taken as they are, and joining in two steps is joining at once.
-/

namespace Stanza.Text

/-! ### Trimming -/

theorem dropWhile_eq_self {chars : List Char} (first : ∀ c ∈ chars.head?, isBlank c = false) :
    chars.dropWhile isBlank = chars := by
  cases chars with
  | nil => rfl
  | cons c rest =>
      have visible : isBlank c = false := first c rfl
      rw [List.dropWhile_cons_of_neg (by simp [visible])]

/-- A text that neither starts nor ends with a blank character and is not empty. -/
def Framed (text : String) : Prop :=
  (∃ c, text.toList.head? = some c ∧ isBlank c = false) ∧
    ∃ c, text.toList.getLast? = some c ∧ isBlank c = false

def isBlankText (text : String) : Bool := text.toList.all isBlank

theorem dropWhile_blank_append {text : String} (blank : isBlankText text = true)
    (rest : List Char) : (text.toList ++ rest).dropWhile isBlank = rest.dropWhile isBlank :=
  List.dropWhile_append_of_pos (List.all_eq_true.mp blank)

/-- Trimming takes what is blank at the ends, and nothing else. -/
theorem Framed.trim_between {text : String} (framed : Framed text) {front back : String}
    (blankFront : isBlankText front = true) (blankBack : isBlankText back = true) :
    trim (front ++ text ++ back) = text := by
  obtain ⟨⟨first, isFirst, firstVisible⟩, last, isLast, lastVisible⟩ := framed
  have blankReverse : back.toList.reverse.all isBlank = true := by
    rw [List.all_reverse]
    exact blankBack
  have fromFront : (text.toList ++ back.toList).dropWhile isBlank =
      text.toList ++ back.toList := by
    apply dropWhile_eq_self
    intro c isHead
    rw [List.head?_append, isFirst] at isHead
    cases isHead
    exact firstVisible
  have fromBack : text.toList.reverse.dropWhile isBlank = text.toList.reverse := by
    apply dropWhile_eq_self
    intro c isEnd
    rw [List.head?_reverse, isLast] at isEnd
    cases isEnd
    exact lastVisible
  unfold trim trimChars
  rw [String.append_assoc, String.toList_append, String.toList_append,
    dropWhile_blank_append blankFront, fromFront, List.reverse_append,
    List.dropWhile_append_of_pos (List.all_eq_true.mp blankReverse), fromBack,
    List.reverse_reverse, String.ofList_toList]

theorem Framed.trim_eq {text : String} (framed : Framed text) : trim text = text := by
  have within : trim ("" ++ text ++ "") = text := framed.trim_between rfl rfl
  rwa [String.empty_append, String.append_empty] at within

theorem Framed.trim_line {text : String} (framed : Framed text) : trim (text ++ "\n") = text := by
  have within : trim ("" ++ text ++ "\n") = text := framed.trim_between rfl (by decide)
  rwa [String.empty_append] at within

theorem Framed.ne_empty {text : String} (framed : Framed text) : text ≠ "" := by
  rintro rfl
  obtain ⟨⟨first, isFirst, _⟩, _⟩ := framed
  cases isFirst

/-! ### Paragraphs -/

theorem paragraphs_append (left right : List String) :
    paragraphs (left ++ right) = paragraphs left ++ paragraphs right := by
  simp [paragraphs]

theorem paragraphs_eq_self {texts : List String} (framed : ∀ text ∈ texts, Framed text) :
    paragraphs texts = texts := by
  have trimmed : texts.map trim = texts := by
    refine (List.map_congr_left fun text member => (framed text member).trim_eq).trans ?_
    exact List.map_id' texts
  unfold paragraphs
  rw [trimmed, List.filter_eq_self]
  intro text member
  simpa using (framed text member).ne_empty

/-- One blank line between neighbours and one line end after the last; nothing for nothing. -/
def separated (texts : List String) : String :=
  if texts = [] then "" else "\n\n".intercalate texts ++ "\n"

theorem layParagraphs_eq_separated (texts : List String) :
    layParagraphs texts = separated texts := by
  cases texts with
  | nil => rfl
  | cons first rest =>
      have folded (text : String) :
          rest.foldl (fun text next => text ++ "\n\n" ++ next) text =
            "\n\n".intercalate (text :: rest) := by
        induction rest generalizing text with
        | nil => simp
        | cons next others ih => rw [List.foldl_cons, ih]; simp [String.append_assoc]
      rw [layParagraphs, folded, separated, if_neg (List.cons_ne_nil first rest)]

theorem joinStanzas_eq_separated (texts : List String) :
    joinStanzas texts = separated (paragraphs texts) :=
  layParagraphs_eq_separated (paragraphs texts)

/-! ### Trimmed texts -/

theorem isBlank_of_head?_dropWhile (chars : List Char) {c : Char}
    (first : (chars.dropWhile isBlank).head? = some c) : isBlank c = false := by
  have visible := List.head?_dropWhile_not isBlank chars
  rw [first] at visible
  exact visible

theorem Framed.of_trim {text : String} (visible : trim text ≠ "") : Framed (trim text) := by
  unfold trim at visible ⊢
  unfold Framed
  rw [String.toList_ofList]
  have remains : trimChars text.toList ≠ [] := by
    intro nothing
    rw [nothing] at visible
    exact visible rfl
  unfold trimChars at remains ⊢
  generalize dropped : text.toList.dropWhile isBlank = chars at remains ⊢
  have reversed : chars.reverse.dropWhile isBlank ≠ [] := by
    intro nothing
    rw [nothing] at remains
    exact remains rfl
  constructor
  · -- what is dropped at the end leaves the first character where it is
    obtain ⟨back, split⟩ := List.dropWhile_suffix (l := chars.reverse) isBlank
    have front : chars = (chars.reverse.dropWhile isBlank).reverse ++ back.reverse := by
      rw [← List.reverse_append, split, List.reverse_reverse]
    obtain ⟨c, rest, isFirst⟩ := List.exists_cons_of_ne_nil remains
    refine ⟨c, by rw [isFirst]; rfl, ?_⟩
    apply isBlank_of_head?_dropWhile text.toList
    rw [dropped, front, isFirst]
    rfl
  · obtain ⟨c, rest, isFirst⟩ := List.exists_cons_of_ne_nil reversed
    refine ⟨c, by rw [List.getLast?_reverse, isFirst]; rfl, ?_⟩
    apply isBlank_of_head?_dropWhile chars.reverse
    rw [isFirst]
    rfl

theorem framed_of_mem_paragraphs {texts : List String} {text : String}
    (member : text ∈ paragraphs texts) : Framed text := by
  obtain ⟨trimmed, visible⟩ := List.mem_filter.mp member
  obtain ⟨source, _, rfl⟩ := List.mem_map.mp trimmed
  exact Framed.of_trim (by simpa using visible)

theorem Framed.append {front back : String} (first : Framed front) (between : String)
    (last : Framed back) : Framed (front ++ between ++ back) := by
  obtain ⟨⟨c, isFirst, visible⟩, _⟩ := first
  obtain ⟨_, d, isLast, shown⟩ := last
  refine ⟨⟨c, ?_, visible⟩, d, ?_, shown⟩
  · rw [String.append_assoc, String.toList_append, List.head?_append, isFirst]
    rfl
  · rw [String.toList_append, List.getLast?_append, isLast]
    rfl

theorem framed_intercalate {texts : List String} (nonempty : texts ≠ [])
    (framed : ∀ text ∈ texts, Framed text) : Framed ("\n\n".intercalate texts) := by
  induction texts with
  | nil => exact absurd rfl nonempty
  | cons first rest ih =>
      have atFirst : Framed first := framed first List.mem_cons_self
      by_cases alone : rest = []
      · rw [alone, String.intercalate_singleton]
        exact atFirst
      · have atRest := ih alone fun text member => framed text (List.mem_cons_of_mem _ member)
        rw [String.intercalate_cons_of_ne_nil alone]
        exact atFirst.append "\n\n" atRest

/-- What is left of a text without the blank characters at its ends. -/
structure TrimsTo (text inner : String) : Prop where
  framed : Framed inner
  between : ∃ front back, text = front ++ inner ++ back ∧ isBlankText front = true ∧
    isBlankText back = true

/-- Trimming splits a text into what is blank at its ends and what stands between. -/
theorem exists_eq_trim_between (text : String) :
    ∃ front back, text = front ++ trim text ++ back ∧ isBlankText front = true ∧
      isBlankText back = true := by
  let chars := text.toList.dropWhile isBlank
  refine ⟨String.ofList (text.toList.takeWhile isBlank),
    String.ofList (chars.reverse.takeWhile isBlank).reverse, ?_, ?_, ?_⟩
  · have back : (chars.reverse.dropWhile isBlank).reverse ++
        (chars.reverse.takeWhile isBlank).reverse = chars := by
      rw [← List.reverse_append, List.takeWhile_append_dropWhile, List.reverse_reverse]
    rw [trim, trimChars, String.append_assoc, ← String.ofList_append, ← String.ofList_append,
      back, List.takeWhile_append_dropWhile, String.ofList_toList]
  · rw [isBlankText, String.toList_ofList]
    exact List.all_takeWhile
  · rw [isBlankText, String.toList_ofList, List.all_reverse]
    exact List.all_takeWhile

theorem trim_eq_empty_iff {text : String} : trim text = "" ↔ isBlankText text = true := by
  constructor
  · intro nothing
    obtain ⟨front, back, split, blankFront, blankBack⟩ := exists_eq_trim_between text
    rw [split, nothing, String.append_empty]
    unfold isBlankText at blankFront blankBack ⊢
    rw [String.toList_append, List.all_append, blankFront, blankBack]
    rfl
  · intro blank
    have dropped := dropWhile_blank_append blank []
    rw [List.append_nil] at dropped
    rw [trim, trimChars, dropped]
    rfl

theorem trimsTo_iff {text inner : String} :
    TrimsTo text inner ↔ trim text = inner ∧ inner ≠ "" := by
  constructor
  · rintro ⟨framed, front, back, rfl, blankFront, blankBack⟩
    exact ⟨framed.trim_between blankFront blankBack, framed.ne_empty⟩
  · rintro ⟨rfl, visible⟩
    exact ⟨.of_trim visible, exists_eq_trim_between text⟩

/-! ### Paragraphs of texts that are not blank -/

theorem paragraphs_eq_map_trim (texts : List String) :
    paragraphs texts = (texts.filter fun text => !isBlankText text).map trim := by
  unfold paragraphs
  rw [List.filter_map]
  congr 2
  funext text
  rw [Function.comp_apply, Bool.eq_iff_iff]
  simp [trim_eq_empty_iff]

theorem paragraphs_eq_nil_iff {texts : List String} :
    paragraphs texts = [] ↔ ∀ text ∈ texts, isBlankText text = true := by
  simp [paragraphs_eq_map_trim]

theorem trimsTo_paragraphs (texts : List String) :
    List.Forall₂ TrimsTo (texts.filter fun text => !isBlankText text) (paragraphs texts) := by
  rw [paragraphs_eq_map_trim, List.forall₂_map_right_iff, List.forall₂_same]
  intro text member
  refine trimsTo_iff.mpr ⟨rfl, fun nothing => ?_⟩
  have visible := (List.mem_filter.mp member).2
  rw [trim_eq_empty_iff.mp nothing] at visible
  cases visible

/-! ### Joining what is joined -/

theorem paragraphs_joinStanzas (texts : List String) :
    paragraphs [joinStanzas texts] =
      if paragraphs texts = [] then [] else ["\n\n".intercalate (paragraphs texts)] := by
  rw [joinStanzas_eq_separated]
  unfold separated
  by_cases blank : paragraphs texts = []
  · rw [if_pos blank, if_pos blank]
    rfl
  · have framed := framed_intercalate blank fun _ member => framed_of_mem_paragraphs member
    rw [if_neg blank, if_neg blank]
    change [trim _].filter _ = _
    rw [framed.trim_line]
    exact List.filter_eq_self.mpr (by simpa using framed.ne_empty)

theorem intercalate_paragraphs_joined (groups : List (List String)) :
    (paragraphs (groups.map joinStanzas) = [] ↔ paragraphs groups.flatten = []) ∧
      "\n\n".intercalate (paragraphs (groups.map joinStanzas)) =
        "\n\n".intercalate (paragraphs groups.flatten) := by
  induction groups with
  | nil => exact ⟨Iff.rfl, rfl⟩
  | cons group rest ih =>
      obtain ⟨sameEmpty, sameText⟩ := ih
      rw [List.map_cons, List.flatten_cons, ← List.singleton_append, paragraphs_append,
        paragraphs_append, paragraphs_joinStanzas]
      by_cases blank : paragraphs group = []
      · rw [if_pos blank, blank, List.nil_append, List.nil_append]
        exact ⟨sameEmpty, sameText⟩
      · rw [if_neg blank, List.singleton_append]
        refine ⟨by simp [blank], ?_⟩
        by_cases last : paragraphs rest.flatten = []
        · rw [last, sameEmpty.mpr last, List.append_nil, String.intercalate_singleton]
        · rw [String.intercalate_cons_of_ne_nil (mt sameEmpty.mp last),
            String.intercalate_append_of_ne_nil blank last, sameText]

/-- Joining groups of stanzas and then the joined texts is joining all stanzas at once. -/
theorem joinStanzas_map_joinStanzas (groups : List (List String)) :
    joinStanzas (groups.map joinStanzas) = joinStanzas groups.flatten := by
  obtain ⟨sameEmpty, sameText⟩ := intercalate_paragraphs_joined groups
  rw [joinStanzas_eq_separated, joinStanzas_eq_separated]
  unfold separated
  by_cases blank : paragraphs groups.flatten = []
  · rw [if_pos blank, if_pos (sameEmpty.mpr blank)]
  · rw [if_neg blank, if_neg (mt sameEmpty.mp blank), sameText]

theorem joinStanzas_append (front back : List String) :
    joinStanzas (front ++ back) = joinStanzas [joinStanzas front, joinStanzas back] := by
  have joined := joinStanzas_map_joinStanzas [front, back]
  rw [List.flatten_cons, List.flatten_singleton] at joined
  exact joined.symm

theorem joinStanzas_eq_empty_iff {texts : List String} :
    joinStanzas texts = "" ↔ ∀ text ∈ texts, isBlankText text = true := by
  rw [← paragraphs_eq_nil_iff, joinStanzas_eq_separated, separated]
  by_cases none : paragraphs texts = []
  · simp [none]
  · simp [none, String.append_eq_empty_iff]

/--
Joining what is joined is joining all at once, and once more changes nothing. Nothing comes of
blank texts alone; otherwise the result is what trimming leaves of each text that is not blank, in
order and with one blank line between neighbours. So it starts with a visible character and ends
with one and a single line end.
-/
theorem joinStanzas_flattens :
    (∀ groups : List (List String),
      joinStanzas (groups.map joinStanzas) = joinStanzas groups.flatten) ∧
    (∀ texts, joinStanzas [joinStanzas texts] = joinStanzas texts) ∧
    ∀ texts,
      (joinStanzas texts = "" ↔ ∀ text ∈ texts, isBlankText text = true) ∧
      (joinStanzas texts ≠ "" → ∃ body parts, joinStanzas texts = body ++ "\n" ∧ Framed body ∧
        body = "\n\n".intercalate parts ∧
        List.Forall₂ TrimsTo (texts.filter fun text => !isBlankText text) parts) := by
  refine ⟨joinStanzas_map_joinStanzas, ?_, fun texts => ⟨joinStanzas_eq_empty_iff, ?_⟩⟩
  · intro texts
    have joined := joinStanzas_map_joinStanzas [texts]
    rwa [List.flatten_singleton] at joined
  · intro written
    have remains : paragraphs texts ≠ [] :=
      mt (fun none => joinStanzas_eq_empty_iff.mpr (paragraphs_eq_nil_iff.mp none)) written
    refine ⟨_, paragraphs texts, ?_, ?_, rfl, trimsTo_paragraphs texts⟩
    · rw [joinStanzas_eq_separated, separated, if_neg remains]
    · exact framed_intercalate remains fun _ => framed_of_mem_paragraphs

/-- An ideographic space before the first stanza and a blank line within it. -/
def looseStanzas : List String := ["\u3000a\n\nb\n", " \t", "c"]

theorem looseStanzas_joined :
    joinStanzas looseStanzas ≠ "" ∧ joinStanzas looseStanzas = "a\n\nb\n\nc\n" ∧
      ∃ body parts, joinStanzas looseStanzas = body ++ "\n" ∧ Framed body ∧
        body = "\n\n".intercalate parts ∧
        List.Forall₂ TrimsTo (looseStanzas.filter fun text => !isBlankText text) parts :=
  ⟨by decide, by decide, (joinStanzas_flattens.2.2 looseStanzas).2 (by decide)⟩

end Stanza.Text
