import Mathlib.Data.List.Infix
import Mathlib.Data.List.TakeWhile
import Stanza.Files.Tree

set_option autoImplicit false

/-!
The names along joined paths and along the paths of parents: a joined name comes last, and
the path of the parent of a joined path has the names of the base, less dots at its end.
-/

namespace Stanza.Files

/-! ### Parts between slashes -/

theorem splitChars_ne_nil (chars : List Char) : splitChars chars ≠ [] := by
  cases chars with
  | nil => simp [splitChars]
  | cons c rest =>
      unfold splitChars
      by_cases slash : c = '/'
      · simp [slash]
      · rw [if_neg slash]
        cases splitChars rest <;> simp

theorem splitChars_append_slash (left right : List Char) :
    splitChars (left ++ '/' :: right) = splitChars left ++ splitChars right := by
  induction left with
  | nil => simp [splitChars]
  | cons c rest ih =>
      rw [List.cons_append, splitChars, splitChars, ih]
      by_cases slash : c = '/'
      · rw [if_pos slash, if_pos slash, List.cons_append]
      · rw [if_neg slash, if_neg slash]
        cases parts : splitChars rest with
        | nil => exact absurd parts (splitChars_ne_nil rest)
        | cons part others => rfl

theorem splitChars_eq_self {chars : List Char} (plain : '/' ∉ chars) :
    splitChars chars = [chars] := by
  induction chars with
  | nil => rfl
  | cons c rest ih =>
      have noSlash : ¬ c = '/' := fun slash => plain (slash ▸ List.mem_cons_self)
      have later : '/' ∉ rest := fun member => plain (List.mem_cons_of_mem c member)
      rw [splitChars, if_neg noSlash, ih later]

theorem not_mem_of_mem_splitChars {chars part : List Char} (member : part ∈ splitChars chars) :
    '/' ∉ part := by
  induction chars generalizing part with
  | nil =>
      rw [splitChars, List.mem_singleton] at member
      rw [member]
      exact List.not_mem_nil
  | cons c rest ih =>
      rw [splitChars] at member
      by_cases slash : c = '/'
      · rw [if_pos slash] at member
        rcases List.mem_cons.mp member with rfl | later
        · exact List.not_mem_nil
        · exact ih later
      · rw [if_neg slash] at member
        cases parts : splitChars rest with
        | nil => exact absurd parts (splitChars_ne_nil rest)
        | cons first others =>
            rw [parts] at ih member
            rcases List.mem_cons.mp member with rfl | later
            · intro inside
              rcases List.mem_cons.mp inside with same | below
              · exact slash same.symm
              · exact ih List.mem_cons_self below
            · exact ih (List.mem_cons_of_mem first later)

theorem splitPath_append_slash (left right : String) :
    splitPath (left ++ "/" ++ right) = splitPath left ++ splitPath right := by
  have chars : (left ++ "/" ++ right).toList = left.toList ++ '/' :: right.toList := by
    simp
  unfold splitPath
  rw [chars, splitChars_append_slash, List.map_append]

theorem splitPath_eq_self {text : String} (plain : '/' ∉ text.toList) :
    splitPath text = [text] := by
  unfold splitPath
  rw [splitChars_eq_self plain, List.map_singleton, String.ofList_toList]

theorem not_mem_of_mem_splitPath {path part : String} (member : part ∈ splitPath path) :
    '/' ∉ part.toList := by
  obtain ⟨chars, inside, rfl⟩ := List.mem_map.mp member
  rw [String.toList_ofList]
  exact not_mem_of_mem_splitChars inside

theorem splitPath_intercalate {parts : List String} (some_part : parts ≠ [])
    (plain : ∀ part ∈ parts, '/' ∉ part.toList) :
    splitPath ("/".intercalate parts) = parts := by
  induction parts with
  | nil => exact absurd rfl some_part
  | cons first rest ih =>
      have firstPlain : '/' ∉ first.toList := plain first List.mem_cons_self
      cases rest with
      | nil =>
          rw [String.intercalate_singleton]
          exact splitPath_eq_self firstPlain
      | cons second others =>
          rw [String.intercalate_cons_cons, splitPath_append_slash, splitPath_eq_self firstPlain,
            ih (by simp) fun part member => plain part (List.mem_cons_of_mem first member)]
          rfl

/-! ### Joined paths -/

/-- A name that a path may end in: it is not made of dots and can be the name of a file. -/
structure IsName (name : String) : Prop where
  nonempty : name ≠ ""
  noSlash : '/' ∉ name.toList
  notDot : name ≠ "."
  notDots : name ≠ ".."
  short : name.utf8ByteSize ≤ nameLimit

theorem isName_of {name : String} (holds : (decide (name ≠ "") && decide ('/' ∉ name.toList) &&
    decide (name ≠ ".") && decide (name ≠ "..") && decide (name.utf8ByteSize ≤ nameLimit)) = true) :
    IsName name := by
  simp only [Bool.and_eq_true, decide_eq_true_eq] at holds
  exact ⟨holds.1.1.1.1, holds.1.1.1.2, holds.1.1.2, holds.1.2, holds.2⟩

theorem IsName.not_isAbsolute {name : String} (named : IsName name) : isAbsolute name = false := by
  unfold isAbsolute
  cases chars : name.toList with
  | nil => rfl
  | cons c rest =>
      have noSlash : c ≠ '/' := by
        intro slash
        apply named.noSlash
        rw [chars, slash]
        exact List.mem_cons_self
      simp [noSlash]

theorem join_empty (path : String) : join "" path = path := by simp [join]

theorem join_eq (base : String) {name : String} (named : IsName name) :
    join base name =
      if base = "" then name
      else if endsWithSlash base then base ++ name else base ++ "/" ++ name := by
  unfold join
  by_cases empty : base = ""
  · simp [empty]
  · simp [empty, named.not_isAbsolute]

theorem eq_append_slash_of_endsWithSlash {path : String} (ends : endsWithSlash path = true) :
    ∃ front, path = front ++ "/" := by
  have last : path.toList.getLast? = some '/' := by simpa [endsWithSlash] using ends
  obtain ⟨front, chars⟩ := List.getLast?_eq_some_iff.mp last
  refine ⟨String.ofList front, ?_⟩
  rw [← String.toList_inj, chars]
  simp

theorem splitPath_join (base : String) {name : String} (named : IsName name) :
    ∃ parts, splitPath (join base name) = parts ++ [name] ∧
      parts.filter (fun part => part ≠ "") = names base := by
  have single : splitPath name = [name] := splitPath_eq_self named.noSlash
  rw [join_eq base named]
  by_cases empty : base = ""
  · refine ⟨[], ?_, ?_⟩
    · rw [if_pos empty, single, List.nil_append]
    · rw [empty]
      rfl
  · rw [if_neg empty]
    by_cases ends : endsWithSlash base = true
    · rw [if_pos ends]
      obtain ⟨front, rfl⟩ := eq_append_slash_of_endsWithSlash ends
      refine ⟨splitPath front, ?_, ?_⟩
      · rw [splitPath_append_slash, single]
      · have parts : splitPath (front ++ "/") = splitPath front ++ [""] := by
          have split := splitPath_append_slash front ""
          rw [String.append_empty] at split
          exact split
        rw [names, parts, List.filter_append]
        simp
    · refine ⟨splitPath base, ?_, rfl⟩
      rw [if_neg ends, splitPath_append_slash, single]

theorem names_join (base : String) {name : String} (named : IsName name) :
    names (join base name) = names base ++ [name] := by
  obtain ⟨parts, split, kept⟩ := splitPath_join base named
  rw [names, split, List.filter_append, kept]
  simp [named.nonempty]

theorem toList_join_getLast? (base : String) {name : String} (named : IsName name) :
    (join base name).toList.getLast? = name.toList.getLast? := by
  have some_char : name.toList ≠ [] := by
    simpa using named.nonempty
  have at_end (front : String) : (front ++ name).toList.getLast? = name.toList.getLast? := by
    rw [String.toList_append, List.getLast?_append_of_ne_nil _ some_char]
  rw [join_eq base named]
  split_ifs
  · rfl
  · exact at_end base
  · exact at_end (base ++ "/")

theorem steps_join (base : String) {name : String} (named : IsName name) :
    steps (join base name) = names base ++ [name] := by
  have noSlash : endsWithSlash (join base name) = false := by
    unfold endsWithSlash
    rw [toList_join_getLast? base named]
    cases last : name.toList.getLast? with
    | none => rfl
    | some c =>
        have other : c ≠ '/' := by
          rintro rfl
          exact named.noSlash (List.mem_of_getLast? last)
        simp [other]
  rw [steps, names_join base named, noSlash]
  simp

theorem join_ne_empty (base : String) {name : String} (named : IsName name) :
    join base name ≠ "" := by
  intro empty
  have parts := names_join base named
  rw [empty] at parts
  have lengths := congrArg List.length parts
  simp [names, splitPath, splitChars] at lengths

theorem isAbsolute_append {front : String} (rest : String) (nonempty : front ≠ "") :
    isAbsolute (front ++ rest) = isAbsolute front := by
  unfold isAbsolute
  cases chars : front.toList with
  | nil => exact absurd (String.toList_eq_nil_iff.mp chars) nonempty
  | cons c others =>
      rw [String.toList_append, chars]
      rfl

theorem isAbsolute_join {base name : String} (named : IsName name)
    (relative : isAbsolute base = false) : isAbsolute (join base name) = false := by
  rw [join_eq base named]
  split_ifs with empty ends
  · exact named.not_isAbsolute
  · rw [isAbsolute_append name empty, relative]
  · rw [String.append_assoc, isAbsolute_append _ empty, relative]

/-! ### Parents -/

/-- Only empty parts and dots are trimmed. -/
theorem trimParts_append (parts : List String) :
    ∃ dropped, parts = trimParts parts ++ dropped ∧
      ∀ part ∈ dropped, part = "" ∨ part = "." := by
  cases parts with
  | nil => exact ⟨[], rfl, by simp⟩
  | cons first rest =>
      refine ⟨(rest.reverse.takeWhile fun part => part = "" || part = ".").reverse, ?_, ?_⟩
      · have whole := List.takeWhile_append_dropWhile
          (p := fun part : String => decide (part = "") || decide (part = ".")) (l := rest.reverse)
        rw [trimParts, List.cons_append, ← List.reverse_append, whole, List.reverse_reverse]
      · intro part member
        have dotted := List.mem_takeWhile_imp (List.mem_reverse.mp member)
        simpa using dotted

theorem trimParts_concat (parts : List String) {name : String} (named : IsName name) :
    trimParts (parts ++ [name]) = parts ++ [name] := by
  cases parts with
  | nil => rfl
  | cons first rest =>
      rw [List.cons_append, trimParts, List.reverse_append, List.reverse_singleton,
        List.singleton_append, List.dropWhile_cons_of_neg (by simp [named.nonempty, named.notDot])]
      simp

theorem names_parent (path : String) :
    names (parent path) =
      (trimParts (trimParts (splitPath path)).dropLast).filter fun part => part ≠ "" := by
  obtain ⟨dropped, whole, _⟩ := trimParts_append (splitPath path)
  unfold parent
  cases above : (trimParts (splitPath path)).dropLast with
  | nil => rfl
  | cons first rest =>
      obtain ⟨trimmed, parts, _⟩ := trimParts_append (first :: rest)
      by_cases root : trimParts (first :: rest) = [""]
      · simp only [root]
        rfl
      · have plain : ∀ part ∈ trimParts (first :: rest), '/' ∉ part.toList := by
          intro part member
          have inside : part ∈ (trimParts (splitPath path)).dropLast := by
            rw [above, parts]
            exact List.mem_append_left trimmed member
          apply not_mem_of_mem_splitPath
          rw [whole]
          exact List.mem_append_left dropped (List.mem_of_mem_dropLast inside)
        simp only [if_neg root]
        rw [names, splitPath_intercalate (by simp [trimParts]) plain]

theorem names_parent_isPrefix (path : String) : names (parent path) <+: names path := by
  obtain ⟨dropped, whole, _⟩ := trimParts_append (splitPath path)
  obtain ⟨trimmed, parts, _⟩ := trimParts_append (trimParts (splitPath path)).dropLast
  have kept : trimParts (trimParts (splitPath path)).dropLast <+: splitPath path := by
    have first : trimParts (trimParts (splitPath path)).dropLast <+:
        (trimParts (splitPath path)).dropLast := ⟨trimmed, parts.symm⟩
    have second : (trimParts (splitPath path)).dropLast <+: trimParts (splitPath path) :=
      List.dropLast_prefix _
    exact (first.trans second).trans ⟨dropped, whole.symm⟩
  rw [names_parent]
  exact kept.filter _

/-- The parent of a joined path is the base, less dots at the end of its path. -/
theorem names_parent_join (base : String) {name : String} (named : IsName name) :
    ∃ dots, names base = names (parent (join base name)) ++ dots ∧ ∀ step ∈ dots, step = "." := by
  obtain ⟨parts, split, kept⟩ := splitPath_join base named
  obtain ⟨dropped, whole, dotted⟩ := trimParts_append parts
  refine ⟨dropped.filter fun part => part ≠ "", ?_, ?_⟩
  · rw [names_parent, split, trimParts_concat parts named, List.dropLast_concat, ← kept,
      ← List.filter_append, ← whole]
  · intro step member
    have inside := List.mem_filter.mp member
    rcases dotted step inside.1 with empty | dot
    · simp [empty] at inside
    · exact dot

end Stanza.Files
