import Stanza.Proofs.Render.Steps

set_option autoImplicit false

/-!
What one value costs in questions. From a union on, a rendering follows the answers of the
resolver as long as they are unions again, and asks at most sixteen times; the first other
answer decides what becomes of the value, and the companions of all questions come first.
-/

namespace Stanza

open Render

/-- Puts the companions of earlier questions in front. -/
def Render.Rendered.behind (earlier : List Consultation) (rendered : Rendered) : Rendered :=
  ⟨rendered.text, earlier.flatMap Consultation.companions ++ rendered.companions⟩

theorem Render.Rendered.behind_nil : Rendered.behind [] = id := rfl

theorem Render.Rendered.behind_cons (first : Consultation) (others : List Consultation) :
    Rendered.behind (first :: others) = Rendered.behind [first] ∘ Rendered.behind others := by
  funext rendered
  simp [Rendered.behind]

/-- A rendering with the consultations about its value, in the order in which they were held. -/
structure Logged where
  consultations : List Consultation
  outcome : Except RenderError Rendered

def Logged.behind (earlier : List Consultation) (logged : Logged) : Logged :=
  ⟨earlier ++ logged.consultations, logged.outcome.map (Rendered.behind earlier)⟩

theorem Logged.behind_nil (logged : Logged) : logged.behind [] = logged := by
  obtain ⟨consultations, outcome⟩ := logged
  cases outcome <;> rfl

theorem Logged.behind_cons (first : Consultation) (others : List Consultation)
    (logged : Logged) :
    logged.behind (first :: others) = (logged.behind others).behind [first] := by
  obtain ⟨consultations, outcome⟩ := logged
  rw [behind, behind, behind, Rendered.behind_cons]
  cases outcome <;> rfl

namespace Renderer

/-- Renders a value as `renderNode` does, and logs each question that is put about it. A value
that is settled is rendered without a log of the questions inside it. -/
def renderLogged (renderer : Renderer) (resourceType : String) :
    (nesting : Nat) → Schema → Value → (level : Nat) → Location → (depth : Nat) → Logged
  | nesting + 1, .union label alternatives, value, level, location, depth =>
      if resolutionLimit ≤ depth then ⟨[], .error (.resolutionDepthExceeded location depth)⟩
      else
        let consultation := renderer.resolver resourceType (.union label alternatives) value
        match consultation.answer with
        | .error source => ⟨[consultation], .error (.resolution location source)⟩
        | .ok (.direct text) => ⟨[consultation], .ok ⟨text, consultation.companions⟩⟩
        | .ok (.indirect next inner) =>
            (renderer.renderLogged resourceType nesting next inner level location
              (depth + 1)).behind [consultation]
  | nesting, schema, value, level, location, depth =>
      ⟨[], renderer.renderNode resourceType nesting schema value level location depth⟩

variable (renderer : Renderer) (resourceType : String)

theorem renderLogged_union (nesting : Nat) (label : Label) (alternatives : List Schema)
    (value : Value) (level : Nat) (location : Location) {depth : Nat} (few : depth < 16) :
    let consultation := renderer.resolver resourceType (.union label alternatives) value
    renderer.renderLogged resourceType (nesting + 1) (.union label alternatives) value level
        location depth =
      match consultation.answer with
      | .error source => ⟨[consultation], .error (.resolution location source)⟩
      | .ok (.direct text) => ⟨[consultation], .ok ⟨text, consultation.companions⟩⟩
      | .ok (.indirect next inner) =>
          (renderer.renderLogged resourceType nesting next inner level location
            (depth + 1)).behind [consultation] := by
  have notDeep : ¬ resolutionLimit ≤ depth := Nat.not_le.mpr few
  rw [renderLogged, if_neg notDeep]

theorem renderLogged_union_deep (nesting : Nat) (label : Label) (alternatives : List Schema)
    (value : Value) (level : Nat) (location : Location) {depth : Nat} (many : 16 ≤ depth) :
    renderer.renderLogged resourceType (nesting + 1) (.union label alternatives) value level
        location depth = ⟨[], .error (.resolutionDepthExceeded location depth)⟩ := by
  have deep : resolutionLimit ≤ depth := many
  rw [renderLogged, if_pos deep]

theorem renderLogged_settled {schema : Schema}
    (single : ∀ label others, schema ≠ .union label others) (nesting : Nat) (value : Value)
    (level : Nat) (location : Location) (depth : Nat) :
    renderer.renderLogged resourceType nesting schema value level location depth =
      ⟨[], renderer.renderNode resourceType nesting schema value level location depth⟩ := by
  cases schema with
  | union label others => exact absurd rfl (single label others)
  | scalar | list | dictionary | record => cases nesting <;> rfl

/-- The log is of the rendering itself; by induction on the nesting. -/
theorem outcome_renderLogged (nesting : Nat) (schema : Schema) (value : Value) (level : Nat)
    (location : Location) (depth : Nat) :
    (renderer.renderLogged resourceType nesting schema value level location depth).outcome =
      renderer.renderNode resourceType nesting schema value level location depth := by
  induction nesting generalizing schema value depth with
  | zero => cases schema <;> rfl
  | succ nesting ih =>
      cases schema with
      | scalar | list | dictionary | record => rfl
      | union label alternatives =>
          rw [renderNode_union]
          by_cases deep : resolutionLimit ≤ depth
          · rw [renderLogged_union_deep _ _ _ _ _ _ _ _ deep, renderUnion, if_pos deep]
          · rw [renderLogged_union _ _ _ _ _ _ _ _ (Nat.not_le.mp deep), renderUnion,
              if_neg deep]
            cases answer : (renderer.resolver resourceType (.union label alternatives)
                value).answer with
            | error source => simp only [answer]
            | ok resolution =>
                cases resolution with
                | direct text => simp only [answer]
                | indirect next inner =>
                    simp only [answer, Logged.behind, ih]
                    cases renderer.renderNode resourceType nesting next inner level location
                      (depth + 1) <;> simp [Except.map, Rendered.behind, bind, Except.bind, pure,
                        Except.pure]

/-- The number of unions above matters to unions only. -/
theorem renderNode_depth {schema : Schema} (single : ∀ label others, schema ≠ .union label others)
    (nesting : Nat) (value : Value) (level : Nat) (location : Location) (depth another : Nat) :
    renderer.renderNode resourceType nesting schema value level location depth =
      renderer.renderNode resourceType nesting schema value level location another := by
  cases schema with
  | union label others => exact absurd rfl (single label others)
  | scalar label kind => cases nesting <;> cases kind <;> rfl
  | list | dictionary | record => cases nesting <;> rfl

end Renderer

/-! ### Following the answers -/

/-- The answers of a resolver lead from one question to another: each consultation is about a
union, and its answer is the next question. -/
inductive Pursuit (resolver : Resolver) (resourceType : String) :
    Schema → Value → List Consultation → Schema → Value → Prop
  | here {schema : Schema} {value : Value} :
      Pursuit resolver resourceType schema value [] schema value
  | answered {label : Label} {alternatives : List Schema} {value inner reached : Value}
      {next last : Schema} {consultations : List Consultation}
      (answer : (resolver resourceType (.union label alternatives) value).answer =
        .ok (.indirect next inner))
      (further : Pursuit resolver resourceType next inner consultations last reached) :
      Pursuit resolver resourceType (.union label alternatives) value
        (resolver resourceType (.union label alternatives) value :: consultations) last reached

/-- A question that leads no further: it is about no union, or not answered by a question. -/
inductive Settled (resolver : Resolver) (resourceType : String) : Schema → Value → Prop
  | single {schema : Schema} {value : Value}
      (noUnion : ∀ label others, schema ≠ .union label others) :
      Settled resolver resourceType schema value
  | direct {label : Label} {alternatives : List Schema} {value : Value} {text : String}
      (answer : (resolver resourceType (.union label alternatives) value).answer =
        .ok (.direct text)) :
      Settled resolver resourceType (.union label alternatives) value
  | failed {label : Label} {alternatives : List Schema} {value : Value} {source : RenderError}
      (answer : (resolver resourceType (.union label alternatives) value).answer =
        .error source) :
      Settled resolver resourceType (.union label alternatives) value

/-- Whatever the resolver, the answers either settle the value within a limit or lead on to it;
by induction on the limit. -/
theorem exists_pursuit (resolver : Resolver) (resourceType : String) (limit : Nat)
    (schema : Schema) (value : Value) :
    ∃ held last reached, Pursuit resolver resourceType schema value held last reached ∧
      held.length ≤ limit ∧
      (held.length < limit → Settled resolver resourceType last reached) := by
  induction limit generalizing schema value with
  | zero => exact ⟨[], schema, value, .here, Nat.le_refl 0, fun less => absurd less (by simp)⟩
  | succ limit ih =>
      have stay (settled : Settled resolver resourceType schema value) :
          ∃ held last reached, Pursuit resolver resourceType schema value held last reached ∧
            held.length ≤ limit + 1 ∧
            (held.length < limit + 1 → Settled resolver resourceType last reached) :=
        ⟨[], schema, value, .here, Nat.zero_le _, fun _ => settled⟩
      cases schema with
      | scalar | list | dictionary | record =>
          refine stay (.single ?_)
          intro label others same
          cases same
      | union label alternatives =>
          cases answer : (resolver resourceType (.union label alternatives) value).answer with
          | error source => exact stay (.failed answer)
          | ok resolution =>
              cases resolution with
              | direct text => exact stay (.direct answer)
              | indirect next inner =>
                  obtain ⟨held, last, reached, further, few, settled⟩ := ih next inner
                  refine ⟨_, last, reached, .answered answer further, ?_, fun less => ?_⟩
                  · rw [List.length_cons]
                    omega
                  · rw [List.length_cons] at less
                    exact settled (by omega)

namespace Renderer

variable (renderer : Renderer) {resourceType : String}

/-- As long as the limit is not reached, the rendering of a value is that of the question to
which the answers lead, behind the consultations on the way; by induction on the pursuit. -/
theorem renderLogged_of_pursuit {schema last : Schema} {value reached : Value}
    {consultations : List Consultation}
    (pursuit : Pursuit renderer.resolver resourceType schema value consultations last reached)
    (nesting level : Nat) (location : Location) (depth : Nat)
    (few : depth + consultations.length ≤ 16) :
    renderer.renderLogged resourceType (nesting + consultations.length) schema value level
        location depth =
      (renderer.renderLogged resourceType nesting last reached level location
        (depth + consultations.length)).behind consultations := by
  induction pursuit generalizing depth with
  | here => exact (Logged.behind_nil _).symm
  | @answered label alternatives value inner reached next last consultations answer further ih =>
      rw [List.length_cons] at few
      have below : depth < 16 := by omega
      rw [List.length_cons, ← Nat.add_assoc,
        renderLogged_union renderer resourceType _ _ _ _ _ _ below, answer]
      have there := ih (depth + 1) (by omega)
      rw [Nat.add_right_comm] at there
      simp only [there, ← Logged.behind_cons, Nat.add_assoc]

/--
The budget of one value that is a union, whatever the resolver. A rendering with a log is the
rendering. If sixteen answers lead from union to union, the value fails after these sixteen
consultations. If fewer do, a text that is answered next stands verbatim, and an error of the
resolver is reported at the location of the value; and if they lead to a schema that is no
union, the result is that of rendering the value that came with it. The companions are those
of the consultations in their order, and then those of the value. One of these always happens.
-/
theorem renderNode_resolution_budget (resourceType : String) (label : Label)
    (alternatives : List Schema) (value : Value) (level : Nat) (location : Location)
    (nesting : Nat) :
    (∀ granted, (renderer.renderLogged resourceType granted (.union label alternatives) value
        level location 0).outcome =
      renderer.renderNode resourceType granted (.union label alternatives) value level
        location 0) ∧
    (∀ held lastLabel others reached,
      Pursuit renderer.resolver resourceType (.union label alternatives) value held
          (.union lastLabel others) reached →
        let last := renderer.resolver resourceType (.union lastLabel others) reached
        (held.length = 16 →
          renderer.renderLogged resourceType (nesting + 17) (.union label alternatives) value
              level location 0 =
            ⟨held, .error (.resolutionDepthExceeded location 16)⟩) ∧
        (held.length < 16 →
          (∀ text, last.answer = .ok (.direct text) →
            renderer.renderLogged resourceType (nesting + (held.length + 1))
                (.union label alternatives) value level location 0 =
              ⟨held ++ [last], .ok ⟨text, (held ++ [last]).flatMap Consultation.companions⟩⟩) ∧
          ∀ source, last.answer = .error source →
            renderer.renderLogged resourceType (nesting + (held.length + 1))
                (.union label alternatives) value level location 0 =
              ⟨held ++ [last], .error (.resolution location source)⟩)) ∧
    (∀ held next inner,
      Pursuit renderer.resolver resourceType (.union label alternatives) value held next inner →
        (∀ other others, next ≠ .union other others) → held.length ≤ 16 →
          renderer.renderLogged resourceType (nesting + held.length)
              (.union label alternatives) value level location 0 =
            ⟨held, (renderer.renderNode resourceType nesting next inner level location 0).map
              fun rest =>
                ⟨rest.text, held.flatMap Consultation.companions ++ rest.companions⟩⟩) ∧
    ∃ held last reached,
      Pursuit renderer.resolver resourceType (.union label alternatives) value held last reached ∧
        held.length ≤ 16 ∧
        (held.length < 16 → Settled renderer.resolver resourceType last reached) := by
  refine ⟨fun granted => outcome_renderLogged renderer resourceType _ _ _ _ _ _, ?_, ?_,
    exists_pursuit _ _ 16 _ _⟩
  · intro held lastLabel others reached pursuit last
    constructor
    · intro all
      have led := renderLogged_of_pursuit renderer pursuit (nesting + 1) level location 0
        (by omega)
      rw [all, Nat.zero_add, renderLogged_union_deep _ _ _ _ _ _ _ _ (Nat.le_refl 16),
        Nat.add_assoc] at led
      rw [led, Logged.behind, List.append_nil]
      rfl
    · intro fewer
      have led := renderLogged_of_pursuit renderer pursuit (nesting + 1) level location 0
        (by omega)
      rw [Nat.zero_add, renderLogged_union _ _ _ _ _ _ _ _ fewer, Nat.add_assoc,
        Nat.add_comm 1] at led
      constructor
      · intro text answer
        simp only [led, last, answer, Logged.behind, Rendered.behind, Except.map,
          List.flatMap_append, List.flatMap_singleton]
      · intro source answer
        simp only [led, last, answer, Logged.behind, Except.map]
  · intro held next inner pursuit single fewer
    rw [renderLogged_of_pursuit renderer pursuit nesting level location 0 (by omega),
      renderLogged_settled renderer resourceType single,
      renderNode_depth renderer resourceType single _ _ _ _ _ 0, Logged.behind, List.append_nil]
    rfl

end Renderer

/-! ### A resolver that counts down -/

/-- A positive number leads to the number before it, zero to a text, and a text to itself as a
string; nothing else is answered. -/
def Resolver.countdown : Resolver := fun resourceType schema value =>
  match value with
  | .number (.int number) =>
      if number ≤ 0 then ⟨["zero"], .ok (.direct "done")⟩
      else ⟨["step"], .ok (.indirect schema (.number (.int (number - 1))))⟩
  | .string text => ⟨["text"], .ok (.indirect (.scalar {} .string) (.string text))⟩
  | _ => ⟨[], .error (.unresolvedUnion resourceType schema.displayName (.other "no number"))⟩

def countedSchema : Schema := .union {} [.scalar {} .number]

def counted (number : Nat) : Value := .number (.int number)

theorem pursuit_countdown (number : Nat) : ∃ held, held.length = number ∧
    Pursuit Resolver.countdown "service" countedSchema (counted number) held countedSchema
      (counted 0) := by
  induction number with
  | zero => exact ⟨[], rfl, .here⟩
  | succ number ih =>
      obtain ⟨held, isLength, pursuit⟩ := ih
      have step : (Resolver.countdown "service" countedSchema (counted (number + 1))).answer =
          .ok (.indirect countedSchema (counted number)) := by
        have positive : ¬ ((number + 1 : Nat) : Int) ≤ 0 := by omega
        have before : ((number + 1 : Nat) : Int) - 1 = number := by omega
        simp only [Resolver.countdown, counted, if_neg positive, before]
      exact ⟨_ :: held, by rw [List.length_cons, isLength], .answered step pursuit⟩

/-- From fifteen on the sixteenth question is answered by a text, and from sixteen on by one
question too many. Below the limit also a settled value and a failure are as they should be. -/
theorem countdown_from_fifteen_and_sixteen :
    (∃ held, held.length = 16 ∧
      Renderer.renderLogged ⟨Resolver.countdown, {}, 0⟩ "service" 17 countedSchema (counted 16) 0
          (.root "service") 0 =
        ⟨held, .error (.resolutionDepthExceeded (.root "service") 16)⟩) ∧
    (∃ held last, held.length = 15 ∧
      Renderer.renderLogged ⟨Resolver.countdown, {}, 0⟩ "service" 16 countedSchema (counted 15) 0
          (.root "service") 0 =
        ⟨held ++ [last], .ok ⟨"done", (held ++ [last]).flatMap Consultation.companions⟩⟩) ∧
    Renderer.renderNode ⟨Resolver.countdown, {}, 0⟩ "service" 1 countedSchema .null 0
        (.root "service") 0 =
      .error (.resolution (.root "service")
        (.unresolvedUnion "service" "union" (.other "no number"))) ∧
    Renderer.renderNode ⟨Resolver.countdown, {}, 0⟩ "service" 2 countedSchema (.string "a") 0
        (.root "service") 0 = .ok ⟨"\"a\"", ["text"]⟩ := by
  have budget (value : Value) (nesting : Nat) := Renderer.renderNode_resolution_budget
    ⟨Resolver.countdown, {}, 0⟩ "service" {} [.scalar {} .number] value 0 (.root "service") nesting
  refine ⟨?_, ?_, ?_, ?_⟩
  · obtain ⟨held, all, pursuit⟩ := pursuit_countdown 16
    exact ⟨held, all, ((budget (counted 16) 0).2.1 held _ _ _ pursuit).1 all⟩
  · obtain ⟨held, fewer, pursuit⟩ := pursuit_countdown 15
    have ended := ((budget (counted 15) 0).2.1 held _ _ _ pursuit).2 (by omega)
    rw [fewer] at ended
    exact ⟨held, _, fewer, ended.1 "done" rfl⟩
  · have ended := ((budget .null 0).2.1 [] _ _ _ .here).2 (by decide)
    exact ((budget .null 0).1 1).symm.trans (congrArg Logged.outcome (ended.2 _ rfl))
  · have single (other : Label) (others : List Schema) :
        Schema.scalar {} .string ≠ .union other others := nofun
    have settled := (budget (.string "a") 1).2.2.1 _ (.scalar {} .string) (.string "a")
      (.answered rfl .here) single (by decide)
    exact ((budget (.string "a") 1).1 2).symm.trans (congrArg Logged.outcome settled)

end Stanza
