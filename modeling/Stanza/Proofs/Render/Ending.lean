import Stanza.Proofs.Render.Factoring
import Stanza.Proofs.Render.Nesting
import Stanza.Proofs.Table.Filling

set_option autoImplicit false

/-!
Renderings that end. The resolvers that come with the library answer with parts of the schema
they are asked about, also through chains of chains, so that no way down is longer than the
schema is high and a rendering that is granted this much nesting never uses it up.
-/

namespace Stanza

open Render

/-! ### Resolvers built from the structural one -/

/-- The structural resolver, and every chain of such resolvers. -/
inductive Resolver.BuiltIn : Resolver → Prop
  | structural : BuiltIn Resolver.structural
  | chain {chain : Chain} (fallback : BuiltIn chain.fallback)
      (providers : ∀ entry ∈ chain.providers.entries, BuiltIn entry.2) : BuiltIn chain.resolver

/-- It makes no difference which of its resolvers such a chain asks. -/
theorem Resolver.BuiltIn.eq_structural {resolver : Resolver} (builtIn : resolver.BuiltIn) :
    resolver = Resolver.structural := by
  induction builtIn with
  | structural => rfl
  | @chain chain _ _ fallbackIs providersAre =>
      funext resourceType schema value
      have routed : chain.resolverFor resourceType = Resolver.structural := by
        unfold Chain.resolverFor Table.get?
        cases found : findValue? (providerOf resourceType) chain.providers.entries with
        | none => exact fallbackIs
        | some resolver => exact providersAre _ (mem_of_findValue? found)
      rw [Chain.resolver, routed]

/-! ### Whole renderings -/

theorem SameEnd.map {α β : Type} {first second : Except RenderError α}
    (start : SameEnd first second) (change : α → β) :
    SameEnd (first.map change) (second.map change) := by
  obtain ⟨rfl, ends⟩ := start
  cases first with
  | error cause => exact .error fun location same => ends location (congrArg _ same)
  | ok result => exact .ok _

/-- What is elaborated alike is rendered alike at every level. -/
theorem Outline.Agree.sameEnd_renderNode {first second : Resolver} {resourceType : String}
    {nesting more : Nat} {call : Call}
    (agree : Agree (elaborate first resourceType nesting) (elaborate second resourceType more) call)
    (options : RenderOptions) (reach other level : Nat) (location : Location) :
    SameEnd
      (Renderer.renderNode ⟨first, options, reach⟩ resourceType nesting call.schema call.value
        level location call.unions)
      (Renderer.renderNode ⟨second, options, other⟩ resourceType more call.schema call.value
        level location call.unions) := by
  rw [renderNode_prints, renderNode_prints]
  exact (agree location).map _

/-- Whatever the resolver, nesting is used up only by a chain of as many calls. -/
theorem exists_chain_of_exhausted (renderer : Renderer) {resourceType : String} {nesting : Nat}
    (call : Call) {level : Nat} {location place : Location}
    (exhausted : renderer.renderNode resourceType nesting call.schema call.value level location
      call.unions = .error (.nestingExhausted place)) :
    ∃ calls, List.IsChain (Calls renderer.resolver resourceType) (call :: calls) ∧
      nesting ≤ calls.length := by
  by_contra none
  have short (calls : List Call)
      (chain : List.IsChain (Calls renderer.resolver resourceType) (call :: calls)) :
      calls.length < nesting :=
    Nat.not_le.mp fun long => none ⟨calls, chain, long⟩
  have ended := (Outline.agree_of_chains short (Nat.le_refl _)
    (Nat.le_refl _)).sameEnd_renderNode renderer.options renderer.reach renderer.reach level location
  exact ended.ends place exhausted

/--
Renderings with the structural resolver, or with any chain of chains of it, end. However the
value looks, no chain of calls is as long as its schema is high. Nesting is used up only by a
chain of as many calls; so a rendering that is granted at least the height of the schema never
uses it up, and more nesting gives the same.
-/
theorem renderNode_ends {resolver : Resolver} (builtIn : resolver.BuiltIn)
    (options : RenderOptions) (reach : Nat) (resourceType : String) (schema : Schema)
    (value : Value) (level : Nat) (location : Location) (depth : Nat) :
    (∀ calls, List.IsChain (Calls resolver resourceType) (⟨schema, value, depth⟩ :: calls) →
      calls.length < schema.height) ∧
    (∀ nesting place, Renderer.renderNode ⟨resolver, options, reach⟩ resourceType nesting schema
        value level location depth = .error (.nestingExhausted place) →
      ∃ calls, List.IsChain (Calls resolver resourceType) (⟨schema, value, depth⟩ :: calls) ∧
        nesting ≤ calls.length) ∧
    (∀ nesting, schema.height ≤ nesting →
      Renderer.renderNode ⟨resolver, options, reach⟩ resourceType nesting schema value level
          location depth =
        Renderer.renderNode ⟨resolver, options, reach⟩ resourceType schema.height schema value
          level location depth ∧
      ∀ place, Renderer.renderNode ⟨resolver, options, reach⟩ resourceType nesting schema value
          level location depth ≠ .error (.nestingExhausted place)) ∧
    Renderer.renderAt ⟨resolver, options, reach⟩ resourceType schema value location =
        Renderer.renderAt ⟨resolver, options, 0⟩ resourceType schema value location ∧
      ∀ place, Renderer.renderAt ⟨resolver, options, reach⟩ resourceType schema value location ≠
        .error (.nestingExhausted place) := by
  cases builtIn.eq_structural
  have short (unions : Nat) (calls : List Call)
      (chain : List.IsChain (Calls Resolver.structural resourceType)
        (⟨schema, value, unions⟩ :: calls)) : calls.length < schema.height :=
    length_lt_height_of_chain chain
  have ended (other : Nat) {nesting more : Nat} (high : schema.height ≤ nesting)
      (highMore : schema.height ≤ more) (level unions : Nat) :=
    (Outline.agree_of_chains (short unions) high highMore).sameEnd_renderNode options reach other
      level location
  refine ⟨short depth, fun nesting place => exists_chain_of_exhausted _ ⟨_, _, _⟩, ?_, ?_⟩
  · intro nesting high
    have there := ended reach high (Nat.le_refl _) level depth
    exact ⟨there.same, there.ends⟩
  · have there := ended 0 (Nat.le_add_right _ reach) (Nat.le_add_right _ 0) 0 0
    exact ⟨there.same, there.ends⟩

/-- A chain whose resolvers are chains themselves. -/
def Resolver.chainOfChains : Resolver.Chain :=
  Chain.withProvider { fallback := ({} : Chain).resolver } "acme"
    (({} : Chain).withProvider "acme" structural).resolver

theorem Resolver.builtIn_chainOfChains : chainOfChains.resolver.BuiltIn := by
  have plain : ({} : Chain).resolver.BuiltIn := .chain .structural fun _ none => nomatch none
  refine .chain plain fun entry only => ?_
  cases List.mem_singleton.mp only
  refine .chain .structural fun inner onlyInner => ?_
  cases List.mem_singleton.mp onlyInner
  exact .structural

def listOfWords : Schema := .list {} (.union {} [.scalar {} .string])

/-- Two calls below a schema of height three; one level of nesting is too little, and a hundred
give what three give. -/
theorem chainOfChains_ends :
    [(⟨.union {} [.scalar {} .string], .string "a", 0⟩ : Call),
        ⟨.scalar {} .string, .string "a", 1⟩].length < 3 ∧
      (∃ calls, List.IsChain (Calls Resolver.chainOfChains.resolver "acme_box")
          (⟨listOfWords, .list [.string "a"], 0⟩ :: calls) ∧ 1 ≤ calls.length) ∧
      Renderer.renderNode ⟨Resolver.chainOfChains.resolver, {}, 7⟩ "acme_box" 100 listOfWords
          (.list [.string "a"]) 0 (.root "acme_box") 0 = .ok ⟨"[\n  \"a\",\n]", []⟩ := by
  obtain ⟨short, exhausted, enough, _⟩ := renderNode_ends Resolver.builtIn_chainOfChains {} 7
    "acme_box" listOfWords (.list [.string "a"]) 0 (.root "acme_box") 0
  refine ⟨short _ ?_, exhausted 1 (.index (.root "acme_box") 0) rfl, (enough 100 (by decide)).1⟩
  exact .cons_cons (.element List.mem_cons_self)
    (.cons_cons (.answer (by decide) rfl) (.singleton _))

end Stanza
