import Mathlib.Data.List.Induction
import Mathlib.Data.List.TakeWhile
import Stanza.Project
import Stanza.Proofs.Render.Steps

set_option autoImplicit false

/-!
Chains of resolvers. A rendering asks for one resource type all the way down, and a chain hands
each question about a type to the resolver last registered for the provider of the type. So the
chain acts as that resolver wherever the rendering gets, and what is registered for other
providers does not matter.
-/

namespace Stanza

open Render

/-! ### One type all the way down -/

section OneType

variable {first second : Resolver} {resourceType : String}
    (sameAnswers : first resourceType = second resourceType) (options : RenderOptions) (reach : Nat)

include sameAnswers

/-- Renderings of a type differ only where the resolvers answer for this type. -/
theorem renderNode_eq_of_answers (nesting : Nat) :
    Renderer.renderNode ⟨first, options, reach⟩ resourceType nesting =
      Renderer.renderNode ⟨second, options, reach⟩ resourceType nesting := by
  induction nesting with
  | zero => rfl
  | succ nesting ih =>
      funext schema value level location depth
      cases schema with
      | scalar label kind => cases kind <;> rfl
      | list label element => rw [Renderer.renderNode_list, Renderer.renderNode_list, ih]
      | dictionary label element =>
          rw [Renderer.renderNode_dictionary, Renderer.renderNode_dictionary, ih]
      | record label fields => rw [Renderer.renderNode_record, Renderer.renderNode_record, ih]
      | union label alternatives =>
          rw [Renderer.renderNode_union, Renderer.renderNode_union, ih]
          simp only [renderUnion, sameAnswers]

theorem renderAt_eq_of_answers :
    Renderer.renderAt ⟨first, options, reach⟩ resourceType =
      Renderer.renderAt ⟨second, options, reach⟩ resourceType := by
  funext schema value location
  rw [Renderer.renderAt, Renderer.renderAt, renderNode_eq_of_answers sameAnswers]

end OneType

namespace Resolver

/-! ### Providers of types -/

/-- A type belongs to the provider that its name starts with, up to the first underscore; a
name without one is the provider itself. -/
inductive OwnedBy (provider : String) : String → Prop
  | whole (plain : '_' ∉ provider.toList) : OwnedBy provider provider
  | front (plain : '_' ∉ provider.toList) (rest : String) :
      OwnedBy provider (provider ++ "_" ++ rest)

theorem OwnedBy.providerOf_eq {provider resourceType : String}
    (owned : OwnedBy provider resourceType) : providerOf resourceType = provider := by
  have passes {chars : List Char} (plain : '_' ∉ chars) :
      ∀ c ∈ chars, decide (c ≠ '_') = true :=
    fun c member => decide_eq_true fun same => plain (same ▸ member)
  rw [providerOf, ← String.toList_inj, String.toList_ofList]
  cases owned with
  | whole plain => exact List.takeWhile_eq_self_iff.mpr (passes plain)
  | front plain rest =>
      have split : (provider ++ "_" ++ rest).toList = provider.toList ++ '_' :: rest.toList := by
        simp
      rw [split, List.takeWhile_append_of_pos (passes plain),
        List.takeWhile_cons_of_neg (by simp), List.append_nil]

theorem ownedBy_providerOf (resourceType : String) :
    OwnedBy (providerOf resourceType) resourceType := by
  obtain ⟨provider, owned⟩ : ∃ provider, OwnedBy provider resourceType := by
    by_cases marked : '_' ∈ resourceType.toList
    · obtain ⟨before, after, split, plain⟩ := List.eq_append_cons_of_mem marked
      refine ⟨String.ofList before, ?_⟩
      have whole : resourceType = String.ofList before ++ "_" ++ String.ofList after := by
        rw [← String.toList_inj, split]
        simp
      rw [whole]
      exact .front (by rwa [String.toList_ofList]) _
    · exact ⟨resourceType, .whole marked⟩
  rwa [owned.providerOf_eq]

namespace Chain

/-! ### Registration -/

/-- A chain with resolvers registered one after the other. -/
def registered (fallback : Resolver) (calls : List (String × Resolver)) : Chain :=
  calls.foldl (fun chain call => chain.withProvider call.1 call.2) { fallback := fallback }

/-- The resolver that was registered for a provider last, or else the fallback. -/
inductive Responsible (fallback : Resolver) (provider : String) :
    List (String × Resolver) → Resolver → Prop
  | last (before : List (String × Resolver)) {after : List (String × Resolver)}
      {resolver : Resolver} (final : ∀ call ∈ after, call.1 ≠ provider) :
      Responsible fallback provider (before ++ (provider, resolver) :: after) resolver
  | none {calls : List (String × Resolver)} (absent : ∀ call ∈ calls, call.1 ≠ provider) :
      Responsible fallback provider calls fallback

/-- The resolver for a provider after further registrations. -/
def lastFor (provider : String) (start : Resolver) (calls : List (String × Resolver)) : Resolver :=
  calls.foldl (fun current call => if call.1 = provider then call.2 else current) start

theorem lastFor_of_absent {provider : String} {calls : List (String × Resolver)}
    (absent : ∀ call ∈ calls, call.1 ≠ provider) (start : Resolver) :
    lastFor provider start calls = start := by
  induction calls with
  | nil => rfl
  | cons call rest ih =>
      obtain ⟨other, later⟩ := List.forall_mem_cons.mp absent
      rw [lastFor, List.foldl_cons, if_neg other]
      exact ih later

theorem Responsible.lastFor_eq {fallback resolver : Resolver} {provider : String}
    {calls : List (String × Resolver)}
    (responsible : Responsible fallback provider calls resolver) :
    lastFor provider fallback calls = resolver := by
  cases responsible with
  | last before final =>
      rw [lastFor, List.foldl_append, List.foldl_cons, if_pos rfl]
      exact lastFor_of_absent final _
  | none absent => exact lastFor_of_absent absent fallback

theorem responsible_lastFor (fallback : Resolver) (provider : String)
    (calls : List (String × Resolver)) :
    Responsible fallback provider calls (lastFor provider fallback calls) := by
  induction calls using List.reverseRecOn with
  | nil => exact .none fun call absent => nomatch absent
  | append_singleton calls call ih =>
      obtain ⟨name, resolver⟩ := call
      rw [lastFor, List.foldl_concat, ← lastFor]
      by_cases own : name = provider
      · cases own
        rw [if_pos rfl]
        exact .last calls fun call absent => nomatch absent
      · rw [if_neg own]
        have different (call : String × Resolver) (member : call ∈ [(name, resolver)]) :
            call.1 ≠ provider := List.mem_singleton.mp member ▸ own
        generalize lastFor provider fallback calls = current at ih
        cases ih with
        | last before final =>
            rw [List.append_assoc, List.cons_append]
            exact .last before fun call member =>
              (List.mem_append.mp member).elim (final call) (different call)
        | none absent =>
            exact .none fun call member =>
              (List.mem_append.mp member).elim (absent call) (different call)

/-- The registrations for one provider, in their order. -/
def callsFor (provider : String) (calls : List (String × Resolver)) : List (String × Resolver) :=
  calls.filter fun call => call.1 = provider

theorem callsFor_swap (owner : String) (before after : List (String × Resolver))
    {first second : String × Resolver} (different : first.1 ≠ second.1) :
    callsFor owner (before ++ second :: first :: after) =
      callsFor owner (before ++ first :: second :: after) := by
  rw [callsFor, callsFor, List.filter_append, List.filter_append]
  congr 1
  by_cases own : first.1 = owner
  · have other : second.1 ≠ owner := fun same => different (own.trans same.symm)
    simp [own, other]
  · simp [List.filter_cons, own]

theorem callsFor_replace {owner provider : String} (different : owner ≠ provider)
    (before after : List (String × Resolver)) (resolver other : Resolver) :
    callsFor owner (before ++ (provider, other) :: after) =
      callsFor owner (before ++ (provider, resolver) :: after) := by
  simp [callsFor, different.symm]

/-- What is registered for other providers does not matter. -/
theorem lastFor_callsFor (provider : String) (start : Resolver)
    (calls : List (String × Resolver)) :
    lastFor provider start (callsFor provider calls) = lastFor provider start calls := by
  induction calls generalizing start with
  | nil => rfl
  | cons call rest ih =>
      by_cases own : call.1 = provider
      · rw [callsFor, List.filter_cons_of_pos (by simp [own]), lastFor, lastFor, List.foldl_cons,
          List.foldl_cons, if_pos own]
        exact ih call.2
      · rw [callsFor, List.filter_cons_of_neg (by simp [own])]
        exact (ih start).trans (by rw [lastFor, lastFor, List.foldl_cons, if_neg own])

theorem resolverFor_withProvider (chain : Chain) (provider : String) (resolver : Resolver)
    (resourceType : String) :
    (chain.withProvider provider resolver).resolverFor resourceType =
      if provider = providerOf resourceType then resolver else chain.resolverFor resourceType := by
  rw [resolverFor, withProvider, Table.get?_insert]
  by_cases own : provider = providerOf resourceType
  · rw [if_pos own, if_pos own.symm, Option.getD_some]
  · rw [if_neg own, if_neg (Ne.symm own)]
    rfl

theorem resolverFor_registered (fallback : Resolver) (calls : List (String × Resolver))
    (resourceType : String) :
    (registered fallback calls).resolverFor resourceType =
      lastFor (providerOf resourceType) fallback calls := by
  induction calls using List.reverseRecOn with
  | nil => rfl
  | append_singleton calls call ih =>
      rw [registered, List.foldl_concat, ← registered, resolverFor_withProvider, ih, lastFor,
        lastFor, List.foldl_concat]

/-- A chain answers for a type as the resolver does that is responsible for its provider. -/
theorem resolver_registered (fallback : Resolver) (calls : List (String × Resolver))
    (resourceType : String) :
    (registered fallback calls).resolver resourceType =
      lastFor (providerOf resourceType) fallback calls resourceType := by
  funext schema value
  rw [resolver, resolverFor_registered]

theorem resolver_registered_congr (fallback : Resolver) {calls others : List (String × Resolver)}
    {resourceType : String}
    (same : callsFor (providerOf resourceType) calls =
      callsFor (providerOf resourceType) others) :
    (registered fallback calls).resolver resourceType =
      (registered fallback others).resolver resourceType := by
  rw [resolver_registered, resolver_registered, ← lastFor_callsFor, same, lastFor_callsFor]

/--
A chain acts as the resolver that was last registered for the provider of a type, or else as its
fallback. It gives the same answers about the type, and so the same rendering of any value along
any schema, from any depth on. The order of registrations for different providers changes nothing
in a project, and what is registered for one provider nothing in the stanzas of another.
-/
theorem registered_acts_as_owner (fallback : Resolver) (calls : List (String × Resolver))
    (options : RenderOptions) (reach : Nat) :
    (∀ resourceType, ∃ owner resolver,
      OwnedBy owner resourceType ∧ Responsible fallback owner calls resolver) ∧
    (∀ owner resourceType resolver, OwnedBy owner resourceType →
      Responsible fallback owner calls resolver →
      (∀ schema value, (registered fallback calls).resolver resourceType schema value =
        resolver resourceType schema value) ∧
      (∀ nesting schema value level location depth,
        Renderer.renderNode ⟨(registered fallback calls).resolver, options, reach⟩ resourceType
            nesting schema value level location depth =
          Renderer.renderNode ⟨resolver, options, reach⟩ resourceType nesting schema value level
            location depth) ∧
      ∀ schema value location,
        Renderer.renderAt ⟨(registered fallback calls).resolver, options, reach⟩ resourceType
            schema value location =
          Renderer.renderAt ⟨resolver, options, reach⟩ resourceType schema value location) ∧
    (∀ reordered, (∀ owner, callsFor owner reordered = callsFor owner calls) →
      ∀ policy schedule registry modules,
        buildProject policy schedule
            ⟨registry, ⟨(registered fallback reordered).resolver, options, reach⟩⟩ modules =
          buildProject policy schedule
            ⟨registry, ⟨(registered fallback calls).resolver, options, reach⟩⟩ modules) ∧
    ∀ provider replaced,
      (∀ other, other ≠ provider → callsFor other replaced = callsFor other calls) →
      ∀ owner resourceType, OwnedBy owner resourceType → owner ≠ provider →
      ∀ registry kind module schema entry,
        Compiler.compileInstance
            ⟨registry, ⟨(registered fallback replaced).resolver, options, reach⟩⟩ kind module
            resourceType schema entry =
          Compiler.compileInstance
            ⟨registry, ⟨(registered fallback calls).resolver, options, reach⟩⟩ kind module
            resourceType schema entry := by
  refine ⟨?_, ?_, ?_, ?_⟩
  · intro resourceType
    exact ⟨_, _, ownedBy_providerOf resourceType, responsible_lastFor fallback _ calls⟩
  · intro owner resourceType resolver owned responsible
    have same : (registered fallback calls).resolver resourceType = resolver resourceType := by
      rw [resolver_registered, owned.providerOf_eq, responsible.lastFor_eq]
    refine ⟨fun schema value => by rw [same], ?_, ?_⟩
    · intro nesting schema value level location depth
      rw [renderNode_eq_of_answers same]
    · intro schema value location
      rw [renderAt_eq_of_answers same]
  · intro reordered sameCalls policy schedule registry modules
    have same : (registered fallback reordered).resolver = (registered fallback calls).resolver :=
      funext fun resourceType => resolver_registered_congr fallback (sameCalls _)
    rw [same]
  · intro provider replaced sameCalls owner resourceType owned different registry kind module
      schema entry
    have same : (registered fallback replaced).resolver resourceType =
        (registered fallback calls).resolver resourceType :=
      resolver_registered_congr fallback
        (sameCalls _ (by rwa [owned.providerOf_eq]))
    rw [Compiler.compileInstance, Compiler.compileInstance, renderAt_eq_of_answers same]

/-- Answers every question with one text, and one companion. -/
def verbatim (text : String) : Resolver := fun _ _ _ => ⟨["# " ++ text], .ok (.direct text)⟩

/-- Registers two resolvers for one provider, and a chain for another in between. -/
def threeCalls : List (String × Resolver) :=
  [("acme", verbatim "first"),
    ("beta", (registered (verbatim "inner") [("acme", verbatim "outer")]).resolver),
    ("acme", verbatim "second")]

def boxRecord : Schema := .record ⟨.none, none⟩ [⟨"lid", true, .union {} [.scalar {} .string]⟩]

def boxRegistry : Registry :=
  ⟨(∅ : Table RegisteredType).insert "acme_box" ⟨"acme", boxRecord⟩, ∅⟩

def boxModule : Module := ({} : Module).withResource "acme_box" "a" (.object [("lid", .string "x")])

/-- The second resolver for the provider of the type answers. It also does so when the chain for
the other provider is registered first, or is another resolver. -/
theorem threeCalls_act_as_second :
    OwnedBy "acme" "acme_box" ∧ Responsible structural "acme" threeCalls (verbatim "second") ∧
      Renderer.renderAt ⟨(registered structural threeCalls).resolver, {}, 0⟩ "acme_box" boxRecord
          (.object [("lid", .string "x")]) (.root "acme_box") =
        .ok ⟨"=\n  lid = second", ["# second"]⟩ ∧
      buildProject .reject .sequential
          ⟨boxRegistry, ⟨(registered structural ([] ++ threeCalls[1] :: threeCalls[0] ::
            [threeCalls[2]])).resolver, {}, 0⟩⟩ [boxModule] =
        buildProject .reject .sequential
          ⟨boxRegistry, ⟨(registered structural threeCalls).resolver, {}, 0⟩⟩ [boxModule] ∧
      Compiler.compileInstance
          ⟨boxRegistry, ⟨(registered structural ([threeCalls[0]] ++ ("beta", verbatim "other") ::
            [threeCalls[2]])).resolver, {}, 0⟩⟩ .resource boxModule "acme_box" boxRecord
          ("a", .object [("lid", .string "x")]) =
        .ok ⟨"resource \"acme_box\" \"a\" =\n  lid = second", ["# second"]⟩ := by
  have owned : OwnedBy "acme" "acme_box" := .front (by decide) "box"
  have responsible : Responsible structural "acme" threeCalls (verbatim "second") :=
    .last (threeCalls.take 2) fun call absent => nomatch absent
  obtain ⟨_, acts, ordered, replaced⟩ := registered_acts_as_owner structural threeCalls {} 0
  refine ⟨owned, responsible, ?_, ?_, ?_⟩
  · exact ((acts _ _ _ owned responsible).2.2 _ _ _).trans rfl
  · exact ordered _ (fun owner => callsFor_swap owner [] _ (by decide)) _ _ _ _
  · exact (replaced "beta" _ (fun other different => callsFor_replace different _ _ _ _) "acme" _
      owned (by decide) _ _ _ _ _).trans rfl

end Chain
end Resolver
end Stanza
