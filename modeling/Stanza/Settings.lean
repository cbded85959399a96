import Stanza.Files.Path
import Stanza.Project

set_option autoImplicit false

/-!
The settings of a project: where its schemas, modules and artifacts are, and how it is
compiled.
-/

namespace Stanza

structure Settings where
  schemas : String := "schemas"
  modules : String := "modules"
  output : String := "tf_out"
  collisionPolicy : CollisionPolicy := .lastWins
  attributeObjects : ObjectLayout := .legacy
  /-- Whether the modules are compiled at the same time. -/
  parallel : Bool := true
deriving DecidableEq, Repr

namespace CollisionPolicy

def text : CollisionPolicy → String
  | .lastWins => "last_wins"
  | .reject => "reject"

def all : List CollisionPolicy := [.lastWins, .reject]

def ofText? (text : String) : Option CollisionPolicy :=
  all.find? fun policy => policy.text = text

end CollisionPolicy

namespace ObjectLayout

def text : ObjectLayout → String
  | .legacy => "legacy"
  | .braced => "braced"

def all : List ObjectLayout := [.legacy, .braced]

def ofText? (text : String) : Option ObjectLayout :=
  all.find? fun layout => layout.text = text

end ObjectLayout

namespace Settings

/-- Takes the relative paths from a base directory. -/
def relativeTo (settings : Settings) (base : String) : Settings :=
  { settings with
    schemas := Files.join base settings.schemas
    modules := Files.join base settings.modules
    output := Files.join base settings.output }

/-- The compiler that the settings ask for, with structural resolution for every provider. -/
def compiler (settings : Settings) (registry : Registry) : Compiler where
  registry := registry
  renderer := {
    resolver := ({} : Resolver.Chain).resolver
    options := { attributeObjects := settings.attributeObjects } }

/-- The schedule that the settings ask for, of modules that complete in their order. -/
def schedule (settings : Settings) (modules : List Module) : Schedule :=
  if settings.parallel then .concurrent (List.range modules.length) else .sequential

end Settings
end Stanza
