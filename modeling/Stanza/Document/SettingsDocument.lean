import Stanza.Document.Reading
import Stanza.Settings

set_option autoImplicit false

/-!
Settings out of documents. All fields may be absent, but no other field may be there and
none twice.
-/

namespace Stanza.Document

def readTruth : Document → Decoded Bool
  | .word _ (.bool value) => .ok value
  | _ => malformed

/-- The settings so far, and the fields they were given by. -/
structure SettingsParts where
  settings : Settings := {}
  given : List String := []

def readSetting (reading : Reading) (settings : Settings) (field : String × Document) :
    Decoded Settings :=
  match field.1 with
  | "schemas" => (reading.text field.2).map fun path => { settings with schemas := path }
  | "modules" => (reading.text field.2).map fun path => { settings with modules := path }
  | "output" => (reading.text field.2).map fun path => { settings with output := path }
  | "collision_policy" =>
      (reading.choice CollisionPolicy.text CollisionPolicy.all field.2).map fun policy =>
        { settings with collisionPolicy := policy }
  | "attribute_objects" =>
      (reading.choice ObjectLayout.text ObjectLayout.all field.2).map fun layout =>
        { settings with attributeObjects := layout }
  | "parallel" => (readTruth field.2).map fun parallel => { settings with parallel := parallel }
  | _ => malformed

def readSettingOnce (reading : Reading) (parts : SettingsParts) (field : String × Document) :
    Decoded SettingsParts :=
  if parts.given.contains field.1 then malformed
  else (readSetting reading parts.settings field).map fun settings =>
    ⟨settings, field.1 :: parts.given⟩

def readSettings (reading : Reading) : Document → Decoded Settings :=
  reading.structured
    ["schemas", "modules", "output", "collision_policy", "attribute_objects", "parallel"]
    fun fields => (fields.foldlM (readSettingOnce reading) {}).map SettingsParts.settings

end Stanza.Document
