import EffectPrograms.Text.Blank

set_option autoImplicit false

namespace EffectPrograms.LogFilter

def levels : List String := ["trace", "debug", "info", "warn", "error", "off"]

def targets : List String := ["effectful_core", "effectful_memory"]

def otherLevel : String := "warn"

def lower (text : String) : String := String.ofList (text.toList.map Char.toLower)

def isBareLevel (text : String) : Bool := levels.contains (lower text)

-- A bare level holds for the targets above and leaves all others at `warn`.
def directives (text : String) : String :=
  let level := Text.trim text
  if isBareLevel level then
    targets.foldl (fun written target => written ++ "," ++ target ++ "=" ++ level) otherLevel
  else level

end EffectPrograms.LogFilter
