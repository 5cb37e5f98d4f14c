import EffectPrograms.Bytes
import EffectPrograms.Json.Debug
import EffectPrograms.Json.Parser
import EffectPrograms.Json.Part
import EffectPrograms.Json.Printer

set_option autoImplicit false

namespace EffectPrograms

structure Document where
  json : Json
  ordered : json.ordered = true
deriving DecidableEq

namespace Document

def ofJson (value : Json) : Document := ⟨value.normal, value.ordered_normal⟩

def read? (part : Json.Part) : Option Document := part.value?.map ofJson

def null : Document := ⟨.null, rfl⟩

instance : Inhabited Document := ⟨null⟩

def text (document : Document) : String := document.json.text

def encoded (document : Document) : Bytes := Bytes.ofText document.text

def size (document : Document) : Nat := document.encoded.length

def decode? (bytes : Bytes) : Option Document :=
  match bytes.text? with
  | none => none
  | some text => (Json.parse? text).map ofJson

-- Equality of documents; a zero equals the zero of the other sign.
def same (left right : Document) : Bool := decide (left.json.plainZeros = right.json.plainZeros)

theorem ofJson_json (document : Document) : ofJson document.json = document := by
  cases document with
  | mk json ordered => simp [ofJson, Json.normal_of_ordered json ordered]

end Document
end EffectPrograms
