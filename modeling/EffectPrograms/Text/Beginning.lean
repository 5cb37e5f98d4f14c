set_option autoImplicit false

namespace EffectPrograms.Text

def beginsWith (start text : String) : Bool := start.toList.isPrefixOf text.toList

theorem beginsWith_iff (start text : String) :
    beginsWith start text = true ↔ ∃ rest : List Char, text.toList = start.toList ++ rest := by
  rw [beginsWith, List.isPrefixOf_iff_prefix]
  exact ⟨fun ⟨rest, same⟩ => ⟨rest, same.symm⟩, fun ⟨rest, same⟩ => ⟨rest, same.symm⟩⟩

end EffectPrograms.Text
