/-!
# Padding

Texts of a given width, for tables whose columns line up.
-/
namespace ScriptFront

def spaces (count : Nat) : String := String.ofList (List.replicate count ' ')

/-- The text with spaces before it, so that it takes at least `width` characters. -/
def alignRight (width : Nat) (text : String) : String :=
  spaces (width - text.length) ++ text

end ScriptFront
