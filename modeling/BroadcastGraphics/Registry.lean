import BroadcastGraphics.Table

/-!
# The registry of components

A tag is defined once; later definitions of the same tag are passed over.
-/

namespace BroadcastGraphics

/-- The class names of the defined tags. -/
abbrev Registry := Table String

namespace Registry

/-- Define a tag unless it is defined; the answer says whether it was new. -/
def register (registry : Registry) (tag className : String) : Registry × Bool :=
  if Table.has registry tag then (registry, false) else (registry ++ [(tag, className)], true)

/-- The defined tags in the order of their code points. -/
def tags (registry : Registry) : List String :=
  (Table.names registry).mergeSort fun left right => !decide (right < left)

end Registry
end BroadcastGraphics
