/-
# Version

The version of the package.
-/

namespace LoxSyntax

/-- The version of the package. -/
def version : String := "0.1.0"

end LoxSyntax
