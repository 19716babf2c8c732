import Mathlib.Data.List.Basic

/-!
# Byte strings

`std::string` holds arbitrary bytes, so text that crosses the boundary of the
program is a list of bytes and not a Lean `String`.
-/

set_option autoImplicit false

namespace Foundation

abbrev Bytes := List UInt8

/-- The bytes of a source literal. -/
def utf8 (text : String) : Bytes := text.toByteArray.data.toList

end Foundation
