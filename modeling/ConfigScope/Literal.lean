import ConfigScope.Text.Quoted

/-!
# Literals

Integers come in two widths, and the wide ones are written with a final `L`,
so that no two literals share a text.
-/

namespace ConfigScope

inductive Literal where
  | int (value : Int32)
  | long (value : Int64)
  | string (value : String)
  | boolean (value : Bool)
  deriving DecidableEq

namespace Literal

def render : Literal → String
  | int value => toString value.toInt
  | long value => toString value.toInt ++ "L"
  | string value => Text.quote value
  | boolean value => if value then "true" else "false"

end Literal

end ConfigScope
