import DocStore.Json.Printer
import DocStore.Text.Quoted

/-!
# Values in messages

The short description of a value that messages about it use.
-/

namespace DocStore

/-- A value in a few words: scalars in full, arrays by their length. -/
def Json.describe : Json → String
  | .null => "null"
  | .bool true => "bool true"
  | .bool false => "bool false"
  | .num n => "number " ++ n.text
  | .str s => "string " ++ Text.quoted s
  | .arr xs => "array of " ++ toString xs.length
  | .obj _ => "object"

end DocStore
