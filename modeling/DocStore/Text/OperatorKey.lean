/-!
# Operator keys

A key that begins with a dollar sign names an operator; all other keys name fields.
-/

namespace DocStore.Text

/-- Whether a key names an operator. -/
def isOperatorKey (key : String) : Bool := key.toList.head? == some '$'

end DocStore.Text
