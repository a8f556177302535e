import DocStore.Json
import DocStore.Text.Numeral
import DocStore.Text.Split

/-!
# Paths into documents

A path is a list of segments, written with dots between them. Reading and removing follow keys
of objects and indices of arrays; writing follows keys only, creates the objects that are
missing on the way, and changes nothing when it meets a value that is no object.
-/

namespace DocStore

/-- The segments of a path. -/
abbrev Path := List String

namespace Path

/-- The segments of a written path; the empty text is one empty segment. -/
def ofString (s : String) : Path := Text.split '.' s

/-- The first segment of a written path. -/
def root (s : String) : String := (ofString s).headD s

/-- What is said of a written path at which nothing can be written. -/
def blockedMessage (s : String) : String := s!"cannot create field '{s}' in a non-object"

end Path

namespace Json

/-- The index that a segment means in an array. -/
def indexOf? (segment : String) : Option Nat := Text.nat64? segment.toList

/-- The value one segment down. -/
def child? (v : Json) (segment : String) : Option Json :=
  match v with
  | .obj fs => Fields.get? fs segment
  | .arr xs => (indexOf? segment).bind (xs[·]?)
  | _ => none

/-- The value at a path. -/
def getSegments? (v : Json) (path : Path) : Option Json := path.foldlM child? v

/-- The value at a written path. -/
def getPath? (v : Json) (path : String) : Option Json := v.getSegments? (.ofString path)

/-- Writes a value at a path in place: goes down over objects, creating those that are missing, and
writes into the last. Gives whether the value was written, and the document as it is by then. -/
def putSegments (value : Json) : Path → Json → Bool × Json
  | [leaf], .obj fs => (true, .obj (Fields.insert leaf value fs))
  | segment :: rest, .obj fs =>
    let (written, below) := putSegments value rest ((Fields.get? fs segment).getD (.obj []))
    (written, .obj (Fields.insert segment below fs))
  | _, v => (false, v)

/-- Writes a value at a written path in place. -/
def putPath (v : Json) (path : String) (value : Json) : Bool × Json :=
  putSegments value (.ofString path) v

/-- Writes a value at a written path, or fails with what its caller makes of the path. -/
def writePath {ε : Type} (blocked : String → ε) (v : Json) (path : String) (value : Json) :
    Except ε Json :=
  match v.putPath path value with
  | (true, w) => .ok w
  | (false, _) => .error (blocked path)

/-- The document without the value at a path, if there is one. -/
def removeSegments : Path → Json → Json
  | [leaf], .obj fs => .obj (Fields.erase leaf fs)
  | segment :: rest, .obj fs =>
    match Fields.get? fs segment with
    | some below => .obj (Fields.insert segment (removeSegments rest below) fs)
    | none => .obj fs
  | segment :: rest, .arr xs =>
    match rest, indexOf? segment with
    | _ :: _, some i =>
      match xs[i]? with
      | some below => .arr (xs.set i (removeSegments rest below))
      | none => .arr xs
    | _, _ => .arr xs
  | _, v => v

/-- The document without the value at a written path, if there is one. -/
def removePath (v : Json) (path : String) : Json := removeSegments (.ofString path) v

end Json

end DocStore
