import DocStore.Reference
import DocStore.Url.Parser

/-! # Endpoints

The URLs under which a database is reached. The texts of a reference become segments of a base
URL's path, and reach no other part of the URL.
-/

namespace DocStore

/-- The path segment under which documents and collections are read and written. -/
def resourceSegment : String := "databases"

/-- The path segment under which they are listened to. -/
def listenSegment : String := "databases:listen"

namespace Url

/-- The base URL with a service's segment, a reference's database and its segments appended. -/
def endpoint (base : Url) (service : String) (reference : Reference) : Except Error Url :=
  match base.append? (service :: reference.database :: reference.segments) with
  | some url => .ok url
  | none => .error (.config (.notBase base.text))

/-- Where a document or collection is read and written. -/
def resource (base : Url) (reference : Reference) : Except Error Url :=
  base.endpoint resourceSegment reference

/-- The pairs that a listener's URL has for its query. -/
def listenPairs (initialFullResult : Bool) (projectName : Option String) (willQuery : Bool) :
    List (String × String) :=
  ("initialFullResult", if initialFullResult then "true" else "false") ::
    ((projectName.map fun name => ("projectName", name)).toList ++
      if willQuery then [("willQuery", "true")] else [])

/-- Where a document or collection is listened to. -/
def listening (base : Url) (reference : Reference) (initialFullResult : Bool)
    (projectName : Option String) (willQuery : Bool) : Except Error Url := do
  let url ← base.endpoint listenSegment reference
  return url.withPairs (listenPairs initialFullResult projectName willQuery)

end Url

end DocStore
