import MockApi.Spec.Method
import MockApi.Schema.Basic

/-! # API documents

An API document lists endpoints, one for each path and method, and the named components that
references point at.
-/

namespace MockApi

/-- An item given in place or by a reference to a component. -/
inductive Linked (α : Type) where
  | reference (target : String)
  | item (value : α)
deriving Repr

/-- A named example of a media type. -/
structure Example where
  summary : Option String
  value : Option Json
  externalValue : Option String

/-- What a response holds in one media type. -/
structure MediaType where
  schema : Option Schema
  exampleValue : Option Json
  examples : Option (Entries (Linked Example))

/-- A response by media types. -/
structure Response where
  description : Option String
  content : Option (Entries MediaType)

/-- One operation of the API. -/
structure Endpoint where
  path : String
  method : Method
  operationId : String
  summary : String
  description : Option String
  tags : List String
  responses : Entries (Linked Response)

/-- The method and the path. -/
def Endpoint.title (e : Endpoint) : String := e.method.upper ++ " " ++ e.path

/-- The named items that references point at. -/
structure Components where
  schemas : Entries Schema := []
  responses : Entries (Linked Response) := []
  examples : Entries (Linked Example) := []

/-- A document of version three. -/
structure ApiDocument where
  openapi : String
  title : String
  version : String
  endpoints : List Endpoint
  components : Components

end MockApi
