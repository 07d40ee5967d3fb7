/-! # Request methods -/

namespace MockApi

/-- The methods an operation can have. -/
inductive Method where
  | get
  | put
  | post
  | delete
  | options
  | head
  | patch
  | trace
deriving DecidableEq, Repr, Inhabited

namespace Method

/-- All methods, in the order in which the operations of a path are listed. -/
def all : List Method := [.get, .put, .post, .delete, .options, .head, .patch, .trace]

/-- The method in lower case, as it stands in documents and file names. -/
def lower : Method → String
  | .get => "get"
  | .put => "put"
  | .post => "post"
  | .delete => "delete"
  | .options => "options"
  | .head => "head"
  | .patch => "patch"
  | .trace => "trace"

/-- The method in upper case, as it is shown. -/
def upper : Method → String
  | .get => "GET"
  | .put => "PUT"
  | .post => "POST"
  | .delete => "DELETE"
  | .options => "OPTIONS"
  | .head => "HEAD"
  | .patch => "PATCH"
  | .trace => "TRACE"

/-- The method written in lower case. -/
def ofLower? (s : String) : Option Method := all.find? fun m => m.lower == s

end Method

end MockApi
