import MockApi.Text.Search

/-! # Path names

A path name is segments with slashes between them; one that starts with a slash is absolute. The
functions here work on the written form and never look at files.
-/

namespace MockApi.PathName

/-- True of path names that do not depend on the working folder. -/
def isAbsolute (path : String) : Bool := path.toList.head? = some '/'

/-- A path name below another one; an absolute one stands for itself. -/
def join (base path : String) : String :=
  if isAbsolute path || base.isEmpty then path
  else if base.toList.getLast? = some '/' then base ++ path
  else base ++ "/" ++ path

/-- Drops slashes and empty steps at the end, but not a slash that is all there is. The text is
given from its end. -/
def trimEnd : List Char → List Char
  | ['/'] => ['/']
  | '/' :: rest => trimEnd rest
  | '.' :: '/' :: rest => trimEnd ('/' :: rest)
  | cs => cs

/-- The path name of the folder around another; nothing when there is no segment to leave. -/
def parent? (path : String) : Option String :=
  let reversed := trimEnd path.toList.reverse
  if reversed.isEmpty || reversed = ['/'] then none
  else some (String.ofList (trimEnd (reversed.dropWhile (· != '/'))).reverse)

/-- The last segment, with what stands before it; nothing for path names that end in none or in a
step to the folder above. -/
def splitName? (path : String) : Option (List Char × List Char) :=
  let reversed := trimEnd path.toList.reverse
  let name := (reversed.takeWhile (· != '/')).reverse
  if name.isEmpty || name = ['.', '.'] || name = ['.'] then none
  else some ((reversed.dropWhile (· != '/')).reverse, name)

/-- A name as its stem and the extension after the last dot. A dot at the start belongs to the
stem. -/
def splitExtension (name : List Char) : List Char × Option (List Char) :=
  let after := (name.reverse.takeWhile (· != '.')).reverse
  if after.length + 1 < name.length then
    (name.take (name.length - after.length - 1), some after)
  else (name, none)

/-- The extension of the last segment. -/
def extension? (path : String) : Option String :=
  (splitName? path).bind fun (_, name) => (splitExtension name).2.map String.ofList

/-- The path name with another extension. -/
def withExtension (path extension : String) : String :=
  match splitName? path with
  | some (before, name) =>
    String.ofList (before ++ (splitExtension name).1 ++ '.' :: extension.toList)
  | none => path

/-- The segments of a path name, without empty ones and steps that stay in a folder. -/
def segments (path : String) : List String :=
  (Text.split '/' path).filter fun s => !s.isEmpty && s != "."

end MockApi.PathName
