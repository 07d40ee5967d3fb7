import MockApi.Output.Manifest

/-! # What is wrong with a manifest

A text that is no manifest is described by its first fault: in the order of the text, with the place
where it was noticed. A value of the wrong kind is noticed at its end, or at its start when it is a
container; a missing member when its object ends.
-/

namespace MockApi

namespace Json.Source

/-- What a value should be. -/
inductive Form where
  | text
  /-- A text or null. -/
  | optionalText
  | list (item : Form)
  /-- An object with named members, each marked when it must be there. -/
  | record (name : String) (fields : List (String × Bool × Form))

/-- A fault in words, and its place. -/
abbrev Notice := String × Mark

/-- The words for a form. -/
def Form.name : Form → String
  | .text | .optionalText => "a string"
  | .list _ => "a sequence"
  | .record name _ => "struct " ++ name

/-- A text in quotes, as notices show it. -/
def quoted (s : String) : String :=
  "\"" ++ String.ofList (s.toList.flatMap fun c =>
    match c with
    | '"' => ['\\', '"']
    | '\\' => ['\\', '\\']
    | '\n' => ['\\', 'n']
    | '\r' => ['\\', 'r']
    | '\t' => ['\\', 't']
    | '\x00' => ['\\', '0']
    | c =>
      if c.toNat < 32 || c.toNat = 127 then
        "\\u\x7b".toList ++ Nat.toDigits 16 c.toNat ++ ['\x7d']
      else [c]) ++ "\""

/-- The notice that a value has the wrong kind. -/
def wrongKind (found : String) (form : Form) (mark : Mark) : Notice :=
  ("invalid type: " ++ found ++ ", expected " ++ form.name, mark)

/-- A fault as a notice. -/
def Fault.notice (f : Fault) : Notice := (f.kind.message, f.mark)

/-- The notice about a value that is neither of the form nor a container of its kind. -/
def mismatch (halt : Fault) (form : Form) : Source → Notice
  | .null stop => wrongKind "null" form stop
  | .bool stop b =>
    wrongKind ("boolean \x60" ++ (if b then "true" else "false") ++ "\x60") form stop
  | .number stop (some (.integer i)) =>
    wrongKind ("integer \x60" ++ toString i ++ "\x60") form stop
  | .number stop (some (.double x)) =>
    wrongKind ("floating point \x60" ++ Layout.json.render x ++ "\x60") form stop
  | .number stop none => (FaultKind.numberOutOfRange.message, stop)
  | .string stop (.ok s) => wrongKind ("string " ++ quoted s) form stop
  | .string _ (.error f) => Fault.notice f
  | .list start _ _ _ => wrongKind "sequence" form start
  | .object start _ _ _ => wrongKind "map" form start
  | .broken => Fault.notice halt

/-- The first required member that was not seen. -/
def missing? (seen : List String) (fields : List (String × Bool × Form)) : Option String :=
  (fields.find? fun f => f.2.1 && !seen.contains f.1).map Prod.fst

/-- The words for a count of elements. -/
def elements (n : Nat) : String := toString n ++ " element" ++ (if n = 1 then "" else "s")

mutual

/-- The first notice about a value that should have a form. The fault is the one that ends the text
where it breaks off. -/
def notice? (halt : Fault) : Nat → Form → Source → Option Notice
  | 0, _, _ => none
  | fuel + 1, form, value =>
    match form, value with
    | .text, .string _ (.ok _) => none
    | .optionalText, .string _ (.ok _) => none
    | .optionalText, .null _ => none
    | .list item, .list _ _ items closed =>
      (items.findSome? (notice? halt fuel item)).or
        (if closed then none else some (Fault.notice halt))
    | .record name fields, .list _ stop items closed =>
      alignedNotice? halt fuel name fields.length fields 0 stop closed items
    | .record _ fields, .object _ stop members closed =>
      memberNotice? halt fuel fields stop closed [] members
    | form, value => some (mismatch halt form value)

/-- The first notice about items that should be the members of a record in order. -/
def alignedNotice? (halt : Fault) : Nat → String → Nat → List (String × Bool × Form) → Nat → Mark →
    Bool → List Source → Option Notice
  | 0, _, _, _, _, _, _, _ => none
  | fuel + 1, name, count, fields, index, stop, closed, items =>
    match fields, items with
    | [], [] => if closed then none else some (Fault.notice halt)
    | [], _ :: _ => some (FaultKind.trailingCharacters.message, stop)
    | (_, required, _) :: rest, [] =>
      if !closed then some (Fault.notice halt)
      else if required then
        some ("invalid length " ++ toString index ++ ", expected struct " ++ name ++ " with " ++
          elements count, stop)
      else alignedNotice? halt fuel name count rest (index + 1) stop closed []
    | (_, _, form) :: rest, item :: items =>
      (notice? halt fuel form item).or
        (alignedNotice? halt fuel name count rest (index + 1) stop closed items)

/-- The first notice about the members of an object, after the names seen. -/
def memberNotice? (halt : Fault) : Nat → List (String × Bool × Form) → Mark → Bool → List String →
    List ((Mark × Spelling) × Source) → Option Notice
  | 0, _, _, _, _, _ => none
  | fuel + 1, fields, stop, closed, seen, members =>
    match members with
    | [] =>
      if !closed then some (Fault.notice halt)
      else (missing? seen fields).map fun name => ("missing field \x60" ++ name ++ "\x60", stop)
    | ((_, .error f), _) :: _ => some (Fault.notice f)
    | ((mark, .ok name), value) :: rest =>
      match fields.lookup name with
      | none =>
        match value with
        | .broken => some (Fault.notice halt)
        | .list _ _ _ false => some (Fault.notice halt)
        | .object _ _ _ false => some (Fault.notice halt)
        | _ => memberNotice? halt fuel fields stop closed seen rest
      | some (_, form) =>
        if seen.contains name then some ("duplicate field \x60" ++ name ++ "\x60", mark)
        else (notice? halt fuel form value).or
          (memberNotice? halt fuel fields stop closed (name :: seen) rest)

end

end Json.Source

namespace Manifest

open Json.Source in
/-- The form of an entry. -/
def entryForm : Form :=
  .record "ManifestEntry" [("method", true, .text), ("path", true, .text),
    ("operationId", false, .text), ("summary", false, .text), ("description", false, .optionalText),
    ("mockFile", false, .text), ("nullablePaths", false, .list .text)]

/-- The form of a manifest. -/
def form : Json.Source.Form := .record "Manifest" [("manifest", true, .list entryForm)]

/-- A notice with its place. -/
def placed (notice : Json.Source.Notice) : String :=
  notice.1 ++ " at line " ++ toString notice.2.line ++ " column " ++ toString notice.2.column

/-- What is wrong with a text that is no manifest. -/
def describe (text : String) : String :=
  let (source, fault) := Json.Source.read text
  let halt := fault.getD ⟨.endInValue, ⟨1, 0⟩⟩
  match Json.Source.notice? halt (text.length + 64) form source with
  | some notice => placed notice
  | none => placed (Json.Source.Fault.notice halt)

/-- The manifest of a text, or what is wrong with it. -/
def ofText (text : String) : Except String Manifest :=
  match (Node.readJson text).toOption.bind ofDocument? with
  | some m => .ok m
  | none => .error (describe text)

end Manifest
end MockApi
