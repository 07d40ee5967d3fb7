import MockApi.Spec.Parse

/-! # Reading by characters

A JSON text is read character by character. What is read from a text that is given by its characters
is told without the text, so that it can be evaluated on documents of some length.
-/

namespace MockApi

/-- What reading a text does after its start. -/
def Json.Source.readFrom (start : Cursor) : Source × Option Fault :=
  match readValue (2 * start.rest.length + 2) start with
  | (tree, .error f) => (tree, some f)
  | (tree, .ok after) =>
    if after.blanks.rest.isEmpty then (tree, none)
    else (tree, some (after.blanks.faultAhead .trailingCharacters))

theorem Json.Source.read_ofList (cs : List Char) :
    read (String.ofList cs) = readFrom ⟨cs, ⟨1, 0⟩⟩ := by
  have hstart : Cursor.start (String.ofList cs) = ⟨cs, ⟨1, 0⟩⟩ := by
    rw [Cursor.start, String.toList_ofList]
  rw [read, hstart]
  rfl

namespace Spec

/-- What reading a JSON document does with the characters of its text. -/
def parseCharacters (cs : List Char) : Except ParseError ApiDocument :=
  match Json.Source.readFrom ⟨WideBound.replaceFrom true 0 cs, ⟨1, 0⟩⟩ with
  | (_, some _) => .error .json
  | (source, none) =>
    match draft? ⟨Node.ofSource source, #[], Node.jsonDepth⟩ with
    | some d => d.finish
    | none => .error .json

theorem parse_ofList (cs : List Char) :
    parse (some .json) (String.ofList cs) = parseCharacters cs := by
  simp only [parse, WideBound.replaceAll, Option.getD_some, String.toList_ofList, Node.readJson,
    Json.Source.read_ofList, parseCharacters]
  rcases Json.Source.readFrom ⟨WideBound.replaceFrom true 0 cs, ⟨1, 0⟩⟩ with ⟨source, _ | f⟩ <;> rfl

/-- What a document is evaluated for is told of the document that is read. -/
theorem exists_of_parseCharacters {α : Type} {f : ApiDocument → α} {a : α} {cs : List Char}
    (h : (parseCharacters cs).toOption.map f = some a) :
    ∃ d, parse (some .json) (String.ofList cs) = .ok d ∧ f d = a := by
  rw [parse_ofList]
  cases hparse : parseCharacters cs with
  | error cause =>
      rw [hparse] at h
      cases h
  | ok d =>
      rw [hparse] at h
      exact ⟨d, rfl, Option.some.inj h⟩

end Spec

end MockApi
