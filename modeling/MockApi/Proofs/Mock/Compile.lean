import MockApi.Mock.Compile
import MockApi.Proofs.Schema.Children

/-! # What the parts of a node compile to

Branches and properties are compiled one by one, and what was noticed about them is put together in
their order. A node that is decided at once is not looked into.
-/

namespace MockApi.Compiler

open Schema

variable (c : Compiler) (again : Schema → Site → Compiled)

/-- The expression of a node for which no example is given. -/
def expressionFor (key : Option String) (insideArray : Bool) (s : Schema) : Expression :=
  (c.compileWith again s ⟨none, key, insideArray⟩).expression

/-! ## Children -/

theorem compileList_eq (key : Option String) (insideArray : Bool) (branches : List Schema) :
    c.compileList again key insideArray branches =
      (branches.map (c.expressionFor again key insideArray),
        branches.flatMap fun s => (c.compileWith again s ⟨none, key, insideArray⟩).mismatches,
        branches.flatMap fun s => (c.compileWith again s ⟨none, key, insideArray⟩).warnings) := by
  induction branches with
  | nil => rw [compileList]; rfl
  | cons s rest ih =>
      rw [compileList, ih]
      rfl

theorem compileEntries_eq (insideArray : Bool) (entries : List (String × Schema)) :
    c.compileEntries again insideArray entries =
      (entries.map fun e => (.fixed e.1, c.expressionFor again (some e.1) insideArray e.2),
        entries.flatMap fun e =>
          (c.compileWith again e.2 ⟨none, some e.1, insideArray⟩).mismatches,
        entries.flatMap fun e =>
          (c.compileWith again e.2 ⟨none, some e.1, insideArray⟩).warnings) := by
  induction entries with
  | nil => rw [compileEntries]; rfl
  | cons e rest ih =>
      rcases e with ⟨name, s⟩
      rw [compileEntries, ih]
      rfl

theorem compileProperties_eq (insideArray : Bool) (properties : Option (List (String × Schema))) :
    c.compileProperties again insideArray properties =
      c.compileEntries again insideArray (properties.getD []) := by
  cases properties with
  | none => rw [compileProperties, Option.getD_none, compileEntries]
  | some entries => rw [compileProperties, Option.getD_some]

/-- The entry for undeclared properties, when they are permitted. -/
def extraEntries (insideArray : Bool) :
    Option (Additional Schema) → List (EntryKey Expression × Expression)
  | none => []
  | some (.flag allowed) => if allowed then [openEntry] else []
  | some (.schema s) => [(.generated (.call .words), c.expressionFor again none insideArray s)]

theorem compileBranches_eq (key : Option String) (insideArray : Bool)
    (list : Option (List Schema)) :
    c.compileBranches again key insideArray list =
      (branches? list).map (c.compileList again key insideArray) := by
  match list with
  | none => rw [compileBranches]; rfl
  | some [] => rw [compileBranches]; rfl
  | some (first :: rest) => rw [compileBranches]; rfl

/-- The alternatives of a node are compiled one by one. -/
theorem compileAlternatives_eq (s : Schema) (key : Option String) (insideArray : Bool) :
    (c.compileBranches again key insideArray s.oneOf).or
        (c.compileBranches again key insideArray s.anyOf) =
      s.alternatives.map (c.compileList again key insideArray) := by
  rw [alternatives, Option.map_or, compileBranches_eq, compileBranches_eq]

/-! ## Nodes -/

theorem compileWith_of_decided? {c : Compiler} {again : Schema → Site → Compiled} {s : Schema}
    {site : Site} {done : Compiled} (h : c.decided? s site = some done) :
    c.compileWith again s site = done := by
  cases s
  rw [compileWith, h]

theorem compileWith_of_marker {s : Schema} (site : Site) (h : s.isMarker = true) :
    c.compileWith again s site = ⟨.null, [], []⟩ :=
  compileWith_of_decided? (if_pos h)

end MockApi.Compiler
