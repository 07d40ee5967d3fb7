import MockApi.Mock.Expression
import MockApi.Proofs.Output.ModuleKeys

/-! # The keys of objects

The name of a fixed key stands between single quotes with a backslash before every single quote and
every backslash, so it is read back whatever follows. In the source of an expression, at any depth,
each name ends at the quote that was written behind it.
-/

namespace MockApi

/-- Items that a relation reads one after another, with a text between them: what the text begins
with, and the rest of it. -/
inductive Separated {α : Type} (separator : List Char) (reads : α → List Char → List Char → Prop) :
    List α → List Char → List Char → Prop
  | nil (rest : List Char) : Separated separator reads [] rest rest
  | last {item : α} {text rest : List Char} (h : reads item text rest) :
      Separated separator reads [item] text rest
  | cons {item next : α} {items : List α} {text later rest : List Char}
      (h : reads item text (separator ++ later))
      (more : Separated separator reads (next :: items) later rest) :
      Separated separator reads (item :: next :: items) text rest

namespace Expression

open MockModule

/-- True where the source is not put together from those of other expressions. -/
def isPlain : Expression → Bool
  | .literal _ | .call _ | .generator _ | .custom _ => true
  | .object _ | .copies .. | .choice _ => false

mutual

/-- The text begins with the source of an expression, and the rest of it follows. The names of fixed
keys are those that are read between their quotes. -/
inductive Reads : Expression → List Char → List Char → Prop
  | plain {e : Expression} (h : e.isPlain = true) (rest : List Char) :
      Reads e (e.source.toList ++ rest) rest
  | object {entries : List (EntryKey Expression × Expression)} {text rest : List Char}
      (h : Separated ",\n".toList ReadsEntry entries text ('\x7d' :: rest)) :
      Reads (.object entries) ('\x7b' :: text) rest
  | copies {count : ℕ} {item : Expression} {text rest : List Char}
      (h : Reads item text ("))".toList ++ rest)) :
      Reads (.copies count item)
        (("Array.from(\x7b length: " ++ toString count ++ " \x7d, () => (").toList ++ text) rest
  | choice {options : List Expression} {text rest : List Char}
      (h : Separated ",".toList Reads options text ("])".toList ++ rest)) :
      Reads (.choice options) ("faker.helpers.arrayElement([".toList ++ text) rest

/-- The text begins with an entry, and the rest of it follows. -/
inductive ReadsEntry : EntryKey Expression × Expression → List Char → List Char → Prop
  | fixed {name : String} {value : Expression} {text later rest : List Char}
      (key : key? text = some (name.toList, ": ".toList ++ later)) (h : Reads value later rest) :
      ReadsEntry (.fixed name, value) text rest
  | generated {key value : Expression} {text later rest : List Char}
      (hkey : Reads key text ("]: ".toList ++ later)) (h : Reads value later rest) :
      ReadsEntry (.generated key, value) ('[' :: text) rest

end

/-! ## Keys -/

theorem keyBody?_escapeKey (cs rest : List Char) :
    keyBody? (escapeKey cs ++ '\'' :: rest) = some (cs, rest) :=
  key?_escapeKey cs rest

theorem escapeKey_injective : Function.Injective escapeKey := by
  intro cs ds h
  have hread := keyBody?_escapeKey cs []
  rw [h, keyBody?_escapeKey] at hread
  exact (congrArg Prod.fst (Option.some.inj hread)).symm

/-! ## Sources -/

/-- The source of an entry. -/
def entrySource : EntryKey Expression × Expression → String
  | (.fixed name, value) => "'" ++ String.ofList (escapeKey name.toList) ++ "': " ++ value.source
  | (.generated key, value) => "[" ++ key.source ++ "]: " ++ value.source

theorem entrySources_eq_map (entries : List (EntryKey Expression × Expression)) :
    entrySources entries = entries.map entrySource := by
  induction entries with
  | nil => rw [entrySources, List.map_nil]
  | cons entry rest ih =>
      rcases entry with ⟨_ | _, value⟩ <;> rw [entrySources, ih] <;> rfl

theorem optionSources_eq_map (options : List Expression) :
    optionSources options = options.map source := by
  induction options with
  | nil => rw [optionSources, List.map_nil]
  | cons e rest ih => rw [optionSources, ih, List.map_cons]

/-- Items that are read back one by one, with any text behind them, are read back together. -/
theorem separated_joinWith {α : Type} {reads : α → List Char → List Char → Prop} {text : α → String}
    (separator : String) {items : List α}
    (h : ∀ item ∈ items, ∀ rest, reads item ((text item).toList ++ rest) rest) (rest : List Char) :
    Separated separator.toList reads items
      ((Json.joinWith separator (items.map text)).toList ++ rest) rest := by
  induction items with
  | nil => exact .nil rest
  | cons item items ih =>
      rw [List.forall_mem_cons] at h
      cases items with
      | nil => exact .last (h.1 rest)
      | cons next items =>
          have hjoin : Json.joinWith separator ((item :: next :: items).map text) =
              text item ++ separator ++ Json.joinWith separator ((next :: items).map text) := rfl
          rw [hjoin, String.toList_append, String.toList_append, List.append_assoc,
            List.append_assoc]
          exact .cons (h.1 _) (ih h.2)

theorem readsEntry_entrySource {key : EntryKey Expression} {value : Expression}
    (hkey : ∀ e, key = .generated e → ∀ rest, Reads e (e.source.toList ++ rest) rest)
    (hvalue : ∀ rest, Reads value (value.source.toList ++ rest) rest) (rest : List Char) :
    ReadsEntry (key, value) ((entrySource (key, value)).toList ++ rest) rest := by
  cases key with
  | fixed name =>
      rw [entrySource, toList_quoted_append, String.toList_ofList]
      exact .fixed (key?_escapeKey name.toList _) (hvalue rest)
  | generated key =>
      have hopen : "[".toList = ['['] := Text.toList_of_eq_ofList rfl
      simp only [entrySource, String.toList_append, hopen, List.append_assoc, List.cons_append,
        List.nil_append]
      exact .generated (hkey key rfl _) (hvalue rest)

theorem toList_source_object (entries : List (EntryKey Expression × Expression)) :
    (object entries).source.toList =
      '\x7b' :: ((Json.joinWith ",\n" (entries.map entrySource)).toList ++ ['\x7d']) := by
  have hsource : (object entries).source =
      "\x7b" ++ Json.joinWith ",\n" (entrySources entries) ++ "\x7d" := rfl
  have hopen : "\x7b".toList = ['\x7b'] := Text.toList_of_eq_ofList rfl
  have hclose : "\x7d".toList = ['\x7d'] := Text.toList_of_eq_ofList rfl
  rw [hsource, entrySources_eq_map, String.toList_append, String.toList_append, hopen, hclose]
  rfl

theorem toList_source_copies (count : ℕ) (item : Expression) :
    (copies count item).source.toList =
      ("Array.from(\x7b length: " ++ toString count ++ " \x7d, () => (").toList ++
        (item.source.toList ++ "))".toList) := by
  have hsource : (copies count item).source = "Array.from(\x7b length: " ++ toString count ++
      " \x7d, () => (" ++ item.source ++ "))" := rfl
  rw [hsource, String.toList_append, String.toList_append, List.append_assoc]

theorem toList_source_choice (options : List Expression) :
    (choice options).source.toList = "faker.helpers.arrayElement([".toList ++
      ((Json.joinWith "," (options.map source)).toList ++ "])".toList) := by
  have hsource : (choice options).source =
      "faker.helpers.arrayElement([" ++ Json.joinWith "," (optionSources options) ++ "])" := rfl
  rw [hsource, optionSources_eq_map, String.toList_append, String.toList_append, List.append_assoc]

/-- The source of an expression is read back, with any text behind it. -/
theorem reads_source (e : Expression) (rest : List Char) :
    Reads e (e.source.toList ++ rest) rest := by
  cases e with
  | literal _ | call _ | generator _ | custom _ => exact .plain rfl rest
  | object entries =>
      rw [toList_source_object, List.cons_append, List.append_assoc]
      refine .object (separated_joinWith ",\n" ?_ _)
      rintro ⟨key, value⟩ hentry
      have hlt : 1 + sizeOf key + sizeOf value < sizeOf entries :=
        List.sizeOf_lt_of_mem hentry
      refine readsEntry_entrySource (fun e he => ?_) (reads_source value)
      have hkey : sizeOf e < sizeOf key := by
        rw [he, EntryKey.generated.sizeOf_spec]
        omega
      exact reads_source e
  | copies count item =>
      rw [toList_source_copies, List.append_assoc, List.append_assoc]
      exact .copies (reads_source item _)
  | choice options =>
      rw [toList_source_choice, List.append_assoc, List.append_assoc]
      refine .choice (separated_joinWith "," (fun e he => ?_) _)
      have hlt := List.sizeOf_lt_of_mem he
      exact reads_source e
termination_by sizeOf e

/-- An escaped key ends at the quote behind it, whatever follows, and is read back as it was. So no
two keys are escaped alike, and in the source of an expression every name ends at its own quote. -/
theorem escapeKey_decodes :
    (∀ cs rest, keyBody? (escapeKey cs ++ '\'' :: rest) = some (cs, rest)) ∧
      Function.Injective escapeKey ∧
      ∀ (e : Expression) (rest : List Char), Reads e (e.source.toList ++ rest) rest :=
  ⟨keyBody?_escapeKey, escapeKey_injective, reads_source⟩

end Expression

end MockApi
