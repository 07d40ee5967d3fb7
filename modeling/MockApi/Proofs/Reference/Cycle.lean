import Mathlib.Data.List.Chain
import MockApi.Proofs.Reference.Stack

/-! # Which cycles are cut

Expansion looks at one path at a time and knows only the references on its stack. What it cuts is
nevertheless a fact about the graph of the document: a reference is reported as circular exactly
when a chain of distinct references, starting from one that the schema exposes, leads back into
itself at that reference. References are compared as texts, so two spellings of one component are
two references.
-/

namespace MockApi.Reference

open Schema

/-- The reference is found and its target exposes the other one. -/
def Leads (schemas : Entries Schema) (reference next : String) : Prop :=
  ∃ target, find .schemas schemas reference = .ok target ∧ target.Exposes next

/-- A chain of distinct references starts at one that the schema exposes. Each of them is found and
exposes the next; the last one exposes the reference, which is in the chain already. -/
def MeetsCycle (schemas : Entries Schema) (s : Schema) (reference : String) : Prop :=
  ∃ first rest, s.Exposes first ∧ (first :: rest).Nodup ∧
    (first :: rest ++ [reference]).IsChain (Leads schemas) ∧ reference ∈ first :: rest

/-- Following references from `start`, each new to the stack, ends in one that is on the stack. -/
inductive Revisits (schemas : Entries Schema) : List String → String → String → Prop
  | here {stack : List String} {reference : String} (h : reference ∈ stack) :
      Revisits schemas stack reference reference
  | onward {stack : List String} {start next reference : String} (hstart : start ∉ stack)
      (hleads : Leads schemas start next) (h : Revisits schemas (start :: stack) next reference) :
      Revisits schemas stack start reference

section

variable {schemas : Entries Schema}

theorem Revisits.exists_chain {stack : List String} {start reference : String}
    (h : Revisits schemas stack start reference) :
    ∃ path, (path ++ [reference]).head? = some start ∧ path.Nodup ∧ (∀ r ∈ path, r ∉ stack) ∧
      (path ++ [reference]).IsChain (Leads schemas) ∧ (reference ∈ path ∨ reference ∈ stack) := by
  induction h with
  | here h => exact ⟨[], rfl, List.nodup_nil, by simp, .singleton _, Or.inr h⟩
  | @onward stack start next reference hstart hleads _ ih =>
      obtain ⟨path, hhead, hnodup, hfresh, hchain, hend⟩ := ih
      refine ⟨start :: path, rfl, ?_, ?_, ?_, ?_⟩
      · exact List.nodup_cons.mpr ⟨fun hmem => hfresh _ hmem List.mem_cons_self, hnodup⟩
      · intro r hr
        rcases List.mem_cons.mp hr with rfl | hr
        · exact hstart
        · exact fun hmem => hfresh r hr (List.mem_cons_of_mem _ hmem)
      · rw [List.cons_append, List.isChain_cons]
        refine ⟨fun r hr => ?_, hchain⟩
        obtain rfl := Option.some.inj (hr.symm.trans hhead)
        exact hleads
      · rcases hend with hend | hend
        · exact Or.inl (List.mem_cons_of_mem _ hend)
        · rcases List.mem_cons.mp hend with rfl | hend
          · exact Or.inl List.mem_cons_self
          · exact Or.inr hend

theorem revisits_of_chain {path stack : List String} {start reference : String}
    (hhead : (path ++ [reference]).head? = some start) (hnodup : path.Nodup)
    (hfresh : ∀ r ∈ path, r ∉ stack) (hchain : (path ++ [reference]).IsChain (Leads schemas))
    (hend : reference ∈ path ∨ reference ∈ stack) : Revisits schemas stack start reference := by
  -- what leaves the path enters the stack, so the reference stays in one of the two
  induction path generalizing stack start with
  | nil =>
      obtain rfl := Option.some.inj hhead
      exact .here (hend.resolve_left (List.not_mem_nil))
  | cons r path ih =>
      obtain rfl := Option.some.inj hhead
      rw [List.cons_append, List.isChain_cons] at hchain
      obtain ⟨hnot, hnodup⟩ := List.nodup_cons.mp hnodup
      obtain ⟨next, hnext⟩ : ∃ next, (path ++ [reference]).head? = some next := by
        cases path <;> simp
      refine .onward (hfresh _ List.mem_cons_self) (hchain.1 next hnext)
        (ih hnext hnodup ?_ hchain.2 ?_)
      · intro r' hr' hmem
        rcases List.mem_cons.mp hmem with rfl | hmem
        · exact hnot hr'
        · exact hfresh r' (List.mem_cons_of_mem _ hr') hmem
      · rcases hend with hend | hend
        · exact (List.mem_cons.mp hend).elim (fun heq => Or.inr (heq ▸ List.mem_cons_self)) Or.inl
        · exact Or.inr (List.mem_cons_of_mem _ hend)

/-- With nothing on the stack, running into the stack is running into the chain itself. -/
theorem exists_revisits_iff_meetsCycle {s : Schema} {reference : String} :
    (∃ first, s.Exposes first ∧ Revisits schemas [] first reference) ↔
      MeetsCycle schemas s reference := by
  constructor
  · rintro ⟨first, hexposes, h⟩
    obtain ⟨path, hhead, hnodup, -, hchain, hend⟩ := h.exists_chain
    have hmem := hend.resolve_right List.not_mem_nil
    cases path with
    | nil => simp at hmem
    | cons r rest =>
        obtain rfl := Option.some.inj hhead
        exact ⟨_, rest, hexposes, hnodup, hchain, hmem⟩
  · rintro ⟨first, rest, hexposes, hnodup, hchain, hmem⟩
    exact ⟨first, hexposes, revisits_of_chain rfl hnodup (by simp) hchain (Or.inl hmem)⟩

/-! ## What the expansion reports -/

/-- What stands for a reference reports as circular what it revisits. -/
def ReportsRevisits (schemas : Entries Schema) (stack : List String) (start : String)
    (result : Resolution Schema) : Prop :=
  ∀ reference, .circular reference ∈ result.problems ↔ Revisits schemas stack start reference

theorem reportsRevisits_cut {stack : List String} {start : String} (hmem : start ∈ stack) :
    ReportsRevisits schemas stack start (.broken Schema.cut (.circular start) .warning) := by
  intro reference
  have hproblems : Problem.circular reference ∈ (Resolution.broken Schema.cut
      (.circular start) .warning).problems ↔ reference = start := by
    simp [Resolution.broken, Resolution.problems]
  rw [hproblems]
  constructor
  · rintro rfl
    exact .here hmem
  · intro h
    cases h with
    | here _ => rfl
    | onward hstart => exact absurd hmem hstart

theorem reportsRevisits_lost {stack : List String} {start : String} {problem : Problem}
    (hstart : start ∉ stack) (hfind : find .schemas schemas start = .error problem) :
    ReportsRevisits schemas stack start (.broken Schema.empty problem .error) := by
  intro reference
  constructor
  · intro h
    obtain rfl : Problem.circular reference = problem := by
      simpa [Resolution.broken, Resolution.problems] using h
    exact absurd rfl (find_error_ne_circular hfind)
  · intro h
    cases h with
    | here h => exact absurd h hstart
    | onward _ hleads =>
        obtain ⟨target, hfind', _⟩ := hleads
        cases hfind.symm.trans hfind'

theorem reportsRevisits_jump {stack : List String} {start : String} {target : Schema}
    {follow : String → Resolution Schema} (hstart : start ∉ stack)
    (hfind : find .schemas schemas start = .ok target)
    (hfollow : ∀ next, target.Exposes next →
      ReportsRevisits schemas (start :: stack) next (follow next)) :
    ReportsRevisits schemas stack start (expandWith follow target) := by
  intro reference
  rw [mem_problems_expandWith]
  constructor
  · rintro ⟨next, hexposes, hproblem⟩
    exact .onward hstart ⟨target, hfind, hexposes⟩ ((hfollow next hexposes reference).mp hproblem)
  · intro h
    cases h with
    | here h => exact absurd h hstart
    | onward _ hleads h =>
        obtain ⟨target', hfind', hexposes⟩ := hleads
        obtain rfl := Except.ok.inj (hfind.symm.trans hfind')
        exact ⟨_, hexposes, (hfollow _ hexposes reference).mpr h⟩

theorem circular_mem_problems_iff_meetsCycle (s : Schema) (reference : String) :
    .circular reference ∈ (expand schemas s).problems ↔ MeetsCycle schemas s reference := by
  obtain ⟨follow, hexpand, hfollow⟩ := exists_follow_expand schemas
    (motive := ReportsRevisits schemas) (fun _ _ => reportsRevisits_cut)
    (fun _ _ _ => reportsRevisits_lost) (fun _ _ _ _ => reportsRevisits_jump) s
  rw [hexpand, mem_problems_expandWith, ← exists_revisits_iff_meetsCycle]
  exact exists_congr fun next => and_congr_right fun hexposes => hfollow next hexposes reference

/-! ## Markers in the result -/

theorem persistent_circular_eq_false : Persistent fun s => s.circular = false where
  empty := rfl
  merge a b ha hb := by rw [merge_circular, ha, hb]; rfl
  ownPart _ hs := hs
  mapChildren _ _ hs := hs

end

/-- Exactly the cycles that can be reached are reported. Without one nothing is reported, and no
marker is left when the document has none of its own. -/
theorem expand_reports_cycles (schemas : Entries Schema) (s : Schema) :
    (∀ r, .circular r ∈ (expand schemas s).problems ↔ MeetsCycle schemas s r) ∧
    ((∀ r, ¬ MeetsCycle schemas s r) →
      (∀ r, .circular r ∉ (expand schemas s).problems) ∧
      ((∀ t, s.Contains t → t.circular = false) →
        (∀ e ∈ schemas, ∀ t, e.2.Contains t → t.circular = false) →
        ∀ t, (expand schemas s).value.Contains t → t.circular = false)) := by
  refine ⟨circular_mem_problems_iff_meetsCycle s, fun hacyclic => ?_⟩
  have hproblems : ∀ r, .circular r ∉ (expand schemas s).problems := by
    intro r hr
    exact hacyclic r ((circular_mem_problems_iff_meetsCycle s r).mp hr)
  exact ⟨hproblems, fun hs hschemas => contains_expand persistent_circular_eq_false hs hschemas
    fun r hr => absurd hr (hproblems r)⟩

/-- A list whose tail is given by a reference. -/
def tailBy (reference : String) : Schema where
  properties := some [("tail", { reference := some reference })]

/-- A list in itself meets a cycle. One that ends in another component meets none, and is expanded
without markers. -/
theorem expand_reports_cycles_list :
    MeetsCycle [("List", tailBy "#/components/schemas/List")]
      (tailBy "#/components/schemas/List") "#/components/schemas/List" ∧
    ∀ t, (expand [("Leaf", {})] (tailBy "#/components/schemas/Leaf")).value.Contains t →
      t.circular = false := by
  have hcyclic := expand_reports_cycles [("List", tailBy "#/components/schemas/List")]
    (tailBy "#/components/schemas/List")
  have hacyclic := expand_reports_cycles [("Leaf", {})] (tailBy "#/components/schemas/Leaf")
  have hnone : (expand [("Leaf", {})] (tailBy "#/components/schemas/Leaf")).problems = [] := rfl
  refine ⟨(hcyclic.1 _).mp List.mem_cons_self, (hacyclic.2 ?_).2 ?_ ?_⟩
  · intro r hr
    have hmem := (hacyclic.1 r).mpr hr
    rw [hnone] at hmem
    exact List.not_mem_nil hmem
  · exact forall_contains_iff.mpr ⟨rfl, List.forall_mem_singleton.mpr
      (forall_reaches_of_children_eq_nil rfl rfl)⟩
  · exact List.forall_mem_singleton.mpr (forall_reaches_of_children_eq_nil rfl rfl)

end MockApi.Reference
