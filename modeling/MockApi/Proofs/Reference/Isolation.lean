import MockApi.Proofs.Reference.Termination
import MockApi.Proofs.Schema.Rewriting

/-! # References that lead nowhere

A reference that cannot be followed is told and then stands for the empty schema, and that is all
it does. When the empty schema is written in its place, wherever it occurs in a document, the cycles
that are found stay, in their order, and nothing else is found. The document expands to the same
schema, but for what it has below circular markers: nothing is expanded there, so a reference that
leads nowhere stays in the outcome as it is written.
-/

namespace MockApi.Reference

open Schema

/-- The reference is malformed, or the components do not have what it names. -/
def LeadsNowhere (schemas : Entries Schema) (reference : String) : Prop :=
  ∃ problem, find .schemas schemas reference = .error problem

instance (schemas : Entries Schema) (reference : String) :
    Decidable (LeadsNowhere schemas reference) :=
  match h : find .schemas schemas reference with
  | .error problem => .isTrue ⟨problem, h⟩
  | .ok _ => .isFalse (by simp [LeadsNowhere, h])

/-- The empty schema for a node with a reference that leads nowhere. -/
def dropLost (schemas : Entries Schema) (s : Schema) : Option Schema :=
  match s.reference with
  | some reference => if LeadsNowhere schemas reference then some empty else none
  | none => none

/-- The empty schema for a node with a reference that leads nowhere, and a circular marker as it is,
with all that is below it. -/
def dropLostOutsideMarkers (schemas : Entries Schema) (s : Schema) : Option Schema :=
  if s.reference = none ∧ s.circular = true then some s else dropLost schemas s

/-- What was found, without the references that lead nowhere. -/
def Resolution.cycles {α : Type} (r : Resolution α) : List Finding :=
  r.findings.filter fun f => f.problem.isWarning

/-- A rewriting that puts the empty schema in place of references that lead nowhere and changes
nothing else, but may leave out what is below circular markers. -/
structure DropsLost (schemas : Entries Schema) (replace : Schema → Option Schema) : Prop where
  lost {s : Schema} {reference : String} (hreference : s.reference = some reference)
    (hlost : LeadsNowhere schemas reference) : replace s = some empty
  found {s : Schema} {reference : String} (hreference : s.reference = some reference)
    (hfound : ¬LeadsNowhere schemas reference) : replace s = none
  inner {s : Schema} (hreference : s.reference = none) (hcircular : s.circular = false) :
    replace s = none
  marker {s : Schema} (hreference : s.reference = none) (hcircular : s.circular = true) :
    replace s = none ∨ replace s = some s

section

variable {schemas : Entries Schema}

theorem dropsLost_dropLost : DropsLost schemas (dropLost schemas) where
  lost hreference hlost := by simp [dropLost, hreference, hlost]
  found hreference hfound := by simp [dropLost, hreference, hfound]
  inner hreference _ := by simp [dropLost, hreference]
  marker hreference _ := by simp [dropLost, hreference]

theorem dropsLost_dropLostOutsideMarkers :
    DropsLost schemas (dropLostOutsideMarkers schemas) where
  lost hreference hlost := by simp [dropLostOutsideMarkers, dropLost, hreference, hlost]
  found hreference hfound := by simp [dropLostOutsideMarkers, dropLost, hreference, hfound]
  inner hreference hcircular := by
    simp [dropLostOutsideMarkers, dropLost, hreference, hcircular]
  marker hreference hcircular := by simp [dropLostOutsideMarkers, hreference, hcircular]

theorem not_leadsNowhere {reference : String} {target : Schema}
    (h : find .schemas schemas reference = .ok target) : ¬LeadsNowhere schemas reference := by
  rintro ⟨problem, hproblem⟩
  simp [h] at hproblem

theorem cycles_of_lost {reference : String} {problem : Problem}
    (h : find .schemas schemas reference = .error problem) (value : Schema) :
    (Resolution.broken value problem .error).cycles = [] := by
  have hwarning : problem.isWarning = false := by
    cases problem with
    | circular other => exact absurd rfl (find_error_ne_circular h)
    | malformed _ | missing _ _ => rfl
  simp [Resolution.broken, Resolution.cycles, hwarning]

variable {replace : Schema → Option Schema}

/-- Along every path, expansion without the references that lead nowhere keeps to expansion with
them. The stack holds only references that are found. -/
theorem DropsLost.exists_returns (hreplace : DropsLost schemas replace) {call : Call}
    {result : Resolution Schema} (h : call.Returns schemas result)
    (hstack : ∀ r ∈ call.stack, ¬LeadsNowhere schemas r) :
    ∃ value, Call.Returns (schemas.mapValues (rewrite replace))
        ⟨call.stack, rewrite replace call.schema⟩ ⟨value, result.cycles⟩ ∧
      ((∀ s, s.reference = none → s.circular = true → replace s = some s) →
        value = result.value) := by
  induction h with
  | cut hreference hmem =>
      rw [rewrite_of_none _ (hreplace.found hreference (hstack _ hmem))]
      exact ⟨_, .cut hreference hmem, fun _ => rfl⟩
  | lost hreference hfresh hfind =>
      rw [rewrite_of_some _ (hreplace.lost hreference ⟨_, hfind⟩), cycles_of_lost hfind]
      exact ⟨_, Call.returns_empty, fun _ => rfl⟩
  | @jump stack s target reference result hreference hfresh hfind _ ih =>
      have hfound : ¬LeadsNowhere schemas reference := not_leadsNowhere hfind
      rw [rewrite_of_none _ (hreplace.found hreference hfound)]
      obtain ⟨value, hreturns, hvalue⟩ := ih (List.forall_mem_cons.mpr ⟨hfound, hstack⟩)
      exact ⟨value, .jump hreference hfresh (find_mapValues _ hfind) hreturns, hvalue⟩
  | @marker stack s hreference hcircular =>
      refine ⟨rewrite replace s, .marker ?_ ?_, fun hstays => ?_⟩
      · rcases hreplace.marker hreference hcircular with hnone | hsome
        · rw [rewrite_of_none _ hnone]; exact hreference
        · rw [rewrite_of_some _ hsome]; exact hreference
      · rcases hreplace.marker hreference hcircular with hnone | hsome
        · rw [rewrite_of_none _ hnone]; exact hcircular
        · rw [rewrite_of_some _ hsome]; exact hcircular
      · exact rewrite_of_some _ (hstays s hreference hcircular)
  | @descend stack s outcome hreference hcircular _ ih =>
      rw [rewrite_of_none _ (hreplace.inner hreference hcircular)]
      choose! value hreturns hvalue using fun t ht => ih t ht hstack
      have hdescend := Call.Returns.descend_mapChildren hreference hcircular hreturns
      rw [Resolution.cycles, List.filter_flatMap]
      exact ⟨_, hdescend, fun hstays => congrArg settled (mapChildren_congr fun t ht =>
        hvalue t ht hstays)⟩

end

/-- A reference that leads nowhere only adds what is told about it. Without such references, outside
of circular markers, a document expands to the same schema with the cycles found in the same order.
Also where they are dropped below circular markers, what is found are the cycles in this order. -/
theorem expand_dropLost (schemas : Entries Schema) (s : Schema) :
    expand (schemas.mapValues (rewrite (dropLostOutsideMarkers schemas)))
        (rewrite (dropLostOutsideMarkers schemas) s) =
      ⟨(expand schemas s).value, (expand schemas s).cycles⟩ ∧
    (expand (schemas.mapValues (rewrite (dropLost schemas)))
        (rewrite (dropLost schemas) s)).findings = (expand schemas s).cycles := by
  have hreturns := Call.returns_expand schemas s
  obtain ⟨value, houtside, hvalue⟩ :=
    dropsLost_dropLostOutsideMarkers.exists_returns hreturns (by simp)
  obtain ⟨value', heverywhere, -⟩ := dropsLost_dropLost.exists_returns hreturns (by simp)
  constructor
  · rw [houtside.unique (Call.returns_expand _ _), hvalue]
    intro t hreference hcircular
    exact if_pos ⟨hreference, hcircular⟩
  · rw [heverywhere.unique (Call.returns_expand _ _)]

/-- A list that is marked as circular, of items with a reference that leads nowhere. -/
def markedList : Schema :=
  { circular := true, items := some { reference := some "#/components/schemas/Item" } }

/-- The marked list keeps the reference of its items, which is not there when it is dropped below
the marker as well. -/
theorem expand_dropLost_markedList_ne :
    (expand (Entries.mapValues (rewrite (dropLost [])) [])
      (rewrite (dropLost []) markedList)).value ≠ (expand [] markedList).value := by
  intro h
  have hitems := congrArg (fun s => s.items.map Schema.reference) h
  revert hitems
  decide +kernel

end MockApi.Reference
