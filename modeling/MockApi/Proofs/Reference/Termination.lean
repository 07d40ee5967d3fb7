import Mathlib.Data.Finset.Card
import Mathlib.Data.Finset.Dedup
import MockApi.Proofs.Reference.Stack

/-! # Expansion ends

Expanding a node means to expand either the target of its reference, with that reference on the
stack, or the nodes directly below it, with the stack as it is. A target can be any component, so
the size of the node at hand bounds nothing by itself. What decreases is a pair: the number of
references that are not yet on the stack, and then the size of the node. References count as texts;
two spellings of one component are two of them.

The calls and their outcomes are described here without a bound on their number. The outcome that
they lead to is the one that the bounded expansion computes.
-/

namespace MockApi.Reference

open Schema

/-- A call of the expansion: the references that are being expanded around a node, the last one
first, and the node. -/
structure Call where
  stack : List String
  schema : Schema

namespace Call

/-- The calls that a call makes, each with the references that it pushes on the stack. -/
inductive Makes (schemas : Entries Schema) : Call → List String → Call → Prop
  | jump {stack : List String} {s target : Schema} {reference : String}
      (hreference : s.reference = some reference) (hfresh : reference ∉ stack)
      (hfind : find .schemas schemas reference = .ok target) :
      Makes schemas ⟨stack, s⟩ [reference] ⟨reference :: stack, target⟩
  | descend {stack : List String} {s t : Schema} (hreference : s.reference = none)
      (hcircular : s.circular = false) (ht : t ∈ s.children) :
      Makes schemas ⟨stack, s⟩ [] ⟨stack, t⟩

/-- The calls nested in a call at any depth, each with the references pushed on the way to it, the
last one first. -/
inductive Nests (schemas : Entries Schema) (start : Call) : List String → Call → Prop
  | here : Nests schemas start [] start
  | deeper {pushed pushes : List String} {call next : Call} (h : Nests schemas start pushed call)
      (hmakes : call.Makes schemas pushes next) : Nests schemas start (pushes ++ pushed) next

/-- The number of references that are not on the stack, and the size of the node. -/
noncomputable def weight (references : List String) (call : Call) : Nat × Nat :=
  ((references.toFinset \ call.stack.toFinset).card, sizeOf call.schema)

/-- What a call returns, in terms of what the calls that it makes return. -/
inductive Returns (schemas : Entries Schema) : Call → Resolution Schema → Prop
  | cut {stack : List String} {s : Schema} {reference : String}
      (hreference : s.reference = some reference) (hmem : reference ∈ stack) :
      Returns schemas ⟨stack, s⟩ (.broken Schema.cut (.circular reference) .warning)
  | lost {stack : List String} {s : Schema} {reference : String} {problem : Problem}
      (hreference : s.reference = some reference) (hfresh : reference ∉ stack)
      (hfind : find .schemas schemas reference = .error problem) :
      Returns schemas ⟨stack, s⟩ (.broken Schema.empty problem .error)
  | jump {stack : List String} {s target : Schema} {reference : String} {result : Resolution Schema}
      (hreference : s.reference = some reference) (hfresh : reference ∉ stack)
      (hfind : find .schemas schemas reference = .ok target)
      (h : Returns schemas ⟨reference :: stack, target⟩ result) : Returns schemas ⟨stack, s⟩ result
  | marker {stack : List String} {s : Schema} (hreference : s.reference = none)
      (hcircular : s.circular = true) : Returns schemas ⟨stack, s⟩ ⟨s, []⟩
  | descend {stack : List String} {s : Schema} {outcome : Schema → Resolution Schema}
      (hreference : s.reference = none) (hcircular : s.circular = false)
      (h : ∀ t ∈ s.children, Returns schemas ⟨stack, t⟩ (outcome t)) :
      Returns schemas ⟨stack, s⟩ ⟨(s.mapChildren fun t => (outcome t).value).settled,
        s.children.flatMap fun t => (outcome t).findings⟩

section

variable {schemas : Entries Schema} {references : List String}

/-! ## The weight decreases -/

/-- No reference is on the stack twice, and those that the node holds are among the given ones. -/
structure Orderly (references : List String) (call : Call) : Prop where
  nodup : call.stack.Nodup
  known : ∀ r ∈ targets call.schema, r ∈ references

theorem stack_of_makes {call next : Call} {pushes : List String}
    (hmakes : call.Makes schemas pushes next) : next.stack = pushes ++ call.stack := by
  cases hmakes <;> rfl

theorem Orderly.of_makes {call next : Call} {pushes : List String} (h : call.Orderly references)
    (hschemas : ∀ e ∈ schemas, ∀ r ∈ targets e.2, r ∈ references)
    (hmakes : call.Makes schemas pushes next) : next.Orderly references := by
  cases hmakes with
  | jump hreference hfresh hfind =>
      obtain ⟨e, he, rfl⟩ := mem_of_find_eq_ok hfind
      exact ⟨List.nodup_cons.mpr ⟨hfresh, h.nodup⟩, hschemas e he⟩
  | descend hreference hcircular ht =>
      refine ⟨h.nodup, fun r hr => ?_⟩
      exact h.known r (mem_targets_iff.mpr (Or.inr ⟨_, ht, hr⟩))

/-- A call on the target of a reference has one reference less left; any other call is on a smaller
node. -/
theorem Orderly.weight_lt {call next : Call} {pushes : List String} (h : call.Orderly references)
    (hmakes : call.Makes schemas pushes next) :
    Prod.Lex (· < ·) (· < ·) (next.weight references) (call.weight references) := by
  cases hmakes with
  | @jump stack s target reference hreference hfresh hfind =>
      apply Prod.Lex.left
      have hknown : reference ∈ references := h.known _ (mem_targets_iff.mpr (Or.inl hreference))
      apply Finset.card_lt_card
      refine Finset.ssubset_iff_of_subset ?_ |>.mpr ⟨reference, ?_, ?_⟩
      · refine Finset.sdiff_subset_sdiff subset_rfl ?_
        rw [List.toFinset_cons]
        exact Finset.subset_insert _ _
      · simp [hknown, hfresh]
      · simp
  | descend hreference hcircular ht =>
      apply Prod.Lex.right
      exact sizeOf_lt_of_mem_children _ ht

theorem Orderly.of_nests {start call : Call} {pushed : List String} (h : start.Orderly references)
    (hschemas : ∀ e ∈ schemas, ∀ r ∈ targets e.2, r ∈ references)
    (hnests : start.Nests schemas pushed call) :
    call.Orderly references ∧ call.stack = pushed ++ start.stack := by
  induction hnests with
  | here => exact ⟨h, rfl⟩
  | deeper _ hmakes ih =>
      refine ⟨ih.1.of_makes hschemas hmakes, ?_⟩
      rw [stack_of_makes hmakes, ih.2, List.append_assoc]

/-- No path of nested calls goes on forever. -/
theorem Orderly.acc {call : Call} (h : call.Orderly references)
    (hschemas : ∀ e ∈ schemas, ∀ r ∈ targets e.2, r ∈ references) :
    Acc (fun next call => ∃ pushes, call.Makes schemas pushes next) call := by
  have hwf : WellFounded (InvImage (Prod.Lex (· < ·) (· < ·)) (weight references)) :=
    InvImage.wf _ (WellFounded.prod_lex Nat.lt_wfRel.wf Nat.lt_wfRel.wf)
  induction call using hwf.induction with
  | _ call ih =>
      constructor
      rintro next ⟨pushes, hmakes⟩
      exact ih next (h.weight_lt hmakes) (h.of_makes hschemas hmakes)

/-! ## The outcome -/

theorem Returns.expandWith {stack : List String} {follow : String → Resolution Schema} {s : Schema}
    (hfollow : ∀ r, s.Exposes r → ∀ t, t.reference = some r →
      Returns schemas ⟨stack, t⟩ (follow r)) :
    Returns schemas ⟨stack, s⟩ (Reference.expandWith follow s) := by
  induction s using childInduction with
  | step s ih =>
      obtain ⟨own, hreference, hexpand⟩ | ⟨hreference, hcircular, hexpand⟩ |
        ⟨hreference, hcircular, hexpand⟩ := expandWith_cases follow s
      · rw [hexpand]
        exact hfollow own (exposes_of_reference hreference) s hreference
      · rw [hexpand]
        exact .marker hreference hcircular
      · rw [hexpand]
        refine .descend hreference hcircular fun t ht => ih t ht fun r hr => ?_
        exact hfollow r (exposes_of_child hreference hcircular ht hr)

/-- The bound of the expansion is never met: what it computes is what the calls return. -/
theorem returns_expand (schemas : Entries Schema) (s : Schema) :
    Returns schemas ⟨[], s⟩ (expand schemas s) := by
  obtain ⟨follow, hexpand, hfollow⟩ := exists_follow_expand schemas
    (motive := fun stack r result => ∀ t, t.reference = some r → Returns schemas ⟨stack, t⟩ result)
    (fun stack r hmem t hreference => .cut hreference hmem)
    (fun stack r problem hfresh hfind t hreference => .lost hreference hfresh hfind)
    (fun stack r target follow hfresh hfind hfollow t hreference =>
      .jump hreference hfresh hfind (.expandWith hfollow))
    s
  rw [hexpand]
  exact .expandWith hfollow

/-- A call returns one outcome. -/
theorem Returns.unique {call : Call} {result other : Resolution Schema}
    (h : call.Returns schemas result) (hother : call.Returns schemas other) : other = result := by
  -- the node, the stack and the components decide by which rule a call returns
  induction h generalizing other with
  | cut hreference hmem => cases hother <;> simp_all
  | lost hreference hfresh hfind => cases hother <;> simp_all
  | marker hreference hcircular => cases hother <;> simp_all
  | jump hreference hfresh hfind _ ih =>
      cases hother with
      | jump hreference' _ hfind' h' =>
          obtain rfl := Option.some.inj (hreference.symm.trans hreference')
          obtain rfl := Except.ok.inj (hfind.symm.trans hfind')
          exact ih h'
      | _ => simp_all
  | @descend stack s outcome hreference hcircular _ ih =>
      cases hother with
      | @descend _ _ outcome' _ _ h' =>
          have hsame : ∀ t ∈ s.children, outcome' t = outcome t := fun t ht => ih t ht (h' t ht)
          have hvalue : (s.mapChildren fun t => (outcome' t).value) =
              s.mapChildren fun t => (outcome t).value :=
            mapChildren_congr fun t ht => by rw [hsame t ht]
          have hfindings : (s.children.flatMap fun t => (outcome' t).findings) =
              s.children.flatMap fun t => (outcome t).findings :=
            List.flatMap_congr fun t ht => by rw [hsame t ht]
          rw [hvalue, hfindings]
      | _ => simp_all

theorem Returns.of_reference {stack : List String} {s t : Schema} {reference : String}
    {result : Resolution Schema} (h : Returns schemas ⟨stack, s⟩ result)
    (hs : s.reference = some reference) (ht : t.reference = some reference) :
    Returns schemas ⟨stack, t⟩ result := by
  cases h with
  | cut hreference hmem =>
      obtain rfl := Option.some.inj (hs.symm.trans hreference)
      exact .cut ht hmem
  | lost hreference hfresh hfind =>
      obtain rfl := Option.some.inj (hs.symm.trans hreference)
      exact .lost ht hfresh hfind
  | jump hreference hfresh hfind h =>
      obtain rfl := Option.some.inj (hs.symm.trans hreference)
      exact .jump ht hfresh hfind h
  | marker hreference _ | descend hreference _ _ => simp [hs] at hreference

theorem returns_empty {stack : List String} :
    Returns schemas ⟨stack, Schema.empty⟩ ⟨Schema.empty, []⟩ :=
  @Returns.descend schemas stack Schema.empty (fun t => ⟨t, []⟩) rfl rfl (by simp)

/-- A node whose children are changed returns what the changed children return. -/
theorem Returns.descend_mapChildren {stack : List String} {s : Schema} {f : Schema → Schema}
    {outcome : Schema → Resolution Schema} (hreference : s.reference = none)
    (hcircular : s.circular = false)
    (h : ∀ t ∈ s.children, Returns schemas ⟨stack, f t⟩ (outcome t)) :
    Returns schemas ⟨stack, s.mapChildren f⟩
      ⟨(s.mapChildren fun t => (outcome t).value).settled,
        s.children.flatMap fun t => (outcome t).findings⟩ := by
  classical
  -- children that are changed to one node return one outcome, which is told by the changed node
  obtain ⟨changed, hchanged⟩ : ∃ changed : Schema → Resolution Schema,
      ∀ t ∈ s.children, changed (f t) = outcome t := by
    refine ⟨fun u => if hu : ∃ r, Returns schemas ⟨stack, u⟩ r then hu.choose else ⟨u, []⟩, ?_⟩
    intro t ht
    have hsome : ∃ r, Returns schemas ⟨stack, f t⟩ r := ⟨_, h t ht⟩
    exact (dif_pos hsome).trans ((h t ht).unique hsome.choose_spec)
  have hvalue : ((s.mapChildren f).mapChildren fun t => (changed t).value) =
      s.mapChildren fun t => (outcome t).value := by
    rw [mapChildren_mapChildren]
    exact mapChildren_congr fun t ht => by rw [hchanged t ht]
  have hfindings : ((s.mapChildren f).children.flatMap fun t => (changed t).findings) =
      s.children.flatMap fun t => (outcome t).findings := by
    rw [children_mapChildren, List.flatMap_map]
    exact List.flatMap_congr fun t ht => by rw [hchanged t ht]
  rw [← hvalue, ← hfindings]
  refine .descend hreference hcircular ?_
  rw [children_mapChildren]
  refine List.forall_mem_map.mpr fun t ht => ?_
  rw [hchanged t ht]
  exact h t ht

end

end Call

/-- A node that is no marker expands to what its children, each expanded on its own, are settled
to. -/
theorem expand_of_open {schemas : Entries Schema} {s : Schema} (hreference : s.reference = none)
    (hcircular : s.circular = false) :
    expand schemas s =
      ⟨(s.mapChildren fun t => (expand schemas t).value).settled,
        s.children.flatMap fun t => (expand schemas t).findings⟩ :=
  (Call.Returns.descend hreference hcircular fun t _ => Call.returns_expand schemas t).unique
    (Call.returns_expand schemas s)

/-- What stands beside a reference is not looked at. -/
theorem expand_eq_of_reference {schemas : Entries Schema} {s t : Schema} {reference : String}
    (hs : s.reference = some reference) (ht : t.reference = some reference) :
    expand schemas s = expand schemas t :=
  ((Call.returns_expand schemas t).of_reference ht hs).unique (Call.returns_expand schemas s)

/-- Expansion ends. Nested calls push no reference twice, and each of them lowers the pair of the
number of references of the document that are not on the stack and the size of the node at hand. So
no path of calls is infinite, and the calls return the one outcome that the bounded expansion
computes. -/
theorem expand_terminates (schemas : Entries Schema) (s : Schema) :
    (∀ pushed call, Call.Nests schemas ⟨[], s⟩ pushed call →
      call.stack = pushed ∧ pushed.Nodup ∧
      ∀ pushes next, call.Makes schemas pushes next →
        Prod.Lex (· < ·) (· < ·) (next.weight (allTargets schemas s))
          (call.weight (allTargets schemas s))) ∧
    Acc (fun next call => ∃ pushes, Call.Makes schemas call pushes next) ⟨[], s⟩ ∧
    ∀ result, Call.Returns schemas ⟨[], s⟩ result ↔ result = expand schemas s := by
  have hstart : Call.Orderly (allTargets schemas s) ⟨[], s⟩ :=
    ⟨List.nodup_nil, fun r hr => List.mem_append_left _ hr⟩
  have hschemas : ∀ e ∈ schemas, ∀ r ∈ targets e.2, r ∈ allTargets schemas s := by
    intro e he r hr
    rw [allTargets, targetsOfEntries_eq, List.mem_append, List.mem_flatMap]
    exact Or.inr ⟨e, he, hr⟩
  refine ⟨?_, hstart.acc hschemas, ?_⟩
  · intro pushed call hnests
    obtain ⟨horderly, hstack⟩ := hstart.of_nests hschemas hnests
    rw [List.append_nil] at hstack
    exact ⟨hstack, hstack ▸ horderly.nodup, fun pushes next => horderly.weight_lt⟩
  · intro result
    constructor
    · intro h
      exact (Call.returns_expand schemas s).unique h
    · rintro rfl
      exact Call.returns_expand schemas s

end MockApi.Reference
