import MockApi.Proofs.Reference.Stack
import MockApi.Proofs.Schema.Slots

/-! # Expansion as a cut of the unfolding

The references of a document unfold a schema into a tree that may be infinite. Without `allOf`, and
without circular markers of the document's own, expansion yields this tree, cut where a reference
would be expanded inside its own expansion: every node of the result has the outline of the node
that the references lead to, and the nodes in its slots unfold from the nodes there. All slots of a
node start from the same references; what is expanded in one of them does not show in the next.
-/

namespace MockApi

/-- No node in the schema has `allOf` or is a circular marker. -/
def Schema.Plain (s : Schema) : Prop := ∀ t, s.Contains t → t.allOf = none ∧ t.circular = false

theorem Schema.plain_iff {s : Schema} :
    s.Plain ↔ (s.allOf = none ∧ s.circular = false) ∧ ∀ t ∈ s.children, t.Plain :=
  forall_contains_iff

theorem Schema.plain_of_children_eq_nil {s : Schema} (hchildren : s.children = [])
    (hallOf : s.allOf = none) (hcircular : s.circular = false) : s.Plain :=
  forall_reaches_of_children_eq_nil hchildren ⟨hallOf, hcircular⟩

namespace Reference

open Schema

/-- Where a chain of references ends. -/
inductive ChainEnd where
  /-- At a reference that is being expanded already. -/
  | cut
  /-- At a reference that cannot be followed. -/
  | lost
  /-- At a node without a reference, inside the expansion of the references on the stack. -/
  | node (stack : List String) (target : Schema)

/-- The chain of references from a node, inside the expansion of those on the stack. -/
inductive Chain (schemas : Entries Schema) : List String → Schema → ChainEnd → Prop
  | cut {stack : List String} {s : Schema} {reference : String}
      (hreference : s.reference = some reference) (hmem : reference ∈ stack) :
      Chain schemas stack s .cut
  | lost {stack : List String} {s : Schema} {reference : String} {problem : Problem}
      (hreference : s.reference = some reference) (hfresh : reference ∉ stack)
      (hfind : find .schemas schemas reference = .error problem) : Chain schemas stack s .lost
  | onward {stack : List String} {s target : Schema} {reference : String} {last : ChainEnd}
      (hreference : s.reference = some reference) (hfresh : reference ∉ stack)
      (hfind : find .schemas schemas reference = .ok target)
      (h : Chain schemas (reference :: stack) target last) : Chain schemas stack s last
  | node {stack : List String} {s : Schema} (hreference : s.reference = none) :
      Chain schemas stack s (.node stack s)

/-- The result is what a node unfolds to inside the expansion of the references on the stack, cut at
these references and at those that are followed on the way down. -/
inductive Unfolds (schemas : Entries Schema) : List String → Schema → Schema → Prop
  | cut {stack : List String} {s : Schema} (h : Chain schemas stack s .cut) :
      Unfolds schemas stack s Schema.cut
  | lost {stack : List String} {s : Schema} (h : Chain schemas stack s .lost) :
      Unfolds schemas stack s Schema.empty
  | node {stack below : List String} {s target result : Schema}
      (h : Chain schemas stack s (.node below target)) (houtline : result.SameOutline target)
      (hslots : ∀ slot source made, target.at? slot = some source → result.at? slot = some made →
        Unfolds schemas below source made) : Unfolds schemas stack s result

section

variable {schemas : Entries Schema}

/-! ## One result -/

theorem Chain.unique {stack : List String} {s : Schema} {last other : ChainEnd}
    (h : Chain schemas stack s last) (hother : Chain schemas stack s other) : other = last := by
  induction h with
  | cut hreference hmem => cases hother <;> simp_all
  | lost hreference hfresh hfind => cases hother <;> simp_all
  | node hreference => cases hother <;> simp_all
  | onward hreference hfresh hfind _ ih =>
      cases hother with
      | onward hreference' _ hfind' h' =>
          obtain rfl := Option.some.inj (hreference.symm.trans hreference')
          obtain rfl := Except.ok.inj (hfind.symm.trans hfind')
          exact ih h'
      | _ => simp_all

/-- A node unfolds to one result. -/
theorem Unfolds.unique {stack : List String} {s result other : Schema}
    (h : Unfolds schemas stack s result) (hother : Unfolds schemas stack s other) :
    other = result := by
  induction h generalizing other with
  | cut hchain =>
      cases hother with
      | cut _ => rfl
      | lost hchain' | node hchain' _ _ => cases hchain.unique hchain'
  | lost hchain =>
      cases hother with
      | lost _ => rfl
      | cut hchain' | node hchain' _ _ => cases hchain.unique hchain'
  | @node stack below s target result hchain houtline _ ih =>
      cases hother with
      | cut hchain' | lost hchain' => cases hchain.unique hchain'
      | @node _ _ _ target' _ hchain' houtline' hslots' =>
          obtain ⟨rfl, rfl⟩ := ChainEnd.node.inj (hchain.unique hchain')
          refine (houtline'.trans houtline.symm).eq_of_at? fun slot => ?_
          have hfilled := houtline.isSome_at? slot
          have hfilled' := houtline'.isSome_at? slot
          cases hsource : target'.at? slot with
          | none => simp_all
          | some source =>
              rw [hsource, Option.isSome_some] at hfilled hfilled'
              obtain ⟨made, hmade⟩ := Option.isSome_iff_exists.mp hfilled
              obtain ⟨made', hmade'⟩ := Option.isSome_iff_exists.mp hfilled'
              have hsame : made' = made :=
                ih slot source made hsource hmade (hslots' slot source made' hsource hmade')
              rw [hmade, hmade', hsame]

/-! ## The expansion unfolds -/

/-- A node with a reference that is followed unfolds to what the target does. -/
theorem Unfolds.onward {stack : List String} {s target result : Schema} {reference : String}
    (hreference : s.reference = some reference) (hfresh : reference ∉ stack)
    (hfind : find .schemas schemas reference = .ok target)
    (h : Unfolds schemas (reference :: stack) target result) : Unfolds schemas stack s result := by
  cases h with
  | cut hchain => exact .cut (.onward hreference hfresh hfind hchain)
  | lost hchain => exact .lost (.onward hreference hfresh hfind hchain)
  | node hchain houtline hslots =>
      exact .node (.onward hreference hfresh hfind hchain) houtline hslots

/-- A plain node unfolds to its expansion when the nodes with its references unfold to what stands
for these. -/
theorem Unfolds.expandWith {stack : List String} {follow : String → Resolution Schema} {s : Schema}
    (hplain : s.Plain) (hfollow : ∀ r, s.Exposes r → ∀ t, t.reference = some r →
      Unfolds schemas stack t (follow r).value) :
    Unfolds schemas stack s (Reference.expandWith follow s).value := by
  induction s using childInduction with
  | step s ih =>
      obtain ⟨⟨hallOf, hopen⟩, hchildren⟩ := plain_iff.mp hplain
      obtain ⟨own, hreference, hexpand⟩ | ⟨_, hcircular, _⟩ | ⟨hreference, _, hexpand⟩ :=
        expandWith_cases follow s
      · rw [hexpand]
        exact hfollow own (exposes_of_reference hreference) s hreference
      · simp [hopen] at hcircular
      · rw [hexpand]
        have hsettled : ∀ f : Schema → Schema, (s.mapChildren f).settled = s.mapChildren f := by
          intro f
          simp [settled, mapChildren, hallOf]
        dsimp only
        rw [hsettled]
        refine .node (.node hreference) (sameOutline_mapChildren _ s) ?_
        intro slot source made hsource hmade
        rw [at?_mapChildren, hsource] at hmade
        obtain rfl := Option.some.inj hmade
        have hchild := mem_children_of_at? hsource
        refine ih source hchild (hchildren source hchild) fun r hr => ?_
        exact hfollow r (exposes_of_child hreference hopen hchild hr)

end

/-- Without `allOf` and circular markers in the document, the expansion of a schema is what the
schema unfolds to. -/
theorem expand_unfolds (schemas : Entries Schema) (s : Schema) (hs : s.Plain)
    (hschemas : ∀ e ∈ schemas, e.2.Plain) (result : Schema) :
    Unfolds schemas [] s result ↔ result = (expand schemas s).value := by
  obtain ⟨follow, hexpand, hfollow⟩ := exists_follow_expand schemas
    (motive := fun stack r result =>
      ∀ t, t.reference = some r → Unfolds schemas stack t result.value)
    (fun stack r hmem t hreference => .cut (.cut hreference hmem))
    (fun stack r problem hfresh hfind t hreference => .lost (.lost hreference hfresh hfind))
    (fun stack r target follow hfresh hfind hfollow t hreference => by
      obtain ⟨e, he, rfl⟩ := mem_of_find_eq_ok hfind
      exact .onward hreference hfresh hfind (.expandWith (hschemas e he) hfollow))
    s
  have hunfolds : Unfolds schemas [] s (expand schemas s).value := by
    rw [hexpand]
    exact .expandWith hs hfollow
  constructor
  · intro h
    exact hunfolds.unique h
  · rintro rfl
    exact hunfolds

/-- A tree with a label and two subtrees, each given by a reference to the tree itself. -/
def binaryTree : Schema where
  keywords := { type := some .object }
  properties := some [("label", { keywords := { type := some .string } }),
    ("left", { reference := some "#/components/schemas/Tree" }),
    ("right", { reference := some "#/components/schemas/Tree" })]

/-- Both subtrees are cut where they stand, and not the second one for the sake of the first. -/
theorem expand_unfolds_binaryTree :
    binaryTree.Plain ∧
    Unfolds [("Tree", binaryTree)] [] { reference := some "#/components/schemas/Tree" }
      { keywords := { type := some .object }
        properties := some [("label", { keywords := { type := some .string } }),
          ("left", Schema.cut), ("right", Schema.cut)] } := by
  have htree : binaryTree.Plain := by
    refine plain_iff.mpr ⟨⟨rfl, rfl⟩, ?_⟩
    refine List.forall_mem_cons.mpr ⟨plain_of_children_eq_nil rfl rfl rfl, ?_⟩
    refine List.forall_mem_cons.mpr ⟨plain_of_children_eq_nil rfl rfl rfl, ?_⟩
    exact List.forall_mem_singleton.mpr (plain_of_children_eq_nil rfl rfl rfl)
  refine ⟨htree, ?_⟩
  have hunfolds := expand_unfolds [("Tree", binaryTree)]
    { reference := some "#/components/schemas/Tree" } (plain_of_children_eq_nil rfl rfl rfl)
    (List.forall_mem_singleton.mpr htree)
  exact (hunfolds _).mpr rfl

end Reference

end MockApi
