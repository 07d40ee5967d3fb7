import MockApi.Proofs.Schema.Children
import MockApi.Schema.Nullable

/-! # The paths that the walk collects

The walk visits nodes in depth-first order and carries along what it has found. Its outcome is
described without that state: list the nodes that are met, each with the names of the properties on
the way to it, take the dot paths of the nullable ones, and keep the first occurrence of each path
that is not empty.
-/

namespace MockApi.Schema

/-- The nodes that are met from a node on, in depth-first order, each with the names of the
properties on the way. References and circular markers are not met, nor is anything below them. -/
def openNodes (s : Schema) : List (List String × Schema) :=
  if s.isMarker then []
  else
    ([], s) ::
      ((s.allOf.getD [] ++ s.oneOf.getD [] ++ s.anyOf.getD []).attach.flatMap (fun t =>
          openNodes t.1) ++
        (s.properties.getD []).attach.flatMap (fun e =>
          (openNodes e.1.2).map fun n => (e.1.1 :: n.1, n.2)) ++
        s.items.toList.attach.flatMap (fun t => openNodes t.1))
termination_by sizeOf s
decreasing_by
  all_goals rw [sizeOf_eq s]
  · rcases List.mem_append.mp t.2 with h | h
    · rcases List.mem_append.mp h with h | h <;>
        have hlt := sizeOf_lt_of_mem_branches h <;>
        omega
    · have hlt := sizeOf_lt_of_mem_branches h
      omega
  · have hlt := sizeOf_lt_of_mem_properties e.2
    omega
  · have hlt := sizeOf_lt_of_mem_items t.2
    omega

theorem openNodes_of_marker {s : Schema} (h : s.isMarker = true) : s.openNodes = [] := by
  rw [openNodes, if_pos h]

theorem openNodes_of_open {s : Schema} (h : s.isMarker = false) :
    s.openNodes =
      [([], s)] ++
        ((s.allOf.getD [] ++ s.oneOf.getD [] ++ s.anyOf.getD []).flatMap openNodes ++
          (s.properties.getD []).flatMap (fun e =>
            (openNodes e.2).map fun n => (e.1 :: n.1, n.2)) ++
          s.items.toList.flatMap openNodes) := by
  rw [openNodes, if_neg (by simp [h])]
  simp only [List.flatMap_subtype, List.unattach_attach, List.singleton_append]

/-- Names joined by dots, without those empty names that come before any other. -/
def dotPath (names : List String) : String :=
  ".".intercalate (names.dropWhile String.isEmpty)

/-! ## Dot paths -/

theorem isEmpty_intercalate_cons {name : String} {rest : List String}
    (h : name.isEmpty = false) : (".".intercalate (name :: rest)).isEmpty = false := by
  cases rest with
  | nil => rwa [String.intercalate_singleton]
  | cons next rest =>
      rw [String.intercalate_cons_cons, String.append_assoc]
      simp_all

theorem childPath_dotPath (names : List String) (name : String) :
    childPath (dotPath names) name = dotPath (names ++ [name]) := by
  unfold childPath dotPath
  rw [List.dropWhile_append]
  cases hdrop : names.dropWhile String.isEmpty with
  | nil =>
      cases hname : name.isEmpty <;> simp_all
  | cons front rest =>
      have hfront : front.isEmpty = false := by
        have hhead := List.head?_dropWhile_not String.isEmpty names
        rwa [hdrop] at hhead
      rw [if_neg (by simp [isEmpty_intercalate_cons hfront]), if_neg (by simp),
        String.intercalate_append_of_ne_nil (by simp) (by simp), String.intercalate_singleton]

theorem foldl_childPath_dotPath (front names : List String) :
    names.foldl childPath (dotPath front) = dotPath (front ++ names) := by
  induction names generalizing front with
  | nil => simp
  | cons name rest ih =>
      rw [List.foldl_cons, childPath_dotPath, ih, List.append_assoc]
      rfl

/-! ## First occurrences -/

theorem foldl_notePath (found paths : List String) :
    paths.foldl notePath found =
      found ++ (paths.filter fun path => path ∉ found).eraseDups := by
  induction paths generalizing found with
  | nil => simp
  | cons path rest ih =>
      rw [List.foldl_cons, ih, notePath]
      split
      next hmem => simp [hmem]
      next hmem =>
        -- the path that is noted now is what `eraseDups` drops from the rest
        have hfilter : (rest.filter fun p => p ∉ found ++ [path]) =
            (rest.filter fun p => p ∉ found).filter fun p => !p == path := by
          rw [List.filter_filter]
          exact List.filter_congr fun p _ => by by_cases hp : p = path <;> simp [hp]
        rw [List.filter_cons_of_pos (by simpa using hmem), List.eraseDups_cons, hfilter,
          List.append_assoc]
        rfl

theorem nodup_foldl_notePath {found : List String} (paths : List String) (h : found.Nodup) :
    (paths.foldl notePath found).Nodup := by
  induction paths generalizing found with
  | nil => exact h
  | cons path rest ih =>
      refine ih ?_
      unfold notePath
      split
      next => exact h
      next hmem =>
        refine List.nodup_append.mpr ⟨h, by simp, ?_⟩
        intro a ha b hb hab
        obtain rfl := List.mem_singleton.mp hb
        exact hmem (hab ▸ ha)

/-! ## The walk -/

/-- The paths of the nullable nodes among those met below a path. -/
def notedPaths (path : String) (nodes : List (List String × Schema)) : List String :=
  ((nodes.filter fun n => n.2.keywords.nullable).map fun n => n.1.foldl childPath path).filter
    fun p => !p.isEmpty

theorem notedPaths_append (path : String) (front back : List (List String × Schema)) :
    notedPaths path (front ++ back) = notedPaths path front ++ notedPaths path back := by
  simp only [notedPaths, List.filter_append, List.map_append]

theorem notedPaths_below (path name : String) (nodes : List (List String × Schema)) :
    notedPaths path (nodes.map fun n => (name :: n.1, n.2)) =
      notedPaths (childPath path name) nodes := by
  simp only [notedPaths, List.filter_map, List.map_map, Function.comp_def, List.foldl_cons]

/-- Whatever was found before, the walk adds what it meets in order. -/
def CollectsOpenNodes (s : Schema) : Prop :=
  ∀ path found, collectNullable path found s = (notedPaths path s.openNodes).foldl notePath found

theorem collectList_eq {branches : List Schema} (h : ∀ t ∈ branches, CollectsOpenNodes t)
    (path : String) (found : List String) :
    collectList path found branches =
      (notedPaths path (branches.flatMap openNodes)).foldl notePath found := by
  induction branches generalizing found with
  | nil => rw [collectList]; rfl
  | cons s rest ih =>
      rw [collectList, h s List.mem_cons_self, ih fun t ht => h t (List.mem_cons_of_mem _ ht),
        List.flatMap_cons, notedPaths_append, List.foldl_append]

theorem collectEntries_eq {entries : List (String × Schema)}
    (h : ∀ e ∈ entries, CollectsOpenNodes e.2) (path : String) (found : List String) :
    collectEntries path found entries =
      (notedPaths path (entries.flatMap fun e =>
        e.2.openNodes.map fun n => (e.1 :: n.1, n.2))).foldl notePath found := by
  induction entries generalizing found with
  | nil => rw [collectEntries]; rfl
  | cons e rest ih =>
      rw [collectEntries, h e List.mem_cons_self, ih fun t ht => h t (List.mem_cons_of_mem _ ht),
        List.flatMap_cons, notedPaths_append, notedPaths_below, List.foldl_append]

theorem collectBranches_eq {list : Option (List Schema)}
    (h : ∀ t ∈ list.getD [], CollectsOpenNodes t) (path : String) (found : List String) :
    collectBranches path found list =
      (notedPaths path ((list.getD []).flatMap openNodes)).foldl notePath found := by
  cases list with
  | none => rw [collectBranches]; rfl
  | some branches =>
      rw [collectBranches]
      exact collectList_eq h path found

theorem collectProperties_eq {properties : Option (List (String × Schema))}
    (h : ∀ e ∈ properties.getD [], CollectsOpenNodes e.2) (path : String) (found : List String) :
    collectProperties path found properties =
      (notedPaths path ((properties.getD []).flatMap fun e =>
        e.2.openNodes.map fun n => (e.1 :: n.1, n.2))).foldl notePath found := by
  cases properties with
  | none => rw [collectProperties]; rfl
  | some entries =>
      rw [collectProperties]
      exact collectEntries_eq h path found

theorem collectItems_eq {items : Option Schema} (h : ∀ t ∈ items.toList, CollectsOpenNodes t)
    (path : String) (found : List String) :
    collectItems path found items =
      (notedPaths path (items.toList.flatMap openNodes)).foldl notePath found := by
  cases items with
  | none => rw [collectItems]; rfl
  | some s =>
      rw [collectItems, h s (by simp)]
      simp

theorem collectNullable_of_marker {s : Schema} (h : s.isMarker = true) (path : String)
    (found : List String) : collectNullable path found s = found := by
  cases s
  rw [collectNullable]
  exact if_pos h

theorem collectNullable_of_open {s : Schema} (h : s.isMarker = false) (path : String)
    (found : List String) :
    collectNullable path found s =
      let own := if s.keywords.nullable && !path.isEmpty then notePath found path else found
      let branches := collectBranches path (collectBranches path (collectBranches path own s.allOf)
        s.oneOf) s.anyOf
      collectItems path (collectProperties path branches s.properties) s.items := by
  cases s
  rw [collectNullable]
  exact if_neg (by simpa [isMarker] using h)

theorem collectsOpenNodes (s : Schema) : CollectsOpenNodes s := by
  induction s using childInduction with
  | step s ih =>
      obtain ⟨hproperties, hitems, -, honeOf, hanyOf, hallOf⟩ := forall_mem_children_iff.mp ih
      intro path found
      cases hmarker : s.isMarker with
      | true => rw [openNodes_of_marker hmarker, collectNullable_of_marker hmarker]; rfl
      | false =>
          have hown :
              (if s.keywords.nullable && !path.isEmpty then notePath found path else found) =
                (notedPaths path [([], s)]).foldl notePath found := by
            cases hnullable : s.keywords.nullable <;> cases hpath : path.isEmpty <;>
              simp [notedPaths, hnullable, hpath]
          rw [collectNullable_of_open hmarker, collectItems_eq hitems,
            collectProperties_eq hproperties, collectBranches_eq hanyOf, collectBranches_eq honeOf,
            collectBranches_eq hallOf, hown, openNodes_of_open hmarker]
          simp only [notedPaths_append, List.flatMap_append, List.foldl_append]

/-- The paths of nullable properties are the first occurrences, in depth-first order, of the dot
paths of the nullable nodes that are met, without the empty path. -/
theorem nullablePaths_eq_firstOccurrences (s : Schema) :
    s.nullablePaths =
      (((s.openNodes.filter fun n => n.2.keywords.nullable).map fun n => dotPath n.1).filter
        fun path => !path.isEmpty).eraseDups ∧
    s.nullablePaths.Nodup := by
  have hdotPath : ∀ names : List String, names.foldl childPath "" = dotPath names := by
    intro names
    simpa [dotPath] using foldl_childPath_dotPath [] names
  have hwalk : s.nullablePaths = (notedPaths "" s.openNodes).foldl notePath [] :=
    collectsOpenNodes s "" []
  constructor
  · rw [hwalk, foldl_notePath]
    simp only [notedPaths, hdotPath]
    simp
  · rw [hwalk]
    exact nodup_foldl_notePath _ List.nodup_nil

-- two branches name the same path
example :
    nullablePaths {
      anyOf := some [
        { properties := some [("a", { keywords := { nullable := true } })] },
        { properties := some [("b", {}), ("a", { keywords := { nullable := true } })] }] } =
      ["a"] := by
  rfl

end MockApi.Schema
