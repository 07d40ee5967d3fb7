import Mathlib.Data.List.Flatten
import Mathlib.Data.List.Nodup
import Mathlib.Data.List.Perm.Subperm
import MockApi.Proofs.Node.Reader
import MockApi.Spec.Group
import MockApi.Spec.Parse

/-! # Endpoints are told apart by method and path

A document gives every path once, and a path every method once, so no two of its endpoints have both
in common. Grouping puts every endpoint into one group; a selection takes endpoints of the document
and none of them twice.
-/

namespace MockApi

/-- The method and the path. -/
def Endpoint.key (e : Endpoint) : Method × String := (e.method, e.path)

namespace Spec

open Node

/-! ## Reading -/

theorem map_fst_filterMap_zip_sublist {α β : Type} (xs : List α) (ys : List (Option β)) :
    (((xs.zip ys).filterMap fun (x, y) => y.map fun y => (x, y)).map Prod.fst).Sublist xs := by
  induction xs generalizing ys with
  | nil => simp
  | cons x rest ih =>
      rcases ys with _ | ⟨_ | y, ys⟩
      · simp
      · simpa using (ih ys).cons x
      · simpa using ih ys

/-- A path item has each method at most once. -/
theorem nodup_methods_of_pathItem {anchors : Anchors} {depth : Nat} {t : Node}
    {operations : List (Method × Operation)} (h : pathItem? anchors depth t = some operations) :
    (operations.map Prod.fst).Nodup := by
  unfold pathItem? at h
  obtain ⟨⟨_, found⟩, _, h⟩ := Option.bind_eq_some_iff.mp h
  obtain ⟨read, _, h⟩ := Option.bind_eq_some_iff.mp h
  obtain rfl := Option.some.inj h
  have hall : Method.all.Nodup := by decide
  exact hall.sublist (map_fst_filterMap_zip_sublist Method.all read)

theorem nodup_keys_endpoints {paths : Entries (List (Method × Operation))}
    (hpaths : (Entries.keys paths).Nodup)
    (hmethods : ∀ item ∈ paths, (item.2.map Prod.fst).Nodup) :
    ((endpoints paths).map Endpoint.key).Nodup := by
  have hkeys : (endpoints paths).map Endpoint.key =
      paths.flatMap fun item => (item.2.map Prod.fst).map fun m => (m, item.1) := by
    simp [endpoints, List.map_flatMap, Function.comp_def, Endpoint.key, endpoint]
  rw [hkeys, List.nodup_flatMap]
  constructor
  · intro item hitem
    exact (hmethods item hitem).map fun m m' h => (Prod.mk.inj h).1
  · -- endpoints of two items differ in the path
    refine (List.pairwise_map.mp hpaths).imp fun {a b} hne => ?_
    intro key ha hb
    obtain ⟨_, _, rfl⟩ := List.mem_map.mp ha
    obtain ⟨_, _, h⟩ := List.mem_map.mp hb
    exact hne (Prod.mk.inj h).2.symm

theorem nodup_keys_of_draft {document : Document} {draft : Draft} {d : ApiDocument}
    (hdraft : draft? document = some draft) (h : draft.finish = .ok d) :
    (d.endpoints.map Endpoint.key).Nodup := by
  unfold Draft.finish at h
  split at h
  next => cases h
  next =>
    split at h
    next => cases h
    next paths hpaths =>
      obtain rfl := Except.ok.inj h
      unfold draft? at hdraft
      obtain ⟨⟨depth, found⟩, _, hdraft⟩ := Option.bind_eq_some_iff.mp hdraft
      dsimp only at hdraft
      split at hdraft
      next =>
        simp only [Option.bind_eq_bind, Option.bind_eq_some_iff, Option.pure_def] at hdraft
        obtain ⟨_, _, _, _, read, hread, _, _, hdraft⟩ := hdraft
        obtain rfl := Option.some.inj hdraft
        obtain rfl : read = some paths := hpaths
        obtain ⟨node, hnode⟩ := exists_of_maybe hread
        obtain ⟨hnodup, hitems⟩ := nodup_keys_of_entries hnode
        refine nodup_keys_endpoints hnodup fun item hitem => ?_
        obtain ⟨_, _, -, hitem⟩ := hitems item hitem
        exact nodup_methods_of_pathItem hitem
      next => cases hdraft

/-- No two endpoints of a document have method and path in common. -/
theorem nodup_keys_of_parse {format : Option TextFormat} {text : String} {d : ApiDocument}
    (h : parse format text = .ok d) : (d.endpoints.map Endpoint.key).Nodup := by
  unfold parse at h
  dsimp only at h
  split at h
  all_goals
    split at h
    next draft hdraft =>
      obtain ⟨document, _, hdraft⟩ := Option.bind_eq_some_iff.mp hdraft
      exact nodup_keys_of_draft hdraft h
    next => cases h

/-! ## Selecting -/

theorem flatMap_add_perm (groups : Groups) (e : Endpoint) :
    ((groups.add e).flatMap Prod.snd).Perm (e :: groups.flatMap Prod.snd) := by
  unfold Groups.add
  induction groups with
  | nil => simp [Entries.alter]
  | cons group rest ih =>
      rcases group with ⟨label, members⟩
      rw [Entries.alter]
      split
      · simp only [List.flatMap_cons, Option.getD_some, List.append_assoc]
        exact List.perm_middle
      · simp only [List.flatMap_cons]
        exact (ih.append_left members).trans List.perm_middle

theorem flatMap_foldl_add_perm (es : List Endpoint) (groups : Groups) :
    ((es.foldl Groups.add groups).flatMap Prod.snd).Perm (es ++ groups.flatMap Prod.snd) := by
  induction es generalizing groups with
  | nil => exact .refl _
  | cons e rest ih =>
      have hstep := (flatMap_add_perm groups e).append_left rest
      exact (ih (groups.add e)).trans (hstep.trans List.perm_middle)

/-- Every endpoint is in one group, once. -/
theorem flatMap_group_perm (es : List Endpoint) : ((group es).flatMap Prod.snd).Perm es := by
  unfold group
  rw [List.partition_eq_filter_filter]
  refine (flatMap_foldl_add_perm _ []).trans ?_
  rw [List.flatMap_nil, List.append_nil]
  exact List.perm_append_comm.trans (List.filter_append_perm _ es)

theorem matching_subperm (word : String) (es : List Endpoint) :
    ((group es).matching word).Subperm es := by
  have hsublist : ((group es).matching word).Sublist ((group es).flatMap Prod.snd) :=
    List.filter_sublist.flatMap Prod.snd
  exact hsublist.subperm.trans (flatMap_group_perm es).subperm

/-- A selection takes no endpoint more often than it is there. -/
theorem apply_subperm (s : Selection) (es : List Endpoint) : (s.apply es).Subperm es := by
  rcases s with ⟨_ | label, _ | word⟩
  · exact .refl es
  · exact List.filter_sublist.subperm
  · exact matching_subperm label es
  · exact List.filter_sublist.subperm.trans (matching_subperm label es)

theorem nodup_keys_apply {s : Selection} {es : List Endpoint} (h : (es.map Endpoint.key).Nodup) :
    ((s.apply es).map Endpoint.key).Nodup := by
  obtain ⟨taken, hperm, hsublist⟩ := apply_subperm s es
  exact (hperm.map Endpoint.key).nodup_iff.mp (h.sublist (hsublist.map Endpoint.key))

end Spec

end MockApi
