import MockApi.Proofs.Mock.Recorder
import MockApi.Proofs.Text.Bytes

/-! # The report of mismatches

Mismatches are filed under the keys of their endpoints, one by one or by taking in a whole other
collection, whose mismatches then come endpoint by endpoint. However a collection came about, its
report has every mismatch as often as it was recorded, sorted by the bytes of the keys, and the
mismatches of one endpoint in the order of their recording.
-/

namespace MockApi

namespace Mismatches

variable {ms ms' : Mismatches} {recorded recorded' : List Mismatch}

/-! ## What a collection holds -/

/-- The mismatches of an endpoint among some, in order. -/
def ofEndpoint (recorded : List Mismatch) (endpoint : String) : List Mismatch :=
  recorded.filter (·.endpoint = endpoint)

theorem ofEndpoint_append (first second : List Mismatch) (endpoint : String) :
    ofEndpoint (first ++ second) endpoint =
      ofEndpoint first endpoint ++ ofEndpoint second endpoint :=
  List.filter_append ..

theorem ofEndpoint_singleton (m : Mismatch) (endpoint : String) :
    ofEndpoint [m] endpoint = if endpoint = m.endpoint then [m] else [] := by
  simp [ofEndpoint, List.filter_cons, eq_comm]

theorem ofEndpoint_eq_nil_iff {endpoint : String} :
    ofEndpoint recorded endpoint = [] ↔ ∀ m ∈ recorded, m.endpoint ≠ endpoint := by
  simp [ofEndpoint]

/-- Lists with the same mismatches of every endpoint differ in their order only. -/
theorem perm_of_ofEndpoint (h : ∀ endpoint, ofEndpoint recorded endpoint =
    ofEndpoint recorded' endpoint) : recorded.Perm recorded' := by
  rw [List.perm_iff_count]
  intro m
  have hcount : ∀ list : List Mismatch, (ofEndpoint list m.endpoint).count m = list.count m :=
    fun list => List.count_filter (by simp)
  rw [← hcount recorded, ← hcount recorded', h]

/-- The collection has the endpoints of what was recorded, each once, and under each of them its
mismatches in the order of recording. -/
structure Holds (ms : Mismatches) (recorded : List Mismatch) : Prop where
  nodup : ms.byEndpoint.keys.Nodup
  mem_keys : ∀ endpoint, endpoint ∈ ms.byEndpoint.keys ↔ ofEndpoint recorded endpoint ≠ []
  filed : ∀ endpoint, (ms.get? endpoint).getD [] = ofEndpoint recorded endpoint

theorem holds_empty : empty.Holds [] where
  nodup := List.nodup_nil
  mem_keys _ := by simp [empty, Entries.keys, ofEndpoint]
  filed _ := rfl

namespace Holds

/-- Recording one mismatch more. -/
theorem push (h : ms.Holds recorded) (m : Mismatch) : (ms.push m).Holds (recorded ++ [m]) where
  nodup := by
    rw [Mismatches.push, Entries.alter_eq_insert]
    exact Entries.nodup_keys_insert h.nodup
  mem_keys endpoint := by
    have hkeys := h.mem_keys endpoint
    rw [Mismatches.push, Entries.keys_alter, ofEndpoint_append, ofEndpoint_singleton]
    by_cases hm : endpoint = m.endpoint
    · subst hm
      split <;> simp_all
    · split <;> simp [hm, hkeys]
  filed endpoint := by
    have hget : (ms.push m).get? endpoint =
        if endpoint = m.endpoint then some ((ms.get? m.endpoint).getD [] ++ [m])
        else ms.get? endpoint := Entries.find?_alter endpoint
    rw [hget, ofEndpoint_append, ofEndpoint_singleton]
    split
    next hm => rw [hm, Option.getD_some, h.filed]
    next => rw [h.filed, List.append_nil]

theorem pushAll (h : ms.Holds recorded) (more : List Mismatch) :
    (ms.pushAll more).Holds (recorded ++ more) := by
  induction more generalizing ms recorded with
  | nil =>
      rw [List.append_nil]
      exact h
  | cons m rest ih =>
      rw [List.append_cons]
      exact ih (h.push m)

/-- What a collection holds depends on the order within each endpoint alone. -/
theorem congr (h : ms.Holds recorded)
    (heq : ∀ endpoint, ofEndpoint recorded endpoint = ofEndpoint recorded' endpoint) :
    ms.Holds recorded' where
  nodup := h.nodup
  mem_keys endpoint := by rw [h.mem_keys, heq]
  filed endpoint := by rw [h.filed, heq]

/-! ## Listing endpoint by endpoint -/

theorem values_eq_map (h : ms.Holds recorded) :
    ms.byEndpoint.values = ms.byEndpoint.keys.map (ofEndpoint recorded) := by
  rw [Entries.values_eq_map h.nodup []]
  exact List.map_congr_left fun endpoint _ => h.filed endpoint

theorem toList_eq (h : ms.Holds recorded) :
    ms.toList = ms.byEndpoint.keys.flatMap (ofEndpoint recorded) := by
  rw [toList, h.values_eq_map, List.flatMap_def]

theorem sorted_eq (h : ms.Holds recorded) :
    ms.sorted = (ms.byEndpoint.keys.mergeSort fun a b => decide (a ≤ b)).flatMap
      (ofEndpoint recorded) := by
  rw [sorted, List.flatMap_def]
  exact congrArg _ (List.map_congr_left fun endpoint _ => h.filed endpoint)

end Holds

theorem ofEndpoint_ofEndpoint (endpoint endpoint' : String) :
    ofEndpoint (ofEndpoint recorded endpoint') endpoint =
      if endpoint = endpoint' then ofEndpoint recorded endpoint else [] := by
  split
  next h => subst h; simp [ofEndpoint]
  next h =>
    rw [ofEndpoint_eq_nil_iff]
    intro m hm heq
    exact h (heq.symm.trans (of_decide_eq_true (List.mem_filter.mp hm).2))

theorem ofEndpoint_flatMap_eq_nil {keys : List String} {endpoint : String}
    (h : endpoint ∉ keys) : ofEndpoint (keys.flatMap (ofEndpoint recorded)) endpoint = [] := by
  rw [ofEndpoint, List.filter_flatMap, List.flatMap_eq_nil_iff]
  intro key hkey
  have hne : endpoint ≠ key := (ne_of_mem_of_not_mem hkey h).symm
  exact (ofEndpoint_ofEndpoint endpoint key).trans (if_neg hne)

/-- Listing endpoints, each once, keeps the order within each of them. -/
theorem ofEndpoint_flatMap {keys : List String} (hnodup : keys.Nodup) {endpoint : String}
    (hmem : endpoint ∈ keys) :
    ofEndpoint (keys.flatMap (ofEndpoint recorded)) endpoint = ofEndpoint recorded endpoint := by
  induction keys with
  | nil => cases hmem
  | cons key rest ih =>
      obtain ⟨hkey, hrest⟩ := List.nodup_cons.mp hnodup
      rw [List.flatMap_cons, ofEndpoint_append, ofEndpoint_ofEndpoint]
      rcases List.mem_cons.mp hmem with rfl | hmem
      · rw [if_pos rfl, ofEndpoint_flatMap_eq_nil hkey, List.append_nil]
      · have hne : endpoint ≠ key := ne_of_mem_of_not_mem hmem hkey
        rw [if_neg hne, ih hrest hmem, List.nil_append]

namespace Holds

/-- However the endpoints are ordered, listing them all gives what was recorded, and in its order
within each endpoint. -/
theorem ofEndpoint_listed (h : ms.Holds recorded) {keys : List String}
    (hkeys : keys.Perm ms.byEndpoint.keys) (endpoint : String) :
    ofEndpoint (keys.flatMap (ofEndpoint recorded)) endpoint = ofEndpoint recorded endpoint := by
  by_cases hmem : endpoint ∈ keys
  · exact ofEndpoint_flatMap (hkeys.nodup_iff.mpr h.nodup) hmem
  · rw [ofEndpoint_flatMap_eq_nil hmem]
    rw [hkeys.mem_iff, h.mem_keys, not_not] at hmem
    exact hmem.symm

theorem ofEndpoint_toList (h : ms.Holds recorded) (endpoint : String) :
    ofEndpoint ms.toList endpoint = ofEndpoint recorded endpoint := by
  rw [h.toList_eq]
  exact h.ofEndpoint_listed (.refl _) endpoint

theorem ofEndpoint_sorted (h : ms.Holds recorded) (endpoint : String) :
    ofEndpoint ms.sorted endpoint = ofEndpoint recorded endpoint := by
  rw [h.sorted_eq]
  exact h.ofEndpoint_listed (List.mergeSort_perm ..) endpoint

/-- Taking in another collection counts as recording what it holds. -/
theorem extend (h : ms.Holds recorded) (h' : ms'.Holds recorded') :
    (ms.extend ms').Holds (recorded ++ recorded') := by
  refine (h.pushAll ms'.toList).congr fun endpoint => ?_
  rw [ofEndpoint_append, ofEndpoint_append, h'.ofEndpoint_toList]

/-! ## The report -/

theorem perm_sorted (h : ms.Holds recorded) : ms.sorted.Perm recorded :=
  perm_of_ofEndpoint h.ofEndpoint_sorted

theorem size_eq (h : ms.Holds recorded) : ms.size = recorded.length :=
  (perm_of_ofEndpoint h.ofEndpoint_toList).length_eq

theorem isEmpty_iff (h : ms.Holds recorded) : ms.isEmpty = true ↔ recorded = [] := by
  rw [isEmpty, List.isEmpty_iff]
  constructor
  · intro hnone
    rw [List.eq_nil_iff_forall_not_mem]
    intro m hm
    have hkey : m.endpoint ∈ ms.byEndpoint.keys :=
      (h.mem_keys m.endpoint).mpr (List.ne_nil_of_mem (List.mem_filter.mpr ⟨hm, by simp⟩))
    rw [hnone] at hkey
    cases hkey
  · rintro rfl
    rw [← List.map_eq_nil_iff (f := Prod.fst), List.eq_nil_iff_forall_not_mem]
    exact fun endpoint hkey => (h.mem_keys endpoint).mp hkey rfl

theorem pairwise_keys (keys : List String) :
    (keys.mergeSort fun a b => decide (a ≤ b)).Pairwise (· ≤ ·) := by
  have hsorted : (keys.mergeSort fun a b => decide (a ≤ b)).Pairwise
      fun a b => decide (a ≤ b) = true :=
    List.pairwise_mergeSort (by simpa using fun a b c => String.le_trans)
      (by simpa using String.le_total) keys
  simpa using hsorted

theorem pairwise_sorted (h : ms.Holds recorded) :
    ms.sorted.Pairwise fun m m' => m.endpoint ≤ m'.endpoint := by
  have hendpoint : ∀ endpoint, ∀ m ∈ ofEndpoint recorded endpoint, m.endpoint = endpoint :=
    fun endpoint m hm => of_decide_eq_true (List.mem_filter.mp hm).2
  rw [h.sorted_eq, List.pairwise_flatMap]
  constructor
  · intro endpoint _
    refine List.pairwise_of_forall_mem_list ?_
    intro m hm m' hm'
    have hsame : m.endpoint = m'.endpoint :=
      (hendpoint endpoint m hm).trans (hendpoint endpoint m' hm').symm
    exact hsame ▸ String.le_refl m.endpoint
  · refine (pairwise_keys _).imp fun hle m hm m' hm' => ?_
    rwa [hendpoint _ m hm, hendpoint _ m' hm']

/-- The report depends on what is held alone. -/
theorem sorted_eq_sorted (h : ms.Holds recorded) (h' : ms'.Holds recorded) :
    ms.sorted = ms'.sorted := by
  have hkeys : ms.byEndpoint.keys.Perm ms'.byEndpoint.keys :=
    (List.perm_ext_iff_of_nodup h.nodup h'.nodup).mpr fun endpoint => by
      rw [h.mem_keys, h'.mem_keys]
  have hsame := List.Perm.eq_of_pairwise (fun a b _ _ => String.le_antisymm)
    (pairwise_keys ms.byEndpoint.keys) (pairwise_keys ms'.byEndpoint.keys)
    ((List.mergeSort_perm ..).trans (hkeys.trans (List.mergeSort_perm ..).symm))
  rw [h.sorted_eq, h'.sorted_eq, hsame]

end Holds

end Mismatches

/-! ## How collections come about -/

/-- A program that records mismatches one by one and takes in what other programs recorded. -/
inductive Recording where
  | empty
  | push (before : Recording) (m : Mismatch)
  | extend (before other : Recording)

namespace Recording

open Mismatches

/-- The collection that a program leaves. -/
def run : Recording → Mismatches
  | empty => .empty
  | push before m => before.run.push m
  | extend before other => before.run.extend other.run

/-- The mismatches that a program records, in order; those of another program count where it is
taken in. -/
def recorded : Recording → List Mismatch
  | empty => []
  | push before m => before.recorded ++ [m]
  | extend before other => before.recorded ++ other.recorded

theorem holds_run (r : Recording) : r.run.Holds r.recorded := by
  induction r with
  | empty => exact holds_empty
  | push before m ih => exact ih.push m
  | extend before other ih ihother => exact ih.extend ihother

/-- The report of a collection is what was recorded, sorted by the bytes of the endpoints' keys and
in the order of recording within each endpoint. Mismatches share a key just where they share method
and path, and taking in another collection gives the report of recording its mismatches last. -/
theorem sorted_stable (r : Recording) :
    let report := r.run.sorted
    report.Perm r.recorded ∧
      report.Pairwise (fun m m' => Text.bytes m.endpoint ≤ Text.bytes m'.endpoint) ∧
      (∀ endpoint, report.filter (·.endpoint = endpoint) =
        r.recorded.filter (·.endpoint = endpoint)) ∧
      r.run.size = r.recorded.length ∧
      (r.run.isEmpty = true ↔ r.run.size = 0) ∧
      (∀ m m' : Mismatch, m.endpoint = m'.endpoint ↔ m.method = m'.method ∧ m.path = m'.path) ∧
      ∀ other : Recording, (r.extend other).run.sorted =
        (Mismatches.empty.pushAll (r.recorded ++ other.recorded)).sorted := by
  have h := r.holds_run
  refine ⟨h.perm_sorted, ?_, h.ofEndpoint_sorted, h.size_eq, ?_, fun _ _ => endpointKey_inj, ?_⟩
  · exact h.pairwise_sorted.imp Text.bytes_le_bytes_iff.mpr
  · rw [h.isEmpty_iff, h.size_eq, List.length_eq_zero_iff]
  · intro other
    exact (r.extend other).holds_run.sorted_eq_sorted (holds_empty.pushAll _)

end Recording

end MockApi
