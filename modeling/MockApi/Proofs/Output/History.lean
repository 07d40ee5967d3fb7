import Mathlib.Data.List.Induction
import MockApi.Proofs.Output.Run
import MockApi.Proofs.Text.Case

/-! # The manifest over many runs

Every run puts its entries behind those it keeps, and keeps none that it has made anew. So after any
number of runs the manifest has one entry for each endpoint that was ever generated, the entry of
the last run that generated it, and this is the entry that is found under the endpoint's method, in
any case of its letters, and path.

An entry without a path is never kept. The runs considered here are over endpoints with paths.
-/

namespace MockApi

/-- What tells the entry of an endpoint apart from others. -/
def EndpointMock.entryKey (m : EndpointMock) : String × String :=
  (m.endpoint.method.upper, m.endpoint.path)

/-- A run over endpoints with paths, none of them twice. -/
structure Run.Proper (r : Run) : Prop where
  nodup : (r.endpoints.map EndpointMock.key).Nodup
  named : ∀ m ∈ r.endpoints, m.endpoint.path ≠ ""

namespace Method

theorem upper_injective {m m' : Method} (h : m.upper = m'.upper) : m = m' := by
  cases m <;> cases m' <;> simp_all [upper]

/-- Endpoints are told apart with the method in upper case as well. -/
theorem upperKey_injective :
    Function.Injective fun key : Method × String => (key.1.upper, key.2) := by
  rintro ⟨m, path⟩ ⟨m', path'⟩ h
  obtain ⟨hmethod, hpath⟩ := Prod.mk.inj h
  exact Prod.ext (upper_injective hmethod) hpath

theorem upper_ne_empty (m : Method) : m.upper ≠ "" := by
  cases m <;> decide

theorem toUpper_upper (m : Method) : Text.toUpper m.upper = m.upper := by
  cases m <;> decide

theorem latinUpper_upper (m : Method) : Manifest.latinUpper m.upper = m.upper.toList := by
  cases m <;> decide

/-- The names of methods are capital letters. -/
theorem isUpper_of_mem_upper {m : Method} {c : Char} (h : c ∈ m.upper.toList) :
    c.toNat < 128 ∧ c.toUpper = c := by
  have hall : (m.upper.toList.all fun c => c.toNat < 128 ∧ c.toUpper = c) = true := by
    cases m <;> decide
  exact of_decide_eq_true (List.all_eq_true.mp hall c h)

end Method

namespace ManifestEntry

theorem key_ofMock (m : EndpointMock) : (ofMock m).key = m.entryKey := by
  unfold key EndpointMock.entryKey
  exact congrArg (fun method => (method, m.endpoint.path)) m.endpoint.method.toUpper_upper

end ManifestEntry

namespace Manifest

open ManifestEntry

/-! ## One run -/

/-- The keys of the entries, in order. -/
def keys (m : Manifest) : List (String × String) := m.entries.map ManifestEntry.key

theorem keys_ofRun (r : Run) : (ofRun r).keys = r.endpoints.map EndpointMock.entryKey := by
  unfold keys ofRun
  rw [List.map_map]
  exact List.map_congr_left fun m _ => key_ofMock m

theorem nodup_keys_ofRun {r : Run} (h : r.Proper) : (ofRun r).keys.Nodup := by
  have hkeys : r.endpoints.map EndpointMock.entryKey =
      (r.endpoints.map EndpointMock.key).map fun key => (key.1.upper, key.2) := by
    rw [List.map_map]
    rfl
  rw [keys_ofRun, hkeys]
  exact h.nodup.map Method.upperKey_injective

theorem isNamed_of_mem_ofRun {r : Run} (h : r.Proper) {e : ManifestEntry}
    (he : e ∈ (ofRun r).entries) : isNamed e = true := by
  obtain ⟨m, hm, rfl⟩ := List.mem_map.mp he
  simp [isNamed, ofMock, Method.upper_ne_empty, h.named m hm]

/-- An entry is kept when it has a method and a path and no new entry has its key. -/
theorem mem_keeping_iff {new old : Manifest} {e : ManifestEntry} :
    e ∈ (new.keeping old).entries ↔
      (e ∈ old.entries ∧ isNamed e = true ∧ e.key ∉ new.keys) ∨ e ∈ new.entries := by
  simp only [keeping, List.mem_append, List.mem_filter, keys, List.mem_map, Bool.and_eq_true,
    Bool.not_eq_true', List.any_eq_false, beq_iff_eq, not_exists, not_and]

theorem nodup_keys_keeping {new old : Manifest} (hnew : new.keys.Nodup) (hold : old.keys.Nodup) :
    (new.keeping old).keys.Nodup := by
  unfold keys keeping
  rw [List.map_append]
  refine List.nodup_append.mpr ⟨hold.sublist (List.filter_sublist.map _), hnew, ?_⟩
  rintro key hkept _ hfresh rfl
  obtain ⟨e, he, rfl⟩ := List.mem_map.mp hkept
  obtain ⟨n, hn, hkey⟩ := List.mem_map.mp hfresh
  have hno := (List.mem_filter.mp he).2
  simp only [Bool.and_eq_true, Bool.not_eq_true', List.any_eq_false, beq_iff_eq] at hno
  exact hno.2 n hn hkey

/-- What was just merged is not changed by merging it again. -/
theorem keeping_keeping (new old : Manifest) :
    new.keeping (new.keeping old) = new.keeping old := by
  have hnone : (new.entries.filter fun e =>
      isNamed e && !new.entries.any fun n => n.key == e.key) = [] := by
    refine List.filter_eq_nil_iff.mpr fun e he => ?_
    have hany : (new.entries.any fun n => n.key == e.key) = true :=
      List.any_eq_true.mpr ⟨e, he, beq_self_eq_true e.key⟩
    simp [hany]
  unfold keeping
  rw [List.filter_append, List.filter_filter, hnone]
  simp

/-! ## Many runs -/

/-- The manifest after runs, where there was none before the first of them. -/
def after (runs : List Run) : Manifest := runs.foldl (fun m r => (ofRun r).keeping m) {}

theorem after_append (runs : List Run) (r : Run) :
    after (runs ++ [r]) = (ofRun r).keeping (after runs) := by
  rw [after, List.foldl_append]
  rfl

theorem exists_of_mem_after {runs : List Run} {e : ManifestEntry} (h : e ∈ (after runs).entries) :
    ∃ r ∈ runs, ∃ m ∈ r.endpoints, e = ofMock m := by
  induction runs using List.reverseRecOn with
  | nil => simp [after] at h
  | append_singleton runs r ih =>
      rw [after_append] at h
      rcases mem_keeping_iff.mp h with ⟨hold, _⟩ | hnew
      · obtain ⟨r', hr', hm⟩ := ih hold
        exact ⟨r', List.mem_append_left _ hr', hm⟩
      · obtain ⟨m, hm, rfl⟩ := List.mem_map.mp hnew
        exact ⟨r, by simp, m, hm, rfl⟩

theorem nodup_keys_after {runs : List Run} (h : ∀ r ∈ runs, r.Proper) :
    (after runs).keys.Nodup := by
  induction runs using List.reverseRecOn with
  | nil => exact List.nodup_nil
  | append_singleton runs r ih =>
      rw [after_append]
      have hrun := h r (by simp)
      exact nodup_keys_keeping (nodup_keys_ofRun hrun)
        (ih fun r' hr' => h r' (List.mem_append_left _ hr'))

/-- The entry of a run stays as long as no later run generates the endpoint. -/
theorem mem_after_of_last (earlier : List Run) {later : List Run} {r : Run} {m : EndpointMock}
    (hrun : r.Proper) (hm : m ∈ r.endpoints)
    (hlast : ∀ l ∈ later, m.entryKey ∉ l.endpoints.map EndpointMock.entryKey) :
    ofMock m ∈ (after (earlier ++ r :: later)).entries := by
  have hmem : ofMock m ∈ (ofRun r).entries := List.mem_map_of_mem hm
  induction later using List.reverseRecOn with
  | nil =>
      rw [after_append]
      exact mem_keeping_iff.mpr (Or.inr hmem)
  | append_singleton later l ih =>
      rw [← List.cons_append, ← List.append_assoc, after_append]
      -- the entry is an old one for the later run, which does not make it anew
      refine mem_keeping_iff.mpr (Or.inl ⟨?_, isNamed_of_mem_ofRun hrun hmem, ?_⟩)
      · exact ih fun l' hl' => hlast l' (List.mem_append_left _ hl')
      · rw [keys_ofRun, key_ofMock]
        exact hlast l (by simp)

/-- Every endpoint that was ever generated was generated by a last run. -/
theorem exists_last {runs : List Run} {key : String × String}
    (h : ∃ r ∈ runs, key ∈ r.endpoints.map EndpointMock.entryKey) :
    ∃ earlier r later, runs = earlier ++ r :: later ∧
      key ∈ r.endpoints.map EndpointMock.entryKey ∧
      ∀ l ∈ later, key ∉ l.endpoints.map EndpointMock.entryKey := by
  induction runs using List.reverseRecOn with
  | nil => simp at h
  | append_singleton runs l ih =>
      by_cases hl : key ∈ l.endpoints.map EndpointMock.entryKey
      · exact ⟨runs, l, [], rfl, hl, by simp⟩
      · obtain ⟨r, hr, hkey⟩ := h
        have hr : r ∈ runs := by
          rcases List.mem_append.mp hr with hr | hr
          · exact hr
          · exact absurd (List.mem_singleton.mp hr ▸ hkey) hl
        obtain ⟨earlier, r, later, rfl, hkey, hlast⟩ := ih ⟨r, hr, hkey⟩
        refine ⟨earlier, r, later ++ [l], by simp, hkey, ?_⟩
        intro l' hl'
        rcases List.mem_append.mp hl' with hl' | hl'
        · exact hlast l' hl'
        · exact List.mem_singleton.mp hl' ▸ hl

theorem mem_keys_after_iff {runs : List Run} (h : ∀ r ∈ runs, r.Proper) {key : String × String} :
    key ∈ (after runs).keys ↔ ∃ r ∈ runs, key ∈ r.endpoints.map EndpointMock.entryKey := by
  constructor
  · intro hkey
    obtain ⟨e, he, rfl⟩ := List.mem_map.mp hkey
    obtain ⟨r, hr, m, hm, rfl⟩ := exists_of_mem_after he
    rw [key_ofMock]
    exact ⟨r, hr, List.mem_map_of_mem hm⟩
  · intro hkey
    obtain ⟨earlier, r, later, rfl, hkey, hlast⟩ := exists_last hkey
    obtain ⟨m, hm, rfl⟩ := List.mem_map.mp hkey
    have hmem := mem_after_of_last earlier (h r (by simp)) hm hlast
    rw [← key_ofMock]
    exact List.mem_map_of_mem hmem

/-! ## Finding entries -/

/-- A method that is written in any case of its letters is the method in upper case. -/
theorem latinUpper_toUpper {word : String} {method : Method}
    (h : latinUpper word = method.upper.toList) :
    latinUpper (Text.toUpper word) = method.upper.toList := by
  have hword : ∀ c ∈ word.toList, c.toNat < 128 := by
    intro c hc
    have hupper : c.toUpper ∈ method.upper.toList := by
      rw [← h]
      exact List.mem_map_of_mem hc
    exact Text.toNat_lt_of_toUpper (Method.isUpper_of_mem_upper hupper).1
  unfold latinUpper at h ⊢
  rw [Text.toList_toUpper hword, h]
  have hcapital := List.map_congr_left fun c hc => (Method.isUpper_of_mem_upper (m := method) hc).2
  exact hcapital.trans (List.map_id _)

/-- In a manifest of runs an entry is found by its method, in any case, and path. -/
theorem get?_after {runs : List Run} (h : ∀ r ∈ runs, r.Proper) {m : EndpointMock} {word : String}
    (hm : ofMock m ∈ (after runs).entries)
    (hword : latinUpper word = m.endpoint.method.upper.toList) :
    (after runs).get? word m.endpoint.path = some (ofMock m) := by
  have hquery := latinUpper_toUpper hword
  refine find?_eq_some_of_unique hm ?_ ?_
  · simp [ofMock, hquery, Method.latinUpper_upper]
  · intro e he hfound
    obtain ⟨_, _, m', _, rfl⟩ := exists_of_mem_after he
    simp only [ofMock, hquery, Method.latinUpper_upper, Bool.and_eq_true, beq_iff_eq,
      String.toList_inj] at hfound
    -- the keys are distinct, so the entry that is found is the one of the endpoint
    refine List.inj_on_of_nodup_map (nodup_keys_after h) he hm ?_
    rw [key_ofMock, key_ofMock]
    exact Prod.ext hfound.1 hfound.2

/-! ## Generations of documents -/

/-- What a manifest tells about generations that were made one after another. -/
structure Records (m : Manifest) (generations : List Generation) : Prop where
  distinct : m.keys.Nodup
  covers : ∀ method path, (method, path) ∈ m.keys ↔
    ∃ g ∈ generations, ∃ e ∈ g.endpoints, e.method.upper = method ∧ e.path = path
  /-- An endpoint is found as the last generation that took it has made it. -/
  latest : ∀ earlier g later, generations = earlier ++ g :: later →
    ∀ mock ∈ g.run.endpoints, (∀ l ∈ later, mock.key ∉ l.endpoints.map Endpoint.key) →
      ∀ word, latinUpper word = mock.endpoint.method.upper.toList →
        m.get? word mock.endpoint.path = some (ofMock mock)
  /-- The last run can be merged again. -/
  settled : ∀ earlier last, generations = earlier ++ [last] → (ofRun last.run).keeping m = m

theorem map_entryKey_run (g : Generation) :
    g.run.endpoints.map EndpointMock.entryKey =
      g.endpoints.map fun e => (e.method.upper, e.path) :=
  g.map_key_run_comp fun key => (key.1.upper, key.2)

theorem entryKey_mem_run_iff {g : Generation} {mock : EndpointMock} :
    mock.entryKey ∈ g.run.endpoints.map EndpointMock.entryKey ↔
      mock.key ∈ g.endpoints.map Endpoint.key := by
  have hmem := List.mem_map_of_injective Method.upperKey_injective (a := mock.key)
    (l := g.endpoints.map Endpoint.key)
  rw [List.map_map] at hmem
  rw [map_entryKey_run]
  exact hmem

theorem proper_run {g : Generation} (hread : g.IsRead) (hpath : ∀ e ∈ g.endpoints, e.path ≠ "") :
    g.run.Proper where
  nodup := Generation.nodup_keys_run hread
  named := by
    intro mock hmock
    have hkey : mock.key ∈ g.endpoints.map Endpoint.key := by
      rw [← g.map_key_run]
      exact List.mem_map_of_mem hmock
    obtain ⟨e, he, heq⟩ := List.mem_map.mp hkey
    rw [← (Prod.mk.inj heq).2]
    exact hpath e he

/-- However often documents are generated, each endpoint has one entry, which is its latest. -/
theorem records_after {generations : List Generation}
    (h : ∀ g ∈ generations, g.IsRead ∧ ∀ e ∈ g.endpoints, e.path ≠ "") :
    (after (generations.map Generation.run)).Records generations := by
  have hproper : ∀ r ∈ generations.map Generation.run, r.Proper := by
    intro r hr
    obtain ⟨g, hg, rfl⟩ := List.mem_map.mp hr
    exact proper_run (h g hg).1 (h g hg).2
  refine ⟨nodup_keys_after hproper, ?_, ?_, ?_⟩
  · intro method path
    have hrun : ∀ g : Generation, (method, path) ∈ g.run.endpoints.map EndpointMock.entryKey ↔
        ∃ e ∈ g.endpoints, e.method.upper = method ∧ e.path = path := by
      intro g
      simp only [map_entryKey_run, List.mem_map, Prod.mk.injEq]
    rw [mem_keys_after_iff hproper]
    simp only [← hrun, List.mem_map (f := Generation.run), exists_exists_and_eq_and]
  · rintro earlier g later rfl mock hmock hlast word hword
    refine get?_after hproper ?_ hword
    rw [List.map_append, List.map_cons] at hproper ⊢
    refine mem_after_of_last _ (hproper g.run (by simp)) hmock fun l hl => ?_
    obtain ⟨g', hg', rfl⟩ := List.mem_map.mp hl
    exact entryKey_mem_run_iff.not.mpr (hlast g' hg')
  · rintro earlier last rfl
    rw [List.map_append, List.map_singleton, after_append]
    exact keeping_keeping _ _

/-- The orders are generated a second time without the users. -/
theorem records_after_ordersAgain :
    ∃ d, Spec.parse (some .json) ordersText = .ok d ∧
      d.endpoints.map Endpoint.key = [(.get, "/orders"), (.post, "/orders"), (.get, "/users")] ∧
      let generations : List Generation :=
        [⟨d, {}, {}, ⟨0⟩⟩, ⟨d, { path := some "/orders" }, { dynamic := true }, ⟨1⟩⟩]
      (after (generations.map Generation.run)).Records generations := by
  obtain ⟨d, hparse, hkeys⟩ := parse_ordersText
  have hpath : ∀ e ∈ d.endpoints, e.path ≠ "" := by
    intro e he hpath
    have hkey := List.mem_map_of_mem (f := Endpoint.key) he
    simp [hkeys, Endpoint.key, hpath] at hkey
  refine ⟨d, hparse, hkeys, records_after ?_⟩
  have hgeneration : ∀ selection settings now,
      Generation.IsRead ⟨d, selection, settings, now⟩ ∧
        ∀ e ∈ Generation.endpoints ⟨d, selection, settings, now⟩, e.path ≠ "" := by
    intro selection settings now
    refine ⟨⟨some .json, ordersText, hparse⟩, fun e he => hpath e ?_⟩
    exact (Spec.apply_subperm selection d.endpoints).subset he
  simp only [List.forall_mem_cons, List.not_mem_nil, false_implies, implies_true, and_true]
  exact ⟨hgeneration _ _ _, hgeneration _ _ _⟩

end Manifest

end MockApi
