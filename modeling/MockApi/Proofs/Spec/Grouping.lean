import MockApi.Proofs.Entries
import MockApi.Proofs.Spec.Endpoints

/-! # What groups hold and what a selection takes

Grouping writes endpoints one after another into entries by label, those with tags before the
others. The outcome is told without that order of writing: each label is there once, and under it
are the endpoints with that label as they come in the document. A selection then takes the endpoints
whose label and path contain its words, each as often as it is there.
-/

namespace MockApi

/-- Searching finds a word exactly where it is a part of the text. -/
theorem Text.contains_iff_isInfix {word cs : List Char} :
    contains word cs = true ↔ word <:+: cs := by
  induction cs with
  | nil => rw [contains, List.isEmpty_iff, List.infix_nil]
  | cons c rest ih =>
      rw [contains, Bool.or_eq_true, ih, List.isPrefixOf_iff_prefix, List.infix_cons_iff]

namespace Spec

open Entries

/-! ## Labels -/

/-- Endpoints in the order in which they are put into groups: those with tags come first. -/
def taggedFirst (es : List Endpoint) : List Endpoint :=
  (es.filter fun e => !e.tags.isEmpty) ++ es.filter fun e => e.tags.isEmpty

/-- The labels of groups: those of endpoints with tags and then the others, each once and where it
first comes. -/
def groupLabels (es : List Endpoint) : List String :=
  ((es.filter fun e => !e.tags.isEmpty).map groupLabel).eraseDups ++
    ((es.filter fun e => e.tags.isEmpty).map groupLabel).eraseDups

/-- Endpoints with tags never share a label with those without. -/
theorem isEmpty_tags_eq {e e' : Endpoint} (h : groupLabel e = groupLabel e') :
    e.tags.isEmpty = e'.tags.isEmpty := by
  have hchars := congrArg String.toList h
  unfold groupLabel at hchars
  cases he : e.tags.isEmpty <;> cases he' : e'.tags.isEmpty <;> simp [he, he'] at hchars ⊢

theorem groupLabels_eq_eraseDups (es : List Endpoint) :
    groupLabels es = ((taggedFirst es).map groupLabel).eraseDups := by
  rw [taggedFirst, List.map_append, List.eraseDups_append, groupLabels]
  congr 2
  refine (List.filter_eq_self.mpr fun label hlabel => ?_).symm
  obtain ⟨e, he, rfl⟩ := List.mem_map.mp hlabel
  have hnotMem : groupLabel e ∉ (es.filter fun e => !e.tags.isEmpty).map groupLabel := by
    intro hmem
    obtain ⟨e', he', heq⟩ := List.mem_map.mp hmem
    have hwith := (List.mem_filter.mp he').2
    have hwithout := (List.mem_filter.mp he).2
    simp [isEmpty_tags_eq heq, hwithout] at hwith
  simpa using hnotMem

theorem nodup_groupLabels (es : List Endpoint) : (groupLabels es).Nodup := by
  rw [groupLabels_eq_eraseDups]
  exact nodup_eraseDups _

theorem mem_groupLabels_iff {es : List Endpoint} {label : String} :
    label ∈ groupLabels es ↔ ∃ e ∈ es, groupLabel e = label := by
  rw [groupLabels_eq_eraseDups, List.mem_eraseDups, List.mem_map]
  refine exists_congr fun e => and_congr_left fun _ => ?_
  cases he : e.tags.isEmpty <;> simp [taggedFirst, he]

/-- Putting the endpoints with tags first does not change the order below a label. -/
theorem filter_label_taggedFirst (es : List Endpoint) (label : String) :
    (taggedFirst es).filter (groupLabel · = label) = es.filter (groupLabel · = label) := by
  rw [taggedFirst, List.filter_append, List.filter_filter, List.filter_filter]
  by_cases hlabel : ∃ e, groupLabel e = label
  · obtain ⟨e, rfl⟩ := hlabel
    -- below one label either all endpoints have tags or none has
    have hsame : ∀ p : Bool → Bool,
        es.filter (fun e' => decide (groupLabel e' = groupLabel e) && p e'.tags.isEmpty) =
          es.filter (fun e' => decide (groupLabel e' = groupLabel e) && p e.tags.isEmpty) := by
      refine fun p => List.filter_congr fun e' _ => ?_
      by_cases heq : groupLabel e' = groupLabel e
      · rw [isEmpty_tags_eq heq]
      · simp [heq]
    refine (congrArg₂ (· ++ ·) (hsame not) (hsame id)).trans ?_
    cases e.tags.isEmpty <;> simp
  · have hnone : ∀ e, groupLabel e ≠ label := fun e heq => hlabel ⟨e, heq⟩
    simp [hnone]

/-! ## Groups -/

/-- Under each label are the endpoints with that label, in the order of the document. -/
theorem group_eq (es : List Endpoint) :
    group es = (groupLabels es).map fun label => (label, es.filter (groupLabel · = label)) := by
  have hbuckets : group es = ((taggedFirst es).map groupLabel).eraseDups.map fun label =>
      (label, (taggedFirst es).filter (groupLabel · = label)) := by
    rw [← foldl_bucket_eq, group, List.partition_eq_filter_filter]
    rfl
  rw [hbuckets, groupLabels_eq_eraseDups]
  exact List.map_congr_left fun label _ => by rw [filter_label_taggedFirst]

/-- Groups that tell how a list of endpoints is divided. -/
structure Groups.Divides (groups : Groups) (es : List Endpoint) : Prop where
  /-- The groups hold every endpoint as often as it is there. -/
  perm : (groups.flatMap Prod.snd).Perm es
  /-- An endpoint is in one group. -/
  one : ∀ e ∈ es, ∃! g, g ∈ groups ∧ e ∈ g.2
  /-- Groups of endpoints with tags come first, and both kinds in the order in which they appear. -/
  labels : groups.keys = groupLabels es
  distinct : groups.keys.Nodup
  /-- A group holds the endpoints with its label in the order of the document. -/
  members : ∀ g ∈ groups, g.2 ≠ [] ∧ g.2 = es.filter (groupLabel · = g.1)

theorem mem_group_iff {es : List Endpoint} {g : String × List Endpoint} :
    g ∈ group es ↔ g.1 ∈ groupLabels es ∧ g.2 = es.filter (groupLabel · = g.1) := by
  rw [group_eq, List.mem_map]
  constructor
  · rintro ⟨label, hlabel, rfl⟩
    exact ⟨hlabel, rfl⟩
  · rintro ⟨hlabel, hmembers⟩
    exact ⟨g.1, hlabel, Prod.ext rfl hmembers.symm⟩

theorem keys_group (es : List Endpoint) : (group es).keys = groupLabels es := by
  rw [group_eq, keys, List.map_map]
  exact List.map_id _

theorem divides_group (es : List Endpoint) : (group es).Divides es where
  perm := flatMap_group_perm es
  one e he := by
    refine ⟨(groupLabel e, es.filter (groupLabel · = groupLabel e)), ⟨?_, ?_⟩, ?_⟩
    · exact mem_group_iff.mpr ⟨mem_groupLabels_iff.mpr ⟨e, he, rfl⟩, rfl⟩
    · exact List.mem_filter.mpr ⟨he, by simp⟩
    · rintro ⟨label, members⟩ ⟨hg, hmem⟩
      have hmembers : members = es.filter (groupLabel · = label) := (mem_group_iff.mp hg).2
      subst hmembers
      obtain rfl : groupLabel e = label := by simpa using (List.mem_filter.mp hmem).2
      rfl
  labels := keys_group es
  distinct := keys_group es ▸ nodup_groupLabels es
  members g hg := by
    obtain ⟨hlabel, hmembers⟩ := mem_group_iff.mp hg
    obtain ⟨e, he, heq⟩ := mem_groupLabels_iff.mp hlabel
    refine ⟨?_, hmembers⟩
    rw [hmembers]
    exact List.ne_nil_of_mem (List.mem_filter.mpr ⟨he, by simpa using heq⟩)

/-! ## Selections -/

/-- The lower case word is a part of the lower case text. -/
def OccursIn (word text : String) : Prop :=
  (Text.toLower word).toList <:+: (Text.toLower text).toList

theorem containsIgnoringCase_iff {word text : String} :
    containsIgnoringCase word text = true ↔ OccursIn word text :=
  Text.contains_iff_isInfix

instance (word text : String) : Decidable (OccursIn word text) :=
  decidable_of_iff _ containsIgnoringCase_iff

/-- The endpoints that a selection asks for, by the words that it gives. -/
def Selection.Takes (s : Selection) (e : Endpoint) : Prop :=
  (∀ word ∈ s.group, OccursIn word (groupLabel e)) ∧ ∀ word ∈ s.path, OccursIn word e.path

instance (s : Selection) : DecidablePred s.Takes := fun _ => inferInstanceAs (Decidable (_ ∧ _))

theorem matching_eq_filter (es : List Endpoint) (word : String) :
    (group es).matching word =
      ((group es).flatMap Prod.snd).filter fun e => OccursIn word (groupLabel e) := by
  have hlabelled : ∀ g ∈ group es, ∀ e ∈ g.2, groupLabel e = g.1 := by
    intro g hg e he
    rw [(mem_group_iff.mp hg).2] at he
    simpa using (List.mem_filter.mp he).2
  unfold Groups.matching
  generalize group es = groups at hlabelled
  induction groups with
  | nil => rfl
  | cons g rest ih =>
      have hrest := ih fun g' hg' => hlabelled g' (List.mem_cons_of_mem _ hg')
      have hg : g.2.filter (fun e => OccursIn word (groupLabel e)) =
          g.2.filter fun _ => containsIgnoringCase word g.1 :=
        List.filter_congr fun e he => by
          rw [hlabelled g List.mem_cons_self e he, Bool.eq_iff_iff, decide_eq_true_iff,
            containsIgnoringCase_iff]
      rw [List.flatMap_cons, List.filter_append, hg, ← hrest, List.filter_cons]
      cases hword : containsIgnoringCase word g.1 <;> simp [hword]

/-- A selection by groups takes endpoints in the order of the groups, any other in that of the
document. -/
theorem apply_eq_filter (s : Selection) (es : List Endpoint) :
    s.apply es =
      (if s.group.isSome then (group es).flatMap Prod.snd else es).filter s.Takes := by
  have hpath : ∀ word (list : List Endpoint),
      (list.filter fun e => containsIgnoringCase word e.path) =
        list.filter fun e => OccursIn word e.path := fun word list =>
    List.filter_congr fun e _ => by
      rw [Bool.eq_iff_iff, decide_eq_true_iff, containsIgnoringCase_iff]
  rcases s with ⟨_ | label, _ | word⟩
  · simp [Selection.apply, Selection.Takes]
  · simp [Selection.apply, Selection.Takes, hpath]
  · simp [Selection.apply, Selection.Takes, matching_eq_filter]
  · simp [Selection.apply, Selection.Takes, matching_eq_filter, hpath, List.filter_filter, and_comm]

/-- Groups divide the endpoints of a document, and a selection takes exactly the endpoints that it
asks for, each as often as it is there. Without a word for groups they come in the order of the
document, otherwise in the order of the groups. -/
theorem divides_group_and_apply_perm (es : List Endpoint) (s : Selection) :
    (group es).Divides es ∧
    (s.apply es).Perm (es.filter s.Takes) ∧
    s.apply es =
      (if s.group.isSome then (group es).flatMap Prod.snd else es).filter s.Takes := by
  refine ⟨divides_group es, ?_, apply_eq_filter s es⟩
  rw [apply_eq_filter]
  split
  next => exact (flatMap_group_perm es).filter _
  next => exact .refl _

end Spec

end MockApi
