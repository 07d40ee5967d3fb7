import MockApi.Proofs.Mock.Override
import MockApi.Proofs.Mock.SavedSettings

/-! # Laying rules over rules

A value is laid over another one along the chains of keys that lead through objects. What the upper
value has at the end of a chain is laid over what the lower one has there: two objects are merged,
anything else is replaced. Where an object of the upper value has no member, that of the lower one
stays. Rules are laid over rules by their keys, and literals as values. Laying the same over a
second time changes nothing.
-/

namespace MockApi

open Entries

namespace Json

/-! ## Chains of keys -/

/-- The value at the end of a chain of object keys. -/
def at? : List String → Json → Option Json
  | [], v => some v
  | key :: chain, v => (v.member? key).bind (at? chain)

variable {depth : Nat} {v lower upper merged : Json} {chain : List String} {key : String}

@[simp] theorem at?_nil : v.at? [] = some v := rfl

theorem at?_cons : v.at? (key :: chain) = (v.member? key).bind (at? chain) := rfl

theorem at?_singleton : v.at? [key] = v.member? key := by
  rw [at?_cons]
  cases v.member? key <;> rfl

theorem at?_append (chain rest : List String) (v : Json) :
    v.at? (chain ++ rest) = (v.at? chain).bind (at? rest) := by
  induction chain generalizing v with
  | nil => rfl
  | cons key chain ih =>
      rw [List.cons_append, at?_cons, at?_cons, Option.bind_assoc]
      exact Option.bind_congr fun w _ => ih w

theorem exists_members_of_member? {w : Json} (h : v.member? key = some w) :
    ∃ members : Entries Json, v = .object members ∧ members.find? key = some w := by
  cases v with
  | object members => exact ⟨members, rfl, h⟩
  | _ => cases h

theorem Fits.of_member? {w : Json} (hv : v.Fits depth) (h : v.member? key = some w) :
    w.Fits depth := by
  obtain ⟨members, rfl, hfind⟩ := exists_members_of_member? h
  cases hv with
  | object _ hmembers => exact (hmembers _ (mem_of_find?_eq_some hfind)).mono (Nat.le_succ _)

theorem Fits.nodup_keys {members : Entries Json} (h : Fits depth (.object members)) :
    members.keys.Nodup := by
  cases h with
  | object hkeys _ => exact hkeys

/-! ## Laying one value over another -/

/-- Both values are objects. -/
def BothObjects (lower upper : Json) : Prop :=
  ∃ below above : Entries Json, lower = .object below ∧ upper = .object above

theorem overlay_object (below above : Entries Json) :
    overlay (.object below) (.object above) = .object (overlayMembers below above) := by
  rw [overlay]

theorem overlay_of_not_both (h : ¬ BothObjects lower upper) : lower.overlay upper = upper := by
  rw [overlay]
  rintro below above rfl rfl
  exact h ⟨below, above, rfl, rfl⟩

theorem overlayMember_of_not_object (below : Option Json) (h : ∀ members, v ≠ .object members) :
    overlayMember below v = v := by
  cases below with
  | none => rfl
  | some w => exact overlay_of_not_both fun ⟨_, members, _, hv⟩ => h members hv

theorem overlayMember_of_no_object {below : Option Json}
    (h : ∀ members, below ≠ some (.object members)) : overlayMember below v = v := by
  cases below with
  | none => rfl
  | some w => exact overlay_of_not_both fun ⟨members, _, hw, _⟩ => h members (congrArg some hw)

/-- A member of an object that is laid over a value is laid over the member of that value. -/
theorem member?_overlayMember (below : Option Json) {above : Entries Json}
    (h : above.keys.Nodup) (key : String) :
    (overlayMember below (.object above)).member? key =
      match above.find? key with
      | some x => some (overlayMember (below.bind (member? key)) x)
      | none => below.bind (member? key) := by
  by_cases hbelow : ∃ members, below = some (.object members)
  · obtain ⟨members, rfl⟩ := hbelow
    exact find?_overlayMembers h key
  · -- what is no object has no members
    have hnone : below.bind (member? key) = none := by
      rw [Option.bind_eq_none_iff]
      rintro w rfl
      cases w with
      | object members => exact absurd ⟨members, rfl⟩ hbelow
      | _ => rfl
    rw [overlayMember_of_no_object fun members hm => hbelow ⟨members, hm⟩, hnone]
    change above.find? key = _
    cases above.find? key <;> rfl

/-- What the upper value has at the end of a chain is laid over what the lower one has there. -/
theorem at?_overlayMember (below : Option Json) (hupper : upper.Fits depth)
    (h : upper.at? chain = some v) :
    (overlayMember below upper).at? chain = some (overlayMember (below.bind (at? chain)) v) := by
  induction chain generalizing upper below with
  | nil =>
      obtain rfl := Option.some.inj h
      cases below <;> rfl
  | cons key chain ih =>
      obtain ⟨w, hw, hv⟩ := Option.bind_eq_some_iff.mp h
      obtain ⟨above, rfl, hfind⟩ := exists_members_of_member? hw
      rw [at?_cons, member?_overlayMember below hupper.nodup_keys, hfind]
      dsimp only
      rw [Option.bind_some, ih _ (hupper.of_member? hw) hv, Option.bind_assoc]
      rfl

theorem at?_overlay (lower : Json) (hupper : upper.Fits depth) (h : upper.at? chain = some v) :
    (lower.overlay upper).at? chain = some (overlayMember (lower.at? chain) v) :=
  at?_overlayMember (some lower) hupper h

theorem Fits.at? {w : Json} (hv : v.Fits depth) (h : v.at? chain = some w) : w.Fits depth := by
  induction chain generalizing v with
  | nil => exact Option.some.inj h ▸ hv
  | cons key chain ih =>
      obtain ⟨x, hx, hw⟩ := Option.bind_eq_some_iff.mp h
      exact ih (hv.of_member? hx) hw

theorem keys_overlayMembers {below above : Entries Json} (h : above.keys.Nodup) :
    Entries.keys (overlayMembers below above) =
      below.keys ++ above.keys.filter (· ∉ below.keys) := by
  have hfold : overlayMembers below above = _ := overlayMembers_eq_foldl below above
  rw [hfold]
  exact keys_foldl_alter overlayMember below h

/-- What comes of laying one value over another, chain by chain. -/
structure LaidOver (lower upper merged : Json) : Prop where
  /-- What is not an object replaces whatever is there. -/
  replaced (chain : List String) {v : Json} (hv : upper.at? chain = some v)
    (hobject : ∀ members, v ≠ .object members) : merged.at? chain = some v
  /-- An object is taken as it is where no object is there. -/
  taken (chain : List String) {v : Json} (hv : upper.at? chain = some v)
    (hobject : ∀ members, lower.at? chain ≠ some (.object members)) : merged.at? chain = some v
  /-- A value stays where an object of the upper value has no member on its chain. -/
  kept (chain rest : List String) {key : String} {v : Json} {above : Entries Json}
    (hv : lower.at? (chain ++ key :: rest) = some v)
    (habove : upper.at? chain = some (.object above)) (hkey : key ∉ above.keys) :
    merged.at? (chain ++ key :: rest) = some v
  /-- Keys stay in order, and the new ones follow in theirs. -/
  keys (chain : List String) {below above : Entries Json}
    (hbelow : lower.at? chain = some (.object below))
    (habove : upper.at? chain = some (.object above)) :
    ∃ both : Entries Json, merged.at? chain = some (.object both) ∧
      both.keys = below.keys ++ above.keys.filter (· ∉ below.keys)

theorem laidOver_overlay (lower : Json) (hupper : upper.Fits depth) :
    LaidOver lower upper (lower.overlay upper) where
  replaced chain v hv hobject := by
    rw [at?_overlay lower hupper hv, overlayMember_of_not_object _ hobject]
  taken chain v hv hobject := by
    rw [at?_overlay lower hupper hv, overlayMember_of_no_object hobject]
  kept chain rest key v above hv habove hkey := by
    rw [at?_append] at hv ⊢
    obtain ⟨w, hw, hrest⟩ := Option.bind_eq_some_iff.mp hv
    have hnodup := (hupper.at? habove).nodup_keys
    rw [at?_overlay lower hupper habove, hw, Option.bind_some, at?_cons,
      member?_overlayMember _ hnodup, find?_eq_none_iff.mpr hkey]
    exact hrest
  keys chain below above hbelow habove := by
    refine ⟨_, ?_, keys_overlayMembers (hupper.at? habove).nodup_keys⟩
    rw [at?_overlay lower hupper habove, hbelow, overlayMember, overlay_object]

-- an object meets an object, then a value that is none, and the other way round
example : overlay
    (.object [("at", .object [("city", .string "Bern"), ("zip", .null)]), ("tag", .object [])])
    (.object [("id", .null), ("tag", .bool true), ("at", .object [("zip", .object [])])]) =
      .object [("at", .object [("city", .string "Bern"), ("zip", .object [])]),
        ("tag", .bool true), ("id", .null)] := by
  cbv

namespace LaidOver

theorem eq_of_not_both (h : LaidOver lower upper merged) (hboth : ¬ BothObjects lower upper) :
    merged = upper := by
  have hroot : merged.at? [] = some upper := by
    by_cases hupper : ∃ members, upper = .object members
    · obtain ⟨above, rfl⟩ := hupper
      exact h.taken [] rfl fun below hbelow => hboth ⟨below, above, Option.some.inj hbelow, rfl⟩
    · exact h.replaced [] rfl fun members hm => hupper ⟨members, hm⟩
  exact Option.some.inj hroot

theorem of_member? (h : LaidOver lower upper merged) {x y z : Json}
    (hx : lower.member? key = some x) (hy : upper.member? key = some y)
    (hz : merged.member? key = some z) : LaidOver x y z := by
  have hat : ∀ {v w : Json}, v.member? key = some w → ∀ chain, v.at? (key :: chain) = w.at? chain :=
    fun hw chain => by rw [at?_cons, hw, Option.bind_some]
  constructor
  · intro chain v hv hobject
    rw [← hat hy] at hv
    rw [← hat hz]
    exact h.replaced _ hv hobject
  · intro chain v hv hobject
    rw [← hat hx] at hobject
    rw [← hat hy] at hv
    rw [← hat hz]
    exact h.taken _ hv hobject
  · intro chain rest name v above hv habove hname
    rw [← hat hx] at hv
    rw [← hat hy] at habove
    rw [← hat hz]
    exact h.kept (key :: chain) rest hv habove hname
  · intro chain below above hbelow habove
    rw [← hat hx] at hbelow
    rw [← hat hy] at habove
    rw [← hat hz]
    exact h.keys _ hbelow habove

/-- The members of what comes of two objects are the merged ones, provided that what comes of two
members is. -/
theorem eq_overlayMembers {below above both : Entries Json}
    (h : LaidOver (.object below) (.object above) (.object both)) (hbelow : below.keys.Nodup)
    (habove : above.keys.Nodup)
    (hmembers : ∀ key x y z, below.find? key = some x → above.find? key = some y →
      LaidOver x y z → z = x.overlay y) : both = overlayMembers below above := by
  obtain ⟨_, hboth, hkeys⟩ := h.keys [] rfl rfl
  obtain rfl := Json.object.inj (Option.some.inj hboth)
  refine ext_find? (hkeys.trans (keys_overlayMembers habove).symm)
    (hkeys ▸ nodup_append_filter hbelow habove) fun key => ?_
  have hmem : key ∈ both.keys ↔ key ∈ below.keys ∨ key ∈ above.keys := by
    rw [hkeys]
    by_cases hkey : key ∈ below.keys <;> simp [hkey]
  rw [find?_overlayMembers habove]
  cases hy : above.find? key with
  | none =>
      have hnone := find?_eq_none_iff.mp hy
      cases hx : below.find? key with
      | none =>
          have hnone' := find?_eq_none_iff.mp hx
          exact find?_eq_none_iff.mpr fun hkey => (hmem.mp hkey).elim hnone' hnone
      | some x =>
          have hkept := h.kept [] [] (at?_singleton.trans hx) rfl hnone
          exact at?_singleton.symm.trans hkept
  | some y =>
      cases hx : below.find? key with
      | none =>
          have hlower : (object below).at? [key] = none := at?_singleton.trans hx
          have htaken := h.taken [key] (at?_singleton.trans hy) fun members => by rw [hlower]; nofun
          exact at?_singleton.symm.trans htaken
      | some x =>
          obtain ⟨z, hz⟩ := exists_find?_of_mem (hmem.mpr (.inr (mem_keys_of_find?_eq_some hy)))
          rw [hz, hmembers key x y z hx hy (h.of_member? hx hy hz)]
          rfl

/-- What comes of it chain by chain decides the whole value. -/
theorem eq_overlay (h : LaidOver lower upper merged) {depth' : Nat}
    (hlower : lower.Fits depth') (hupper : upper.Fits depth) : merged = lower.overlay upper := by
  induction depth generalizing lower upper merged depth' with
  | zero =>
      have hboth : ¬ BothObjects lower upper := by
        rintro ⟨_, _, _, rfl⟩
        cases hupper
      rw [h.eq_of_not_both hboth, overlay_of_not_both hboth]
  | succ depth ih =>
      by_cases hboth : BothObjects lower upper
      · obtain ⟨below, above, rfl, rfl⟩ := hboth
        obtain ⟨both, hmerged, -⟩ := h.keys [] rfl rfl
        obtain rfl := Option.some.inj hmerged
        rw [overlay_object, h.eq_overlayMembers hlower.nodup_keys hupper.nodup_keys]
        intro key x y z hx hy hlaid
        refine ih hlaid (hlower.of_member? hx) ?_
        cases hupper with
        | object _ hmembers => exact hmembers _ (mem_of_find?_eq_some hy)
      · rw [h.eq_of_not_both hboth, overlay_of_not_both hboth]

end LaidOver

/-! ## Laying the same value twice -/

/-- Laying an object over a proper value, or over nothing, leaves an object with all its keys. -/
theorem exists_overlayMember_eq_object {below : Option Json} {above : Entries Json}
    (hbelow : ∀ w, below = some w → w.Fits depth) (habove : above.keys.Nodup) :
    ∃ both : Entries Json, overlayMember below (.object above) = .object both ∧
      both.keys.Nodup ∧ ∀ key ∈ above.keys, key ∈ both.keys := by
  by_cases hobject : ∃ members, below = some (.object members)
  · obtain ⟨members, rfl⟩ := hobject
    refine ⟨_, overlay_object members above, ?_, fun key hkey => ?_⟩
    · rw [keys_overlayMembers habove]
      exact nodup_append_filter (hbelow _ rfl).nodup_keys habove
    · rw [keys_overlayMembers habove]
      by_cases hmem : key ∈ Entries.keys members <;> simp [hmem, hkey]
  · exact ⟨above, overlayMember_of_no_object fun members hm => hobject ⟨members, hm⟩, habove,
      fun _ => id⟩

theorem overlay_overlayMember_of_not_object (below : Option Json)
    (h : ∀ members, upper ≠ .object members) :
    (overlayMember below upper).overlay upper = overlayMember below upper := by
  rw [overlayMember_of_not_object below h]
  exact overlayMember_of_not_object (some upper) h

/-- Laying a value over what has come of it changes nothing. -/
theorem overlay_overlayMember {below : Option Json} {depth' : Nat}
    (hbelow : ∀ w, below = some w → w.Fits depth') (hupper : upper.Fits depth) :
    (overlayMember below upper).overlay upper = overlayMember below upper := by
  induction depth generalizing below upper with
  | zero =>
      refine overlay_overlayMember_of_not_object below ?_
      rintro members rfl
      cases hupper
  | succ depth ih =>
      by_cases hobject : ∃ above, upper = .object above
      · obtain ⟨above, rfl⟩ := hobject
        have habove := hupper.nodup_keys
        obtain ⟨both, hboth, hnodup, hkeys⟩ := exists_overlayMember_eq_object hbelow habove
        rw [hboth, overlay_object, overlayMembers_eq_foldl]
        refine congrArg _ (foldl_alter_eq_self overlayMember both hnodup habove hkeys
          fun key x y hx hy => ?_)
        have hmember := member?_overlayMember below habove key
        rw [hboth, hx] at hmember
        obtain rfl := Option.some.inj (hy.symm.trans hmember)
        refine ih (fun w hw => ?_) ?_
        · obtain ⟨v, hv, hw⟩ := Option.bind_eq_some_iff.mp hw
          exact (hbelow v hv).of_member? hw
        · cases hupper with
          | object _ hmembers => exact hmembers _ (mem_of_find?_eq_some hx)
      · exact overlay_overlayMember_of_not_object below fun members hm => hobject ⟨members, hm⟩

theorem overlay_overlay {depth' : Nat} (hlower : lower.Fits depth') (hupper : upper.Fits depth) :
    (lower.overlay upper).overlay upper = lower.overlay upper := by
  have hbelow : ∀ w, some lower = some w → w.Fits depth' := by
    rintro w ⟨⟩
    exact hlower
  exact overlay_overlayMember hbelow hupper

theorem overlay_self (h : v.Fits depth) : v.overlay v = v := by
  have hbelow : ∀ w : Json, none = some w → w.Fits depth := nofun
  exact overlay_overlayMember hbelow h

end Json

namespace Rules

variable {lower upper : Rules}

/-- Rules that come of laying rules over others, key by key. -/
structure LaidOver (lower upper merged : Rules) : Prop where
  /-- Keys stay in order, and the new ones follow in theirs. -/
  keys : merged.keys = lower.keys ++ upper.keys.filter (· ∉ lower.keys)
  lower_only (key : String) (r : Rule) (hlower : lower.find? key = some r)
    (hupper : upper.find? key = none) : merged.find? key = some r
  upper_only (key : String) (r : Rule) (hlower : lower.find? key = none)
    (hupper : upper.find? key = some r) : merged.find? key = some r
  /-- Two literals give the one literal that comes of laying values over others. -/
  literals (key : String) (below above v : Json) (hlower : lower.find? key = some (.literal below))
    (hupper : upper.find? key = some (.literal above)) :
    merged.find? key = some (.literal v) ↔ Json.LaidOver below above v
  /-- Otherwise the upper rule replaces the lower one. -/
  replaced (key : String) (below above : Rule) (hlower : lower.find? key = some below)
    (hupper : upper.find? key = some above)
    (hrules : ∀ x y, below = .literal x → above ≠ .literal y) : merged.find? key = some above

theorem find?_merged_eq (h : upper.keys.Nodup) (key : String) :
    (lower.merged upper).find? key =
      match upper.find? key with
      | some above => some (combine (lower.find? key) above)
      | none => lower.find? key := by
  have hfold : (lower.merged upper).find? key = _ := find?_foldl_alter combine lower h key
  rw [hfold]
  cases upper.find? key <;> rfl

theorem combine_of_not_literals {below : Option Rule} {above : Rule}
    (h : ∀ x y, below = some (.literal x) → above ≠ .literal y) : combine below above = above := by
  unfold combine
  split
  next x y => exact absurd rfl (h x y rfl)
  next => rfl

/-- Combining with what has come of it changes nothing. -/
theorem combine_combine {below : Option Rule} {above : Rule}
    (hbelow : ∀ r, below = some r → r.Proper) (habove : above.Proper) :
    combine (some (combine below above)) above = combine below above := by
  obtain ⟨depth, habove⟩ := habove
  cases above with
  | literal y =>
      have hself : combine (some (.literal y)) (.literal y) = .literal y :=
        congrArg Rule.literal (Json.overlay_self habove)
      rcases below with _ | x | _ | _
      · exact hself
      · obtain ⟨_, hx⟩ := hbelow _ rfl
        exact congrArg Rule.literal (Json.overlay_overlay hx habove)
      · exact hself
      · exact hself
  | generator source | custom producer =>
      rw [combine_of_not_literals, combine_of_not_literals] <;> exact fun _ _ _ => nofun

theorem proper_of_find? (h : lower.Each Rule.Proper) {key : String} {r : Rule}
    (hr : lower.find? key = some r) : r.Proper :=
  h.rules _ (mem_of_find?_eq_some hr)

theorem laidOver_merged (hlower : lower.Each Rule.Proper) (hupper : upper.Each Rule.Proper) :
    LaidOver lower upper (lower.merged upper) where
  keys := keys_merged hupper.keys
  lower_only key r hr hnone := by
    rw [find?_merged_eq hupper.keys, hnone]
    exact hr
  upper_only key r hnone hr := by
    rw [find?_merged_eq hupper.keys, hr, hnone]
    rfl
  literals key below above v hbelow habove := by
    obtain ⟨_, hfits⟩ := proper_of_find? hlower hbelow
    obtain ⟨_, hfits'⟩ := proper_of_find? hupper habove
    have hmerged : (lower.merged upper).find? key = some (.literal (below.overlay above)) := by
      rw [find?_merged_eq hupper.keys, habove, hbelow]
      rfl
    rw [hmerged, Option.some.injEq, Rule.literal.injEq]
    constructor
    · rintro rfl
      exact Json.laidOver_overlay below hfits'
    · intro h
      exact (h.eq_overlay hfits hfits').symm
  replaced key below above hbelow habove hrules := by
    rw [find?_merged_eq hupper.keys, habove, hbelow]
    exact congrArg some (combine_of_not_literals fun x y hx => hrules x y (Option.some.inj hx))

/-- Laying rules over what has come of them changes nothing. -/
theorem merged_merged (hlower : lower.Each Rule.Proper) (hupper : upper.Each Rule.Proper) :
    (lower.merged upper).merged upper = lower.merged upper := by
  have hkeys : (lower.merged upper).keys = lower.keys ++ upper.keys.filter (· ∉ lower.keys) :=
    keys_merged hupper.keys
  have hnodup : (lower.merged upper).keys.Nodup :=
    hkeys ▸ nodup_append_filter hlower.keys hupper.keys
  have hall : ∀ key ∈ upper.keys, key ∈ (lower.merged upper).keys := by
    intro key hkey
    rw [hkeys]
    by_cases hmem : key ∈ lower.keys <;> simp [hmem, hkey]
  refine foldl_alter_eq_self combine _ hnodup hupper.keys hall fun key above both habove hboth => ?_
  rw [find?_merged_eq hupper.keys, habove] at hboth
  obtain rfl := Option.some.inj hboth
  exact combine_combine (fun r hr => proper_of_find? hlower hr) (proper_of_find? hupper habove)

/-- Rules laid over others keep the keys in order, and under a key that both have the upper rule is
taken, but two literals are laid over one another chain by chain. A second time changes nothing. -/
theorem merged_right_biased (hlower : lower.Each Rule.Proper) (hupper : upper.Each Rule.Proper) :
    LaidOver lower upper (lower.merged upper) ∧
      (lower.merged upper).merged upper = lower.merged upper :=
  ⟨laidOver_merged hlower hupper, merged_merged hlower hupper⟩

/-- Global rules with a generator call and with objects that meet others and values that are
none. -/
def globalUsers : Rules :=
  [("name", .generator "faker.person.fullName()"),
    ("user", .literal (.object [("role", .string "guest"),
      ("address", .object [("city", .string "Bern"), ("zip", .null)]), ("tags", .bool true)]))]

/-- Rules of an endpoint that are laid over them. -/
def ownUsers : Rules :=
  [("user", .literal (.object [("tags", .object []), ("email", .null),
      ("address", .object [("zip", .string "3000")]), ("role", .string "admin")])),
    ("id", .custom ⟨"() => 1", .ok .null⟩), ("name", .literal (.string "Ada"))]

theorem each_proper_globalUsers : globalUsers.Each Rule.Proper := by
  have haddress : Json.Fits 1 (.object [("city", .string "Bern"), ("zip", .null)]) :=
    .object (by decide) (List.forall_mem_cons.mpr ⟨.string _, List.forall_mem_singleton.mpr .null⟩)
  have huser : Json.Fits 2 (.object [("role", .string "guest"),
      ("address", .object [("city", .string "Bern"), ("zip", .null)]), ("tags", .bool true)]) :=
    .object (by decide) (List.forall_mem_cons.mpr ⟨.string _, List.forall_mem_cons.mpr
      ⟨haddress, List.forall_mem_singleton.mpr (.bool _)⟩⟩)
  exact ⟨by decide, List.forall_mem_cons.mpr
    ⟨⟨0, .string _⟩, List.forall_mem_singleton.mpr ⟨2, huser⟩⟩⟩

theorem each_proper_ownUsers : ownUsers.Each Rule.Proper := by
  have hzip : Json.Fits 1 (.object [("zip", .string "3000")]) :=
    .object (by decide) (List.forall_mem_singleton.mpr (.string _))
  have huser : Json.Fits 2 (.object [("tags", .object []), ("email", .null),
      ("address", .object [("zip", .string "3000")]), ("role", .string "admin")]) :=
    .object (by decide) (List.forall_mem_cons.mpr ⟨.object List.nodup_nil nofun,
      List.forall_mem_cons.mpr ⟨.null, List.forall_mem_cons.mpr
        ⟨hzip, List.forall_mem_singleton.mpr (.string _)⟩⟩⟩)
  exact ⟨by decide, List.forall_mem_cons.mpr ⟨⟨2, huser⟩, List.forall_mem_cons.mpr
    ⟨⟨0, .string _⟩, List.forall_mem_singleton.mpr ⟨0, .string _⟩⟩⟩⟩

theorem merged_right_biased_users :
    globalUsers.Each Rule.Proper ∧ ownUsers.Each Rule.Proper ∧
      (globalUsers.merged ownUsers).keys = ["name", "user", "id"] ∧
      (globalUsers.merged ownUsers).find? "name" = some (.literal (.string "Ada")) ∧
      (globalUsers.merged ownUsers).merged ownUsers = globalUsers.merged ownUsers := by
  have hglobal := each_proper_globalUsers
  have hown := each_proper_ownUsers
  obtain ⟨hlaid, hagain⟩ := merged_right_biased hglobal hown
  refine ⟨hglobal, hown, hlaid.keys.trans (by decide), ?_, hagain⟩
  exact hlaid.replaced "name" _ _ rfl rfl nofun

end Rules

end MockApi
