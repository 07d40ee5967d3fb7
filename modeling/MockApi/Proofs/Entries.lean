import Mathlib.Data.List.Basic
import Mathlib.Data.List.Induction
import MockApi.Entries

/-! # Laws of ordered entries

Writing to a key keeps the order of the keys that are present, so distinct keys stay distinct, and
writing new keys one after another is appending. When entries are laid over others one by one, a
value that meets another one is combined with it, and new keys follow the keys that were there.
-/

namespace MockApi.Entries

variable {α : Type}

theorem mem_insert {xs : Entries α} {key : String} {value : α} {e : String × α}
    (h : e ∈ xs.insert key value) : e ∈ xs ∨ e = (key, value) := by
  induction xs with
  | nil => exact Or.inr (by simpa [insert, alter] using h)
  | cons x rest ih =>
      rcases x with ⟨k, v⟩
      simp only [insert, alter] at h ih
      split at h
      next hk =>
        subst hk
        rcases List.mem_cons.mp h with rfl | h
        · exact Or.inr rfl
        · exact Or.inl (List.mem_cons_of_mem _ h)
      next hk =>
        rcases List.mem_cons.mp h with rfl | h
        · exact Or.inl List.mem_cons_self
        · exact (ih h).imp_left (List.mem_cons_of_mem _)

theorem insert_eq_append {xs : Entries α} {key : String} {value : α} (h : key ∉ xs.keys) :
    xs.insert key value = xs ++ [(key, value)] := by
  induction xs with
  | nil => rfl
  | cons x rest ih =>
      rcases x with ⟨k, v⟩
      simp only [keys, List.map_cons, List.mem_cons, not_or] at h
      have hrest := ih h.2
      simp only [insert] at hrest ⊢
      rw [alter, if_neg (Ne.symm h.1), hrest, List.cons_append]

theorem keys_alter {xs : Entries α} {key : String} {f : Option α → α} :
    (alter key f xs).keys = if key ∈ xs.keys then xs.keys else xs.keys ++ [key] := by
  induction xs with
  | nil => rfl
  | cons x rest ih =>
      rcases x with ⟨k, v⟩
      by_cases hk : k = key
      · subst hk
        simp [alter, keys]
      · simp only [keys, List.map_cons, List.mem_cons] at ih ⊢
        rw [alter, if_neg hk, List.map_cons, ih]
        by_cases hrest : key ∈ rest.map Prod.fst <;> simp [Ne.symm hk, hrest]

theorem keys_insert {xs : Entries α} {key : String} {value : α} :
    (xs.insert key value).keys = if key ∈ xs.keys then xs.keys else xs.keys ++ [key] :=
  keys_alter

theorem find?_nil (key : String) : find? ([] : Entries α) key = none := rfl

theorem find?_cons (k : String) (v : α) (rest : Entries α) (key : String) :
    find? ((k, v) :: rest) key = if key = k then some v else rest.find? key := by
  rw [find?, List.lookup_cons]
  by_cases hkey : key = k
  · simp [hkey]
  · rw [beq_false_of_ne hkey, if_neg hkey]
    rfl

theorem find?_alter {xs : Entries α} {key : String} {f : Option α → α} (name : String) :
    (alter key f xs).find? name =
      if name = key then some (f (xs.find? key)) else xs.find? name := by
  induction xs with
  | nil => exact find?_cons _ _ _ _
  | cons x rest ih =>
      rcases x with ⟨k, v⟩
      by_cases hk : k = key
      · subst hk
        rw [alter, if_pos rfl, find?_cons, find?_cons, find?_cons, if_pos rfl]
        by_cases hname : name = k <;> simp [hname]
      · rw [alter, if_neg hk, find?_cons, find?_cons, find?_cons, ih, if_neg (Ne.symm hk)]
        by_cases hname : name = k
        · simp [hname, hk]
        · simp [hname]

theorem find?_insert {xs : Entries α} {key : String} {value : α} (name : String) :
    (xs.insert key value).find? name = if name = key then some value else xs.find? name :=
  find?_alter name

/-- Writing keeps distinct keys distinct. -/
theorem nodup_keys_insert {xs : Entries α} {key : String} {value : α} (h : xs.keys.Nodup) :
    (xs.insert key value).keys.Nodup := by
  rw [keys_insert]
  split
  next => exact h
  next hkey =>
    refine List.nodup_append.mpr ⟨h, by simp, ?_⟩
    intro a ha b hb hab
    obtain rfl := List.mem_singleton.mp hb
    exact hkey (hab ▸ ha)

/-- However often a key is written, it is one key of the entries. -/
theorem nodup_keys_ofList (xs : List (String × α)) : (ofList xs).keys.Nodup := by
  suffices hfold : ∀ done : Entries α, done.keys.Nodup →
      (xs.foldl (fun acc x => acc.insert x.1 x.2) done).keys.Nodup from hfold [] List.nodup_nil
  induction xs with
  | nil => exact fun _ hdone => hdone
  | cons x rest ih => exact fun done hdone => ih _ (nodup_keys_insert hdone)

theorem mem_of_mem_ofList {xs : List (String × α)} {e : String × α} (h : e ∈ ofList xs) :
    e ∈ xs := by
  suffices hfold : ∀ done : Entries α,
      e ∈ xs.foldl (fun acc x => acc.insert x.1 x.2) done → e ∈ done ∨ e ∈ xs by
    simpa using hfold [] h
  clear h
  induction xs with
  | nil => exact fun _ hdone => Or.inl hdone
  | cons x rest ih =>
      intro done hfold
      rcases ih _ hfold with hdone | hrest
      · rcases mem_insert hdone with hdone | rfl
        · exact Or.inl hdone
        · exact Or.inr List.mem_cons_self
      · exact Or.inr (List.mem_cons_of_mem _ hrest)

theorem notMem_keys_of_nodup_append {done rest : Entries α} {x : String × α}
    (h : (done ++ x :: rest).keys.Nodup) : x.1 ∉ done.keys := by
  simp only [keys, List.map_append, List.map_cons] at h
  have hdisjoint := (List.nodup_append.mp h).2.2
  exact fun hmem => hdisjoint _ hmem _ List.mem_cons_self rfl

/-- Writing new keys one after another is appending. -/
theorem foldl_insert_eq_append {done made : Entries α} (h : (done ++ made).keys.Nodup) :
    made.foldl (fun acc x => acc.insert x.1 x.2) done = done ++ made := by
  induction made generalizing done with
  | nil => simp
  | cons x rest ih =>
      have hx : x.1 ∉ done.keys := notMem_keys_of_nodup_append h
      rw [List.foldl_cons, insert_eq_append hx, ih (by simpa using h), List.append_assoc]
      rfl

theorem ofList_of_nodup {xs : Entries α} (h : xs.keys.Nodup) : ofList xs = xs := by
  have hnothing : keys ([] ++ xs) = xs.keys := rfl
  exact foldl_insert_eq_append (hnothing ▸ h)

theorem find?_append (xs ys : Entries α) (key : String) :
    find? (xs ++ ys) key = (xs.find? key).or (ys.find? key) :=
  List.lookup_append

theorem find?_eq_none_iff {xs : Entries α} {key : String} :
    xs.find? key = none ↔ key ∉ xs.keys := by
  induction xs with
  | nil => simp [find?, keys]
  | cons x rest ih =>
      rcases x with ⟨k, v⟩
      rw [find?_cons]
      by_cases hkey : key = k
      · simp [hkey, keys]
      · rw [if_neg hkey, ih]
        simp [keys, hkey]

theorem exists_find?_of_mem {xs : Entries α} {key : String} (h : key ∈ xs.keys) :
    ∃ value, xs.find? key = some value :=
  Option.ne_none_iff_exists'.mp fun hnone => find?_eq_none_iff.mp hnone h

theorem mem_of_find?_eq_some {xs : Entries α} {key : String} {value : α}
    (h : xs.find? key = some value) : (key, value) ∈ xs := by
  obtain ⟨l₁, l₂, rfl, _⟩ := List.lookup_eq_some_iff.mp h
  simp

theorem mem_keys_of_find?_eq_some {xs : Entries α} {key : String} {value : α}
    (h : xs.find? key = some value) : key ∈ xs.keys :=
  List.mem_map_of_mem (mem_of_find?_eq_some h)

theorem values_eq_map {xs : Entries α} (h : xs.keys.Nodup) (fallback : α) :
    xs.values = xs.keys.map fun key => (xs.find? key).getD fallback := by
  induction xs with
  | nil => rfl
  | cons x rest ih =>
      rcases x with ⟨k, v⟩
      obtain ⟨hk, hrest⟩ := List.nodup_cons.mp h
      have hcons : keys ((k, v) :: rest) = k :: keys rest := rfl
      have hvalues : values ((k, v) :: rest) = v :: values rest := rfl
      rw [hcons, hvalues, List.map_cons, find?_cons, if_pos rfl, ih hrest]
      refine congrArg _ (List.map_congr_left fun key hkey => ?_)
      rw [find?_cons, if_neg (ne_of_mem_of_not_mem hkey hk)]

theorem alter_eq_insert {xs : Entries α} {key : String} {f : Option α → α} :
    alter key f xs = xs.insert key (f (xs.find? key)) := by
  induction xs with
  | nil => rfl
  | cons x rest ih =>
      rcases x with ⟨k, v⟩
      unfold insert at ih ⊢
      rw [find?_cons, alter, alter]
      by_cases hk : k = key
      · simp [hk]
      · rw [if_neg hk, if_neg hk, if_neg (Ne.symm hk), ih]

theorem alter_alter {xs : Entries α} {key : String} {f g : Option α → α} :
    alter key g (alter key f xs) = alter key (fun old => g (some (f old))) xs := by
  induction xs with
  | nil => simp [alter]
  | cons x rest ih =>
      rcases x with ⟨k, v⟩
      by_cases hk : k = key
      · simp [alter, hk]
      · simp [alter, hk, ih]

/-- The first entry whose key is of a kind holds the value of its key. -/
theorem map_snd_find? (p : String → Bool) (xs : Entries α) :
    (List.find? (fun x => p x.1) xs).map Prod.snd = (xs.keys.find? p).bind xs.find? := by
  induction xs with
  | nil => rfl
  | cons x rest ih =>
      rcases x with ⟨k, v⟩
      have hcons : keys ((k, v) :: rest) = k :: keys rest := rfl
      rw [hcons, List.find?_cons, List.find?_cons]
      dsimp only
      cases hk : p k with
      | true => rw [Option.map_some, Option.bind_some, find?_cons, if_pos rfl]
      | false =>
          rw [ih]
          refine Option.bind_congr fun key hkey => ?_
          -- a key of the kind is not the first one
          have hne : key ≠ k := by
            rintro rfl
            have hp := List.find?_some hkey
            simp [hk] at hp
          rw [find?_cons, if_neg hne]

theorem keys_mapValues {β : Type} (f : α → β) (xs : Entries α) :
    (xs.mapValues f).keys = xs.keys := by
  simp [mapValues, keys]

theorem find?_mapValues {β : Type} (f : α → β) (xs : Entries α) (key : String) :
    (xs.mapValues f).find? key = (xs.find? key).map f := by
  induction xs with
  | nil => rfl
  | cons x rest ih =>
      rcases x with ⟨k, v⟩
      have hcons : mapValues f ((k, v) :: rest) = (k, f v) :: mapValues f rest := rfl
      rw [hcons, find?_cons, find?_cons, ih]
      by_cases hkey : key = k <;> simp [hkey]

/-! ## Entries with the same keys -/

/-- The same keys in the same order, and related values under each of them. -/
structure Alike {β : Type} (related : α → β → Prop) (xs : Entries α) (ys : Entries β) : Prop where
  keys : ys.keys = xs.keys
  values (key : String) (x : α) (y : β) (hx : xs.find? key = some x) (hy : ys.find? key = some y) :
    related x y

theorem Alike.nil {β : Type} {related : α → β → Prop} : Alike related [] [] :=
  ⟨rfl, fun _ _ _ hx => by simp [find?] at hx⟩

theorem Alike.insert {β : Type} {related : α → β → Prop} {xs : Entries α} {ys : Entries β}
    (h : Alike related xs ys) (key : String) {x : α} {y : β} (hxy : related x y) :
    Alike related (xs.insert key x) (ys.insert key y) where
  keys := by rw [keys_insert, keys_insert, h.keys]
  values name x' y' hx hy := by
    rw [find?_insert] at hx hy
    by_cases hname : name = key
    · rw [if_pos hname] at hx hy
      exact Option.some.inj hx ▸ Option.some.inj hy ▸ hxy
    · rw [if_neg hname] at hx hy
      exact h.values name x' y' hx hy

theorem ext_find? {xs ys : Entries α} (hkeys : xs.keys = ys.keys)
    (hnodup : xs.keys.Nodup) (hfind : ∀ key, xs.find? key = ys.find? key) : xs = ys := by
  induction xs generalizing ys with
  | nil =>
      exact (List.map_eq_nil_iff.mp hkeys.symm).symm
  | cons x rest ih =>
      obtain ⟨y, rest', rfl, hy, hrest⟩ := List.map_eq_cons_iff.mp hkeys.symm
      obtain ⟨k, v⟩ := x
      obtain ⟨k', v'⟩ := y
      obtain rfl : k' = k := hy
      obtain ⟨hk, hnodup⟩ := List.nodup_cons.mp hnodup
      have hv := hfind k'
      rw [find?_cons, find?_cons, if_pos rfl, if_pos rfl] at hv
      obtain rfl := Option.some.inj hv
      refine congrArg _ (ih hrest.symm hnodup fun key => ?_)
      by_cases hkey : key = k'
      · subst hkey
        have hnone : key ∉ keys rest' := fun h => hk (hrest ▸ h)
        rw [find?_eq_none_iff.mpr hk, find?_eq_none_iff.mpr hnone]
      · have hkey' := hfind key
        rwa [find?_cons, find?_cons, if_neg hkey, if_neg hkey] at hkey'

/-! ## Lists that repeat keys -/

/-- The values that a list gives a key, in order. -/
def given (key : String) (xs : List (String × α)) : List α :=
  xs.filterMap fun x => if x.1 = key then some x.2 else none

theorem given_cons (key : String) (x : String × α) (xs : List (String × α)) :
    given key (x :: xs) = if x.1 = key then x.2 :: given key xs else given key xs := by
  unfold given
  rw [List.filterMap_cons]
  split <;> simp_all

theorem given_eq_nil_iff {xs : List (String × α)} {key : String} :
    given key xs = [] ↔ key ∉ xs.map Prod.fst := by
  induction xs with
  | nil => simp [given]
  | cons x rest ih =>
      rw [given_cons, List.map_cons, List.mem_cons]
      by_cases hkey : key = x.1
      · simp [hkey]
      · rw [if_neg (Ne.symm hkey), ih]
        simp [hkey]

/-- A list without repetitions gives a key what the entries hold under it. -/
theorem given_of_nodup {xs : Entries α} (h : xs.keys.Nodup) (key : String) :
    given key xs = (xs.find? key).toList := by
  induction xs with
  | nil => rfl
  | cons x rest ih =>
      obtain ⟨hx, hrest⟩ := List.nodup_cons.mp h
      rw [given_cons, find?_cons, ih hrest]
      by_cases hkey : key = x.1
      · subst hkey
        rw [find?_eq_none_iff.mpr hx]
        simp
      · simp [hkey, Ne.symm hkey]

theorem eraseDups_of_nodup {keys : List String} (h : keys.Nodup) : keys.eraseDups = keys := by
  induction keys with
  | nil => rfl
  | cons key rest ih =>
      obtain ⟨hkey, hrest⟩ := List.nodup_cons.mp h
      have hfilter : rest.filter (fun k => !k == key) = rest :=
        List.filter_eq_self.mpr fun k hk => by simp [ne_of_mem_of_not_mem hk hkey]
      rw [List.eraseDups_cons, hfilter, ih hrest]

/-! ## Laying entries over others -/

section Layers

variable {β : Type} (combine : Option α → β → α) (lower : Entries α)

/-- A key keeps its first place, and whatever is laid over its value is laid in order. -/
theorem keys_foldl_alter_eq_append (upper : List (String × β)) :
    (upper.foldl (fun acc x => alter x.1 (combine · x.2) acc) lower).keys =
      lower.keys ++ ((upper.map Prod.fst).filter (· ∉ lower.keys)).eraseDups := by
  induction upper generalizing lower with
  | nil => simp
  | cons x rest ih =>
      rw [List.foldl_cons, ih, keys_alter, List.map_cons, List.filter_cons]
      by_cases hmem : x.1 ∈ lower.keys
      · simp [hmem]
      · -- the key that is added now is what `eraseDups` drops from the rest
        have hfilter : ((rest.map Prod.fst).filter (· ∉ lower.keys ++ [x.1])) =
            ((rest.map Prod.fst).filter (· ∉ lower.keys)).filter fun key => !key == x.1 := by
          rw [List.filter_filter]
          exact List.filter_congr fun key _ => by by_cases hkey : key = x.1 <;> simp [hkey]
        rw [if_neg hmem, if_pos (by simpa using hmem), List.eraseDups_cons, hfilter,
          List.append_assoc]
        rfl

theorem keys_foldl_alter_nil (upper : List (String × β)) :
    keys (upper.foldl (fun acc x => alter x.1 (combine · x.2) acc) []) =
      (upper.map Prod.fst).eraseDups := by
  rw [keys_foldl_alter_eq_append, List.filter_eq_self.mpr (by simp [keys])]
  rfl

theorem find?_foldl_alter_eq_foldl (upper : List (String × β)) (key : String) :
    (upper.foldl (fun acc x => alter x.1 (combine · x.2) acc) lower).find? key =
      (given key upper).foldl (fun below above => some (combine below above))
        (lower.find? key) := by
  induction upper generalizing lower with
  | nil => rfl
  | cons x rest ih =>
      rw [List.foldl_cons, ih, find?_alter, given_cons]
      by_cases hkey : key = x.1
      · subst hkey
        simp
      · simp [hkey, Ne.symm hkey]

theorem keys_foldl_alter {upper : Entries β} (h : upper.keys.Nodup) :
    (upper.foldl (fun acc x => alter x.1 (combine · x.2) acc) lower).keys =
      lower.keys ++ upper.keys.filter (· ∉ lower.keys) := by
  have hnew : (upper.keys.filter (· ∉ lower.keys)).Nodup := h.sublist List.filter_sublist
  rw [keys_foldl_alter_eq_append]
  exact congrArg (lower.keys ++ ·) (eraseDups_of_nodup hnew)

/-- Keys followed by those that are not among them stay distinct. -/
theorem nodup_append_filter {keys' more : List String} (hkeys : keys'.Nodup) (hmore : more.Nodup) :
    (keys' ++ more.filter (· ∉ keys')).Nodup := by
  refine List.nodup_append.mpr ⟨hkeys, hmore.sublist List.filter_sublist, ?_⟩
  rintro key hkey _ hnew rfl
  simp [hkey] at hnew

theorem find?_foldl_alter {upper : Entries β} (h : upper.keys.Nodup) (key : String) :
    (upper.foldl (fun acc x => alter x.1 (combine · x.2) acc) lower).find? key =
      match upper.find? key with
      | some value => some (combine (lower.find? key) value)
      | none => lower.find? key := by
  rw [find?_foldl_alter_eq_foldl, given_of_nodup h]
  cases upper.find? key <;> rfl

/-- Entries whose keys are there, and whose values combining passes over, change nothing. -/
theorem foldl_alter_eq_self {upper : Entries β} (hlower : lower.keys.Nodup)
    (hupper : upper.keys.Nodup) (hkeys : ∀ key ∈ upper.keys, key ∈ lower.keys)
    (hvalues : ∀ key value below, upper.find? key = some value → lower.find? key = some below →
      combine (some below) value = below) :
    upper.foldl (fun acc x => alter x.1 (combine · x.2) acc) lower = lower := by
  have hnew : upper.keys.filter (· ∉ lower.keys) = [] := by simpa using hkeys
  have hsame : (upper.foldl (fun acc x => alter x.1 (combine · x.2) acc) lower).keys =
      lower.keys := by
    rw [keys_foldl_alter combine lower hupper, hnew, List.append_nil]
  refine ext_find? hsame (hsame ▸ hlower) fun key => ?_
  rw [find?_foldl_alter combine lower hupper]
  cases hvalue : upper.find? key with
  | none => rfl
  | some value =>
      obtain ⟨below, hbelow⟩ := exists_find?_of_mem (hkeys key (mem_keys_of_find?_eq_some hvalue))
      rw [hbelow]
      exact congrArg some (hvalues key value below hvalue hbelow)

end Layers

theorem nodup_eraseDups (keys : List String) : keys.eraseDups.Nodup := by
  have hnodup := nodup_keys_ofList (keys.map fun key => (key, ()))
  have hkeys : (ofList (keys.map fun key => (key, ()))).keys = _ :=
    keys_foldl_alter_nil (fun _ value => value) _
  rw [hkeys] at hnodup
  simpa [Function.comp_def] using hnodup

/-- Each key of a list once, where it first comes, with what the values given to it make. -/
def gathered {β : Type} (make : List α → Option β) (xs : List (String × α)) : Entries β :=
  (xs.map Prod.fst).eraseDups.filterMap fun key => (make (given key xs)).map (key, ·)

/-- Each key of a list once, where it first comes, with the value that comes last. -/
def lastValues (xs : List (String × α)) : Entries α := gathered List.getLast? xs

theorem keys_filterMap {keys' : List String} {f : String → Option α}
    (h : ∀ key ∈ keys', (f key).isSome = true) :
    keys (keys'.filterMap fun key => (f key).map (key, ·)) = keys' := by
  induction keys' with
  | nil => rfl
  | cons key rest ih =>
      obtain ⟨value, hvalue⟩ := Option.isSome_iff_exists.mp (h key List.mem_cons_self)
      have hrest := ih fun k hk => h k (List.mem_cons_of_mem _ hk)
      rw [List.filterMap_cons, hvalue]
      exact congrArg (key :: ·) hrest

theorem find?_filterMap (keys' : List String) (f : String → Option α) (key : String) :
    find? (keys'.filterMap fun key => (f key).map (key, ·)) key =
      if key ∈ keys' then f key else none := by
  induction keys' with
  | nil => rfl
  | cons k rest ih =>
      rw [List.filterMap_cons]
      cases hk : f k with
      | none =>
          rw [Option.map_none, ih]
          by_cases hkey : key = k <;> simp [hkey, hk]
      | some value =>
          rw [Option.map_some, find?_cons, ih]
          by_cases hkey : key = k <;> simp [hkey, hk]

/-- Pairs laid one after another over nothing leave each key at its first place, with its values
laid one over another. -/
theorem foldl_alter_eq_gathered {β : Type} (combine : Option α → β → α) (xs : List (String × β)) :
    xs.foldl (fun acc x => alter x.1 (combine · x.2) acc) [] =
      gathered (fun values => values.foldl (fun below above => some (combine below above)) none)
        xs := by
  set made := fun key =>
    (given key xs).foldl (fun below above => some (combine below above)) none with hmade
  have hsome : ∀ key ∈ (xs.map Prod.fst).eraseDups, (made key).isSome = true := by
    intro key hkey
    have hgiven : given key xs ≠ [] := by
      rw [Ne, given_eq_nil_iff]
      exact not_not_intro (List.mem_eraseDups.mp hkey)
    simp only [hmade]
    rw [← List.dropLast_concat_getLast hgiven, List.foldl_append]
    rfl
  have hkeys := keys_foldl_alter_nil combine xs
  refine ext_find? (hkeys.trans (keys_filterMap hsome).symm) (hkeys ▸ nodup_eraseDups _) ?_
  intro key
  have hfind := find?_foldl_alter_eq_foldl combine [] xs key
  rw [hfind, gathered, find?_filterMap]
  split
  next => rfl
  next hkey =>
    have hgiven : given key xs = [] :=
      given_eq_nil_iff.mpr fun hmem => hkey (List.mem_eraseDups.mpr hmem)
    rw [hgiven]
    rfl

/-! ## Buckets -/

theorem given_map (label : α → String) (xs : List α) (key : String) :
    given key (xs.map fun x => (label x, x)) = xs.filter (label · = key) := by
  induction xs with
  | nil => rfl
  | cons x rest ih =>
      rw [List.map_cons, given_cons, ih, List.filter_cons]
      simp

theorem foldl_concat_eq {values : List α} (h : values ≠ []) :
    values.foldl (fun below above => some (below.getD [] ++ [above])) none = some values := by
  induction values using List.reverseRecOn with
  | nil => exact absurd rfl h
  | append_singleton values value ih =>
      rw [List.foldl_append]
      by_cases hvalues : values = []
      · simp [hvalues]
      · simp [ih hvalues]

/-- Putting each element at the end of the list under its label leaves each label at its first
place, with its elements in order. -/
theorem foldl_bucket_eq (label : α → String) (xs : List α) :
    xs.foldl (fun acc x => alter (label x) (fun bucket => bucket.getD [] ++ [x]) acc) [] =
      (xs.map label).eraseDups.map fun key => (key, xs.filter (label · = key)) := by
  have hgathered := foldl_alter_eq_gathered (fun bucket x => bucket.getD [] ++ [x])
    (xs.map fun x => (label x, x))
  rw [List.foldl_map, gathered, List.map_map] at hgathered
  rw [hgathered]
  refine Eq.trans (List.filterMap_congr fun key hkey => ?_) (congrFun List.filterMap_eq_map _)
  obtain ⟨x, hx, heq⟩ := List.mem_map.mp (List.mem_eraseDups.mp hkey)
  have hne : xs.filter (label · = key) ≠ [] :=
    List.ne_nil_of_mem (List.mem_filter.mpr ⟨hx, by simpa using heq⟩)
  rw [given_map, foldl_concat_eq hne]
  rfl

theorem ofList_eq_lastValues (xs : List (String × α)) : ofList xs = lastValues xs := by
  have hlast : ∀ values : List α,
      values.foldl (fun (_ : Option α) above => some above) none = values.getLast? := by
    intro values
    induction values using List.reverseRecOn with
    | nil => rfl
    | append_singleton values value _ => simp
  have hgathered : ofList xs = _ := foldl_alter_eq_gathered (fun _ value => value) xs
  simp only [hgathered, hlast]
  rfl

end MockApi.Entries
