import MockApi.Node.Reader
import MockApi.Proofs.Entries

/-! # What readers give

A value that was read was read from some node: an optional value from the node of its field, and
each item of a list from a node of the list. A map gives every key once.
-/

namespace MockApi.Node

theorem exists_of_maybe {α : Type} {anchors : Anchors} {read : Node → Option α} {t : Option Node}
    {x : α} (h : maybe? anchors read t = some (some x)) : ∃ u, read u = some x := by
  unfold maybe? defaulted? optional? at h
  split at h
  next u =>
    split at h
    next => cases h
    next =>
      obtain ⟨y, hread, hy⟩ := Option.map_eq_some_iff.mp h
      exact ⟨u, Option.some.inj hy ▸ hread⟩
  next => cases h

theorem exists_of_mapM {α β : Type} {f : α → Option β} {xs : List α} {ys : List β}
    (h : xs.mapM f = some ys) : ∀ y ∈ ys, ∃ x ∈ xs, f x = some y := by
  induction xs generalizing ys with
  | nil =>
      obtain rfl := Option.some.inj h
      simp
  | cons x rest ih =>
      simp only [List.mapM_cons, Option.bind_eq_bind, Option.bind_eq_some_iff, Option.pure_def] at h
      obtain ⟨y, hy, made, hmade, h⟩ := h
      obtain rfl := Option.some.inj h
      rintro z (_ | ⟨_, hz⟩)
      · exact ⟨x, List.mem_cons_self, hy⟩
      · obtain ⟨u, hu, hread⟩ := ih hmade z hz
        exact ⟨u, List.mem_cons_of_mem _ hu, hread⟩

theorem map_eq_of_mapM {α β γ : Type} {f : α → Option β} {xs : List α} {ys : List β} {k : α → γ}
    {l : β → γ} (hf : ∀ x y, f x = some y → l y = k x) (h : xs.mapM f = some ys) :
    ys.map l = xs.map k := by
  induction xs generalizing ys with
  | nil =>
      obtain rfl := Option.some.inj h
      rfl
  | cons x rest ih =>
      simp only [List.mapM_cons, Option.bind_eq_bind, Option.bind_eq_some_iff, Option.pure_def] at h
      obtain ⟨y, hy, made, hmade, h⟩ := h
      obtain rfl := Option.some.inj h
      rw [List.map_cons, List.map_cons, hf x y hy, ih hmade]

theorem exists_of_mapM_pairs {α : Type} {anchors : Anchors} {read : Node → Option α}
    {entries : List (Node × Node)} {pairs : List (String × α)}
    (h : (entries.mapM fun (e : Node × Node) => do
      return (← text? anchors e.1, ← read e.2)) = some pairs) :
    ∀ e ∈ Entries.ofList pairs, ∃ u, read u = some e.2 := by
  intro e he
  obtain ⟨node, -, hnode⟩ := exists_of_mapM h e (Entries.mem_of_mem_ofList he)
  obtain ⟨key, -, hnode⟩ := Option.bind_eq_some_iff.mp hnode
  obtain ⟨value, hvalue, hnode⟩ := Option.bind_eq_some_iff.mp hnode
  obtain rfl := Option.some.inj hnode
  exact ⟨_, hvalue⟩

/-- However often a map writes a key, its entries have the key once, and each of them was read from
a node one level below. -/
theorem nodup_keys_of_entries {α : Type} {anchors : Anchors} {depth : Nat}
    {read : Nat → Node → Option α} {t : Node} {made : Entries α}
    (h : entries? anchors depth read t = some made) :
    (Entries.keys made).Nodup ∧ ∀ e ∈ made, ∃ below u, depth = below + 1 ∧
      read below u = some e.2 := by
  unfold entries? at h
  split at h
  next =>
    obtain ⟨pairs, hpairs, rfl⟩ := Option.map_eq_some_iff.mp h
    refine ⟨Entries.nodup_keys_ofList pairs, fun e he => ?_⟩
    obtain ⟨u, hu⟩ := exists_of_mapM_pairs hpairs e he
    exact ⟨_, u, rfl, hu⟩
  next =>
    obtain rfl := Option.some.inj (Option.ite_none_right_eq_some.mp h).2
    simp [Entries.keys]

/-- A record that has a field uses up one level. -/
theorem depth_of_record {anchors : Anchors} {fields : List Field} {depth below : Nat} {t u : Node}
    {found : List (Option Node)} (h : record? anchors fields depth t = some (below, found))
    (hu : some u ∈ found) : depth = below + 1 := by
  unfold record? at h
  split at h
  next =>
    obtain ⟨_, -, h⟩ := Option.map_eq_some_iff.mp h
    exact congrArg (· + 1) (Prod.mk.inj h).1
  next =>
    obtain ⟨_, -, h⟩ := Option.map_eq_some_iff.mp h
    exact congrArg (· + 1) (Prod.mk.inj h).1
  next =>
    obtain ⟨-, rfl⟩ := Prod.mk.inj (Option.some.inj (Option.ite_none_right_eq_some.mp h).2)
    simp at hu

end MockApi.Node
