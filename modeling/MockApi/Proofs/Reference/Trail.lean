import MockApi.Proofs.Reference.Stack
import MockApi.Reference.Response

/-! # Where references lead

From a response or an example that may be a reference, there is one way to go on: to what the
reference names, as long as it names anything. The trail lands at an item, at a reference that it
has been through, or at one that leads nowhere; references are compared as texts, so a component
with two spellings may be passed twice. Each component holds at most one reference, which bounds
how long a trail without repetition is.
-/

namespace MockApi.Reference

variable {α : Type}

/-- From one place the references, each naming what comes next, lead to another place. -/
inductive Trail (part : Section) (entries : Entries (Linked α)) :
    Linked α → List String → Linked α → Prop
  | here (place : Linked α) : Trail part entries place [] place
  | onward {reference name : String} {next last : Linked α} {refs : List String}
      (hname : name? part reference = some name) (hfind : entries.find? name = some next)
      (h : Trail part entries next refs last) :
      Trail part entries (.reference reference) (reference :: refs) last

/-- Where a trail ends. -/
inductive Landing (α : Type) where
  /-- At an item. -/
  | item (value : α)
  /-- At a reference that was followed before. -/
  | repeated (reference : String)
  /-- At a reference that cannot be followed. -/
  | lost (problem : Problem)

/-- Following references from a place ends there. A reference is repeated when those before it are
distinct and it is one of them. -/
inductive Lands (part : Section) (entries : Entries (Linked α)) (start : Linked α) :
    Landing α → Prop
  | item {refs : List String} {value : α} (h : Trail part entries start refs (.item value)) :
      Lands part entries start (.item value)
  | repeated {refs : List String} {reference : String}
      (h : Trail part entries start refs (.reference reference)) (hnodup : refs.Nodup)
      (hmem : reference ∈ refs) : Lands part entries start (.repeated reference)
  | malformed {refs : List String} {reference : String}
      (h : Trail part entries start refs (.reference reference))
      (hname : name? part reference = none) :
      Lands part entries start (.lost (.malformed reference))
  | missing {refs : List String} {reference name : String}
      (h : Trail part entries start refs (.reference reference))
      (hname : name? part reference = some name) (hfind : entries.find? name = none) :
      Lands part entries start (.lost (.missing part reference))

section

variable {part : Section} {entries : Entries (Linked α)} {start next last : Linked α}
  {refs : List String} {reference : String}

/-! ## Following one reference -/

theorem find_eq_ok_iff :
    find part entries reference = .ok next ↔
      ∃ name, name? part reference = some name ∧ entries.find? name = some next := by
  unfold find
  split
  next hname => simp [hname]
  next name hname => split <;> simp_all

theorem find_of_malformed (hname : name? part reference = none) :
    find part entries reference = .error (.malformed reference) := by
  simp only [find, hname]

theorem find_of_missing {name : String} (hname : name? part reference = some name)
    (hfind : entries.find? name = none) :
    find part entries reference = .error (.missing part reference) := by
  simp only [find, hname, hfind]

/-! ## Trails -/

theorem Trail.append {middle : Linked α} {more : List String}
    (h : Trail part entries start refs middle) (hmore : Trail part entries middle more last) :
    Trail part entries start (refs ++ more) last := by
  induction h with
  | here => exact hmore
  | onward hname hfind _ ih => exact .onward hname hfind (ih hmore)

/-- A trail through a reference has been there after the references before it. -/
theorem Trail.exists_of_mem (h : Trail part entries start refs last) (hmem : reference ∈ refs) :
    ∃ before after, refs = before ++ reference :: after ∧
      Trail part entries (.reference reference) (reference :: after) last := by
  induction h with
  | here => cases hmem
  | @onward r name next last refs hname hfind h ih =>
      rcases List.mem_cons.mp hmem with rfl | hmem
      · exact ⟨[], refs, rfl, .onward hname hfind h⟩
      · obtain ⟨before, after, rfl, htrail⟩ := ih hmem
        exact ⟨r :: before, after, rfl, htrail⟩

/-- No reference goes on from a place. -/
def Stuck (part : Section) (entries : Entries (Linked α)) (place : Linked α) : Prop :=
  ∀ refs last, Trail part entries place refs last → refs = []

theorem stuck_item (value : α) : Stuck part entries (.item value) := by
  intro refs last h
  cases h
  rfl

theorem stuck_of_find_eq_error {problem : Problem}
    (hproblem : find part entries reference = .error problem) :
    Stuck part entries (.reference reference) := by
  intro refs last h
  cases h with
  | here => rfl
  | onward hname hfind _ =>
      have hok := find_eq_ok_iff.mpr ⟨_, hname, hfind⟩
      rw [hok] at hproblem
      cases hproblem

/-- There is one trail to where no reference goes on. -/
theorem Trail.refs_unique {others : List String} {other : Linked α}
    (h : Trail part entries start refs last) (hother : Trail part entries start others other)
    (hlast : Stuck part entries last) (hstuck : Stuck part entries other) : others = refs := by
  induction h generalizing others with
  | here => exact hlast _ _ hother
  | onward hname hfind h ih =>
      cases hother with
      | here => exact (hstuck _ _ (.onward hname hfind h)).symm
      | onward hname' hfind' h' =>
          obtain rfl := Option.some.inj (hname.symm.trans hname')
          obtain rfl := Option.some.inj (hfind.symm.trans hfind')
          rw [ih h' hlast]

/-- A trail that comes back to a reference goes round for ever, so one that ends has no
repetition. -/
theorem Trail.nodup (h : Trail part entries start refs last) (hlast : Stuck part entries last) :
    refs.Nodup := by
  induction h with
  | here => exact List.nodup_nil
  | @onward r name next last refs hname hfind h ih =>
      refine List.nodup_cons.mpr ⟨fun hmem => ?_, ih hlast⟩
      obtain ⟨before, after, rfl, hagain⟩ := h.exists_of_mem hmem
      have hsame := hagain.refs_unique (.onward hname hfind h) hlast hlast
      have hlength := congrArg List.length hsame
      simp at hlength
      omega

/-! ## The length of a trail -/

/-- The reference that a place holds. -/
def held : Linked α → List String
  | .reference target => [target]
  | .item _ => []

theorem length_held_le (place : Linked α) : (held place).length ≤ 1 := by
  cases place <;> simp [held]

theorem length_flatMap_held_le (entries : Entries (Linked α)) :
    (entries.flatMap fun e => held e.2).length ≤ entries.length := by
  induction entries with
  | nil => exact Nat.le_refl 0
  | cons e rest ih =>
      have he := length_held_le e.2
      rw [List.flatMap_cons, List.length_append, List.length_cons]
      omega

theorem Trail.mem_held (h : Trail part entries start refs last) :
    ∀ r ∈ refs, r ∈ held start ++ entries.flatMap fun e => held e.2 := by
  induction h with
  | here => simp
  | @onward r name next last refs hname hfind _ ih =>
      intro r' hr'
      rcases List.mem_cons.mp hr' with rfl | hr'
      · exact List.mem_append_left _ (List.mem_singleton.mpr rfl)
      · refine List.mem_append_right _ ?_
        rcases List.mem_append.mp (ih r' hr') with hnext | hlater
        · exact List.mem_flatMap.mpr ⟨_, Entries.mem_of_find?_eq_some hfind, hnext⟩
        · exact hlater

/-- Without repetition a trail has at most one reference more than there are components. -/
theorem Trail.length_le (h : Trail part entries start refs last) (hnodup : refs.Nodup) :
    refs.length ≤ entries.length + 1 := by
  have hle := hnodup.length_le_of_subset h.mem_held
  have hstart := length_held_le start
  have hentries := length_flatMap_held_le entries
  rw [List.length_append] at hle
  omega

/-! ## Landing -/

/-- As long as no reference repeats and none is lost, there is a trail of any length. -/
theorem exists_lands_or_trail (part : Section) (entries : Entries (Linked α)) (start : Linked α)
    (n : ℕ) :
    (∃ landing, Lands part entries start landing) ∨
      ∃ refs last, Trail part entries start refs last ∧ refs.Nodup ∧ refs.length = n := by
  induction n with
  | zero => exact .inr ⟨[], start, .here start, List.nodup_nil, rfl⟩
  | succ n ih =>
      obtain hland | ⟨refs, last, h, hnodup, hlength⟩ := ih
      · exact .inl hland
      cases last with
      | item value => exact .inl ⟨_, .item h⟩
      | reference r =>
          by_cases hmem : r ∈ refs
          · exact .inl ⟨_, .repeated h hnodup hmem⟩
          cases hname : name? part r with
          | none => exact .inl ⟨_, .malformed h hname⟩
          | some name =>
              cases hfind : entries.find? name with
              | none => exact .inl ⟨_, .missing h hname hfind⟩
              | some next =>
                  refine .inr ⟨refs ++ [r], next, h.append (.onward hname hfind (.here next)),
                    ?_, by simp [hlength]⟩
                  simpa [List.nodup_append] using ⟨hnodup, fun r' hr' heq => hmem (heq ▸ hr')⟩

theorem exists_lands (part : Section) (entries : Entries (Linked α)) (start : Linked α) :
    ∃ landing, Lands part entries start landing := by
  obtain hland | ⟨refs, last, h, hnodup, hlength⟩ :=
    exists_lands_or_trail part entries start (entries.length + 2)
  · exact hland
  · have := h.length_le hnodup
    omega

/-- What following references gives for a landing. -/
def Landing.outcome (severity : Severity) : Landing α → Resolution (Option α)
  | .item value => ⟨some value, []⟩
  | .repeated reference => ⟨none, [⟨.circular reference, .warning⟩]⟩
  | .lost problem => ⟨none, [⟨problem, severity⟩]⟩

/-- Along a trail of new references, each takes one unit of fuel and goes on the stack. -/
theorem follow_of_trail {severity : Severity} (h : Trail part entries start refs last)
    (fuel : ℕ) (stack : List String) (hnodup : refs.Nodup) (hfresh : ∀ r ∈ refs, r ∉ stack) :
    follow part entries severity (fuel + refs.length) stack start =
      follow part entries severity fuel (refs.reverse ++ stack) last := by
  induction h generalizing stack with
  | here => rfl
  | @onward r name next last refs hname hfind _ ih =>
      obtain ⟨hnot, hnodup⟩ := List.nodup_cons.mp hnodup
      have hok := find_eq_ok_iff.mpr ⟨name, hname, hfind⟩
      have hnext := ih (r :: stack) hnodup fun r' hr' => by
        refine List.not_mem_cons_of_ne_of_not_mem ?_ (hfresh r' (List.mem_cons_of_mem _ hr'))
        exact fun heq => hnot (heq ▸ hr')
      rw [List.length_cons, ← Nat.add_assoc, follow, if_neg (hfresh r List.mem_cons_self), hok]
      rw [List.reverse_cons, List.append_assoc]
      exact hnext

/-- The fuel that a chase starts with is not used up on a trail without repetition. -/
theorem chase_of_trail (severity : Severity) (h : Trail part entries start refs last)
    (hnodup : refs.Nodup) :
    ∃ fuel, chase part entries severity start =
      follow part entries severity (fuel + 1) refs.reverse last := by
  obtain ⟨fuel, hfuel⟩ := Nat.exists_eq_add_of_le (h.length_le hnodup)
  refine ⟨fuel, ?_⟩
  have hcount : entries.length + 2 = fuel + 1 + refs.length := by omega
  rw [chase, hcount, follow_of_trail h _ _ hnodup (by simp), List.append_nil]

theorem chase_of_lost {severity : Severity} {problem : Problem}
    (h : Trail part entries start refs (.reference reference))
    (hproblem : find part entries reference = .error problem) :
    chase part entries severity start = ⟨none, [⟨problem, severity⟩]⟩ := by
  have hstuck := stuck_of_find_eq_error hproblem
  have hnot : reference ∉ refs := by
    intro hmem
    obtain ⟨_, after, -, hagain⟩ := h.exists_of_mem hmem
    exact List.cons_ne_nil _ _ (hstuck _ _ hagain)
  obtain ⟨fuel, hchase⟩ := chase_of_trail severity h (h.nodup hstuck)
  rw [hchase, follow, if_neg (by simpa using hnot), hproblem]
  rfl

/-- Following references gives what the landing says. -/
theorem chase_of_lands {severity : Severity} {landing : Landing α}
    (h : Lands part entries start landing) :
    chase part entries severity start = landing.outcome severity := by
  cases h with
  | @item refs value h =>
      obtain ⟨fuel, hchase⟩ :=
        chase_of_trail severity h (h.nodup (stuck_item value))
      rw [hchase, follow]
      rfl
  | @repeated refs r h hnodup hmem =>
      obtain ⟨fuel, hchase⟩ := chase_of_trail severity h hnodup
      rw [hchase, follow, if_pos (List.mem_reverse.mpr hmem)]
      rfl
  | malformed h hname => exact chase_of_lost h (find_of_malformed hname)
  | missing h hname hfind => exact chase_of_lost h (find_of_missing hname hfind)

theorem Lands.ne_lost_circular {landing : Landing α} (h : Lands part entries start landing)
    (reference : String) : landing ≠ .lost (.circular reference) := by
  cases h <;> simp

theorem Lands.unique {landing other : Landing α} (h : Lands part entries start landing)
    (hother : Lands part entries start other) : other = landing := by
  have houtcome : other.outcome .error = landing.outcome .error :=
    (chase_of_lands hother).symm.trans (chase_of_lands h)
  have hne := h.ne_lost_circular
  have hne' := hother.ne_lost_circular
  cases landing <;> cases other <;> simp_all [Landing.outcome]

theorem existsUnique_lands (part : Section) (entries : Entries (Linked α)) (start : Linked α) :
    ∃! landing, Lands part entries start landing := by
  obtain ⟨landing, h⟩ := exists_lands part entries start
  exact ⟨landing, h, fun _ hother => h.unique hother⟩

end

end MockApi.Reference
