import MockApi.Command.Generate
import MockApi.Proofs.Files.Path
import MockApi.Proofs.Files.Tree

/-! # Commands that end with an answer

A command gives an answer in a world when it ends without an error; the world it leaves is told with
the answer. Commands in sequence give what the last one gives in the world of those before it.
-/

namespace MockApi.Command

variable {α β : Type} {w w' w'' : World}

/-- The command ends with the answer, in another world. -/
def Gives (c : Command α) (w : World) (answer : α) (w' : World) : Prop :=
  (ExceptT.run c).run w = (.ok answer, w')

theorem Gives.pure (answer : α) (w : World) : Gives (Pure.pure answer) w answer w := rfl

theorem Gives.bind {c : Command α} {f : α → Command β} {a : α} {b : β} (hc : c.Gives w a w')
    (hf : (f a).Gives w' b w'') : (c >>= f).Gives w b w'' := by
  unfold Gives at hc hf ⊢
  rw [ExceptT.run_bind, StateT.run_bind, hc]
  exact hf

theorem gives_get (w : World) : Gives MonadState.get w w w := rfl

theorem gives_modify (f : World → World) (w : World) : Gives (modify f) w () (f w) := rfl

theorem gives_say (lines : List LogLine) (w : World) :
    (say lines).Gives w () { w with log := w.log ++ lines } :=
  gives_modify _ w

/-! ## Changes -/

theorem gives_change {tree : FileTree} {c : FileChange} (error : CommandError)
    (h : w.tree.after? c = some tree) :
    (change error c).Gives w () { w with tree, changes := w.changes ++ [c] } := by
  refine (gives_get w).bind ?_
  simp only [h]
  exact gives_modify _ w

theorem gives_write {path text : String} {tree : FileTree} (error : CommandError)
    (hpath : path ≠ "") (hfolder : asksFolder path = false)
    (h : w.tree.write? (w.tree.locate path) text = some tree) :
    ∃ changes, (write path text error).Gives w () { w with tree, changes } := by
  refine ⟨w.changes ++ [.write (w.tree.locate path) text], ?_⟩
  have hempty : path.isEmpty = false := by simpa using hpath
  simp only [write, hempty, hfolder]
  exact (gives_get w).bind (gives_change error h)

theorem gives_makeFolders {path : String} {tree : FileTree} (error : CommandError)
    (h : w.tree.makeFolders? (w.tree.locate path) = some tree) :
    ∃ changes, (makeFolders path error).Gives w () { w with tree, changes } :=
  ⟨_, (gives_get w).bind (gives_change error h)⟩

/-! ## Questions -/

theorem gives_isThere {path : String} {there : Bool} (hpath : path ≠ "")
    (hfolder : asksFolder path = false) (h : w.tree.holds? (w.tree.locate path) = some there) :
    (isThere path).Gives w there w := by
  have hempty : path.isEmpty = false := by simpa using hpath
  refine (gives_get w).bind ?_
  simp only [hempty, hfolder, h]
  exact Gives.pure there w

theorem gives_read {path text : String} (error : CommandError) (hpath : path ≠ "")
    (hfolder : asksFolder path = false) (h : w.tree.text? (w.tree.locate path) = some text) :
    (read path error).Gives w text w := by
  have hempty : path.isEmpty = false := by simpa using hpath
  have htext : (text? path).Gives w (some text) w := by
    refine (gives_get w).bind ?_
    simp only [hempty, hfolder, h]
    exact Gives.pure (some text) w
  exact htext.bind (Gives.pure text w)

/-! ## Names below a folder -/

theorem join_ne_empty {base name : String} (h : PathName.IsName name) :
    PathName.join base name ≠ "" := by
  obtain ⟨before, hchars⟩ := PathName.toList_join base h
  intro hempty
  rw [hempty] at hchars
  exact h.ne_empty (by simpa using (List.append_eq_nil_iff.mp hchars.symm).2)

theorem asksFolder_join {base name : String} (h : PathName.IsName name) :
    asksFolder (PathName.join base name) = false := by
  obtain ⟨before, hchars⟩ := PathName.toList_join base h
  have hname : name.toList ≠ [] := by simpa using h.ne_empty
  unfold asksFolder
  rw [hchars, List.getLast?_append_of_ne_nil _ hname, decide_eq_false_iff_not]
  intro hlast
  exact h.notMem (List.mem_of_getLast? hlast)

end MockApi.Command
