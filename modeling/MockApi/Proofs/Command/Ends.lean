import MockApi.Command.Generate

/-! # However a command ends

A command ends with an answer or with an error, and leaves a world either way. What holds of each of
the two ends is told together, and a sequence of commands is followed step by step: an error of a
step is an error of the sequence.

Questions leave the tree as it is, and so does reading a document, from a file or from the web. Only
reading it ends with an error about the document; no change of files does.
-/

namespace MockApi

namespace Command

variable {α β γ : Type} {w : World}

/-- The command ends with an answer of the one kind or with an error of the other, each together
with the world it leaves. -/
structure Ends (c : Command α) (w : World) (answers : α → World → Prop)
    (fails : CommandError → World → Prop) : Prop where
  told : match (ExceptT.run c).run w with
    | (.ok answer, w') => answers answer w'
    | (.error e, w') => fails e w'

namespace Ends

variable {answers answers' : α → World → Prop} {fails fails' : CommandError → World → Prop}

theorem bind {c : Command α} {f : α → Command β} {more : β → World → Prop}
    (hc : c.Ends w answers fails) (hf : ∀ a w', answers a w' → (f a).Ends w' more fails) :
    (c >>= f).Ends w more fails := by
  obtain ⟨hc⟩ := hc
  constructor
  rw [ExceptT.run_bind, StateT.run_bind]
  rcases hrun : (ExceptT.run c).run w with ⟨outcome, w'⟩
  rw [hrun] at hc
  cases outcome with
  | ok a => exact (hf a w' hc).told
  | error e => exact hc

theorem mono {c : Command α} (hc : c.Ends w answers fails)
    (hanswers : ∀ a w', answers a w' → answers' a w') (hfails : ∀ e w', fails e w' → fails' e w') :
    c.Ends w answers' fails' := by
  obtain ⟨hc⟩ := hc
  constructor
  rcases hrun : (ExceptT.run c).run w with ⟨outcome, w'⟩
  rw [hrun] at hc
  cases outcome with
  | ok a => exact hanswers a w' hc
  | error e => exact hfails e w' hc

theorem pure {answer : α} (h : answers answer w) :
    (Pure.pure answer : Command α).Ends w answers fails :=
  ⟨h⟩

theorem throw {e : CommandError} (h : fails e w) :
    (MonadExcept.throw e : Command α).Ends w answers fails :=
  ⟨h⟩

theorem get_bind {f : World → Command β} {more : β → World → Prop}
    (hf : (f w).Ends w more fails) : (MonadState.get >>= f).Ends w more fails :=
  ⟨hf.told⟩

end Ends

/-- Whatever world the command starts in, a view of the world stays, and of all errors it ends only
with those given. -/
structure Confined (view : World → γ) (errors : CommandError → Prop) (c : Command α) : Prop where
  ends : ∀ w, c.Ends w (fun _ w' => view w' = view w) fun e w' => errors e ∧ view w' = view w

namespace Confined

variable {view : World → γ} {errors errors' : CommandError → Prop}

theorem pure (answer : α) : Confined view errors (Pure.pure answer : Command α) :=
  ⟨fun _ => .pure rfl⟩

theorem throw {e : CommandError} (he : errors e) :
    Confined view errors (MonadExcept.throw e : Command α) :=
  ⟨fun _ => .throw ⟨he, rfl⟩⟩

theorem get : Confined view errors MonadState.get := ⟨fun _ => ⟨rfl⟩⟩

theorem say (lines : List LogLine) : Confined World.tree errors (Command.say lines) :=
  ⟨fun _ => ⟨rfl⟩⟩

theorem bind {c : Command α} {f : α → Command β} (hc : c.Confined view errors)
    (hf : ∀ a, (f a).Confined view errors) : (c >>= f).Confined view errors := by
  refine ⟨fun w => (hc.ends w).bind fun a w' hw' => ?_⟩
  refine ((hf a).ends w').mono (fun _ _ h => h.trans hw') ?_
  rintro e w'' ⟨he, hview⟩
  exact ⟨he, hview.trans hw'⟩

theorem mono {c : Command α} (hc : c.Confined view errors) (h : ∀ e, errors e → errors' e) :
    c.Confined view errors' :=
  ⟨fun w => (hc.ends w).mono (fun _ _ hw' => hw') fun e _ he => he.imp_left (h e)⟩

end Confined

/-! ## Questions -/

/-- The answer tells whether there is a file or folder. -/
theorem ends_isThere (path : String) (w : World) :
    (isThere path).Ends w
      (fun there w' => w' = w ∧ there = (!path.isEmpty &&
        (w.tree.isFile (w.tree.locate path) || w.tree.isFolder (w.tree.locate path))))
      fun e w' => e = .files ∧ w' = w := by
  refine .get_bind ?_
  unfold FileTree.holds?
  dsimp only
  split
  next hempty => exact .pure ⟨rfl, by simp [hempty]⟩
  next hempty =>
    split
    next => exact .throw ⟨rfl, rfl⟩
    next =>
      split
      next there hholds =>
        split at hholds
        next => cases hholds
        next =>
          obtain rfl := Option.some.inj hholds
          exact .pure ⟨rfl, by simp [hempty]⟩
      next => exact .throw ⟨rfl, rfl⟩

/-- What is read is the text of the file. -/
theorem ends_read (path : String) (error : CommandError) (w : World) :
    (read path error).Ends w (fun text w' => w' = w ∧ w.tree.text? (w.tree.locate path) = some text)
      fun e w' => e = error ∧ w' = w := by
  have htext : (text? path).Ends w
      (fun found w' => w' = w ∧
        found = if path.isEmpty || asksFolder path then none else w.tree.text? (w.tree.locate path))
      fun e w' => e = error ∧ w' = w :=
    .get_bind (.pure ⟨rfl, rfl⟩)
  refine htext.bind ?_
  rintro found _ ⟨rfl, hfound⟩
  cases found with
  | none => exact .throw ⟨rfl, rfl⟩
  | some text =>
      refine .pure ⟨rfl, ?_⟩
      split at hfound
      next => cases hfound
      next => exact hfound.symm

/-- A change that is made is the one asked for. -/
theorem ends_change (error : CommandError) (c : FileChange) (w : World) :
    (change error c).Ends w
      (fun _ w' => w.tree.after? c = some w'.tree ∧ w'.changes = w.changes ++ [c])
      fun e w' => e = error ∧ w' = w := by
  refine .get_bind ?_
  split
  next tree hafter => exact ⟨hafter, rfl⟩
  next => exact .throw ⟨rfl, rfl⟩

/-- A text that is written goes to the place of the path name. -/
theorem ends_write (path text : String) (error : CommandError) (w : World) :
    (write path text error).Ends w
      (fun _ w' => w.tree.write? (w.tree.locate path) text = some w'.tree ∧
        w'.changes = w.changes ++ [.write (w.tree.locate path) text])
      fun e w' => e = error ∧ w' = w := by
  unfold write
  dsimp only
  split
  next => exact ⟨rfl, rfl⟩
  next => exact .get_bind (ends_change error _ w)

end Command

end MockApi
