import MockApi.Proofs.Command.Ends
import MockApi.Proofs.Output.Overwrite

/-! # Files of others

Writing the modules of a run touches no file but those of its modules, and of these none that
was there without the marker. However often modules are written, of whatever runs, into whatever
folders and whether or not all of them can be written, the texts of others stay, and what has been
written can be written again.
-/

namespace MockApi

open FileTree

/-- On the way from one world to another, the texts of others are spared: a place that is touched
took modules before and holds a text of this tool in the end, and so does every place written to. -/
structure World.Spares (w w' : World) : Prop where
  texts (p : Place) : w'.tree.text? p = w.tree.text? p ∨
    (w.tree.takes p = true ∧ (w'.tree.text? p).any MockModule.isGenerated = true)
  writes : ∃ made, w'.changes = w.changes ++ made ∧
    ∀ p text, .write p text ∈ made → (w'.tree.text? p).any MockModule.isGenerated = true

namespace World.Spares

variable {w w' w'' : World}

theorem of_text?_eq {made : List FileChange} (htext : ∀ p, w'.tree.text? p = w.tree.text? p)
    (hchanges : w'.changes = w.changes ++ made) (hmade : ∀ p text, .write p text ∉ made) :
    w.Spares w' :=
  ⟨fun p => Or.inl (htext p), made, hchanges, fun p text h => absurd h (hmade p text)⟩

theorem refl (w : World) : w.Spares w :=
  of_text?_eq (fun _ => rfl) (List.append_nil _).symm (by simp)

theorem of_put {place : Place} {text : String} (htakes : w.tree.takes place = true)
    (htext : MockModule.isGenerated text = true) (htree : w'.tree = w.tree.put place text)
    (hchanges : w'.changes = w.changes ++ [.write place text]) : w.Spares w' := by
  refine ⟨fun p => ?_, _, hchanges, fun p text' hwrite => ?_⟩
  · rw [htree, text?_put]
    by_cases hp : p = place
    · subst hp
      exact Or.inr ⟨htakes, by simpa using htext⟩
    · exact Or.inl (if_neg hp)
  · obtain ⟨rfl, rfl⟩ := FileChange.write.inj (List.mem_singleton.mp hwrite)
    rw [htree, text?_put, if_pos rfl]
    simpa using htext

theorem holds_of_holds (h : w.Spares w') {p : Place}
    (hp : (w.tree.text? p).any MockModule.isGenerated = true) :
    (w'.tree.text? p).any MockModule.isGenerated = true := by
  rcases h.texts p with hsame | ⟨-, hholds⟩
  · rwa [hsame]
  · exact hholds

theorem trans (h : w.Spares w') (h' : w'.Spares w'') : w.Spares w'' := by
  obtain ⟨made, hmade, hwritten⟩ := h.writes
  obtain ⟨made', hmade', hwritten'⟩ := h'.writes
  refine ⟨fun p => ?_, made ++ made', by rw [hmade', hmade, List.append_assoc], ?_⟩
  · -- a place that is touched later took modules before, since it was as it had been
    rcases h.texts p with hsame | ⟨htakes, hholds⟩
    · rcases h'.texts p with hsame' | ⟨htakes', hholds'⟩
      · exact Or.inl (hsame'.trans hsame)
      · exact Or.inr ⟨by rwa [takes, hsame, ← takes] at htakes', hholds'⟩
    · exact Or.inr ⟨htakes, h'.holds_of_holds hholds⟩
  · intro p text hwrite
    rcases List.mem_append.mp hwrite with hwrite | hwrite
    · exact h'.holds_of_holds (hwritten p text hwrite)
    · exact hwritten' p text hwrite

theorem text?_of_foreign (h : w.Spares w') {p : Place} {text : String}
    (htext : w.tree.text? p = some text) (hforeign : MockModule.isGenerated text = false) :
    w'.tree.text? p = some text := by
  rcases h.texts p with hsame | ⟨htakes, -⟩
  · rwa [hsame]
  · simp [takes, htext, hforeign] at htakes

end World.Spares

namespace Command

variable {α β : Type}

/-- However the command ends, it spares the texts of others. -/
structure IsSparing (c : Command α) : Prop where
  ends : ∀ w, c.Ends w (fun _ w' => w.Spares w') fun _ w' => w.Spares w'

namespace IsSparing

theorem pure (answer : α) : IsSparing (Pure.pure answer : Command α) :=
  ⟨fun w => .pure (.refl w)⟩

theorem bind {c : Command α} {f : α → Command β} (hc : c.IsSparing) (hf : ∀ a, (f a).IsSparing) :
    (c >>= f).IsSparing :=
  ⟨fun w => (hc.ends w).bind fun a w' hw' =>
    ((hf a).ends w').mono (fun _ _ => hw'.trans) fun _ _ => hw'.trans⟩

theorem spares_run {c : Command α} (hc : c.IsSparing) (w : World) :
    w.Spares ((ExceptT.run c).run w).2 := by
  have htold := (hc.ends w).told
  generalize (ExceptT.run c).run w = ended at htold ⊢
  rcases ended with ⟨_ | _, w'⟩ <;> exact htold

end IsSparing

theorem isSparing_say (lines : List LogLine) : (say lines).IsSparing :=
  ⟨fun _ => ⟨.of_text?_eq (fun _ => rfl) (List.append_nil _).symm (by simp)⟩⟩

theorem isSparing_makeFolders (path : String) (error : CommandError) :
    (makeFolders path error).IsSparing := by
  refine ⟨fun w => .get_bind ((ends_change error _ w).mono ?_ ?_)⟩
  · rintro _ w' ⟨hmade, hchanges⟩
    refine .of_text?_eq (fun p => ?_) hchanges (by simp)
    obtain ⟨-, htree⟩ := Option.ite_none_left_eq_some.mp hmade
    rw [← Option.some.inj htree]
    rfl
  · rintro _ w' ⟨-, rfl⟩
    exact .refl w'

/-- What may be overwritten takes modules. -/
theorem ends_mayOverwrite {path : String} (hpath : path ≠ "") (w : World) :
    (mayOverwrite path).Ends w
      (fun allowed w' => w' = w ∧
        (allowed = true → w.tree.takes (w.tree.locate path) = true))
      fun _ w' => w' = w := by
  refine ((ends_isThere path w).mono (fun _ _ h => h) fun _ _ h => h.2).bind ?_
  rintro there w ⟨rfl, hthere⟩
  cases there with
  | false =>
      -- nothing is there, so there is no text of others
      refine .pure ⟨rfl, fun _ => ?_⟩
      have hfile : w.tree.isFile (w.tree.locate path) = false := by
        have hempty : path.isEmpty = false := by simpa using hpath
        rw [hempty, eq_comm, Bool.and_eq_false_imp] at hthere
        exact (Bool.or_eq_false_iff.mp (hthere rfl)).1
      rw [takes, Option.not_isSome_iff_eq_none.mp (Bool.eq_false_iff.mp hfile)]
      rfl
  | true =>
      refine ((ends_read path _ w).mono (fun _ _ h => h) fun _ _ h => h.2).bind ?_
      rintro text w ⟨rfl, htext⟩
      refine .pure ⟨rfl, fun hgenerated => ?_⟩
      rw [takes, htext]
      exact hgenerated

theorem isSparing_writeModule (outputDir : String) (m : EndpointMock) :
    (writeModule outputDir m).IsSparing := by
  refine ⟨fun w => ?_⟩
  unfold writeModule
  have hpath : MockModule.path outputDir m ≠ "" := join_ne_empty m.isName_moduleName
  have hmay := ends_mayOverwrite hpath w
  refine (hmay.mono (fun _ _ h => h) (by rintro _ w' rfl; exact .refl w')).bind ?_
  rintro allowed w ⟨rfl, htakes⟩
  split
  next hallowed =>
    have hwrite : (write (MockModule.path outputDir m) (MockModule.render m)
        (.failed .write (MockModule.path outputDir m))).Ends w (fun _ w' => w.Spares w')
        fun _ w' => w.Spares w' := by
      refine (ends_write _ _ _ w).mono ?_ ?_
      · rintro _ w' ⟨hput, hchanges⟩
        obtain ⟨-, hput⟩ := Option.ite_none_left_eq_some.mp hput
        exact .of_put (htakes hallowed) (MockModule.isGenerated_render m)
          (Option.some.inj hput).symm hchanges
      · rintro _ w' ⟨-, rfl⟩
        exact .refl w'
    exact hwrite.bind fun _ w' hw' => .pure hw'
  next => exact ((isSparing_say _).bind fun _ => .pure false).ends w

theorem isSparing_writeModules (outputDir : String) (r : Run) :
    (writeModules outputDir r).IsSparing := by
  refine (isSparing_makeFolders _ _).bind fun _ => ?_
  induction r.endpoints with
  | nil => exact .pure 0
  | cons m rest ih =>
      refine (isSparing_writeModule outputDir m).bind fun written => ?_
      exact ih.bind fun count => .pure _

/-- The world after the modules of runs have been written into output folders, however each call
ended. -/
def afterRuns (calls : List (String × Run)) (w : World) : World :=
  calls.foldl (fun w call => ((ExceptT.run (writeModules call.1 call.2)).run w).2) w

theorem spares_afterRuns (calls : List (String × Run)) (w : World) :
    w.Spares (afterRuns calls w) := by
  induction calls generalizing w with
  | nil => exact .refl w
  | cons call rest ih =>
      have hcall := (isSparing_writeModules call.1 call.2).spares_run w
      rw [afterRuns, List.foldl_cons]
      exact hcall.trans (ih _)

/-- Writing the modules of a run spares the files of others. Where there is room, it writes the
module of the last endpoint of each place, but for the places with a text of others, and counts the
endpoints that have none; doing it again leaves all texts and folders as they are. However often
modules are written, a text of others stays, and what was written holds a text of this tool. -/
theorem writeModules_spares_others :
    (∀ (w : World) (outputDir : String) (r : Run),
      w.tree.HasRoom (modulePlace w.tree outputDir) r.endpoints →
      let place := fun m => w.tree.locate (MockModule.path outputDir m)
      let count := r.endpoints.countP fun m => w.tree.takes (place m)
      ∃ w', (writeModules outputDir r).Gives w count w' ∧
        (∀ p, (∀ m ∈ r.endpoints, place m ≠ p) → w'.tree.text? p = w.tree.text? p) ∧
        (∀ p text, w.tree.text? p = some text → MockModule.isGenerated text = false →
          w'.tree.text? p = some text) ∧
        (∀ m ∈ r.endpoints, w.tree.takes (place m) = true →
          ∃ last, (r.endpoints.reverse.find? fun m' => place m' == place m) = some last ∧
            w'.tree.text? (place m) = some (MockModule.render last)) ∧
        ∃ w'', (writeModules outputDir r).Gives w' count w'' ∧
          ∀ p, w''.tree.text? p = w'.tree.text? p ∧ w''.tree.isFolder p = w'.tree.isFolder p) ∧
    ∀ (w : World) (calls : List (String × Run)),
      (∀ p text, w.tree.text? p = some text → MockModule.isGenerated text = false →
        (afterRuns calls w).tree.text? p = some text) ∧
      ∃ made, (afterRuns calls w).changes = w.changes ++ made ∧
        ∀ p text, .write p text ∈ made →
          ((afterRuns calls w).tree.text? p).any MockModule.isGenerated = true := by
  refine ⟨?_, fun w calls => ⟨fun p text => (spares_afterRuns calls w).text?_of_foreign,
    (spares_afterRuns calls w).writes⟩⟩
  intro w outputDir r hroom
  simp only [locate_path]
  obtain ⟨w', hgives, hhome, hfolder, htext⟩ := gives_writeModules_offerAll r rfl hroom
  refine ⟨w', hgives, fun p hp => ?_, fun p text hsome hforeign => ?_, fun m hm htakes => ?_,
    gives_writeModules_twice r rfl hroom hhome hfolder htext⟩
  · rw [htext]
    exact text?_offerAll_of_ne hp
  · rw [htext]
    exact text?_offerAll_of_foreign r.endpoints hsome hforeign
  · rw [htext]
    exact text?_offerAll_of_takes hm htakes

/-- An endpoint without responses. -/
def bareEndpoint (method : Method) (path : String) : EndpointMock :=
  ⟨⟨method, path, "", "", none, []⟩, []⟩

/-- An endpoint with the response code 204. -/
def emptiedEndpoint (method : Method) (path : String) : EndpointMock :=
  ⟨⟨method, path, "", "", none, []⟩, [⟨"204", .null, .static .null⟩]⟩

/-- Users are read at two paths, whose modules have one name, and are added. -/
def usersRun : Run where
  endpoints := [bareEndpoint .get "/users", bareEndpoint .post "/users",
    emptiedEndpoint .get "/users/"]

/-- A working folder with a module for adding users that somebody wrote. -/
def handWritten : World where
  tree := {
    home := ["work"]
    files := [(["work", ".mocks", "api", "post-users.js"], "export default []")]
    folders := [["work"], ["work", ".mocks"], ["work", ".mocks", "api"]] }

theorem modulePlace_handWritten :
    modulePlace handWritten.tree ".mocks" = ["work", ".mocks", "api"] := by
  decide +kernel

theorem hasRoom_handWritten : handWritten.tree.HasRoom ["work", ".mocks", "api"]
    usersRun.endpoints where
  reachable := by decide +kernel
  free := by decide +kernel

/-- The module that somebody wrote stays, for one call and for any more, and the later one of the
two modules of one name is written. -/
theorem writeModules_spares_handWritten :
    (∃ w', (writeModules ".mocks" usersRun).Gives handWritten 2 w' ∧
      w'.tree.text? ["work", ".mocks", "api", "post-users.js"] = some "export default []" ∧
      w'.tree.text? ["work", ".mocks", "api", "get-users.js"] =
        some (MockModule.render (emptiedEndpoint .get "/users/"))) ∧
    ∀ calls, (afterRuns calls handWritten).tree.text? ["work", ".mocks", "api", "post-users.js"] =
      some "export default []" := by
  obtain ⟨honce, hmore⟩ := writeModules_spares_others
  obtain ⟨w', hgives, -, hforeign, hwritten, -⟩ := honce handWritten ".mocks" usersRun
    (modulePlace_handWritten.symm ▸ hasRoom_handWritten)
  have hcount : (usersRun.endpoints.countP fun m =>
      handWritten.tree.takes (handWritten.tree.locate (MockModule.path ".mocks" m))) = 2 := by
    decide +kernel
  have hbare : handWritten.tree.locate (MockModule.path ".mocks" (bareEndpoint .get "/users")) =
      ["work", ".mocks", "api", "get-users.js"] := by
    decide +kernel
  have hemptied :
      (handWritten.tree.locate (MockModule.path ".mocks" (emptiedEndpoint .get "/users/")) ==
        ["work", ".mocks", "api", "get-users.js"]) = true := by
    decide +kernel
  obtain ⟨last, hlast, htext⟩ := hwritten (bareEndpoint .get "/users") (by simp [usersRun])
    (by decide +kernel)
  have hreverse : usersRun.endpoints.reverse = [emptiedEndpoint .get "/users/",
    bareEndpoint .post "/users", bareEndpoint .get "/users"] := rfl
  dsimp only at hlast htext
  rw [hbare, hreverse, List.find?_cons, hemptied] at hlast
  rw [hbare, ← Option.some.inj hlast] at htext
  refine ⟨⟨w', hcount ▸ hgives, hforeign _ _ rfl (by decide +kernel), htext⟩, fun calls => ?_⟩
  exact (hmore handWritten calls).1 _ _ rfl (by decide +kernel)

end Command

end MockApi
