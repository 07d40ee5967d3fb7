import Mathlib.Data.List.Induction
import MockApi.Proofs.Command.Gives
import MockApi.Proofs.Output.ModuleName

/-! # Overwriting modules

A run writes the modules of its endpoints one after another. A place takes a module when nothing is
there or a text that this tool has written; whatever else is there stays. A module is itself such a
text, so writing one does not change which places take modules: in the end each place that does
holds the last module for it, and writing all of them again changes no text.
-/

namespace MockApi

open FileTree

theorem Text.contains_append (word rest : List Char) : contains word (word ++ rest) = true := by
  cases word with
  | nil =>
      cases rest with
      | nil => rfl
      | cons c rest => simp [contains]
  | cons c word => simp [contains]

theorem MockModule.isGenerated_render (m : EndpointMock) : isGenerated (render m) = true := by
  unfold isGenerated render
  -- the marker is the first line
  simp only [String.toList_append, List.append_assoc]
  exact Text.contains_append _ _

namespace EndpointMock

/-- The name of the endpoint's module. -/
def moduleName (m : EndpointMock) : String :=
  moduleFileName m.endpoint.method.lower m.endpoint.path

theorem isName_moduleName (m : EndpointMock) : PathName.IsName m.moduleName :=
  isName_moduleFileName m.endpoint.method m.endpoint.path

/-- The place of the endpoint's module in a folder. -/
def placeIn (m : EndpointMock) (folder : Place) : Place := folder ++ [m.moduleName]

end EndpointMock

/-! ## What places take -/

namespace FileTree

/-- Nothing is at the place, or a text that this tool has written. -/
def takes (t : FileTree) (place : Place) : Bool := (t.text? place).all MockModule.isGenerated

/-- The tree after a module is offered to its place in a folder. -/
def offer (t : FileTree) (folder : Place) (m : EndpointMock) : FileTree :=
  if t.takes (m.placeIn folder) then t.put (m.placeIn folder) (MockModule.render m) else t

/-- The tree after modules are offered in order. -/
def offerAll (t : FileTree) (folder : Place) (ms : List EndpointMock) : FileTree :=
  ms.foldl (fun t m => t.offer folder m) t

variable {t : FileTree} {folder : Place}

theorem text?_offer (t : FileTree) (folder : Place) (m : EndpointMock) (p : Place) :
    (t.offer folder m).text? p =
      if t.takes p = true ∧ m.placeIn folder = p then some (MockModule.render m)
      else t.text? p := by
  unfold offer
  split
  next htakes =>
    rw [text?_put]
    by_cases hp : m.placeIn folder = p
    · subst hp
      simp [htakes]
    · simp [hp, Ne.symm hp]
  next htakes =>
    rw [if_neg]
    rintro ⟨hp, rfl⟩
    exact htakes hp

theorem takes_offer (t : FileTree) (folder : Place) (m : EndpointMock) (p : Place) :
    (t.offer folder m).takes p = t.takes p := by
  -- where the module went there is a generated text now, and there was one or nothing before
  rw [takes, text?_offer]
  split
  next h => simp [MockModule.isGenerated_render, h.1]
  next => rfl

@[simp] theorem home_offer (t : FileTree) (folder : Place) (m : EndpointMock) :
    (t.offer folder m).home = t.home := by
  unfold offer
  split <;> simp

@[simp] theorem isFolder_offer (t : FileTree) (folder : Place) (m : EndpointMock) (p : Place) :
    (t.offer folder m).isFolder p = t.isFolder p := by
  unfold offer
  split <;> simp

theorem home_offerAll (t : FileTree) (folder : Place) (ms : List EndpointMock) :
    (t.offerAll folder ms).home = t.home := by
  induction ms generalizing t with
  | nil => rfl
  | cons m rest ih => exact (ih _).trans (home_offer t folder m)

theorem isFolder_offerAll (t : FileTree) (folder : Place) (ms : List EndpointMock) (p : Place) :
    (t.offerAll folder ms).isFolder p = t.isFolder p := by
  induction ms generalizing t with
  | nil => rfl
  | cons m rest ih => exact (ih _).trans (isFolder_offer t folder m p)

theorem takes_offerAll (t : FileTree) (folder : Place) (ms : List EndpointMock) (p : Place) :
    (t.offerAll folder ms).takes p = t.takes p := by
  induction ms generalizing t with
  | nil => rfl
  | cons m rest ih => exact (ih _).trans (takes_offer t folder m p)

/-- What is at a place after modules are offered: the last one for the place, if it takes modules
and there is one. -/
theorem text?_offerAll (t : FileTree) (folder : Place) (ms : List EndpointMock) (p : Place) :
    (t.offerAll folder ms).text? p =
      if t.takes p then
        ((ms.reverse.find? fun m => m.placeIn folder == p).map MockModule.render).or (t.text? p)
      else t.text? p := by
  induction ms using List.reverseRecOn with
  | nil => simp [offerAll]
  | append_singleton ms m ih =>
      have hlast : t.offerAll folder (ms ++ [m]) = (t.offerAll folder ms).offer folder m := by
        rw [offerAll, List.foldl_append]
        rfl
      rw [hlast, text?_offer, takes_offerAll, ih, List.reverse_append, List.reverse_singleton,
        List.singleton_append, List.find?_cons]
      cases htakes : t.takes p with
      | false => simp
      | true =>
          by_cases hp : m.placeIn folder = p
          · simp [hp]
          · simp [hp, beq_false_of_ne hp]

theorem text?_offerAll_of_ne {ms : List EndpointMock} {p : Place}
    (h : ∀ m ∈ ms, m.placeIn folder ≠ p) : (t.offerAll folder ms).text? p = t.text? p := by
  have hnone : (ms.reverse.find? fun m => m.placeIn folder == p) = none := by
    simpa using h
  rw [text?_offerAll, hnone]
  simp

theorem text?_offerAll_of_foreign (ms : List EndpointMock) {p : Place} {text : String}
    (htext : t.text? p = some text) (hforeign : MockModule.isGenerated text = false) :
    (t.offerAll folder ms).text? p = some text := by
  have hkeeps : t.takes p = false := by
    rw [takes, htext]
    exact hforeign
  rw [text?_offerAll, hkeeps]
  exact htext

theorem text?_offerAll_of_takes {ms : List EndpointMock} {m : EndpointMock} (hm : m ∈ ms)
    (htakes : t.takes (m.placeIn folder) = true) :
    ∃ last, (ms.reverse.find? fun m' => m'.placeIn folder == m.placeIn folder) = some last ∧
      (t.offerAll folder ms).text? (m.placeIn folder) = some (MockModule.render last) := by
  have hfound : (ms.reverse.find? fun m' => m'.placeIn folder == m.placeIn folder).isSome = true :=
    List.find?_isSome.mpr ⟨m, List.mem_reverse.mpr hm, by simp⟩
  obtain ⟨last, hlast⟩ := Option.isSome_iff_exists.mp hfound
  refine ⟨last, hlast, ?_⟩
  rw [text?_offerAll, if_pos htakes, hlast]
  rfl

theorem text?_offerAll_congr {t' : FileTree} {p : Place} (h : t'.text? p = t.text? p)
    (folder : Place) (ms : List EndpointMock) :
    (t'.offerAll folder ms).text? p = (t.offerAll folder ms).text? p := by
  rw [text?_offerAll, text?_offerAll, takes, takes, h]

theorem text?_offerAll_offerAll (t : FileTree) (folder : Place) (ms : List EndpointMock)
    (p : Place) :
    ((t.offerAll folder ms).offerAll folder ms).text? p = (t.offerAll folder ms).text? p := by
  -- the last module for a place is the same one again
  rw [text?_offerAll, takes_offerAll, text?_offerAll]
  cases t.takes p with
  | false => rfl
  | true => cases ms.reverse.find? fun m => m.placeIn folder == p <;> rfl

/-- No file is on the way to the folder, and no folder is where a module goes. -/
structure HasRoom (t : FileTree) (folder : Place) (ms : List EndpointMock) : Prop where
  reachable : ∀ p ∈ above folder ++ [folder], t.isFile p = false
  free : ∀ m ∈ ms, t.isFolder (m.placeIn folder) = false

theorem placeIn_notMem (m : EndpointMock) (folder : Place) :
    m.placeIn folder ∉ above folder ++ [folder] := by
  rw [← above_append_singleton folder m.moduleName]
  exact fun hmem => ne_of_mem_above hmem rfl

theorem HasRoom.of_made {made : FileTree} {ms : List EndpointMock} (h : t.HasRoom folder ms)
    (hfile : ∀ p ∈ above folder ++ [folder], made.isFile p = t.isFile p)
    (hfolder : ∀ p, made.isFolder p = true ↔ t.isFolder p = true ∨ p ∈ above folder ++ [folder]) :
    made.HasRoom folder ms := by
  refine ⟨fun p hp => (hfile p hp).trans (h.reachable p hp), fun m hm => ?_⟩
  -- the folders that are made end above the modules
  rw [Bool.eq_false_iff, ne_eq, hfolder, not_or]
  exact ⟨by simp [h.free m hm], placeIn_notMem m folder⟩

theorem HasRoom.offer {ms : List EndpointMock} (h : t.HasRoom folder ms) (m : EndpointMock) :
    (t.offer folder m).HasRoom folder ms where
  reachable p hp := by
    have hne : m.placeIn folder ≠ p := by
      rintro rfl
      exact placeIn_notMem m folder hp
    rw [isFile, text?_offer, if_neg (by simp [hne])]
    exact h.reachable p hp
  free m' hm' := (isFolder_offer t folder m _).trans (h.free m' hm')

theorem HasRoom.offerAll {ms : List EndpointMock} (h : t.HasRoom folder ms)
    (offered : List EndpointMock) : (t.offerAll folder offered).HasRoom folder ms := by
  induction offered generalizing t with
  | nil => exact h
  | cons m rest ih => exact ih (h.offer m)

end FileTree

/-! ## Writing the modules of a run -/

namespace Command

variable {w : World} {outputDir : String} {folder : Place}

/-- The place of the modules below an output folder. -/
def modulePlace (t : FileTree) (outputDir : String) : Place :=
  t.locate (PathName.join outputDir moduleFolder)

theorem locate_path (t : FileTree) (outputDir : String) (m : EndpointMock) :
    t.locate (MockModule.path outputDir m) = m.placeIn (modulePlace t outputDir) :=
  t.locate_join _ m.isName_moduleName

theorem modulePlace_congr {t t' : FileTree} (h : t'.home = t.home) (outputDir : String) :
    modulePlace t' outputDir = modulePlace t outputDir := by
  rw [modulePlace, modulePlace, locate, locate, h]

theorem gives_mayOverwrite {m : EndpointMock} (hplace : modulePlace w.tree outputDir = folder)
    (h : w.tree.HasRoom folder [m]) :
    (mayOverwrite (MockModule.path outputDir m)).Gives w (w.tree.takes (m.placeIn folder)) w := by
  subst hplace
  have hname := m.isName_moduleName
  have hlocate := locate_path w.tree outputDir m
  have hholds : w.tree.holds? (w.tree.locate (MockModule.path outputDir m)) =
      some (w.tree.isFile (m.placeIn (modulePlace w.tree outputDir))) := by
    rw [hlocate, EndpointMock.placeIn, holds?_eq_some]
    · rw [← EndpointMock.placeIn, h.free m (by simp), Bool.or_false]
    · rw [above_append_singleton]
      exact h.reachable
  have hthere := gives_isThere (join_ne_empty hname) (asksFolder_join hname) hholds
  refine hthere.bind ?_
  unfold takes
  cases htext : w.tree.text? (m.placeIn (modulePlace w.tree outputDir)) with
  | none =>
      rw [isFile, htext]
      exact Gives.pure true w
  | some text =>
      have hread := gives_read (.failed .read (MockModule.path outputDir m)) (join_ne_empty hname)
        (asksFolder_join hname) (hlocate ▸ htext)
      rw [isFile, htext]
      exact hread.bind (Gives.pure _ w)

theorem gives_writeModule (m : EndpointMock) (hplace : modulePlace w.tree outputDir = folder)
    (hfolder : w.tree.isFolder folder = true) (h : w.tree.HasRoom folder [m]) :
    ∃ log changes, (writeModule outputDir m).Gives w (w.tree.takes (m.placeIn folder))
      { w with tree := w.tree.offer folder m, log, changes } := by
  have hmay := gives_mayOverwrite hplace h
  unfold offer
  cases htakes : w.tree.takes (m.placeIn folder) with
  | true =>
      rw [htakes] at hmay
      have hlocate : w.tree.locate (MockModule.path outputDir m) = m.placeIn folder :=
        hplace ▸ locate_path w.tree outputDir m
      have hwrite : w.tree.write? (w.tree.locate (MockModule.path outputDir m))
          (MockModule.render m) = some (w.tree.put (m.placeIn folder) (MockModule.render m)) := by
        rw [hlocate]
        exact write?_eq_some hfolder (h.free m (by simp)) _
      obtain ⟨changes, hgives⟩ := gives_write (.failed .write (MockModule.path outputDir m))
        (join_ne_empty m.isName_moduleName) (asksFolder_join m.isName_moduleName) hwrite
      exact ⟨w.log, changes, hmay.bind (hgives.bind (Gives.pure true _))⟩
  | false =>
      rw [htakes] at hmay
      exact ⟨_, w.changes, hmay.bind ((gives_say _ w).bind (Gives.pure false _))⟩

theorem gives_writeEach (ms : List EndpointMock) (hplace : modulePlace w.tree outputDir = folder)
    (hfolder : w.tree.isFolder folder = true) (h : w.tree.HasRoom folder ms) :
    ∃ log changes,
      (writeEach outputDir ms).Gives w (ms.countP fun m => w.tree.takes (m.placeIn folder))
        { w with tree := w.tree.offerAll folder ms, log, changes } := by
  induction ms generalizing w with
  | nil => exact ⟨w.log, w.changes, Gives.pure 0 w⟩
  | cons m rest ih =>
      obtain ⟨log, changes, hwrite⟩ := gives_writeModule m hplace hfolder
        ⟨h.reachable, fun m' hm' => h.free m' (by simp_all)⟩
      have hmoved : (w.tree.offer folder m).HasRoom folder rest :=
        (HasRoom.mk h.reachable fun m' hm' => h.free m' (List.mem_cons_of_mem _ hm')).offer m
      -- the working folder stays, so the next module goes into the same folder
      obtain ⟨log', changes', hrest⟩ := ih
        (w := { w with tree := w.tree.offer folder m, log, changes })
        ((modulePlace_congr (home_offer _ _ _) outputDir).trans hplace)
        ((isFolder_offer _ _ _ _).trans hfolder) hmoved
      simp only [takes_offer] at hrest
      refine ⟨log', changes', ?_⟩
      rw [List.countP_cons]
      refine hwrite.bind (hrest.bind ?_)
      cases w.tree.takes (m.placeIn folder) <;> exact Gives.pure _ _

/-- Writing the modules of a run succeeds where there is room, and leaves the tree with the modules
offered and the folder made. -/
theorem gives_writeModules_offerAll (r : Run) (hplace : modulePlace w.tree outputDir = folder)
    (h : w.tree.HasRoom folder r.endpoints) :
    ∃ w', (writeModules outputDir r).Gives w
        (r.endpoints.countP fun m => w.tree.takes (m.placeIn folder)) w' ∧
      w'.tree.home = w.tree.home ∧
      (∀ p, w'.tree.isFolder p = true ↔ w.tree.isFolder p = true ∨ p ∈ above folder ++ [folder]) ∧
      ∀ p, w'.tree.text? p = (w.tree.offerAll folder r.endpoints).text? p := by
  obtain ⟨made, hmake, hhome, hfiles, hfolder⟩ := exists_makeFolders?_eq_some h.reachable
  have htext : ∀ p, made.text? p = w.tree.text? p := by
    intro p
    rw [FileTree.text?, hfiles]
    rfl
  have htakes : ∀ p, made.takes p = w.tree.takes p := fun p => by rw [takes, htext, takes]
  obtain ⟨changes, hfolders⟩ := gives_makeFolders
    (.failed .create (PathName.join outputDir moduleFolder)) (hplace.symm ▸ hmake)
  have hroom : made.HasRoom folder r.endpoints :=
    h.of_made (fun p _ => by rw [isFile, isFile, htext]) hfolder
  obtain ⟨log, changes', heach⟩ := gives_writeEach (w := { w with tree := made, changes })
    r.endpoints ((modulePlace_congr hhome outputDir).trans hplace)
    ((hfolder folder).mpr (Or.inr (by simp))) hroom
  simp only [htakes] at heach
  refine ⟨_, hfolders.bind heach, (home_offerAll made folder _).trans hhome, fun p => ?_,
    fun p => ?_⟩
  · rw [isFolder_offerAll]
    exact hfolder p
  · exact text?_offerAll_congr (htext p) folder r.endpoints

/-- Writing the modules of a run again leaves all texts and folders as they are. -/
theorem gives_writeModules_twice (r : Run) (hplace : modulePlace w.tree outputDir = folder)
    (h : w.tree.HasRoom folder r.endpoints) {w' : World} (hhome : w'.tree.home = w.tree.home)
    (hfolder : ∀ p, w'.tree.isFolder p = true ↔
      w.tree.isFolder p = true ∨ p ∈ above folder ++ [folder])
    (htext : ∀ p, w'.tree.text? p = (w.tree.offerAll folder r.endpoints).text? p) :
    ∃ w'', (writeModules outputDir r).Gives w'
        (r.endpoints.countP fun m => w.tree.takes (m.placeIn folder)) w'' ∧
      ∀ p, w''.tree.text? p = w'.tree.text? p ∧ w''.tree.isFolder p = w'.tree.isFolder p := by
  have hoffered := h.offerAll r.endpoints
  have hroom : w'.tree.HasRoom folder r.endpoints := by
    refine hoffered.of_made (fun p _ => by rw [isFile, isFile, htext]) fun p => ?_
    rw [hfolder, isFolder_offerAll]
  have htakes : ∀ p, w'.tree.takes p = w.tree.takes p := by
    intro p
    rw [takes, htext, ← takes, takes_offerAll]
  obtain ⟨w'', hgives, -, hfolder', htext'⟩ :=
    gives_writeModules_offerAll r ((modulePlace_congr hhome outputDir).trans hplace) hroom
  simp only [htakes] at hgives
  refine ⟨w'', hgives, fun p => ⟨?_, ?_⟩⟩
  · rw [htext', text?_offerAll_congr (htext p), text?_offerAll_offerAll, htext]
  · rw [Bool.eq_iff_iff, hfolder', hfolder, or_assoc, or_self]

end Command

end MockApi
