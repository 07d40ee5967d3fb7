import MockApi.Proofs.Output.Overwrite
import MockApi.Proofs.Output.Run

/-! # The modules of a run

A run writes the modules of its endpoints one after another. What this tool has written it may
overwrite, so of the endpoints whose modules have one name the last one is left, although each of
them is counted. Every endpoint has a module of its own exactly when no two endpoints of one method
have paths with one stem.
-/

namespace MockApi

open FileTree

namespace FileTree

/-- A folder that can be made where it is not there, with nothing in it. -/
structure IsClear (t : FileTree) (folder : Place) : Prop where
  reachable : ∀ p ∈ above folder ++ [folder], t.isFile p = false
  unused : ∀ name, t.isFile (folder ++ [name]) = false ∧ t.isFolder (folder ++ [name]) = false

variable {t : FileTree} {folder : Place}

theorem IsClear.text?_eq_none (h : t.IsClear folder) (name : String) :
    t.text? (folder ++ [name]) = none :=
  Option.not_isSome_iff_eq_none.mp (Bool.eq_false_iff.mp (h.unused name).1)

theorem IsClear.hasRoom (h : t.IsClear folder) (ms : List EndpointMock) : t.HasRoom folder ms :=
  ⟨h.reachable, fun m _ => (h.unused m.moduleName).2⟩

theorem IsClear.takes (h : t.IsClear folder) (name : String) :
    t.takes (folder ++ [name]) = true := by
  rw [FileTree.takes, h.text?_eq_none]
  rfl

end FileTree

/-! ## Writing the modules of a run -/

namespace Command

variable {w : World} {outputDir : String} {folder : Place}

/-- Writing the modules of a run succeeds where nothing is in the way. Each name then holds the
module of the last endpoint that has it. -/
theorem gives_writeModules (r : Run) (hplace : modulePlace w.tree outputDir = folder)
    (h : w.tree.IsClear folder) :
    ∃ w', (writeModules outputDir r).Gives w r.endpoints.length w' ∧
      ∀ name, w'.tree.text? (folder ++ [name]) =
        (r.endpoints.reverse.find? fun m => m.moduleName == name).map MockModule.render := by
  obtain ⟨w', hgives, -, -, htext⟩ := gives_writeModules_offerAll r hplace (h.hasRoom r.endpoints)
  have hall : (r.endpoints.countP fun m => w.tree.takes (m.placeIn folder)) = r.endpoints.length :=
    List.countP_eq_length.mpr fun m _ => h.takes m.moduleName
  rw [hall] at hgives
  refine ⟨w', hgives, fun name => ?_⟩
  have hname : ∀ m : EndpointMock,
      (m.placeIn folder == folder ++ [name]) = (m.moduleName == name) := by
    simp [EndpointMock.placeIn]
  rw [htext, text?_offerAll, if_pos (h.takes name), h.text?_eq_none, Option.or_none]
  simp only [hname]

end Command

/-! ## Endpoints with modules of their own -/

/-- Every endpoint of the run has a module of its own in the folder, which the manifest names, and
there is nothing else. -/
structure Run.OwnModules (r : Run) (folder : Place) (t : FileTree) : Prop where
  apart : (r.endpoints.map EndpointMock.moduleName).Nodup
  told : ∀ m ∈ r.endpoints, t.text? (folder ++ [(ManifestEntry.ofMock m).mockFile]) =
    some (MockModule.render m)
  only : ∀ name, t.isFile (folder ++ [name]) = true → name ∈ r.endpoints.map EndpointMock.moduleName

/-- The last modules of their names are the modules of all endpoints when no name comes twice. -/
theorem Run.ownModules_of_nodup {r : Run} {folder : Place} {t : FileTree}
    (hapart : (r.endpoints.map EndpointMock.moduleName).Nodup)
    (htext : ∀ name, t.text? (folder ++ [name]) =
      (r.endpoints.reverse.find? fun m => m.moduleName == name).map MockModule.render) :
    r.OwnModules folder t := by
  refine ⟨hapart, fun m hm => ?_, fun name hfile => ?_⟩
  · have hlast : (r.endpoints.reverse.find? fun m' => m'.moduleName == m.moduleName) = some m := by
      refine find?_eq_some_of_unique (List.mem_reverse.mpr hm) (by simp) fun m' hm' hname => ?_
      exact List.inj_on_of_nodup_map hapart (List.mem_reverse.mp hm') hm (by simpa using hname)
    have hname : (ManifestEntry.ofMock m).mockFile = m.moduleName := rfl
    rw [hname, htext, hlast]
    rfl
  · rw [FileTree.isFile, htext, Option.isSome_map] at hfile
    obtain ⟨m, hm⟩ := Option.isSome_iff_exists.mp hfile
    refine List.mem_map.mpr ⟨m, ?_, by simpa using List.find?_some hm⟩
    exact List.mem_reverse.mp (List.mem_of_find?_eq_some hm)

/-- A working folder with nothing in it. -/
def emptyFolder : World := { tree := { home := ["work"], folders := [["work"]] } }

theorem modulePlace_emptyFolder :
    Command.modulePlace emptyFolder.tree ".mocks" = ["work", ".mocks", "api"] := by
  decide +kernel

theorem isClear_emptyFolder : emptyFolder.tree.IsClear ["work", ".mocks", "api"] :=
  ⟨fun _ _ => rfl, fun name => ⟨rfl, by simp [emptyFolder, FileTree.isFolder]⟩⟩

namespace Generation

theorem map_moduleName_run (g : Generation) :
    g.run.endpoints.map EndpointMock.moduleName =
      g.endpoints.map fun e => moduleFileName e.method.lower e.path :=
  g.map_key_run_comp fun key => moduleFileName key.1.lower key.2

/-- The names of the modules differ exactly when the stems of paths of one method do. -/
theorem nodup_moduleName_run_iff {g : Generation} (hread : g.IsRead) :
    (g.run.endpoints.map EndpointMock.moduleName).Nodup ↔
      ∀ e ∈ g.endpoints, ∀ e' ∈ g.endpoints, e.method = e'.method →
        moduleStem e.path = moduleStem e'.path → e.path = e'.path := by
  obtain ⟨format, text, hparse⟩ := hread
  have hkeys : (g.endpoints.map Endpoint.key).Nodup :=
    Spec.nodup_keys_apply (Spec.nodup_keys_of_parse hparse)
  rw [map_moduleName_run]
  constructor
  · intro hnodup e he e' he' hmethod hstem
    have hname := moduleFileName_eq_iff.mpr ⟨hmethod, hstem⟩
    exact congrArg Endpoint.path (List.inj_on_of_nodup_map hnodup he he' hname)
  · intro happart
    refine (List.nodup_map_iff_inj_on hkeys.of_map).mpr ?_
    intro e he e' he' hname
    obtain ⟨hmethod, hstem⟩ := moduleFileName_eq_iff.mp hname
    refine List.inj_on_of_nodup_map hkeys he he' ?_
    exact Prod.ext hmethod (happart e he e' he' hmethod hstem)

/-- Where nothing is in the way all modules are written, and every endpoint has its own one exactly
when no two of them have one name. -/
theorem exists_gives_writeModules (g : Generation) (outputDir : String) {w : World}
    (hclear : w.tree.IsClear (Command.modulePlace w.tree outputDir)) :
    ∃ w', (Command.writeModules outputDir g.run).Gives w g.endpoints.length w' ∧
      (g.run.OwnModules (Command.modulePlace w.tree outputDir) w'.tree ↔
        (g.run.endpoints.map EndpointMock.moduleName).Nodup) := by
  obtain ⟨w', hgives, htext⟩ := Command.gives_writeModules g.run rfl hclear
  have hlength : g.run.endpoints.length = g.endpoints.length := by
    simpa using congrArg List.length g.map_key_run
  rw [hlength] at hgives
  refine ⟨w', hgives, ?_⟩
  constructor
  · intro hown
    exact hown.apart
  · intro hapart
    exact Run.ownModules_of_nodup hapart htext

/-- Where nothing is in the way all modules are written, but every endpoint has its own one exactly
when no two endpoints of one method have paths with one stem. -/
theorem ownModules_writeModules_iff {g : Generation} (hread : g.IsRead) (outputDir : String)
    (w : World) (hclear : w.tree.IsClear (Command.modulePlace w.tree outputDir)) :
    ∃ w', (Command.writeModules outputDir g.run).Gives w g.endpoints.length w' ∧
      (g.run.OwnModules (Command.modulePlace w.tree outputDir) w'.tree ↔
        ∀ e ∈ g.endpoints, ∀ e' ∈ g.endpoints, e.method = e'.method →
          moduleStem e.path = moduleStem e'.path → e.path = e'.path) := by
  obtain ⟨w', hgives, hown⟩ := g.exists_gives_writeModules outputDir hclear
  exact ⟨w', hgives, hown.trans (nodup_moduleName_run_iff hread)⟩

/-- Endpoints with plain paths all have modules of their own. -/
theorem exists_ownModules_of_isPlainPath {g : Generation} (hread : g.IsRead)
    (hplain : ∀ e ∈ g.endpoints, IsPlainPath e.path) (outputDir : String) {w : World}
    (hclear : w.tree.IsClear (Command.modulePlace w.tree outputDir)) :
    ∃ w', (Command.writeModules outputDir g.run).Gives w g.endpoints.length w' ∧
      g.run.OwnModules (Command.modulePlace w.tree outputDir) w'.tree := by
  obtain ⟨w', hgives, hown⟩ := g.exists_gives_writeModules outputDir hclear
  refine ⟨w', hgives, hown.mpr ((nodup_moduleName_run_iff hread).mpr ?_)⟩
  exact fun e he e' he' _ => (hplain e he).eq_of_moduleStem_eq (hplain e' he')

/-- In an empty folder, orders and users have modules of their own. -/
theorem ownModules_writeModules_orders :
    ∃ d, Spec.parse (some .json) ordersText = .ok d ∧
      let g : Generation := ⟨d, {}, {}, ⟨0⟩⟩
      ∃ w', (Command.writeModules ".mocks" g.run).Gives emptyFolder g.endpoints.length w' ∧
        g.run.OwnModules ["work", ".mocks", "api"] w'.tree := by
  obtain ⟨d, hparse, hkeys⟩ := parse_ordersText
  refine ⟨d, hparse, ?_⟩
  obtain ⟨w', hgives, hiff⟩ := ownModules_writeModules_iff (g := ⟨d, {}, {}, ⟨0⟩⟩)
    ⟨some .json, ordersText, hparse⟩ ".mocks" emptyFolder
    (modulePlace_emptyFolder.symm ▸ isClear_emptyFolder)
  rw [modulePlace_emptyFolder] at hiff
  refine ⟨w', hgives, hiff.mpr fun e he e' he' hmethod hstem => ?_⟩
  have hapart : ∀ key ∈ d.endpoints.map Endpoint.key, ∀ key' ∈ d.endpoints.map Endpoint.key,
      key.1 = key'.1 → moduleStem key.2 = moduleStem key'.2 → key.2 = key'.2 := by
    rw [hkeys]
    decide +kernel
  exact hapart e.key (List.mem_map_of_mem he) e'.key (List.mem_map_of_mem he') hmethod hstem

/-- A document in which a user and the list of users have modules of one name. -/
def usersCharacters : List Char :=
  "\x7b\"openapi\":\"3.0.0\",\"info\":\x7b\"title\":\"Users\",\"version\":\"1\"\x7d,".toList ++
    "\"paths\":\x7b".toList ++
    "\"/users/\x7bid\x7d\":\x7b\"get\":\x7b".toList ++
    "\"responses\":\x7b\"200\":\x7b\"description\":\"\",".toList ++
    "\"content\":\x7b\"application/json\":\x7b".toList ++
    "\"schema\":\x7b\"example\":\"a user\"\x7d\x7d\x7d\x7d\x7d\x7d\x7d,".toList ++
    "\"/users-\x7bid\x7d\":\x7b\"get\":\x7b".toList ++
    "\"responses\":\x7b\"200\":\x7b\"description\":\"\",".toList ++
    "\"content\":\x7b\"application/json\":\x7b".toList ++
    "\"schema\":\x7b\"example\":\"a list\"\x7d\x7d\x7d\x7d\x7d\x7d\x7d\x7d\x7d".toList

/-- Where a user and the list of users are written, the module that the manifest names for the user
is that of the list. -/
theorem exists_shared_module_users :
    ∃ d m m', Spec.parse (some .json) (String.ofList usersCharacters) = .ok d ∧
      let g : Generation := ⟨d, {}, {}, ⟨0⟩⟩
      g.run.endpoints = [m, m'] ∧ m.key = (.get, "/users/\x7bid\x7d") ∧
        m'.key = (.get, "/users-\x7bid\x7d") ∧ MockModule.render m ≠ MockModule.render m' ∧
        ∃ w', (Command.writeModules ".mocks" g.run).Gives emptyFolder 2 w' ∧
          w'.tree.text? ["work", ".mocks", "api", (ManifestEntry.ofMock m).mockFile] =
            some (MockModule.render m') := by
  have hread : (Spec.parseCharacters usersCharacters).toOption.map (fun d =>
      (Generation.run ⟨d, {}, {}, ⟨0⟩⟩).endpoints.map fun m =>
        (m.key, m.moduleName, MockModule.render m)) =
      some [((.get, "/users/\x7bid\x7d"), "get-users-\x7bid\x7d.js", MockModule.marker ++
          "\n\nexport default \x7b\n'200': \"a user\"\n\x7d;\n"),
        ((.get, "/users-\x7bid\x7d"), "get-users-\x7bid\x7d.js", MockModule.marker ++
          "\n\nexport default \x7b\n'200': \"a list\"\n\x7d;\n")] := by
    decide +kernel
  obtain ⟨d, hparse, hrun⟩ := Spec.exists_of_parseCharacters hread
  obtain ⟨m, rest, hendpoints, hm, hrest⟩ := List.map_eq_cons_iff.mp hrun
  obtain ⟨m', rest, rfl, hm', hrest⟩ := List.map_eq_cons_iff.mp hrest
  obtain rfl := List.map_eq_nil_iff.mp hrest
  simp only [Prod.mk.injEq] at hm hm'
  obtain ⟨hkey, hname, hrender⟩ := hm
  obtain ⟨hkey', hname', hrender'⟩ := hm'
  refine ⟨d, m, m', hparse, hendpoints, hkey, hkey', ?_, ?_⟩
  · rw [hrender, hrender']
    decide +kernel
  · obtain ⟨w', hgives, htext⟩ := Command.gives_writeModules (Generation.run ⟨d, {}, {}, ⟨0⟩⟩)
      modulePlace_emptyFolder isClear_emptyFolder
    rw [hendpoints] at hgives htext
    refine ⟨w', hgives, (htext m.moduleName).trans ?_⟩
    simp [hname, hname']

end Generation

end MockApi
