import RobotMaze.Console.Work
import RobotMaze.Proofs.Config.Settings
import RobotMaze.Proofs.Config.SettingsFile
import RobotMaze.Proofs.Config.Variable

/-! # Which layer a setting comes from

    Settings that were loaded have, at every leaf, the value of the highest layer
    that sets it.  From the top the layers are the variables that a folder's file
    of variables adds, those of the environment, the file of the folder, the file
    of the user and the standard values.

    * `Settings.HasGroups` — a layer in which the groups of settings are tables;
    * `leaf?_environmentLayer_append` — variables that are added lie over those
      that were there;
    * `Settings.leaf?_layers` — the layers that were put together, leaf by leaf;
    * `Settings.at?_of_decoded` — the settings that are decoded from them;
    * `Surroundings.leaf_of_highest_layer` — so it is with the settings of a folder;
    * `Surroundings.added_over_environment` — a variable that is added counts even
      where the environment has the setting under another name. -/

namespace RobotMaze

open Config (Environment IsLayer overlay stack environmentLayer settingLayers)
open Json (leaf? trunk)

/-! ## Groups -/

namespace Settings

/-- The paths of all settings. -/
def leafPaths : List (List String) :=
  [["server", "host"], ["server", "port"], ["server", "cors_allowed_origins"],
    ["database", "path"], ["database", "audit_trail_dir"],
    ["auth", "session_ttl_hours"], ["auth", "bcrypt_cost"], ["auth", "cookie_name"],
    ["auth", "secure_cookie"], ["auth", "bootstrap_admin", "enabled"],
    ["auth", "bootstrap_admin", "username"], ["auth", "bootstrap_admin", "password"],
    ["auth", "bootstrap_admin", "email"], ["auth", "bootstrap_admin", "full_name"],
    ["general", "default_page_size"], ["general", "audit_page_size"], ["general", "max_page_size"]]

/-- All settings have the same leaves. -/
theorem leafPaths_toJson (s : Settings) : s.toJson.leafPaths = leafPaths := rfl

/-- A layer in which the groups of settings are tables, as far as it has them. -/
def HasGroups (layer : Json) : Prop := ∀ path ∈ leafPaths, layer.HasTablesAlong path

instance (layer : Json) : Decidable (HasGroups layer) :=
  inferInstanceAs (Decidable (∀ path ∈ leafPaths, layer.HasTablesAlong path))

/-- No name comes twice in settings as they are written. -/
theorem distinct_toJson (s : Settings) : s.toJson.HasDistinctNames := by
  have hflat : ∀ {members : List (String × Json)}, (members.map Prod.fst).Nodup →
      (∀ m ∈ members, ∀ below, m.2 ≠ .object below) → (Json.object members).HasDistinctNames :=
    fun hnames hleaves => .object hnames fun m hm => .leaf (hleaves m hm)
  have hserver : s.server.toJson.HasDistinctNames :=
    hflat (by simp) (by simp [Json.list])
  have hdatabase : s.database.toJson.HasDistinctNames := hflat (by simp) (by simp)
  have hadmin : s.auth.firstAdmin.toJson.HasDistinctNames := hflat (by simp) (by simp)
  have hgeneral : s.general.toJson.HasDistinctNames := hflat (by simp) (by simp)
  have hleaf : ∀ {j : Json}, (∀ below, j ≠ .object below) → j.HasDistinctNames := .leaf
  have hauth : s.auth.toJson.HasDistinctNames := by
    refine .object (by simp) ?_
    simp only [List.forall_mem_cons]
    exact ⟨hleaf (by simp), hleaf (by simp), hleaf (by simp), hleaf (by simp), hadmin,
      List.forall_mem_nil _⟩
  refine .object (by simp) ?_
  simp only [List.forall_mem_cons]
  exact ⟨hserver, hdatabase, hauth, hgeneral, List.forall_mem_nil _⟩

/-- The standard settings are a layer. -/
theorem isLayer_standard {path : List String} (hpath : path ∈ leafPaths) :
    IsLayer path (toJson {}) where
  distinct := distinct_toJson {}
  tables := (by decide : HasGroups (toJson {})) path hpath

end Settings

/-! ## The layers of an environment -/

namespace Config

variable {path : List String} {env added : Environment}

theorem isLayer_nil (path : List String) : IsLayer path (.object []) where
  distinct := distinct_nil
  tables := by
    cases path with
    | nil => trivial
    | cons name rest => exact fun _ h => nomatch h

/-- No name comes twice in what the variables set. -/
theorem distinct_environmentLayer (env : Environment) :
    (environmentLayer env).HasDistinctNames := by
  rw [environmentLayer_eq_stack]
  exact (isLayer_stack (isLayer_nil []) fun _ h => ⟨distinct_settingLayer h, trivial⟩).distinct

theorem isLayer_settingLayer (h : ∀ layer ∈ settingLayers added, layer.HasTablesAlong path) :
    ∀ layer ∈ settingLayers added, IsLayer path layer :=
  fun layer hlayer => ⟨distinct_settingLayer hlayer, h layer hlayer⟩

/-- Variables that are set later lie over those that were there. -/
theorem environmentLayer_append (env added : Environment) :
    environmentLayer (env ++ added) = stack (environmentLayer env) (settingLayers added) := by
  simp only [environmentLayer_eq_stack, settingLayers, List.filterMap_append]
  exact List.foldl_append

/-- Variables that are added go on as a layer. -/
theorem isLayer_environmentLayer_append (henv : IsLayer path (environmentLayer env))
    (hadded : ∀ layer ∈ settingLayers added, layer.HasTablesAlong path) :
    IsLayer path (environmentLayer (env ++ added)) := by
  rw [environmentLayer_append]
  exact isLayer_stack henv (isLayer_settingLayer hadded)

/-- A leaf that a later variable sets is that variable's. -/
theorem leaf?_environmentLayer_append {name : String} {rest : List String}
    (henv : IsLayer (name :: rest) (environmentLayer env))
    (hadded : ∀ layer ∈ settingLayers added, layer.HasTablesAlong (name :: rest)) :
    leaf? (name :: rest) (environmentLayer (env ++ added))
      = (leaf? (name :: rest) (environmentLayer added)).or
        (leaf? (name :: rest) (environmentLayer env)) := by
  have hlayers := isLayer_settingLayer hadded
  have halone : leaf? (name :: rest) (environmentLayer added)
      = (settingLayers added).reverse.findSome? (leaf? (name :: rest)) := by
    rw [environmentLayer_eq_stack, leaf?_stack (isLayer_nil _) hlayers, List.findSome?_append]
    exact Option.or_none
  rw [environmentLayer_append, leaf?_stack henv hlayers, List.findSome?_append, halone,
    List.findSome?_singleton]

/-- What the layers have at a leaf, without the members of a table, is what the highest of them has
    there. -/
theorem findSome?_leaf? (path : List String) (layers : List Json) :
    layers.findSome? (leaf? path) = (layers.findSome? (Json.at? path)).map trunk := by
  induction layers with
  | nil => rfl
  | cons layer rest ih =>
      rw [findSome?_cons_eq_or, findSome?_cons_eq_or, ih, Option.map_or]
      rfl

end Config

/-! ## Loading -/

namespace Settings

variable {texts : List String} {env added : Environment} {s : Settings} {path : List String}

/-- Files are laid over one another, or one of them is not read. -/
theorem overlayFiles_eq (low : Json) (texts : List String) :
    overlayFiles low texts = (texts.mapM Toml.parse?).map (stack low) := by
  induction texts generalizing low with
  | nil => rfl
  | cons text rest ih =>
      rw [overlayFiles, List.mapM_cons]
      cases Toml.parse? text with
      | none => rfl
      | some layer =>
          show overlayFiles (overlay low layer) rest = _
          rw [ih]
          cases rest.mapM Toml.parse? <;> rfl

theorem filterMap_of_mapM {layers : List Json} (h : texts.mapM Toml.parse? = some layers) :
    texts.filterMap Toml.parse? = layers := by
  induction texts generalizing layers with
  | nil => exact Option.some.inj h
  | cons text rest ih =>
      rw [List.mapM_cons] at h
      obtain ⟨layer, hlayer, h⟩ := Option.bind_eq_some_iff.mp h
      obtain ⟨more, hmore, h⟩ := Option.bind_eq_some_iff.mp h
      obtain rfl := Option.some.inj h
      rw [List.filterMap_cons_some hlayer, ih hmore]

/-- A check changes no settings. -/
theorem eq_of_checked {checked : Settings} (h : s.checked = .ok checked) : checked = s := by
  simp only [Settings.checked, check] at h
  cases hbad : s.firstBad? with
  | none =>
      rw [hbad] at h
      exact (Except.ok.inj h).symm
  | some bad =>
      rw [hbad] at h
      cases h

/-- Settings that were loaded are decoded from the environment over the files over the standard
    values. -/
theorem decodeValue_of_load (h : load texts env = .ok s) :
    Json.decodeValue decoder
      (overlay (stack (toJson {}) (texts.filterMap Toml.parse?)) (environmentLayer env)) = .ok s := by
  simp only [load] at h
  split at h
  · cases h
  · rename_i low hfiles
    rw [overlayFiles_eq] at hfiles
    obtain ⟨layers, hlayers, rfl⟩ := Option.map_eq_some_iff.mp hfiles
    rw [filterMap_of_mapM hlayers]
    split at h
    · rename_i decoded hdecoded
      rw [hdecoded, eq_of_checked h]
    · cases h

/-- What the layers make up has at a leaf what the highest of them has there. -/
theorem leaf?_layers {files : List Json} {name : String} {rest : List String}
    (hfiles : ∀ layer ∈ files, IsLayer (name :: rest) layer)
    (henv : IsLayer (name :: rest) (environmentLayer env))
    (hadded : ∀ layer ∈ settingLayers added, layer.HasTablesAlong (name :: rest))
    (hpath : name :: rest ∈ leafPaths) :
    leaf? (name :: rest)
        (overlay (stack (toJson {}) files) (environmentLayer (env ++ added)))
      = (([environmentLayer added, environmentLayer env] ++ files.reverse ++ [toJson {}]).findSome?
          (Json.at? (name :: rest))).map trunk := by
  have hstandard := isLayer_standard hpath
  have hlow := Config.isLayer_stack hstandard hfiles
  have hhigh := Config.isLayer_environmentLayer_append henv hadded
  rw [← Config.findSome?_leaf?, Config.leaf?_overlay hhigh.distinct hlow.tables hhigh.tables,
    Config.leaf?_environmentLayer_append henv hadded, Config.leaf?_stack hstandard hfiles,
    Option.or_assoc, ← Config.findSome?_cons_eq_or, ← Config.findSome?_cons_eq_or]
  rfl

/-- Of a value whose leaves are those of the highest of some layers, the standard values among
    them, the leaves are decoded as they are. -/
theorem at?_of_decoded {j : Json} {layers : List Json}
    (hdecode : Json.decodeValue decoder j = .ok s) (hpath : path ∈ leafPaths)
    (hstandard : toJson {} ∈ layers)
    (hleaf : leaf? path j = (layers.findSome? (Json.at? path)).map trunk) :
    s.toJson.at? path = layers.findSome? (Json.at? path) := by
  obtain ⟨top, htop⟩ : ∃ top, layers.findSome? (Json.at? path) = some top := by
    obtain ⟨standard, hat, -⟩ :=
      Json.exists_leaf (distinct_toJson {}) (leafPaths_toJson {} ▸ hpath)
    refine Option.isSome_iff_exists.mp (List.findSome?_isSome_iff.mpr ⟨toJson {}, hstandard, ?_⟩)
    rw [hat, Option.isSome_some]
  rw [htop] at hleaf ⊢
  obtain ⟨x, hx, htrunk⟩ := Option.map_eq_some_iff.mp hleaf
  have hs := echoes _ _ hdecode _ (leafPaths_toJson s ▸ hpath) x hx
  -- a leaf of the settings is no table, so that what lies there is all of it
  obtain ⟨leaf, hsame, hnot⟩ := Json.exists_leaf (distinct_toJson s) (leafPaths_toJson s ▸ hpath)
  obtain rfl : x = leaf := Option.some.inj (hs.symm.trans hsame)
  rw [Json.trunk_of_leaf hnot] at htrunk
  rw [Json.eq_of_trunk_eq hnot htrunk.symm]
  exact hs

/-- At a leaf that was loaded there is what the highest layer has there that sets it. -/
theorem at?_of_load (h : load texts (env ++ added) = .ok s)
    (hfiles : ∀ layer ∈ texts.filterMap Toml.parse?, HasGroups layer)
    (henv : HasGroups (environmentLayer env))
    (hadded : ∀ layer ∈ settingLayers added, HasGroups layer) (hpath : path ∈ leafPaths) :
    s.toJson.at? path
      = ([environmentLayer added, environmentLayer env] ++ (texts.filterMap Toml.parse?).reverse
          ++ [toJson {}]).findSome? (Json.at? path) := by
  obtain ⟨name, rest, rfl⟩ : ∃ name rest, path = name :: rest := by
    have hne : ∀ path ∈ leafPaths, path ≠ [] := by decide
    exact List.exists_cons_of_ne_nil (hne path hpath)
  have hfileLayers : ∀ layer ∈ texts.filterMap Toml.parse?, IsLayer (name :: rest) layer := by
    intro layer hlayer
    obtain ⟨text, -, htext⟩ := List.mem_filterMap.mp hlayer
    exact ⟨Toml.distinct_parse? htext, hfiles layer hlayer _ hpath⟩
  have henvLayer : IsLayer (name :: rest) (environmentLayer env) :=
    ⟨Config.distinct_environmentLayer env, henv _ hpath⟩
  refine at?_of_decoded (decodeValue_of_load h) hpath (by simp) ?_
  exact leaf?_layers hfileLayers henvLayer (fun layer hlayer => hadded layer hlayer _ hpath) hpath

end Settings

/-! ## A folder -/

namespace Console.Surroundings

/-- The variables that the folder's file of variables adds to the environment. -/
def added (s : Surroundings) : Environment :=
  s.withVariables.environment.drop s.environment.length

/-- The layer of a file of settings, if there is one. -/
def fileLayer? (s : Surroundings) (path : String) : Option Json :=
  (s.disk.read? path).bind Toml.parse?

/-- The layers of the folder's and the user's files of settings, the higher first. -/
def fileLayers (s : Surroundings) : List Json :=
  [Settings.folderFile, s.configHome ++ "/" ++ Settings.userFile].filterMap s.fileLayer?

/-- All layers, the highest first. -/
def layers (s : Surroundings) : List Json :=
  [environmentLayer s.added, environmentLayer s.environment] ++ s.fileLayers
    ++ [Settings.toJson {}]

/-- Every layer has its groups as tables. -/
structure HasGroups (s : Surroundings) : Prop where
  files : ∀ layer ∈ s.fileLayers, Settings.HasGroups layer
  environment : Settings.HasGroups (environmentLayer s.environment)
  added : ∀ layer ∈ settingLayers s.added, Settings.HasGroups layer

variable (s : Surroundings)

/-- Of the names that the environment has the file of variables adds none. -/
theorem environment_withVariables :
    s.withVariables.environment = s.environment ++ s.added
      ∧ ∀ v ∈ s.added, s.environment.lookup v.1 = none := by
  simp only [added, withVariables]
  split
  · rename_i text _
    obtain ⟨added, heq, hadded⟩ := Config.exists_append_of_loadFile text s.environment
    simp only [heq, List.drop_left]
    exact ⟨trivial, hadded⟩
  · simp

theorem settingsFiles_withVariables : s.withVariables.settingsFiles = s.settingsFiles := by
  simp only [withVariables]
  split <;> rfl

/-- The files that count, from the highest one down. -/
theorem reverse_settingsFiles :
    (s.settingsFiles.filterMap Toml.parse?).reverse = s.fileLayers := by
  rw [settingsFiles, List.filterMap_filterMap, ← List.filterMap_reverse]
  rfl

/-- Settings that were loaded have at every leaf what the highest layer has there that sets it: the
    variables that the file of variables adds, the environment, the file of the folder, the file of
    the user or the standard values. -/
theorem leaf_of_highest_layer {settings : Settings} (h : s.withVariables.settings = .ok settings)
    (hgroups : s.HasGroups) :
    (s.withVariables.environment = s.environment ++ s.added
        ∧ ∀ v ∈ s.added, s.environment.lookup v.1 = none)
      ∧ ∀ path ∈ settings.toJson.leafPaths,
        settings.toJson.at? path = s.layers.findSome? (Json.at? path) := by
  have henv := s.environment_withVariables
  refine ⟨henv, fun path hpath => ?_⟩
  rw [Surroundings.settings, settingsFiles_withVariables, henv.1] at h
  have hfiles : ∀ layer ∈ s.settingsFiles.filterMap Toml.parse?, Settings.HasGroups layer :=
    fun layer hlayer => hgroups.files layer
      (s.reverse_settingsFiles ▸ List.mem_reverse.mpr hlayer)
  have hleaf := Settings.at?_of_load h hfiles hgroups.environment hgroups.added hpath
  rw [reverse_settingsFiles] at hleaf
  exact hleaf

/-- A folder in which all layers set the port, and all but the environment something else too. -/
def fiveLayers : Surroundings where
  disk := { files := [("/game-for-devs/config.toml", "server.port=1\nserver.host=\"::1\""),
    (".gfd/config.toml", "server.port=2\nauth.bootstrap_admin.email=\"e\""),
    (".env", "GFD_SERVER__PORT=3\nGFD_DATABASE__PATH=p")] }
  environment := [("GFD_SERVER__PORT", "4")]
  configHome := ""
  salts := ⟨[], []⟩

/-- Five layers, and each of them is the highest one for some leaf. -/
theorem leaf_of_highest_layer_fiveLayers :
    ∃ settings, fiveLayers.withVariables.settings = .ok settings ∧ fiveLayers.HasGroups
      ∧ settings = {
          server := { host := "::1", port := 4 }
          database := { path := "p" }
          auth := { firstAdmin := { email := "e" } } }
      ∧ ∀ path ∈ settings.toJson.leafPaths,
        settings.toJson.at? path = fiveLayers.layers.findSome? (Json.at? path) := by
  have hload : fiveLayers.withVariables.settings.toOption = some {
      server := { host := "::1", port := 4 }
      database := { path := "p" }
      auth := { firstAdmin := { email := "e" } } } := by
    decide +kernel
  have hgroups : fiveLayers.HasGroups :=
    ⟨by decide +kernel, by decide +kernel, by decide +kernel⟩
  have hsettings := ok_of_toOption hload
  exact ⟨_, hsettings, hgroups, rfl, (leaf_of_highest_layer _ hsettings hgroups).2⟩

/-- A folder whose file of variables sets the port that the environment sets under another name:
    names of variables differ where they are written differently, those of settings do not. -/
def twoSpellings : Surroundings where
  disk := { files := [(".env", "GFD_SERVER__PORT=9001\n")] }
  environment := [("gfd_server__port", "9000")]
  configHome := "xdg"
  salts := ⟨[], []⟩

/-- The environment does not count most where the file of variables spells a name differently. -/
theorem added_over_environment :
    ∃ settings, twoSpellings.withVariables.settings = .ok settings ∧ twoSpellings.HasGroups
      ∧ (environmentLayer twoSpellings.environment).at? ["server", "port"] = some (.count 9000)
      ∧ settings.toJson.at? ["server", "port"] = some (.count 9001) := by
  have hload : twoSpellings.withVariables.settings.toOption
      = some { server := { port := 9001 } } := by
    decide +kernel
  have hgroups : twoSpellings.HasGroups :=
    ⟨by decide +kernel, by decide +kernel, by decide +kernel⟩
  have hport : ((environmentLayer twoSpellings.environment).at? ["server", "port"]).bind
      (fun j => (Json.decodeValue .uint32 j).toOption) = some 9000 := by
    decide +kernel
  obtain ⟨j, hj, hnumber⟩ := Option.bind_eq_some_iff.mp hport
  have hcount := Json.Decoder.uint32_inverts j 9000 (ok_of_toOption hnumber)
  exact ⟨_, ok_of_toOption hload, hgroups, hj.trans (congrArg some hcount.symm), rfl⟩

end Console.Surroundings

end RobotMaze
