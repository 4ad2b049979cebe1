import RobotMaze.Proofs.Config.Layers

/-! # Texts — one variable more

    A variable that sets a text which nothing else sets changes that text in the
    settings and nothing else, as long as what it is set to is written as a text.
    Written as a value of another kind it leaves no settings to run with.

    * `Json.Replaced` — a value with another one in the place of what it has under a
      path;
    * `Decoder.Follows` — what is decoded changes with the text in that place, with a
      rule for members (`follows_member`);
    * `TextKey` — the keys of texts; settings follow each of them (`TextKey.follows`);
    * `replaced_of_layer` — a layer that sets what no other one sets replaces it;
    * `Settings.load_textKey` — so it is with settings that are loaded. -/

namespace RobotMaze

namespace Json

variable {α : Type}

/-! ## Replacing -/

/-- Members of which one is changed. -/
structure OneChanged (change : Json → Json → Prop) (name : String)
    (members members' : List (String × Json)) : Prop where
  before : (members.map Prod.fst).Nodup
  after : (members'.map Prod.fst).Nodup
  others : ∀ n ≠ name, members'.lookup n = members.lookup n
  one : ∃ j ∈ members.lookup name, ∃ j' ∈ members'.lookup name, change j j'

/-- A value with another one in the place of what it has under a path. -/
def Replaced (x : Json) : List String → Json → Json → Prop
  | [], _, j' => j' = x
  | name :: rest, j, j' => ∃ members members', j = .object members ∧ j' = .object members'
      ∧ OneChanged (Replaced x rest) name members members'

/-- What is put in a place stands there. -/
theorem Replaced.at? {x : Json} {path : List String} {j j' : Json} (h : Replaced x path j j') :
    j'.at? path = some x := by
  induction path generalizing j j' with
  | nil => exact congrArg some h
  | cons name rest ih =>
      obtain ⟨members, members', rfl, rfl, hone⟩ := h
      obtain ⟨_, -, v, hv, hchange⟩ := hone.one
      show (members'.lookup name).bind _ = _
      rw [hv]
      exact ih hchange

/-- Where a text stands under a path, it is put in its place in what is decoded. -/
def Decoder.Follows (d : Decoder α) (path : List String) (put : String → α → α) : Prop :=
  ∀ ⦃j j' : Json⦄ ⦃a : α⦄ ⦃t : String⦄, Replaced (.string t) path j j' → decodeValue d j = .ok a →
    decodeValue d j' = .ok (put t a)

/-- A text follows itself. -/
theorem Decoder.string_follows : Decoder.string.Follows [] fun t _ => t := by
  rintro j _ _ t rfl _
  rfl

variable {name : String} {rest : List String} {members members' : List (String × Json)}

/-- A text further down is one in a member. -/
theorem Decoder.follows_member {d : Decoder α} {put : String → α → α}
    (h : ∀ {members members' a t}, OneChanged (Replaced (.string t) rest) name members members' →
      decodeValue d (.object members) = .ok a → decodeValue d (.object members') = .ok (put t a)) :
    d.Follows (name :: rest) put := by
  rintro _ _ a t ⟨members, members', rfl, rfl, hone⟩ ha
  exact h hone ha

/-! ## Members that are decoded -/

/-- The member of a name, or a standard value where there is none, is decoded to a value. -/
def Holds (members : List (String × Json)) (name : String) (d : Decoder α) (standard a : α) :
    Prop :=
  (Record.defaulted name d standard).ofMembers (Reading.ofMembers members) = .ok a

namespace OneChanged

variable {d : Decoder α} {standard a : α} {change : Json → Json → Prop}

/-- The other members are decoded to what they were. -/
theorem same (h : OneChanged change name members members') {other : String} (hother : other ≠ name)
    (ha : Holds members other d standard a) : Holds members' other d standard a := by
  rw [Holds] at ha ⊢
  rw [Record.defaulted_congr d standard (h.others other hother)]
  exact ha

/-- The member that is changed is decoded to its value with the new text. -/
theorem new {t : String} {put : String → α → α}
    (h : OneChanged (Replaced (.string t) rest) name members members') (hd : d.Follows rest put)
    (ha : Holds members name d standard a) : Holds members' name d standard (put t a) := by
  obtain ⟨j, hj, j', hj', hchange⟩ := h.one
  exact Record.defaulted_of_lookup standard hj' (hd hchange (Record.decodeValue_of_defaulted ha hj))

end OneChanged

end Json

open Json (Holds)
open Json.Decoder
open Json.Record (Complete complete_map exists_seq exists_map)

/-! ## The groups of settings -/

namespace FirstAdmin

variable {members : List (String × Json)} {s : FirstAdmin}

/-- The first administrator is decoded member by member. -/
theorem decodeValue_iff (hnames : (members.map Prod.fst).Nodup) :
    Json.decodeValue decoder (.object members) = .ok s
      ↔ Holds members "enabled" .bool ({} : FirstAdmin).enabled s.enabled
        ∧ Holds members "username" .string ({} : FirstAdmin).username s.username
        ∧ Holds members "password" .string ({} : FirstAdmin).password s.password
        ∧ Holds members "email" .string ({} : FirstAdmin).email s.email
        ∧ Holds members "full_name" .string ({} : FirstAdmin).fullName s.fullName := by
  refine (Complete.decodeValue_iff complete_map.field.field.field.field hnames).trans ?_
  obtain ⟨enabled, username, password, email, fullName⟩ := s
  simp only [exists_seq, exists_map, mk.injEq]
  simp [Holds]

/-- The texts of the account. -/
inductive TextField where
  | username
  | password
  | email
  | fullName
  deriving DecidableEq, Repr

namespace TextField

/-- The name of a text. -/
def name : TextField → String
  | .username => "username"
  | .password => "password"
  | .email => "email"
  | .fullName => "full_name"

/-- The account with another text. -/
def put (k : TextField) (t : String) (s : FirstAdmin) : FirstAdmin :=
  match k with
  | .username => { s with username := t }
  | .password => { s with password := t }
  | .email => { s with email := t }
  | .fullName => { s with fullName := t }

/-- The first administrator follows each of the texts about it. -/
theorem follows (k : TextField) : decoder.Follows [k.name] k.put := by
  refine follows_member fun h hs => (decodeValue_iff h.after).mpr ?_
  obtain ⟨henabled, husername, hpassword, hemail, hname⟩ := (decodeValue_iff h.before).mp hs
  cases k with
  | username =>
      exact ⟨h.same (by decide) henabled, h.new string_follows husername,
        h.same (by decide) hpassword, h.same (by decide) hemail, h.same (by decide) hname⟩
  | password =>
      exact ⟨h.same (by decide) henabled, h.same (by decide) husername,
        h.new string_follows hpassword, h.same (by decide) hemail, h.same (by decide) hname⟩
  | email =>
      exact ⟨h.same (by decide) henabled, h.same (by decide) husername,
        h.same (by decide) hpassword, h.new string_follows hemail, h.same (by decide) hname⟩
  | fullName =>
      exact ⟨h.same (by decide) henabled, h.same (by decide) husername,
        h.same (by decide) hpassword, h.same (by decide) hemail, h.new string_follows hname⟩

end TextField

end FirstAdmin

namespace ServerSettings

variable {members : List (String × Json)} {s : ServerSettings}

/-- The settings of the server are decoded member by member. -/
theorem decodeValue_iff (hnames : (members.map Prod.fst).Nodup) :
    Json.decodeValue decoder (.object members) = .ok s
      ↔ Holds members "host" .string ({} : ServerSettings).host s.host
        ∧ Holds members "port" portDecoder ({} : ServerSettings).port s.port
        ∧ Holds members "cors_allowed_origins" (.list .string) ({} : ServerSettings).origins
          s.origins := by
  refine (Complete.decodeValue_iff complete_map.field.field hnames).trans ?_
  obtain ⟨host, port, origins⟩ := s
  simp only [exists_seq, exists_map, mk.injEq]
  simp [Holds]

/-- The settings of the server follow the host. -/
theorem follows_host : decoder.Follows ["host"] fun t s => { s with host := t } := by
  refine follows_member fun h hs => ?_
  obtain ⟨hhost, hport, horigins⟩ := (decodeValue_iff h.before).mp hs
  exact (decodeValue_iff h.after).mpr ⟨h.new string_follows hhost, h.same (by decide) hport,
    h.same (by decide) horigins⟩

end ServerSettings

namespace DatabaseSettings

variable {members : List (String × Json)} {s : DatabaseSettings}

/-- The settings of the database are decoded member by member. -/
theorem decodeValue_iff (hnames : (members.map Prod.fst).Nodup) :
    Json.decodeValue decoder (.object members) = .ok s
      ↔ Holds members "path" .string ({} : DatabaseSettings).path s.path
        ∧ Holds members "audit_trail_dir" .string ({} : DatabaseSettings).auditTrailDir
          s.auditTrailDir := by
  refine (Complete.decodeValue_iff complete_map.field hnames).trans ?_
  obtain ⟨path, dir⟩ := s
  simp only [exists_seq, exists_map, mk.injEq]
  simp [Holds]

/-- The settings of the database follow the path of the file. -/
theorem follows_path : decoder.Follows ["path"] fun t s => { s with path := t } := by
  refine follows_member fun h hs => ?_
  obtain ⟨hpath, hdir⟩ := (decodeValue_iff h.before).mp hs
  exact (decodeValue_iff h.after).mpr ⟨h.new string_follows hpath, h.same (by decide) hdir⟩

/-- The settings of the database follow the directory of the trail. -/
theorem follows_auditTrailDir :
    decoder.Follows ["audit_trail_dir"] fun t s => { s with auditTrailDir := t } := by
  refine follows_member fun h hs => ?_
  obtain ⟨hpath, hdir⟩ := (decodeValue_iff h.before).mp hs
  exact (decodeValue_iff h.after).mpr ⟨h.same (by decide) hpath, h.new string_follows hdir⟩

end DatabaseSettings

namespace AuthSettings

variable {members : List (String × Json)} {s : AuthSettings}

/-- The settings of logins are decoded member by member. -/
theorem decodeValue_iff (hnames : (members.map Prod.fst).Nodup) :
    Json.decodeValue decoder (.object members) = .ok s
      ↔ Holds members "session_ttl_hours" .int64 ({} : AuthSettings).sessionHours s.sessionHours
        ∧ Holds members "bcrypt_cost" .uint32 ({} : AuthSettings).passwordCost s.passwordCost
        ∧ Holds members "cookie_name" .string ({} : AuthSettings).cookieName s.cookieName
        ∧ Holds members "secure_cookie" .bool ({} : AuthSettings).secureCookie s.secureCookie
        ∧ Holds members "bootstrap_admin" FirstAdmin.decoder {} s.firstAdmin := by
  refine (Complete.decodeValue_iff complete_map.field.field.field.field hnames).trans ?_
  obtain ⟨hours, cost, cookie, secure, admin⟩ := s
  simp only [exists_seq, exists_map, mk.injEq]
  simp [Holds]

/-- The settings of logins follow the name of the cookie. -/
theorem follows_cookieName :
    decoder.Follows ["cookie_name"] fun t s => { s with cookieName := t } := by
  refine follows_member fun h hs => ?_
  obtain ⟨hhours, hcost, hcookie, hsecure, hadmin⟩ := (decodeValue_iff h.before).mp hs
  exact (decodeValue_iff h.after).mpr ⟨h.same (by decide) hhours,
    h.same (by decide) hcost, h.new string_follows hcookie, h.same (by decide) hsecure,
    h.same (by decide) hadmin⟩

/-- The settings of logins follow those of the first administrator. -/
theorem follows_firstAdmin {path : List String} {put : String → FirstAdmin → FirstAdmin}
    (hadmin : FirstAdmin.decoder.Follows path put) :
    decoder.Follows ("bootstrap_admin" :: path)
      fun t s => { s with firstAdmin := put t s.firstAdmin } := by
  refine follows_member fun h hs => ?_
  obtain ⟨hhours, hcost, hcookie, hsecure, hold⟩ := (decodeValue_iff h.before).mp hs
  exact (decodeValue_iff h.after).mpr ⟨h.same (by decide) hhours,
    h.same (by decide) hcost, h.same (by decide) hcookie, h.same (by decide) hsecure,
    h.new hadmin hold⟩

end AuthSettings

namespace Settings

variable {members : List (String × Json)} {s : Settings} {path : List String}

/-- All settings are decoded group by group. -/
theorem decodeValue_iff (hnames : (members.map Prod.fst).Nodup) :
    Json.decodeValue decoder (.object members) = .ok s
      ↔ Holds members "server" ServerSettings.decoder {} s.server
        ∧ Holds members "database" DatabaseSettings.decoder {} s.database
        ∧ Holds members "auth" AuthSettings.decoder {} s.auth
        ∧ Holds members "general" GeneralSettings.decoder {} s.general := by
  refine (Complete.decodeValue_iff complete_map.field.field.field hnames).trans ?_
  obtain ⟨server, database, auth, general⟩ := s
  simp only [exists_seq, exists_map, mk.injEq]
  simp [Holds]

/-- All settings follow those of the server. -/
theorem follows_server {put : String → ServerSettings → ServerSettings}
    (hserver : ServerSettings.decoder.Follows path put) :
    decoder.Follows ("server" :: path) fun t s => { s with server := put t s.server } := by
  refine follows_member fun h hs => ?_
  obtain ⟨hold, hdatabase, hauth, hgeneral⟩ := (decodeValue_iff h.before).mp hs
  exact (decodeValue_iff h.after).mpr ⟨h.new hserver hold,
    h.same (by decide) hdatabase, h.same (by decide) hauth, h.same (by decide) hgeneral⟩

/-- All settings follow those of the database. -/
theorem follows_database {put : String → DatabaseSettings → DatabaseSettings}
    (hdatabase : DatabaseSettings.decoder.Follows path put) :
    decoder.Follows ("database" :: path) fun t s => { s with database := put t s.database } := by
  refine follows_member fun h hs => ?_
  obtain ⟨hserver, hold, hauth, hgeneral⟩ := (decodeValue_iff h.before).mp hs
  exact (decodeValue_iff h.after).mpr ⟨h.same (by decide) hserver,
    h.new hdatabase hold, h.same (by decide) hauth, h.same (by decide) hgeneral⟩

/-- All settings follow those of logins. -/
theorem follows_auth {put : String → AuthSettings → AuthSettings}
    (hauth : AuthSettings.decoder.Follows path put) :
    decoder.Follows ("auth" :: path) fun t s => { s with auth := put t s.auth } := by
  refine follows_member fun h hs => ?_
  obtain ⟨hserver, hdatabase, hold, hgeneral⟩ := (decodeValue_iff h.before).mp hs
  exact (decodeValue_iff h.after).mpr ⟨h.same (by decide) hserver,
    h.same (by decide) hdatabase, h.new hauth hold, h.same (by decide) hgeneral⟩

/-- Settings may be run with if all numbers are in their bounds and two texts are not blank. -/
theorem checked_eq_ok_iff {s : Settings} :
    s.checked = .ok s
      ↔ ¬(s.auth.passwordCost < 4 ∨ 31 < s.auth.passwordCost)
        ∧ ¬(s.auth.sessionHours < AuthSettings.hoursRange.1
          ∨ AuthSettings.hoursRange.2 < s.auth.sessionHours)
        ∧ Text.isBlankText s.auth.cookieName = false ∧ s.general.maxPageSize ≠ 0
        ∧ ¬(s.general.pageSize = 0 ∨ s.general.auditPageSize = 0)
        ∧ Text.isBlankText s.database.path = false := by
  have hgood : s.checked = .ok s ↔ s.firstBad? = none := by
    simp only [checked, check]
    cases s.firstBad? <;> simp
  rw [hgood, firstBad?]
  iterate 6 rw [ite_eq_iff]
  simp

end Settings

/-! ## Keys -/

/-- The keys whose values are texts. -/
inductive TextKey where
  | host
  | databasePath
  | auditTrailDir
  | cookieName
  | firstAdmin (field : FirstAdmin.TextField)
  deriving DecidableEq, Repr

namespace TextKey

/-- The names that lead to a key. -/
def path : TextKey → List String
  | .host => ["server", "host"]
  | .databasePath => ["database", "path"]
  | .auditTrailDir => ["database", "audit_trail_dir"]
  | .cookieName => ["auth", "cookie_name"]
  | .firstAdmin field => ["auth", "bootstrap_admin", field.name]

/-- Settings with a text under a key. -/
def put (k : TextKey) (t : String) (s : Settings) : Settings :=
  match k with
  | .host => { s with server := { s.server with host := t } }
  | .databasePath => { s with database := { s.database with path := t } }
  | .auditTrailDir => { s with database := { s.database with auditTrailDir := t } }
  | .cookieName => { s with auth := { s.auth with cookieName := t } }
  | .firstAdmin field =>
      { s with auth := { s.auth with firstAdmin := field.put t s.auth.firstAdmin } }

/-- There is a text under each of the keys. -/
theorem exists_text (k : TextKey) (s : Settings) :
    ∃ t, s.toJson.at? k.path = some (.string t) := by
  rcases k with _ | _ | _ | _ | field
  case firstAdmin => cases field <;> exact ⟨_, rfl⟩
  all_goals exact ⟨_, rfl⟩

/-- The variable that sets a key. -/
def variableName : TextKey → String
  | .host => "GFD_SERVER__HOST"
  | .databasePath => "GFD_DATABASE__PATH"
  | .auditTrailDir => "GFD_DATABASE__AUDIT_TRAIL_DIR"
  | .cookieName => "GFD_AUTH__COOKIE_NAME"
  | .firstAdmin .username => "GFD_AUTH__BOOTSTRAP_ADMIN__USERNAME"
  | .firstAdmin .password => "GFD_AUTH__BOOTSTRAP_ADMIN__PASSWORD"
  | .firstAdmin .email => "GFD_AUTH__BOOTSTRAP_ADMIN__EMAIL"
  | .firstAdmin .fullName => "GFD_AUTH__BOOTSTRAP_ADMIN__FULL_NAME"

/-- The variable of a key leads to its path. -/
theorem settingPath?_variableName (k : TextKey) :
    Config.settingPath? k.variableName = some k.path := by
  rcases k with _ | _ | _ | _ | field
  case firstAdmin => cases field <;> decide +kernel
  all_goals decide +kernel

theorem path_ne_nil (k : TextKey) : k.path ≠ [] := by
  cases k <;> exact List.cons_ne_nil _ _

/-- The path of a key leads to a leaf of the settings. -/
theorem path_mem_leafPaths (k : TextKey) : k.path ∈ Settings.leafPaths := by
  rcases k with _ | _ | _ | _ | field
  case firstAdmin => cases field <;> decide
  all_goals decide

/-- All settings follow each of the keys of texts. -/
theorem follows (k : TextKey) : Settings.decoder.Follows k.path k.put := by
  cases k with
  | host => exact Settings.follows_server ServerSettings.follows_host
  | databasePath => exact Settings.follows_database DatabaseSettings.follows_path
  | auditTrailDir => exact Settings.follows_database DatabaseSettings.follows_auditTrailDir
  | cookieName => exact Settings.follows_auth AuthSettings.follows_cookieName
  | firstAdmin field => exact Settings.follows_auth (AuthSettings.follows_firstAdmin field.follows)

/-- A text that is not blank leaves settings that may be run with such. -/
theorem checked_put {k : TextKey} {s : Settings} {t : String} (hs : s.checked = .ok s)
    (ht : Text.isBlankText t = false) : (k.put t s).checked = .ok (k.put t s) := by
  rw [Settings.checked_eq_ok_iff] at hs ⊢
  obtain ⟨hcost, hhours, hcookie, hmost, hsizes, hpath⟩ := hs
  cases k with
  | host => exact ⟨hcost, hhours, hcookie, hmost, hsizes, hpath⟩
  | databasePath => exact ⟨hcost, hhours, hcookie, hmost, hsizes, ht⟩
  | auditTrailDir => exact ⟨hcost, hhours, hcookie, hmost, hsizes, hpath⟩
  | cookieName => exact ⟨hcost, hhours, ht, hmost, hsizes, hpath⟩
  | firstAdmin field => exact ⟨hcost, hhours, hcookie, hmost, hsizes, hpath⟩

end TextKey

/-! ## Layers -/

open Config (Environment IsLayer Beside overlay stack nested environmentLayer settingLayers)

section Layers

variable {path : List String} {x j j' : Json}

/-- Values that differ under a path only. -/
theorem replaced_of_beside (hj : IsLayer path j) (hj' : IsLayer path j')
    (hold : (j.at? path).isSome) (hnew : j'.at? path = some x)
    (hbeside : ∀ q, Beside path q → j'.at? q = j.at? q) : Json.Replaced x path j j' := by
  induction path generalizing j j' with
  | nil => exact Option.some.inj hnew
  | cons name rest ih =>
      obtain ⟨members, rfl, htables⟩ := hj.tables.exists_object
      obtain ⟨members', rfl, htables'⟩ := hj'.tables.exists_object
      obtain ⟨hnames, hvalues⟩ := hj.distinct.of_object
      obtain ⟨hnames', hvalues'⟩ := hj'.distinct.of_object
      obtain ⟨old, hold⟩ := Option.isSome_iff_exists.mp hold
      obtain ⟨v, hv, hold⟩ := Option.bind_eq_some_iff.mp hold
      obtain ⟨v', hv', hnew⟩ := Option.bind_eq_some_iff.mp hnew
      have hlookup : ∀ n ≠ name, members'.lookup n = members.lookup n := by
        intro n hn
        have hsame := hbeside [n] (.here hn)
        simpa [Json.at?, Json.get?] using hsame
      have hrest : ∀ q, Beside rest q → v'.at? q = v.at? q := by
        intro q hq
        have hsame := hbeside (name :: q) (.deeper hq)
        rw [Json.at?, Json.at?, hv, hv'] at hsame
        exact hsame
      have hlayer : IsLayer rest v := ⟨hvalues _ (Keyed.mem_of_lookup hv), htables v hv⟩
      have hlayer' : IsLayer rest v' := ⟨hvalues' _ (Keyed.mem_of_lookup hv'), htables' v' hv'⟩
      exact ⟨members, members', rfl, rfl, hnames, hnames', hlookup, v, hv, v', hv',
        ih hlayer hlayer' (Option.isSome_of_mem hold) hnew hrest⟩

/-- What only one layer sets is replaced by it, and nothing else. -/
theorem replaced_of_layer {low standard : Json} {before after : List Json}
    (hlow : IsLayer path low) (hstandard : low.at? path = some standard)
    (hleaf : ∀ members, standard ≠ .object members)
    (hlayers : ∀ layer ∈ before ++ after, IsLayer path layer ∧ layer.at? path = none)
    (hx : x.HasDistinctNames) (hpath : path ≠ []) :
    Json.Replaced x path (overlay low (stack (.object []) (before ++ after)))
      (overlay low (stack (.object []) (before ++ nested path x :: after))) := by
  have hone : IsLayer path (nested path x) :=
    ⟨Config.distinct_nested path hx, Config.hasTablesAlong_nested path x⟩
  have hnil := Config.isLayer_nil path
  have hold : IsLayer path (stack (.object []) (before ++ after)) :=
    Config.isLayer_stack hnil fun layer hlayer => (hlayers layer hlayer).1
  have hnew : IsLayer path (stack (.object []) (before ++ nested path x :: after)) := by
    refine Config.isLayer_stack hnil ?_
    simp only [List.forall_mem_append, List.forall_mem_cons] at hlayers ⊢
    exact ⟨fun layer hlayer => (hlayers.1 layer hlayer).1, hone,
      fun layer hlayer => (hlayers.2 layer hlayer).1⟩
  have hempty : (Json.object []).at? path = none := by
    obtain ⟨name, rest, rfl⟩ := List.exists_cons_of_ne_nil hpath
    rfl
  refine replaced_of_beside (hlow.overlay hold) (hlow.overlay hnew) ?_ ?_ fun q hq => ?_
  · rw [Config.at?_overlay hold.distinct hlow.tables hold.tables, hstandard]
    split <;> rfl
  · rw [Config.at?_overlay hnew.distinct hlow.tables hnew.tables, hstandard,
      Config.at?_stack_of_one hnil hlayers hone (Config.at?_nested path x), hempty]
    exact congrArg some (Config.overlay_of_leaf hleaf x)
  · have hsame := Config.at?_stack_insert (hq.isLayer hnil)
      (fun layer hlayer => hq.isLayer (hlayers layer hlayer).1) (hq.isLayer hone) (hq.at?_nested x)
    have hlow := hq.hasTablesAlong hlow.tables
    rw [Config.at?_overlay hnew.distinct hlow (hq.hasTablesAlong hnew.tables),
      Config.at?_overlay hold.distinct hlow (hq.hasTablesAlong hold.tables), hsame]

end Layers

/-! ## One variable more -/

/-- A layer that leaves a setting out, and has tables where such lead to it. -/
structure LeavesOut (path : List String) (layer : Json) : Prop where
  tables : layer.HasTablesAlong path
  unset : layer.at? path = none

instance (path : List String) (layer : Json) : Decidable (LeavesOut path layer) :=
  decidable_of_iff (layer.HasTablesAlong path ∧ (layer.at? path).isNone = true)
    ⟨fun h => ⟨h.1, Option.isNone_iff_eq_none.mp h.2⟩,
      fun h => ⟨h.tables, Option.isNone_iff_eq_none.mpr h.unset⟩⟩

namespace Settings

variable {texts : List String} {before after : Environment} {name v : String} {s : Settings}
  {k : TextKey}

/-- The files that settings were loaded from make up a stack of layers. -/
theorem overlayFiles_of_load {env : Environment} (h : load texts env = .ok s) :
    overlayFiles (toJson {}) texts
      = some (stack (toJson {}) (texts.filterMap Toml.parse?)) := by
  have hsome : ∃ layers, texts.mapM Toml.parse? = some layers := by
    refine Option.ne_none_iff_exists'.mp fun hnone => ?_
    simp only [load, overlayFiles_eq, hnone, Option.map_none] at h
    cases h
  obtain ⟨layers, hlayers⟩ := hsome
  rw [overlayFiles_eq, hlayers, filterMap_of_mapM hlayers, Option.map_some]

section Reload

variable {env env' : Environment} {t : Settings}

/-- From the same files settings are loaded with other variables, if they are decoded from them. -/
theorem load_of_decoded (h : load texts env = .ok s)
    (ht : Json.decodeValue decoder
      (overlay (stack (toJson {}) (texts.filterMap Toml.parse?)) (environmentLayer env')) = .ok t) :
    load texts env' = t.checked := by
  simp only [load, overlayFiles_of_load h, ht]

/-- Layers that are not decoded are refused as unreadable. -/
theorem load_of_not_decoded (h : load texts env = .ok s)
    (ht : ∀ t, Json.decodeValue decoder
      (overlay (stack (toJson {}) (texts.filterMap Toml.parse?)) (environmentLayer env'))
        ≠ .ok t) : load texts env' = .error .unreadable := by
  cases hdecode : Json.decodeValue decoder
      (overlay (stack (toJson {}) (texts.filterMap Toml.parse?)) (environmentLayer env')) with
  | ok t => exact absurd hdecode (ht t)
  | error _ => simp only [load, overlayFiles_of_load h, hdecode]

/-- Settings that are loaded have passed their check. -/
theorem checked_of_load (h : load texts env = .ok s) : s.checked = .ok s :=
  (load_of_decoded h (decodeValue_of_load h)).symm.trans h

end Reload

/-- One more variable is one more layer, in its place. -/
theorem settingLayers_insert {path : List String} (hname : Config.settingPath? name = some path) :
    settingLayers (before ++ (name, v) :: after)
      = settingLayers before ++ nested path (Config.settingValue v) :: settingLayers after := by
  have hlayer : Config.settingLayer? (name, v) = some (nested path (Config.settingValue v)) := by
    simp only [Config.settingLayer?, hname, Option.map_some]
  rw [settingLayers, List.filterMap_append, List.filterMap_cons_some hlayer]
  rfl

/-- The layers below the environment have the standard text under a key that no file sets. -/
theorem exists_text_of_files
    (hfiles : ∀ layer ∈ texts.filterMap Toml.parse?, LeavesOut k.path layer) :
    IsLayer k.path (stack (toJson {}) (texts.filterMap Toml.parse?))
      ∧ ∃ t, (stack (toJson {}) (texts.filterMap Toml.parse?)).at? k.path = some (.string t) := by
  have hstandard := isLayer_standard k.path_mem_leafPaths
  have hlayers : ∀ layer ∈ texts.filterMap Toml.parse?, IsLayer k.path layer := by
    intro layer hlayer
    obtain ⟨text, -, htext⟩ := List.mem_filterMap.mp hlayer
    exact ⟨Toml.distinct_parse? htext, (hfiles layer hlayer).tables⟩
  refine ⟨Config.isLayer_stack hstandard hlayers, ?_⟩
  have hnone : (texts.filterMap Toml.parse?).filterMap (Json.at? k.path) = [] :=
    List.filterMap_eq_nil_iff.mpr fun layer hlayer => (hfiles layer hlayer).unset
  rw [Config.at?_stack hstandard hlayers, hnone]
  exact k.exists_text {}

/-- One variable more changes what the layers make up under its key only. -/
theorem replaced_of_variable (hname : Config.settingPath? name = some k.path)
    (hfiles : ∀ layer ∈ texts.filterMap Toml.parse?, LeavesOut k.path layer)
    (hvariables : ∀ layer ∈ settingLayers (before ++ after), LeavesOut k.path layer) :
    Json.Replaced (Config.settingValue v) k.path
      (overlay (stack (toJson {}) (texts.filterMap Toml.parse?))
        (environmentLayer (before ++ after)))
      (overlay (stack (toJson {}) (texts.filterMap Toml.parse?))
        (environmentLayer (before ++ (name, v) :: after))) := by
  obtain ⟨hlow, standard, hstandard⟩ := exists_text_of_files hfiles
  rw [Config.environmentLayer_eq_stack, Config.environmentLayer_eq_stack,
    settingLayers_insert hname]
  rw [settingLayers, List.filterMap_append] at hvariables ⊢
  refine replaced_of_layer hlow hstandard (fun _ => Json.noConfusion) (fun layer hlayer => ?_)
    (Config.distinct_settingValue v) k.path_ne_nil
  have hdistinct : layer.HasDistinctNames :=
    (List.mem_append.mp hlayer).elim Config.distinct_settingLayer Config.distinct_settingLayer
  exact ⟨⟨hdistinct, (hvariables layer hlayer).tables⟩, (hvariables layer hlayer).unset⟩

/-- What is no text cannot be put under a key of a text. -/
theorem not_decoded_of_replaced {x j j' : Json} (hx : ∀ t, x ≠ .string t)
    (h : Json.Replaced x k.path j j') (s : Settings) : Json.decodeValue decoder j' ≠ .ok s := by
  intro hs
  obtain ⟨t, ht⟩ := k.exists_text s
  have hleaf := echoes _ _ hs k.path (leafPaths_toJson s ▸ k.path_mem_leafPaths) x h.at?
  exact hx t (Option.some.inj (hleaf.symm.trans ht))

/-- A variable more, for the text under a key that nothing else sets.  If its text spells no value
    there are the settings with that text under the key; if it spells another text, which stands in
    quotes, those with that one, unless it is one that they may not be run with; if it spells a
    value of another kind there are no settings. -/
theorem load_textKey (hname : Config.settingPath? name = some k.path)
    (hfiles : ∀ layer ∈ texts.filterMap Toml.parse?, LeavesOut k.path layer)
    (hvariables : ∀ layer ∈ settingLayers (before ++ after), LeavesOut k.path layer)
    (hrest : load texts (before ++ after) = .ok s) (hne : v ≠ "") (htrim : Text.trim v = v) :
    (∀ j, Config.Spells v.toList j → load texts (before ++ (name, v) :: after)
        = match j with
          | .string t => (k.put t s).checked
          | _ => .error .unreadable)
      ∧ ((¬∃ j, Config.Spells v.toList j) →
        load texts (before ++ (name, v) :: after) = .ok (k.put v s)) := by
  have hreplaced := @replaced_of_variable _ _ _ _ v _ hname hfiles hvariables
  have htext : ∀ {t : String}, Config.settingValue v = .string t →
      load texts (before ++ (name, v) :: after) = (k.put t s).checked := by
    intro t ht
    exact load_of_decoded hrest (k.follows (ht ▸ hreplaced) (decodeValue_of_load hrest))
  have hother : (∀ t, Config.settingValue v ≠ .string t) →
      load texts (before ++ (name, v) :: after) = .error .unreadable :=
    fun hx => load_of_not_decoded hrest (not_decoded_of_replaced hx hreplaced)
  refine ⟨fun j hj => ?_, fun hnone => ?_⟩
  · have hvalue := Config.settingValue_of_spells htrim hj
    cases j with
    | string t => exact htext hvalue
    | _ => exact hother (hvalue ▸ fun _ => Json.noConfusion)
  · have hvalue : Config.settingValue v = .string v :=
      (Config.settingValue_eq_or_spells htrim).resolve_right fun h => hnone ⟨_, h⟩
    rw [htext hvalue]
    refine k.checked_put (checked_of_load hrest) ?_
    simpa [Text.isBlankText, htrim] using hne

/-- A password of two words where the port and a size of pages are set as well. -/
theorem load_textKey_password :
    load ["[general]\nmax_page_size = 50\n"]
        [("GFD_SERVER__PORT", "9000"), ("GFD_AUTH__BOOTSTRAP_ADMIN__PASSWORD", "correct horse")]
      = .ok ((TextKey.firstAdmin .password).put "correct horse"
          { server := { port := 9000 }, general := { maxPageSize := 50 } }) := by
  refine (@load_textKey _ [("GFD_SERVER__PORT", "9000")] [] _ _ _ (.firstAdmin .password)
    (TextKey.settingPath?_variableName _) (by decide +kernel) (by decide +kernel)
    (by decide +kernel) (by decide) (by decide)).2 ?_
  rintro ⟨j, hj⟩
  cases hj with
  | yes written => cases written
  | no written => cases written
  | whole written => cases written
  | pointed written => cases written
  | quoted opened => cases opened
  | character written => cases written
  | list opened => cases opened
  | table opened => cases opened

/-- A password of digits is a number, so that there are no settings. -/
theorem load_numeric_password :
    Text.trim "12345678" = "12345678"
      ∧ load [] [] = .ok {}
      ∧ load [] [("GFD_AUTH__BOOTSTRAP_ADMIN__PASSWORD", "12345678")] = .error .unreadable := by
  decide +kernel

end Settings

end RobotMaze
