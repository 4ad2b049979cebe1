import RobotMaze.Config.Settings
import RobotMaze.Proofs.Config.Overlay
import RobotMaze.Proofs.Json.Layout
import RobotMaze.Proofs.Json.Records
import RobotMaze.Proofs.Store.Outcome

/-! # Settings — what is decoded is what stands there

    Nothing that is set is turned into something else: if an object is decoded to
    settings, then written back the settings have at each of their leaves what the
    object has there.

    * `Json.leafPaths` — the paths that lead to the leaves of a value;
    * `Json.Matches` — a value has at its leaves what another one has there;
    * `Decoder.Echoes` — whatever is decoded matches what it was decoded from,
      with one rule for each kind of leaf and one for records;
    * `Record.Complete` — members from which a record has a value pass its tests, so
      that an object is decoded as they are (`Complete.decodeValue_iff`);
    * `Settings.echoes` — so it is with settings. -/

namespace RobotMaze

namespace Json

variable {α β : Type}

/-! ## Leaves -/

mutual

/-- The paths that lead to leaves, which are what is no table. -/
def leafPaths : Json → List (List String)
  | .object members => memberPaths members
  | _ => [[]]

/-- The paths that lead to the leaves of members. -/
def memberPaths : List (String × Json) → List (List String)
  | [] => []
  | (name, v) :: rest => (leafPaths v).map (name :: ·) ++ memberPaths rest

end

/-- A path to a leaf of an object goes through one of its members. -/
theorem mem_memberPaths {members : List (String × Json)} {path : List String} :
    path ∈ memberPaths members
      ↔ ∃ m ∈ members, ∃ rest ∈ m.2.leafPaths, path = m.1 :: rest := by
  induction members with
  | nil => simp [memberPaths]
  | cons m rest ih =>
      obtain ⟨name, v⟩ := m
      simp only [memberPaths, List.mem_append, List.mem_map, ih, List.mem_cons, exists_eq_or_imp]
      simp only [eq_comm]

/-- At the end of a path to a leaf there is something that is no table. -/
theorem exists_leaf {v : Json} (hv : v.HasDistinctNames) {path : List String}
    (hpath : path ∈ v.leafPaths) :
    ∃ leaf, v.at? path = some leaf ∧ ∀ members, leaf ≠ .object members := by
  induction hv generalizing path with
  | @leaf j hleaf =>
      have hpaths : j.leafPaths = [[]] := by
        cases j with
        | object members => exact absurd rfl (hleaf members)
        | _ => rfl
      obtain rfl := List.mem_singleton.mp (hpaths ▸ hpath)
      exact ⟨j, rfl, hleaf⟩
  | @object members names values ih =>
      obtain ⟨m, hm, rest, hrest, rfl⟩ := mem_memberPaths.mp hpath
      obtain ⟨leaf, hleaf, hnot⟩ := ih m hm hrest
      refine ⟨leaf, ?_, hnot⟩
      simp only [at?, get?]
      rw [Keyed.lookup_of_mem names hm]
      exact hleaf

/-- A value has at each of its leaves what another value has there, if it has anything. -/
def Matches (v j : Json) : Prop := ∀ path ∈ v.leafPaths, ∀ x ∈ j.at? path, v.at? path = some x

/-- A value matches itself. -/
theorem matches_refl (v : Json) : v.Matches v := fun _ _ _ hx => hx

/-- Tables match if their members of one name do. -/
theorem matches_object {members : List (String × Json)} {j : Json}
    (hnames : (members.map Prod.fst).Nodup)
    (h : ∀ m ∈ members, ∀ x ∈ j.get? m.1, m.2.Matches x) : (Json.object members).Matches j := by
  intro path hpath x hx
  obtain ⟨m, hm, rest, hrest, rfl⟩ := mem_memberPaths.mp hpath
  obtain ⟨y, hy, hx⟩ := Option.bind_eq_some_iff.mp hx
  simp only [at?, get?]
  rw [Keyed.lookup_of_mem hnames hm]
  exact h m hm y hy rest hrest x hx

/-! ## Decoders -/

/-- Whatever is decoded matches, when it is written, what it was decoded from. -/
def Decoder.Echoes (d : Decoder α) (encode : α → Json) : Prop :=
  ∀ j a, decodeValue d j = .ok a → (encode a).Matches j

namespace Decoder

/-- Whatever is decoded is written as what it was decoded from. -/
def Inverts (d : Decoder α) (encode : α → Json) : Prop :=
  ∀ j a, decodeValue d j = .ok a → encode a = j

/-- What is written as it was matches it. -/
theorem Inverts.echoes {d : Decoder α} {encode : α → Json} (h : d.Inverts encode) :
    d.Echoes encode :=
  fun j a hdecode => h j a hdecode ▸ matches_refl (encode a)

/-- A text is written as it was. -/
theorem string_inverts : string.Inverts .string := by
  intro j s h
  cases j with
  | string t => cases h; rfl
  | _ => cases h

/-- A truth value is written as it was. -/
theorem bool_inverts : bool.Inverts .bool := by
  intro j b h
  cases j with
  | bool c => cases h; rfl
  | _ => cases h

/-- A number within bounds is written as it was. -/
theorem within_inverts (low high : Int) : (within low high).Inverts .whole := by
  intro j n h
  cases j with
  | number m =>
      cases m with
      | whole m =>
          change (if low ≤ m ∧ m ≤ high then Except.ok m else .error Fault.mismatch) = _ at h
          split at h
          · cases h; rfl
          · cases h
      | float x => cases h
  | _ => cases h

/-- A natural number below a bound was that number. -/
theorem eq_of_below {bound : Nat} {j : Json} {n : Nat}
    (h : decodeValue (below bound) j = .ok n) : .count n = j ∧ n < bound := by
  cases j with
  | number m =>
      cases m with
      | whole m =>
          change (if 0 ≤ m ∧ m < bound then Except.ok m.toNat else .error Fault.mismatch) = _ at h
          split at h
          · rename_i hm
            cases h
            have hcast : (m.toNat : Int) = m := Int.toNat_of_nonneg hm.1
            exact ⟨congrArg Json.whole hcast, by omega⟩
          · cases h
      | float x => cases h
  | _ => cases h

theorem uint32_inverts : uint32.Inverts fun n => .count n.toNat := by
  intro j n h
  obtain ⟨m, hm, rfl⟩ := ok_of_map h
  obtain ⟨rfl, hlt⟩ := eq_of_below hm
  exact congrArg Json.count (UInt32.toNat_ofNat_of_lt' hlt)

section List

variable {d : Decoder α} {encode : α → Json}

/-- Items that are decoded one by one are written as they were. -/
theorem map_eq_of_items (hd : d.Inverts encode) {js : List Json} {values : List α}
    (h : items d (Reading.ofItems js) = .ok values) : values.map encode = js := by
  induction js generalizing values with
  | nil => cases h; rfl
  | cons j rest ih =>
      obtain ⟨a, ha, h⟩ := ok_of_bind h
      obtain ⟨more, hmore, h⟩ := ok_of_bind h
      cases h
      rw [List.map_cons, hd j a ha, ih hmore]

/-- A list is written as it was if its items are. -/
theorem Inverts.list (hd : d.Inverts encode) : (list d).Inverts (.list encode) := by
  intro j values h
  cases j with
  | array js =>
      obtain ⟨found, hfound, h⟩ := ok_of_bind h
      cases h
      exact congrArg Json.array (map_eq_of_items hd hfound)
  | _ => cases h

end List

end Decoder

/-! ## Records -/

namespace Record

variable {ms : List (String × Reading)}

/-- Two parts of a record are decoded from the same members. -/
theorem ok_of_seq {f : Record (α → β)} {x : Record α} {b : β}
    (h : (f <*> x).ofMembers ms = .ok b) :
    ∃ g a, f.ofMembers ms = .ok g ∧ x.ofMembers ms = .ok a ∧ g a = b := by
  obtain ⟨g, hg, h⟩ := ok_of_bind h
  obtain ⟨a, ha, h⟩ := ok_of_bind h
  exact ⟨g, a, hg, ha, Except.ok.inj h⟩

theorem ok_of_map {f : α → β} {x : Record α} {b : β} (h : (f <$> x).ofMembers ms = .ok b) :
    ∃ a, x.ofMembers ms = .ok a ∧ f a = b := by
  obtain ⟨g, a, hg, ha, rfl⟩ := ok_of_seq h
  cases hg
  exact ⟨a, ha, rfl⟩

/-- Members are read one by one, under their names. -/
theorem lookup_ofMembers (name : String) (members : List (String × Json)) :
    (Reading.ofMembers members).lookup name = (members.lookup name).map Reading.ofJson := by
  induction members with
  | nil => rfl
  | cons m rest ih =>
      rw [Reading.ofMembers, List.lookup_cons, List.lookup_cons, ih]
      cases name == m.1 <;> rfl

/-- A member that is there is what its field is made of. -/
theorem decodeValue_of_defaulted {name : String} {d : Decoder α} {value a : α}
    {members : List (String × Json)} {j : Json}
    (h : (defaulted name d value).ofMembers (Reading.ofMembers members) = .ok a)
    (hj : members.lookup name = some j) : decodeValue d j = .ok a := by
  have hread : (Reading.ofMembers members).lookup name = some (Reading.ofJson j) := by
    rw [lookup_ofMembers, hj]
    rfl
  simp only [defaulted, field, hread] at h
  exact h

/-- What is made of a member matches it. -/
theorem matches_of_defaulted {name : String} {d : Decoder α} {encode : α → Json} {value a : α}
    {members : List (String × Json)} (hd : d.Echoes encode)
    (h : (defaulted name d value).ofMembers (Reading.ofMembers members) = .ok a) :
    ∀ j ∈ members.lookup name, (encode a).Matches j :=
  fun j hj => hd j a (decodeValue_of_defaulted h hj)

/-- What a record is decoded to matches the object if each of its members matches what its field is
    made of. -/
theorem echoes {r : Record α} {encode : α → Json} {write : α → List (String × Json)}
    (hwrite : ∀ a, encode a = .object (write a)) (hnames : ∀ a, ((write a).map Prod.fst).Nodup)
    (h : ∀ members a, r.ofMembers (Reading.ofMembers members) = .ok a →
      ∀ m ∈ write a, ∀ j ∈ members.lookup m.1, m.2.Matches j) :
    r.decoder.Echoes encode := by
  intro j a hdecode
  rw [hwrite a]
  refine matches_object (hnames a) fun m hm x hx => ?_
  cases j with
  | object members =>
      obtain ⟨_, -, hmembers⟩ := RobotMaze.ok_of_bind hdecode
      exact h members a hmembers m hm x hx
  | _ => cases hx

/-! ### Fields that may be missing -/

/-- Members from which a record has a value pass the tests of its fields. -/
def Complete (r : Record α) : Prop :=
  ∀ ms a, r.ofMembers ms = .ok a → ∀ f ∈ r.fields, ∀ v ∈ ms.lookup f.1, f.2 v = .ok ()

/-- Parts of a record one after the other are complete if both are. -/
theorem Complete.seq {f : Record (α → β)} {x : Record α} (hf : f.Complete) (hx : x.Complete) :
    Complete (f <*> x) := by
  intro ms b h field hfield
  obtain ⟨g, a, hg, ha, -⟩ := ok_of_seq h
  rcases List.mem_append.mp hfield with hfield | hfield
  · exact hf ms g hg field hfield
  · exact hx ms a ha field hfield

/-- A member that may be missing is tested by decoding it. -/
theorem complete_defaulted (name : String) (d : Decoder α) (value : α) :
    (defaulted name d value).Complete := by
  intro ms a h f hf v hv
  obtain rfl := List.mem_singleton.mp hf
  simp only [defaulted, field, Option.mem_def.mp hv] at h
  show (d v).map _ = _
  rw [h]
  rfl

theorem complete_pure (a : α) : Complete (Pure.pure a : Record α) :=
  fun _ _ _ => List.forall_mem_nil _

/-- A member is complete as the first part of a record. -/
theorem complete_map {f : α → β} {name : String} {d : Decoder α} {value : α} :
    Complete (f <$> defaulted name d value) :=
  (complete_pure f).seq (complete_defaulted name d value)

/-- One more field that may be missing. -/
theorem Complete.field {f : Record (α → β)} (hf : f.Complete) {name : String} {d : Decoder α}
    {value : α} : Complete (f <*> defaulted name d value) :=
  hf.seq (complete_defaulted name d value)

/-- An object without a name that comes twice is decoded as its members are: `exists_seq` and
    `exists_map` take the right side apart, field by field. -/
theorem Complete.decodeValue_iff {r : Record α} (hr : r.Complete) {members : List (String × Json)}
    (hnames : (members.map Prod.fst).Nodup) {a : α} :
    decodeValue r.decoder (.object members) = .ok a
      ↔ ∃ b, r.ofMembers (Reading.ofMembers members) = .ok b ∧ b = a := by
  rw [exists_eq_right]
  constructor
  · intro h
    obtain ⟨_, -, hmembers⟩ := RobotMaze.ok_of_bind h
    exact hmembers
  · intro h
    have hread : ((Reading.ofMembers members).map Prod.fst).Nodup := by
      rw [Reading.ofMembers_eq_map, List.map_map]
      exact hnames
    have hcheck : check r.fields [] (Reading.ofMembers members) = .ok () := by
      refine check_ok (fun m hm => ?_) hread fun m _ => List.not_mem_nil
      split
      · rename_i test hfound
        exact hr _ _ h _ (Keyed.mem_of_lookup hfound) _ (Keyed.lookup_of_mem hread hm)
      · rw [Reading.ofMembers_eq_map] at hm
        obtain ⟨member, -, rfl⟩ := List.mem_map.mp hm
        exact isWhole_ofJson member.2
    show (do
      check r.fields [] (Reading.ofMembers members)
      r.ofMembers (Reading.ofMembers members)) = _
    rw [hcheck]
    exact h

variable {members members' : List (String × Json)} {ms : List (String × Reading)}

/-- A record has a value if its parts have, one after the other. -/
theorem exists_seq {f : Record (α → β)} {x : Record α} {Q : β → Prop} :
    (∃ b, (f <*> x).ofMembers ms = .ok b ∧ Q b)
      ↔ ∃ g, f.ofMembers ms = .ok g ∧ ∃ a, x.ofMembers ms = .ok a ∧ Q (g a) := by
  constructor
  · rintro ⟨b, h, hb⟩
    obtain ⟨g, a, hg, ha, rfl⟩ := ok_of_seq h
    exact ⟨g, hg, a, ha, hb⟩
  · rintro ⟨g, hg, a, ha, hb⟩
    refine ⟨g a, ?_, hb⟩
    show (f.ofMembers ms >>= fun g => x.ofMembers ms >>= fun a => .ok (g a)) = _
    rw [hg, ha]
    rfl

/-- A mapped part has a value if the part has. -/
theorem exists_map {f : α → β} {x : Record α} {Q : β → Prop} :
    (∃ b, (f <$> x).ofMembers ms = .ok b ∧ Q b) ↔ ∃ a, x.ofMembers ms = .ok a ∧ Q (f a) := by
  constructor
  · rintro ⟨b, h, hb⟩
    obtain ⟨a, ha, rfl⟩ := ok_of_map h
    exact ⟨a, ha, hb⟩
  · rintro ⟨a, ha, hb⟩
    exact exists_seq.mpr ⟨f, rfl, a, ha, hb⟩

/-- A field has its value of its own name only. -/
theorem defaulted_congr {name : String} (d : Decoder α) (value : α)
    (h : members'.lookup name = members.lookup name) :
    (defaulted name d value).ofMembers (Reading.ofMembers members')
      = (defaulted name d value).ofMembers (Reading.ofMembers members) := by
  simp only [defaulted, field, lookup_ofMembers, h]

/-- A member that is there counts, not the standard value. -/
theorem defaulted_of_lookup {name : String} {d : Decoder α} {a : α} {j : Json} (value : α)
    (hj : members.lookup name = some j) (h : decodeValue d j = .ok a) :
    (defaulted name d value).ofMembers (Reading.ofMembers members) = .ok a := by
  simp only [defaulted, field, lookup_ofMembers, hj, Option.map_some]
  exact h

end Record

end Json

/-! ## Settings -/

open Json.Decoder
open Json.Record (ok_of_seq ok_of_map matches_of_defaulted)

/-- A port is written as it was. -/
theorem ServerSettings.portDecoder_inverts : portDecoder.Inverts fun port => .count port.toNat := by
  intro j port h
  obtain ⟨n, hn, rfl⟩ := RobotMaze.ok_of_map h
  obtain ⟨rfl, hlt⟩ := eq_of_below hn
  exact congrArg Json.count (UInt16.toNat_ofNat_of_lt' hlt)

/-- The settings of the server match what they were made of. -/
theorem ServerSettings.echoes : decoder.Echoes toJson := by
  refine Json.Record.echoes (fun _ => rfl) (fun s => by simp) fun members s h => ?_
  obtain ⟨_, origins, hrest, horigins, rfl⟩ := ok_of_seq h
  obtain ⟨_, port, hmap, hport, rfl⟩ := ok_of_seq hrest
  obtain ⟨host, hhost, rfl⟩ := ok_of_map hmap
  have hnumber := matches_of_defaulted portDecoder_inverts.echoes hport
  simp only [List.forall_mem_cons]
  exact ⟨matches_of_defaulted string_inverts.echoes hhost, hnumber,
    matches_of_defaulted string_inverts.list.echoes horigins, List.forall_mem_nil _⟩

/-- The settings of the database match what they were made of. -/
theorem DatabaseSettings.echoes : decoder.Echoes toJson := by
  refine Json.Record.echoes (fun _ => rfl) (fun s => by simp) fun members s h => ?_
  obtain ⟨_, dir, hmap, hdir, rfl⟩ := ok_of_seq h
  obtain ⟨path, hpath, rfl⟩ := ok_of_map hmap
  simp only [List.forall_mem_cons]
  exact ⟨matches_of_defaulted string_inverts.echoes hpath,
    matches_of_defaulted string_inverts.echoes hdir, List.forall_mem_nil _⟩

/-- The settings of the first administrator match what they were made of. -/
theorem FirstAdmin.echoes : decoder.Echoes toJson := by
  refine Json.Record.echoes (fun _ => rfl) (fun s => by simp) fun members s h => ?_
  obtain ⟨_, fullName, hfour, hfullName, rfl⟩ := ok_of_seq h
  obtain ⟨_, email, hthree, hemail, rfl⟩ := ok_of_seq hfour
  obtain ⟨_, password, htwo, hpassword, rfl⟩ := ok_of_seq hthree
  obtain ⟨_, username, hmap, husername, rfl⟩ := ok_of_seq htwo
  obtain ⟨enabled, henabled, rfl⟩ := ok_of_map hmap
  simp only [List.forall_mem_cons]
  exact ⟨matches_of_defaulted bool_inverts.echoes henabled,
    matches_of_defaulted string_inverts.echoes husername,
    matches_of_defaulted string_inverts.echoes hpassword,
    matches_of_defaulted string_inverts.echoes hemail,
    matches_of_defaulted string_inverts.echoes hfullName, List.forall_mem_nil _⟩

/-- The settings of logins match what they were made of. -/
theorem AuthSettings.echoes : decoder.Echoes toJson := by
  refine Json.Record.echoes (fun _ => rfl) (fun s => by simp) fun members s h => ?_
  obtain ⟨_, admin, hfour, hadmin, rfl⟩ := ok_of_seq h
  obtain ⟨_, secure, hthree, hsecure, rfl⟩ := ok_of_seq hfour
  obtain ⟨_, cookie, htwo, hcookie, rfl⟩ := ok_of_seq hthree
  obtain ⟨_, cost, hmap, hcost, rfl⟩ := ok_of_seq htwo
  obtain ⟨hours, hhours, rfl⟩ := ok_of_map hmap
  have hnumber := matches_of_defaulted uint32_inverts.echoes hcost
  simp only [List.forall_mem_cons]
  exact ⟨matches_of_defaulted (within_inverts _ _).echoes hhours, hnumber,
    matches_of_defaulted string_inverts.echoes hcookie,
    matches_of_defaulted bool_inverts.echoes hsecure, matches_of_defaulted FirstAdmin.echoes hadmin,
    List.forall_mem_nil _⟩

/-- The general settings match what they were made of. -/
theorem GeneralSettings.echoes : decoder.Echoes toJson := by
  refine Json.Record.echoes (fun _ => rfl) (fun s => by simp) fun members s h => ?_
  obtain ⟨_, most, hrest, hmost, rfl⟩ := ok_of_seq h
  obtain ⟨_, audit, hmap, haudit, rfl⟩ := ok_of_seq hrest
  obtain ⟨size, hsize, rfl⟩ := ok_of_map hmap
  have hsizes := matches_of_defaulted uint32_inverts.echoes hsize
  have haudits := matches_of_defaulted uint32_inverts.echoes haudit
  have hmosts := matches_of_defaulted uint32_inverts.echoes hmost
  simp only [List.forall_mem_cons]
  exact ⟨hsizes, haudits, hmosts, List.forall_mem_nil _⟩

/-- All settings match what they were made of. -/
theorem Settings.echoes : decoder.Echoes toJson := by
  refine Json.Record.echoes (fun _ => rfl) (fun s => by simp) fun members s h => ?_
  obtain ⟨_, general, hthree, hgeneral, rfl⟩ := ok_of_seq h
  obtain ⟨_, auth, htwo, hauth, rfl⟩ := ok_of_seq hthree
  obtain ⟨_, database, hmap, hdatabase, rfl⟩ := ok_of_seq htwo
  obtain ⟨server, hserver, rfl⟩ := ok_of_map hmap
  simp only [List.forall_mem_cons]
  exact ⟨matches_of_defaulted ServerSettings.echoes hserver,
    matches_of_defaulted DatabaseSettings.echoes hdatabase,
    matches_of_defaulted AuthSettings.echoes hauth,
    matches_of_defaulted GeneralSettings.echoes hgeneral, List.forall_mem_nil _⟩

end RobotMaze
