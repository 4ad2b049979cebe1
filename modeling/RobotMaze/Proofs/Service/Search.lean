import RobotMaze.Proofs.Service.Pages
import RobotMaze.Proofs.Service.Readable
import RobotMaze.Proofs.Service.Updates
import RobotMaze.Proofs.Text.Pattern

/-! # What is found

    Names are searched for a part of them.  The term loses the blanks around it and
    then finds what it is a part of, if it is plain.

    * `Text.Occurs` — a term stands in a text as it is;
    * `Tracks.search_shows`, `Users.search_shows`, `Users.page_shows` — each search
      answers and shows the rows that a plain term occurs in, if rows can be read;
    * `Tracks.search_name_iff` — a track whose name is not plain is not found even by
      its name;
    * `search_finds` — after every schedule rows can be read, and a plain
      term finds what it is a part of;
    * `search_accented` — a name that is not. -/

namespace RobotMaze

open Database (UserFilter userIsActive)
open Time (Instant)

/-! ## Occurrences -/

namespace Text

/-- A term stands in a text, and no NUL before it. -/
def Occurs (term text : String) : Prop :=
  ∃ before after, text.toList = before ++ (term.toList ++ after) ∧ '\x00' ∉ before

/-- A plain term is found where it occurs. -/
theorem Occurs.contains {term text : String} (h : Occurs term text) (hplain : IsPlain term) :
    Pattern.contains term text = true := by
  obtain ⟨before, after, htext, hnul⟩ := h
  exact Pattern.contains_of_occurs hplain htext hnul

end Text

/-- An answer shows a row. -/
def Shows {ρ α : Type} (read : ρ → Read α) (answer : List α) (r : ρ) : Prop :=
  ∃ a ∈ answer, read r = .ok a

/-- Rows that can be read are all shown. -/
theorem exists_mapM_shows {ρ α : Type} {read : ρ → Read α} {rows : List ρ}
    (hread : ∀ r ∈ rows, ∃ a, read r = .ok a) :
    ∃ as, rows.mapM read = .ok as ∧ ∀ r ∈ rows, Shows read as r := by
  obtain ⟨as, has⟩ := exists_mapM_iff.mpr hread
  exact ⟨as, has, fun r hr => exists_of_mem_forall₂ (mapM_ok_iff.mp has) hr⟩

/-! ## Tracks -/

namespace Tracks

variable {db : Database} {r : TrackRow} {s : Store} {term : String}

theorem search_answer (term : String) (s : Store) :
    (search term).answer s = (s.database.searchTracks term).mapM TrackRow.read :=
  answer_rows (fun _ => rfl) _

theorem mem_searchTracks (hplain : Text.IsPlain (Text.trim term))
    (hr : r ∈ db.activeTracks) (hoccurs : Text.Occurs (Text.trim term) r.name) :
    r ∈ db.searchTracks term := by
  refine (perm_newestFirst _ _).mem_iff.mpr ?_
  split
  · exact hr
  · exact List.mem_filter.mpr ⟨hr, hoccurs.contains hplain⟩

theorem searchTracks_subset (term : String) (db : Database) :
    db.searchTracks term ⊆ db.tracks.rows := by
  intro r hr
  have hfound := (perm_newestFirst _ _).mem_iff.mp hr
  split at hfound
  · exact List.mem_of_mem_filter hfound
  · exact List.mem_of_mem_filter (List.mem_of_mem_filter hfound)

theorem search_shows (hplain : Text.IsPlain (Text.trim term))
    (hread : s.database.tracks.Readable TrackRow.read) :
    ∃ tracks, (search term).answer s = .ok tracks
      ∧ ∀ r ∈ s.database.activeTracks, Text.Occurs (Text.trim term) r.name →
        Shows TrackRow.read tracks r := by
  obtain ⟨tracks, hanswer, hshown⟩ := exists_mapM_shows fun r hr =>
    hread r (searchTracks_subset term s.database hr)
  exact ⟨tracks, (search_answer term s).trans hanswer,
    fun r hr hoccurs => hshown r (mem_searchTracks hplain hr hoccurs)⟩

/-- Whoever searches for a trimmed name finds the track of that name, if and only if it is plain. -/
theorem mem_searchTracks_name_iff (hr : r ∈ db.activeTracks) (htrim : Text.trim r.name = r.name)
    (hnul : '\x00' ∉ r.name.toList) : r ∈ db.searchTracks r.name ↔ Text.IsPlain r.name := by
  rw [Database.searchTracks, (perm_newestFirst _ _).mem_iff, htrim]
  -- no name that is stored is empty, but the empty one would be plain as well
  by_cases hempty : r.name.isEmpty = true
  · rw [if_pos hempty, String.isEmpty_iff.mp hempty]
    exact ⟨fun _ => rfl, fun _ => hr⟩
  · rw [if_neg hempty, List.mem_filter, Text.Pattern.contains_self_iff hnul]
    exact and_iff_right hr

/-- So it is in every store that a run left behind, unless the name has a NUL. -/
theorem search_name_iff (hs : Stored s) (hr : r ∈ s.database.activeTracks)
    (hnul : '\x00' ∉ r.name.toList) :
    (∃ tracks, (search r.name).answer s = .ok tracks ∧ Shows TrackRow.read tracks r)
      ↔ Text.IsPlain r.name := by
  have hrow := List.mem_of_mem_filter hr
  have hread : ∀ q ∈ s.database.searchTracks r.name, ∃ t, q.read = .ok t := fun q hq =>
    (hs.get_answer (searchTracks_subset _ _ hq)).imp fun _ h => h.1
  obtain ⟨tracks, hanswer, hshown⟩ := exists_mapM_shows hread
  rw [← mem_searchTracks_name_iff hr (hs.kept r hrow).sound.name_trimmed hnul, search_answer,
    hanswer]
  constructor
  · rintro ⟨found, hfound, t, ht, hrt⟩
    obtain rfl := Except.ok.inj hfound
    obtain ⟨q, hq, hqt⟩ := exists_of_forall₂ (mapM_ok_iff.mp hanswer) ht
    -- what both rows are read to has one id
    have hid : q.id = r.id := by
      have hsame := (TrackRow.eq_of_read hqt).symm.trans (TrackRow.eq_of_read hrt)
      exact congrArg Track.id hsame
    rwa [hs.numbered.eq_of_id (searchTracks_subset _ _ hq) hrow hid] at hq
  · exact fun hmem => ⟨tracks, rfl, hshown r hmem⟩

end Tracks

/-! ## Accounts -/

section Accounts

variable {s : Store} {term : String} (hplain : Text.IsPlain (Text.trim term))
include hplain

namespace Users

theorem mem_searchUsers {db : Database} {r : UserRow} (hr : r ∈ db.users.rows)
    (hactive : userIsActive r = true) (hoccurs : Text.Occurs (Text.trim term) r.fullName) :
    r ∈ db.searchUsers term := by
  refine (perm_sortedBy _ _ _).mem_iff.mpr (List.mem_filter.mpr ⟨hr, ?_⟩)
  rw [hactive, hoccurs.contains hplain]
  rfl

theorem accepts_of_occurs {role : Option Role} {r : UserRow} (hrole : ∀ x ∈ role, r.role = x)
    (hoccurs : Text.Occurs (Text.trim term) r.username ∨ Text.Occurs (Text.trim term) r.email
      ∨ Text.Occurs (Text.trim term) r.fullName) :
    UserFilter.accepts { search := some term, role } r = true := by
  have hterm : (Text.Pattern.contains (Text.trim term) r.username
      || Text.Pattern.contains (Text.trim term) r.email
      || Text.Pattern.contains (Text.trim term) r.fullName) = true := by
    rw [Bool.or_eq_true, Bool.or_eq_true, or_assoc]
    have hfound := fun text (h : Text.Occurs (Text.trim term) text) => h.contains hplain
    exact hoccurs.imp (hfound _) (.imp (hfound _) (hfound _))
  simp only [UserFilter.accepts, Option.map_some, Option.filter_some, Bool.and_eq_true]
  constructor
  · -- a blank term is no condition at all
    split
    · rename_i kept hkept
      split at hkept
      · exact Option.some.inj hkept ▸ hterm
      · cases hkept
    · rfl
  · cases role with
    | none => rfl
    | some x => exact beq_iff_eq.mpr (hrole x rfl)

variable (hread : s.database.users.Readable UserRow.read)
include hread

theorem search_shows :
    ∃ users, (search term).answer s = .ok users
      ∧ ∀ r ∈ s.database.users.rows, userIsActive r = true →
        Text.Occurs (Text.trim term) r.fullName → Shows UserRow.read users r := by
  obtain ⟨users, hanswer, hshown⟩ := exists_mapM_shows fun r hr =>
    hread r (List.mem_of_mem_filter ((perm_sortedBy _ _ _).mem_iff.mp hr))
  exact ⟨users, (answer_rows (fun _ => rfl) _).trans hanswer, fun r hr hactive hoccurs =>
    hshown r (mem_searchUsers hplain hr hactive hoccurs)⟩

/-- Some page of the listing shows an account, whatever the pages are and whatever they are sorted
    by. -/
theorem page_shows {role : Option Role} {r : UserRow} (hr : r ∈ s.database.users.rows)
    (hrole : ∀ x ∈ role, r.role = x)
    (hoccurs : Text.Occurs (Text.trim term) r.username ∨ Text.Occurs (Text.trim term) r.email
      ∨ Text.Occurs (Text.trim term) r.fullName)
    {n : UInt32} (hn : 0 < n) (sortBy : String) (order : SortOrder) :
    let f : UserFilter := { search := some term, role }
    ∃ i < pageCount n.toNat (s.database.usersAccepted f).length, ∀ j : UInt32, j.toNat = i →
      j.toNat * n.toNat < 0x8000000000000000 →
        ∃ p, (page f ⟨j, n, sortBy, order⟩).answer s = .ok p ∧ Shows UserRow.read p.content r := by
  intro f
  have hpages := (pages_partition s hn sortBy order).2.1 f
  exact hpages.exists_shown (fun r hr => hread r (List.mem_of_mem_filter hr))
    (List.mem_filter.mpr ⟨hr, accepts_of_occurs hplain hrole hoccurs⟩)

end Users

end Accounts

/-! ## Every store -/

/-- After every schedule a plain term finds the active tracks and accounts whose names it is a part
    of, and an account is on a page of the listing for it if the term is a part of its username, its
    address or its full name. -/
theorem search_finds (trail : Trail) (run : List Event) (schedule : List Turn)
    (hrun : ∀ e ∈ run, e.now.HasFourDigitYear)
    (hschedule : ∀ e, .arrive e ∈ schedule → e.now.HasFourDigitYear) {term : String}
    (hplain : Text.IsPlain (Text.trim term)) :
    let s := ((Store.empty trail).after run).shared schedule
    let part := Text.trim term
    (∃ tracks, (Tracks.search term).answer s = .ok tracks
      ∧ ∀ r ∈ s.database.activeTracks, Text.Occurs part r.name → Shows TrackRow.read tracks r)
    ∧ (∃ users, (Users.search term).answer s = .ok users
      ∧ ∀ r ∈ s.database.users.rows, userIsActive r = true → Text.Occurs part r.fullName →
        Shows UserRow.read users r)
    ∧ ∀ (role : Option Role) (n : UInt32) (sortBy : String) (order : SortOrder), 0 < n →
      let f : UserFilter := { search := some term, role }
      ∀ r ∈ s.database.users.rows, (∀ x ∈ role, r.role = x) →
        Text.Occurs part r.username ∨ Text.Occurs part r.email ∨ Text.Occurs part r.fullName →
        ∃ i < pageCount n.toNat (s.database.usersAccepted f).length, ∀ j : UInt32, j.toNat = i →
          j.toNat * n.toNat < 0x8000000000000000 →
            ∃ p, (Users.page f ⟨j, n, sortBy, order⟩).answer s = .ok p
              ∧ Shows UserRow.read p.content r := by
  intro s part
  have htracks := Tracks.readable_shared trail hrun hschedule
  have husers := Users.readable_shared trail hrun hschedule
  refine ⟨Tracks.search_shows hplain htracks, Users.search_shows hplain husers, ?_⟩
  intro role n sortBy order hn f r hr hrole hoccurs
  exact Users.page_shows hplain husers hr hrole hoccurs hn sortBy order

/-- The end of a name with a blank before it, and the first part of an address. -/
theorem search_finds_parts :
    let s := ((Store.empty .disabled).after furnished).shared []
    (∀ e ∈ furnished, e.now.HasFourDigitYear) ∧ Text.IsPlain (Text.trim " ridor")
      ∧ (∃ tracks, (Tracks.search " ridor").answer s = .ok tracks
        ∧ ∃ t ∈ tracks, t.name = "Corridor")
      ∧ Text.IsPlain (Text.trim "ada@")
      ∧ ∃ p, (Users.page { search := some "ada@" } ⟨0, 20, "", .ascending⟩).answer s = .ok p
        ∧ ∃ u ∈ p.content, u.id = 1 := by
  intro s
  have hrun : ∀ e ∈ furnished, e.now.HasFourDigitYear := by decide
  have hnone : ∀ e, Turn.arrive e ∈ [] → e.now.HasFourDigitYear := fun _ h => nomatch h
  have hridor : Text.IsPlain (Text.trim " ridor") := by decide +kernel
  have hada : Text.IsPlain (Text.trim "ada@") := by decide +kernel
  obtain ⟨r, hr, hname⟩ :
      ∃ r ∈ (((Store.empty .disabled).after furnished).shared []).database.activeTracks,
        r.name = "Corridor" := by
    decide +kernel
  obtain ⟨q, hq, hid, hemail⟩ :
      ∃ q ∈ (((Store.empty .disabled).after furnished).shared []).database.users.rows,
        q.id = 1 ∧ q.email = "ada@maze.example" := by
    decide +kernel
  have hcorridor : Text.Occurs (Text.trim " ridor") r.name :=
    ⟨['C', 'o', 'r'], [], by rw [hname]; decide +kernel, by decide⟩
  have haddress : Text.Occurs (Text.trim "ada@") q.email :=
    ⟨[], "maze.example".toList, by rw [hemail]; decide +kernel, by decide⟩
  obtain ⟨⟨tracks, htracks, hshown⟩, -⟩ := search_finds .disabled furnished [] hrun hnone hridor
  obtain ⟨-, -, hpages⟩ := search_finds .disabled furnished [] hrun hnone hada
  refine ⟨hrun, hridor, ⟨tracks, htracks, ?_⟩, hada, ?_⟩
  · obtain ⟨t, ht, hread⟩ := hshown r hr hcorridor
    exact ⟨t, ht, (congrArg Track.name (TrackRow.eq_of_read hread)).trans hname⟩
  · have hrole : ∀ x ∈ (none : Option Role), q.role = x := fun x hx =>
      absurd hx (Option.not_mem_none x)
    obtain ⟨i, hi, hanswer⟩ := hpages none 20 "" .ascending (by decide) q hq hrole
      (Or.inr (Or.inl haddress))
    have hcount : pageCount (20 : UInt32).toNat
        ((((Store.empty .disabled).after furnished).shared []).database.usersAccepted
          { search := some "ada@" }).length = 1 := by
      decide +kernel
    have hfirst : (0 : UInt32).toNat = i := by
      rw [hcount] at hi
      exact (Nat.lt_one_iff.mp hi).symm
    obtain ⟨p, hp, u, hu, hread⟩ := hanswer 0 hfirst (by decide)
    exact ⟨p, hp, u, hu, (congrArg User.id (UserRow.eq_of_read hread)).trans hid⟩

/-- A track whose name begins with an accent. -/
def schoolRun : List Event :=
  [⟨⟨1772366400, 0⟩,
    .tracks (.create ⟨"École", Grid.corridor.render, 0, 0, .east, none, none⟩ {})⟩]

/-- Whoever searches for the whole name of the one track there is finds nothing, and small letters
    do not help. -/
theorem search_accented :
    let s := (Store.empty .disabled).after schoolRun
    (∃ r ∈ s.database.activeTracks, r.name = "École") ∧ Text.Occurs (Text.trim "École") "École"
      ∧ (Tracks.search "École").answer s = .ok [] ∧ (Tracks.search "école").answer s = .ok [] := by
  refine ⟨?_, ⟨[], [], ?_, List.not_mem_nil⟩, ?_, ?_⟩
  · decide +kernel
  · decide +kernel
  · decide +kernel
  · decide +kernel

end RobotMaze
