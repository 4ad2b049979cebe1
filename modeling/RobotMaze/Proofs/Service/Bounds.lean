import RobotMaze.Proofs.Service.Dated
import RobotMaze.Proofs.Service.Pages
import RobotMaze.Proofs.Time.Bound
import RobotMaze.Web.Listing

/-! # Bounds of time

    A listing between two instants compares the stamps of the bounds with the
    stored texts.  Texts of years with four digits are ordered as the instants are,
    and a year with a minus sign comes before them.  But a year with a plus sign does
    so too.

    * `Time.within` — an instant lies within bounds;
    * `Time.IsStamp.allows_within` — the texts say so too, as long as no bound is
      later than the year 9999;
    * `auditAccepted_within`, `sessionsAccepted_within` — so a filter with bounds is
      the one without them, and the bounds;
    * `answers_within` — and the listings show what lies within the bounds;
    * `list_of_late_since`, `list_of_late_upTo` — a bound that is later hides nothing
      if it is the lower one, and everything if it is the upper one. -/

namespace RobotMaze

open Time (Instant)
open Database (AuditFilter SessionFilter)

/-- Whether an instant lies within bounds, both included. -/
def Time.within (since upTo : Option Instant) (t : Instant) : Bool :=
  allows since (fun u => u ≤ t) && allows upTo (fun u => t ≤ u)

/-- A bound that is compared as the instant that it is: of no year after 9999, and on no leap second
    within a minute. -/
def Time.Instant.IsBound (t : Instant) : Prop := t.date.year ≤ 9999 ∧ t.IsRegular

instance (t : Instant) : Decidable t.IsBound :=
  inferInstanceAs (Decidable (t.date.year ≤ 9999 ∧ t.IsRegular))

/-! ## Texts -/

section Texts

variable {text : String} {since upTo : Option Instant}

/-- Texts are within bounds if what is read of them is within what is read of the bounds. -/
theorem Time.IsStamp.allows_stamped (h : IsStamp Instant.HasFourDigitYear text)
    (hsince : ∀ t ∈ since, t.date.year ≤ 9999) (hupTo : ∀ t ∈ upTo, t.date.year ≤ 9999) :
    (allows since (fun t => t.stamp ≤ text) && allows upTo (fun t => text ≤ t.stamp))
      = timeSatisfies (within (since.map Instant.stamped) (upTo.map Instant.stamped)) text := by
  obtain ⟨t, hyear, rfl⟩ := h
  have hlower : allows since (fun u => u.stamp ≤ t.stamp)
      = allows (since.map Instant.stamped) (fun u => u ≤ t.stamped) := by
    cases since with
    | none => simp only [allows, Option.map_none]
    | some u =>
        simp only [allows, Option.map_some, decide_eq_decide]
        exact Instant.stamp_le_iff_of_year_le hyear (hsince u rfl)
  have hupper : allows upTo (fun u => t.stamp ≤ u.stamp)
      = allows (upTo.map Instant.stamped) (fun u => t.stamped ≤ u) := by
    cases upTo with
    | none => simp only [allows, Option.map_none]
    | some u =>
        simp only [allows, Option.map_some, decide_eq_decide]
        exact Instant.le_stamp_iff_of_year_le hyear (hupTo u rfl)
  simp only [timeSatisfies, readTime_stamp hyear, within, hlower, hupper]

theorem stamped_of_isBound {bound : Option Instant} (h : ∀ t ∈ bound, t.IsBound) :
    bound.map Instant.stamped = bound.map Instant.truncate := by
  cases bound with
  | none => rfl
  | some t => exact congrArg some (h t rfl).2.stamped_eq

theorem Time.IsStamp.allows_within (h : IsStamp Instant.HasFourDigitYear text)
    (hsince : ∀ t ∈ since, t.IsBound) (hupTo : ∀ t ∈ upTo, t.IsBound) :
    (allows since (fun t => t.stamp ≤ text) && allows upTo (fun t => text ≤ t.stamp))
      = timeSatisfies (within (since.map Instant.truncate) (upTo.map Instant.truncate)) text := by
  rw [h.allows_stamped (fun t ht => (hsince t ht).1) fun t ht => (hupTo t ht).1,
    stamped_of_isBound hsince, stamped_of_isBound hupTo]

end Texts

/-! ## Filters -/

section Filters

variable {s : Store} {since upTo : Option Instant}
  (hsince : ∀ t ∈ since, t.IsBound) (hupTo : ∀ t ∈ upTo, t.IsBound)
include hsince hupTo

/-- The entries that a filter with bounds accepts are those of them within the bounds that it
    accepts without bounds. -/
theorem auditAccepted_within (h : AuditLog.Dated Instant.HasFourDigitYear s) (f : AuditFilter) :
    s.database.auditAccepted { f with since, upTo }
      = (s.database.auditAccepted { f with since := none, upTo := none }).filter fun r =>
        timeSatisfies (Time.within (since.map Instant.truncate) (upTo.map Instant.truncate))
          r.timestamp := by
  rw [Database.auditAccepted, Database.auditAccepted, List.filter_filter]
  refine List.filter_congr fun r hr => ?_
  rw [← (h r hr).allows_within hsince hupTo, Bool.and_comm]
  simp only [AuditFilter.accepts, allows, Bool.and_true, Bool.and_assoc]

theorem sessionsAccepted_within (h : Games.Dated Instant.HasFourDigitYear s.database.sessions)
    (f : SessionFilter) :
    s.database.sessionsAccepted { f with since, upTo }
      = (s.database.sessionsAccepted { f with since := none, upTo := none }).filter fun r =>
        timeSatisfies (Time.within (since.map Instant.truncate) (upTo.map Instant.truncate))
          r.startTime := by
  rw [Database.sessionsAccepted, Database.sessionsAccepted, List.filter_filter]
  refine List.filter_congr fun r hr => ?_
  rw [← (h r hr).allows_within hsince hupTo, Bool.and_comm]
  simp only [SessionFilter.accepts, allows, Bool.and_true, Bool.and_assoc]

end Filters

/-! ## Listings -/

theorem AuditLog.list_answer (f : AuditFilter) (s : Store) :
    (list f).answer s = (s.database.listAudit f).mapM AuditRow.read :=
  answer_rows (fun _ => rfl) _

/-- Whatever a store holds, as long as its times are of years with four digits: between two bounds
    each listing shows what its filter accepts without them and what lies within them, and the
    bounds that are written in a query are of this kind, unless their year is later than 9999. -/
theorem answers_within {s : Store} (haudit : AuditLog.Dated Instant.HasFourDigitYear s)
    (hgames : Games.Dated Instant.HasFourDigitYear s.database.sessions)
    {since upTo : Option Instant} (hsince : ∀ t ∈ since, t.IsBound)
    (hupTo : ∀ t ∈ upTo, t.IsBound) :
    let isWithin := timeSatisfies
      (Time.within (since.map Instant.truncate) (upTo.map Instant.truncate))
    (∀ f : AuditFilter,
      let found := (s.database.auditAccepted { f with since := none, upTo := none }).filter
        fun r => isWithin r.timestamp
      (AuditLog.list { f with since, upTo }).answer s
          = (newestFirst AuditRow.timestamp found).mapM AuditRow.read
        ∧ ∀ (n : UInt32) (sortBy : String) (order : SortOrder), 0 < n →
          Paged AuditRow.read (NewestFirst AuditRow.timestamp) found
            (newestFirst AuditRow.timestamp found) n
            (fun j => (AuditLog.page { f with since, upTo } ⟨j, n, sortBy, order⟩).answer s))
    ∧ (∀ f : SessionFilter,
      let found := (s.database.sessionsAccepted { f with since := none, upTo := none }).filter
        fun r => isWithin r.startTime
      ∀ (n : UInt32) (sortBy : String) (order : SortOrder), 0 < n →
        Paged SessionRow.read (NewestFirst SessionRow.startTime) found
          (newestFirst SessionRow.startTime found) n
          (fun j => (Games.page { f with since, upTo } ⟨j, n, sortBy, order⟩).answer s))
    ∧ ∀ side text t, Web.dateBound side text = .ok t → t.date.year ≤ 9999 → t.IsBound := by
  intro isWithin
  refine ⟨fun f => ?_, fun f => ?_, fun side text t hbound hyear => ⟨hyear, ?_⟩⟩
  · have hfound := auditAccepted_within hsince hupTo haudit f
    refine ⟨?_, fun n sortBy order hn => ?_⟩
    · rw [AuditLog.list_answer, Database.listAudit, hfound]
    · have hpages := (pages_partition s hn sortBy order).2.2.2 { f with since, upTo }
      rw [hfound] at hpages
      exact hpages
  · intro found n sortBy order hn
    have hpages := (pages_partition s hn sortBy order).2.2.1 { f with since, upTo }
    rw [sessionsAccepted_within hsince hupTo hgames f] at hpages
    exact hpages
  · simp only [Web.dateBound] at hbound
    split at hbound
    · rename_i u hread
      exact Except.ok.inj hbound ▸ Instant.isRegular_of_ofBound? hread
    · cases hbound

/-- A note is made before midnight, and another one after it. -/
def aroundMidnight : List Event :=
  [⟨⟨1772323199, 999999999⟩, .audit (.note (Actor.system.event "before" .read "TRACK"))⟩,
   ⟨⟨1772323200, 0⟩, .audit (.note (Actor.system.event "after" .read "TRACK"))⟩]

theorem dated_aroundMidnight :
    AuditLog.Dated Instant.HasFourDigitYear ((Store.empty .disabled).after aroundMidnight) :=
  AuditLog.dated_shared .disabled aroundMidnight [] (by decide) fun _ h => nomatch h

/-- From the midnight on there is the later of the two. -/
theorem answers_within_midnight :
    let s := (Store.empty .disabled).after aroundMidnight
    let since : Option Instant := some (.ofDayNumber 20513)
    AuditLog.Dated Instant.HasFourDigitYear s
      ∧ Games.Dated Instant.HasFourDigitYear s.database.sessions ∧ (∀ t ∈ since, t.IsBound)
      ∧ Web.dateBound .lower "2026-03-01" = .ok (.ofDayNumber 20513)
      ∧ ((AuditLog.list { since }).answer s).toOption.map (fun entries =>
          entries.map AuditEntry.action) = some ["after"] := by
  have hgames : Games.Dated Instant.HasFourDigitYear
      ((Store.empty .disabled).after aroundMidnight).database.sessions := by
    have hnone : ((Store.empty .disabled).after aroundMidnight).database.sessions.rows = [] := by
      decide +kernel
    intro r hr
    rw [hnone] at hr
    cases hr
  have hsince : ∀ t ∈ some (Instant.ofDayNumber 20513), t.IsBound := by
    intro t ht
    obtain rfl := Option.some.inj ht
    decide
  have hupTo : ∀ t ∈ (none : Option Instant), t.IsBound := fun t ht => by cases ht
  obtain ⟨hlisted, -, -⟩ := answers_within dated_aroundMidnight hgames hsince hupTo
  refine ⟨dated_aroundMidnight, hgames, hsince, by decide +kernel, ?_⟩
  rw [(hlisted {}).1]
  decide +kernel

/-! ## Late bounds -/

section Late

variable {s : Store} (h : AuditLog.Dated Instant.HasFourDigitYear s) {t : Instant}
  (hlate : 9999 < t.date.year)
include h hlate

/-- As a text, a bound after the year 9999 comes before all that is stored. -/
theorem AuditLog.lateBound_lt {r : AuditRow} (hr : r ∈ s.database.audit.rows) :
    t.stamp < r.timestamp := by
  obtain ⟨u, hyear, hstamp⟩ := h r hr
  rw [hstamp]
  exact Instant.stamp_lt_stamp_of_signed (fun hyear => Int.not_lt.mpr hyear.2 hlate) hyear

theorem AuditLog.list_of_late_since (f : AuditFilter) :
    (list { f with since := some t }).answer s = (list { f with since := none }).answer s := by
  have hsame : s.database.auditAccepted { f with since := some t }
      = s.database.auditAccepted { f with since := none } := by
    refine List.filter_congr fun r hr => ?_
    have hle : t.stamp ≤ r.timestamp := String.not_lt.mp (String.lt_asymm (lateBound_lt h hlate hr))
    simp only [AuditFilter.accepts, allows, hle, decide_true]
  rw [list_answer, list_answer, Database.listAudit, Database.listAudit, hsame]

theorem AuditLog.list_of_late_upTo (f : AuditFilter) :
    (list { f with upTo := some t }).answer s = .ok [] := by
  have hnone : s.database.auditAccepted { f with upTo := some t } = [] := by
    refine List.filter_eq_nil_iff.mpr fun r hr => ?_
    have hle : ¬ r.timestamp ≤ t.stamp := String.not_le.mpr (lateBound_lt h hlate hr)
    simp only [AuditFilter.accepts, allows, hle, decide_false, Bool.and_false, Bool.false_eq_true,
      not_false_eq_true]
  rw [list_answer, Database.listAudit, hnone, newestFirst, List.mergeSort_nil]
  rfl

end Late

/-- The last second of the year 9999 an hour west of Greenwich is a bound under which nothing is
    listed, though all that is stored is earlier. -/
theorem list_lastSecond :
    let s := (Store.empty .disabled).after aroundMidnight
    ∃ t, Web.dateBound .upper "9999-12-31T23:59:59-01:00" = .ok t
      ∧ (s.database.audit.rows.filter fun r =>
          timeSatisfies (Time.within none (some t.truncate)) r.timestamp).length = 2
      ∧ (AuditLog.list { upTo := some t }).answer s = .ok [] := by
  refine ⟨⟨253402304399, 0⟩, by decide +kernel, by decide +kernel, ?_⟩
  exact AuditLog.list_of_late_upTo dated_aroundMidnight (by decide) {}

end RobotMaze
