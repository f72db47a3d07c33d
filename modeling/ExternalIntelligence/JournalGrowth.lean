import Mathlib.Data.List.Perm.Subperm
import Mathlib.Data.List.Sort
import ExternalIntelligence.ChangesetApply

namespace ExternalIntelligence
set_option autoImplicit true

open scoped List

/-- A file that a call added holds an event that append_event admits. -/
def HoldsAdmitted (P : Platform) (content : Value) : Prop :=
  ∃ event admitted, admitEvent P event = .ok admitted ∧ content = admitted.content

/-- A disk with the files of another one and with events behind them. -/
def Disk.Grows (P : Platform) (start later : Disk) : Prop :=
  ∃ added, later.files = start.files ++ added ∧ ∀ file ∈ added, HoldsAdmitted P file.2

namespace Disk.Grows

theorem of_files {start later : Disk} (h : later.files = start.files) : Disk.Grows P start later :=
  ⟨[], by rw [h, List.append_nil], fun _ hm => absurd hm List.not_mem_nil⟩

theorem refl (disk : Disk) : Disk.Grows P disk disk :=
  of_files rfl

theorem trans (h : Disk.Grows P a b) (h' : Disk.Grows P b c) : Disk.Grows P a c := by
  obtain ⟨added, hb, hadded⟩ := h
  obtain ⟨added', hc, hadded'⟩ := h'
  refine ⟨added ++ added', by rw [hc, hb, List.append_assoc], ?_⟩
  intro file hm
  obtain hm | hm := List.mem_append.1 hm
  · exact hadded file hm
  · exact hadded' file hm

theorem lookup {start later : Disk} (h : Disk.Grows P start later)
    (hl : start.files.lookup path = some content) : later.files.lookup path = some content := by
  obtain ⟨added, hfiles, _⟩ := h
  rw [hfiles, List.lookup_append, hl]
  rfl

end Disk.Grows

theorem storeEvent_grows (hadmitted : admitEvent P event = .ok admitted) (directory : List String)
    (disk : Disk) (stops : Bool) :
    Disk.Grows P disk (storeEvent P directory disk admitted stops).2 := by
  rw [storeEvent]
  split
  · exact .refl disk
  · rename_i target _
    split
    · split
      · exact .refl disk
      · split <;> exact .refl disk
    · rename_i habsent
      split
      · exact .refl disk
      · split
        · exact .refl disk
        · have hkey : target ∉ Dict.keys disk.files := fun hm =>
            habsent (Dict.lookup_isSome_iff.2 hm)
          refine ⟨[(target, admitted.content)], Dict.set_of_notMem hkey, ?_⟩
          intro file hm
          rw [List.mem_singleton.1 hm]
          exact ⟨event, admitted, hadmitted, rfl⟩

theorem appendEvent_grows (P : Platform) (root : List String) (disk : Disk) (event : Event)
    (stops : Bool) : Disk.Grows P disk (appendEvent P root disk event stops).2 := by
  rw [appendEvent]
  split
  · exact .refl disk
  · rename_i admitted hadmitted
    split
    · exact .refl disk
    · exact .refl disk
    · split
      · exact .refl disk
      · rename_i partition _
        have hdirectories : Disk.Grows P disk (disk.makeDirectories (root ++ partition)) :=
          .of_files rfl
        exact hdirectories.trans (storeEvent_grows hadmitted _ _ _)

theorem appendEvents_grows (P : Platform) (root : List String) (disk : Disk)
    (events : List Event) (stops : Option Nat) :
    Disk.Grows P disk (appendEvents P root disk events stops).2 := by
  induction events generalizing disk stops with
  | nil => exact .refl disk
  | cons event events ih =>
    have hfirst := appendEvent_grows P root disk event (stops == some 0)
    rw [appendEvents]
    split
    · rename_i he
      rw [he] at hfirst
      exact hfirst
    · rename_i he
      rw [he] at hfirst
      exact hfirst.trans (ih _ _)

theorem applyChangeset_grows (P : Platform) (S : ChangesetSettings) (disk : Disk)
    (value : ChangeSet) (stops : Option Nat) :
    Disk.Grows P disk (applyChangeset P S disk value stops).2 := by
  rw [applyChangeset]
  split
  · exact .refl disk
  · split
    · exact .refl disk
    · split
      · exact .refl disk
      · rename_i validation _
        split
        · exact .refl disk
        · split
          · exact .refl disk
          · rename_i events _
            have hbuilt := appendEvents_grows P S.eventDir disk
              (events ++ [markerEvent P value (events.map Event.eventId)]) stops
            rw [Prod.map, applyBuilt]
            dsimp +zetaHave only
            split
            all_goals
              rename_i he
              rw [he] at hbuilt
              exact hbuilt

/-- What a reading of several files gives, file by file. -/
theorem map_some_of_mapM {f : α → Except ε β} {xs : List α} {ys : List β}
    (h : xs.mapM f = .ok ys) :
    ys.map some = xs.map fun x => (f x).toOption := by
  induction xs generalizing ys with
  | nil =>
    cases h
    rfl
  | cons x xs ih =>
    rw [List.mapM_cons] at h
    obtain ⟨y, hy, h⟩ := Except.bind_eq_ok.1 h
    obtain ⟨rest, hrest, h⟩ := Except.bind_eq_ok.1 h
    cases h
    rw [List.map_cons, List.map_cons, ih hrest, hy]
    rfl

section

variable {P : Platform} {start later : Disk}

theorem Disk.Grows.jsonPaths_subperm (h : Disk.Grows P start later) (root : List String) :
    jsonPaths root start <+~ jsonPaths root later := by
  obtain ⟨added, hfiles, _⟩ := h
  have hkeys : Dict.keys start.files <+ Dict.keys later.files := by
    rw [hfiles, Dict.keys, Dict.keys, List.map_append]
    exact List.sublist_append_left _ _
  rw [jsonPaths, jsonPaths]
  exact (List.perm_insertionSort _ _).subperm.trans
    ((hkeys.filter _).subperm.trans (List.perm_insertionSort _ _).symm.subperm)

theorem Disk.Grows.readEvent_eq (h : Disk.Grows P start later) (bounded : Bool)
    (hm : path ∈ jsonPaths root start) :
    readEvent P bounded later path = readEvent P bounded start path := by
  rw [jsonPaths, (List.perm_insertionSort _ _).mem_iff, List.mem_filter] at hm
  obtain ⟨content, hl⟩ := Option.isSome_iff_exists.1 (Dict.lookup_isSome_iff.2 hm.1)
  rw [readEvent, readEvent, hl, h.lookup hl]

/-- What a reader gets from a journal it gets from every later one. -/
theorem Disk.Grows.events_subperm (h : Disk.Grows P start later)
    (hseen : (jsonPaths root start).mapM (readEvent P false start) = .ok seen)
    (hnow : (jsonPaths root later).mapM (readEvent P false later) = .ok now) : seen <+~ now := by
  rw [← List.map_subperm_map_iff (Option.some_injective _), map_some_of_mapM hseen,
    map_some_of_mapM hnow]
  have hsame : (jsonPaths root start).map (fun path => (readEvent P false start path).toOption) =
      (jsonPaths root start).map fun path => (readEvent P false later path).toOption :=
    List.map_congr_left fun path hm => congrArg _ (h.readEvent_eq false hm).symm
  rw [hsame]
  obtain ⟨paths, hperm, hsub⟩ := h.jsonPaths_subperm root
  exact (hperm.map _).symm.subperm.trans (hsub.map _).subperm

/-- An event that a journal shows is shown by every journal with more events. -/
theorem visibleEvents_subperm (h : seen <+~ now) :
    visibleEvents P seen <+~ visibleEvents P now := by
  have hcommitted : ∀ changeset ∈ committedChangesets P seen,
      changeset ∈ committedChangesets P now := by
    intro changeset hm
    obtain ⟨marker, hmarker, hnamed⟩ := List.mem_filterMap.1 hm
    exact List.mem_filterMap.2 ⟨marker, (h.filter _).subset hmarker, hnamed⟩
  apply List.Subperm.trans _ (h.filter _)
  apply List.Sublist.subperm
  apply List.monotone_filter_right
  intro event hvisible
  rw [Bool.or_eq_true] at hvisible ⊢
  obtain hmarker | hall := hvisible
  · exact .inl hmarker
  · right
    rw [Option.all_eq_true] at hall ⊢
    intro changeset hnamed
    exact List.contains_iff_mem.2 (hcommitted _ (List.contains_iff_mem.1 (hall _ hnamed)))

end

/-- A call that writes to the journal, with the place at which it stops. -/
inductive JournalCall where
  | append (event : Event) (stops : Bool)
  | apply (value : ChangeSet) (stops : Option Nat)

def journalStep (P : Platform) (S : ChangesetSettings) (disk : Disk) : JournalCall → Disk
  | .append event stops => (appendEvent P S.eventDir disk event stops).2
  | .apply value stops => (applyChangeset P S disk value stops).2

theorem journalStep_grows (P : Platform) (S : ChangesetSettings) (disk : Disk)
    (call : JournalCall) : Disk.Grows P disk (journalStep P S disk call) := by
  cases call with
  | append event stops => exact appendEvent_grows P S.eventDir disk event stops
  | apply value stops => exact applyChangeset_grows P S disk value stops

theorem journal_grows (P : Platform) (S : ChangesetSettings) (start : Disk)
    (run : List JournalCall) : Disk.Grows P start (run.foldl (journalStep P S) start) := by
  induction run generalizing start with
  | nil => exact .refl start
  | cons call run ih => exact (journalStep_grows P S start call).trans (ih _)

/-- No call of append_event or apply_changeset, whether it returns, raises or is killed, changes or
removes a file; each file it adds holds an admitted event, and what a reader has once seen, with or
without the events of unfinished changesets, every later reader that reads the journal sees. -/
theorem journal_only_grows (P : Platform) (S : ChangesetSettings) (start : Disk)
    (run : List JournalCall) :
    (∃ added, (run.foldl (journalStep P S) start).files = start.files ++ added ∧
      ∀ file ∈ added, HoldsAdmitted P file.2) ∧
    ∀ includeUncommitted seen now,
      iterEvents P S.eventDir start includeUncommitted = .ok seen →
      iterEvents P S.eventDir (run.foldl (journalStep P S) start) includeUncommitted = .ok now →
      seen <+~ now := by
  have hgrows : Disk.Grows P start (run.foldl (journalStep P S) start) :=
    journal_grows P S start run
  apply And.intro hgrows
  intro includeUncommitted seen now hseen hnow
  obtain ⟨before, hbefore, hseen⟩ := Except.bind_eq_ok.1 hseen
  obtain ⟨after, hafter, hnow⟩ := Except.bind_eq_ok.1 hnow
  have hsub := hgrows.events_subperm hbefore hafter
  have hsorted : before.insertionSort eventLe <+~ after.insertionSort eventLe :=
    (List.perm_insertionSort _ _).subperm.trans
      (hsub.trans (List.perm_insertionSort _ _).symm.subperm)
  cases hseen
  cases hnow
  cases includeUncommitted with
  | true => exact hsorted
  | false => exact visibleEvents_subperm hsorted

end ExternalIntelligence
