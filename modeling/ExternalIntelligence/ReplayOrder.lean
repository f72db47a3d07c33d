import ExternalIntelligence.AppendRead
import ExternalIntelligence.ChangesetRuns

namespace ExternalIntelligence
set_option autoImplicit true

/-- The instant that a timestamp denotes. -/
def instantOf (P : Platform) (text : String) : Int :=
  ((P.fromisoformat text).map Moment.instant).getD 0

/-- Events come in the order of the instants that they occurred at. -/
def Chronological (P : Platform) (events : List Event) : Prop :=
  events.Pairwise fun a b => instantOf P a.occurredAt ≤ instantOf P b.occurredAt

/-- No timestamp comes before another one as a text and after it as an instant. -/
def SpelledInOrder (P : Platform) (events : List Event) : Prop :=
  ∀ a ∈ events, ∀ b ∈ events, a.occurredAt < b.occurredAt →
    instantOf P a.occurredAt ≤ instantOf P b.occurredAt

instance (P : Platform) (events : List Event) : Decidable (Chronological P events) :=
  inferInstanceAs (Decidable (events.Pairwise _))

instance (P : Platform) (events : List Event) : Decidable (SpelledInOrder P events) :=
  inferInstanceAs (Decidable (∀ a ∈ events, ∀ b ∈ events, a.occurredAt < b.occurredAt →
    instantOf P a.occurredAt ≤ instantOf P b.occurredAt))

theorem SpelledInOrder.mono (h : SpelledInOrder P events)
    (hsub : ∀ a ∈ fewer, ∃ b ∈ events, a.occurredAt = b.occurredAt) : SpelledInOrder P fewer := by
  intro a ha b hb hlt
  obtain ⟨a', ha', hea⟩ := hsub a ha
  obtain ⟨b', hb', heb⟩ := hsub b hb
  rw [hea, heb] at hlt ⊢
  exact h a' ha' b' hb' hlt

/-- Events in the order of their texts are chronological when the texts compare as the instants. -/
theorem chronological_iff (hsorted : events.Pairwise eventLe) :
    Chronological P events ↔ SpelledInOrder P events := by
  unfold Chronological
  induction events with
  | nil =>
    apply iff_of_true List.Pairwise.nil
    intro a ha
    exact absurd ha List.not_mem_nil
  | cons event events ih =>
    obtain ⟨hfirst, hrest⟩ := List.pairwise_cons.1 hsorted
    rw [List.pairwise_cons, ih hrest]
    constructor
    · intro ⟨hlater, hin⟩ a ha b hb hlt
      obtain rfl | ha := List.mem_cons.1 ha
      · obtain rfl | hb := List.mem_cons.1 hb
        · exact absurd hlt (lt_irrefl _)
        · exact hlater b hb
      · obtain heq | hb := List.mem_cons.1 hb
        · rw [heq] at hlt
          obtain hle | ⟨heq, _⟩ := hfirst a ha
          · exact absurd hlt (lt_asymm hle)
          · rw [heq] at hlt
            exact absurd hlt (lt_irrefl _)
        · exact hin a ha b hb hlt
    · intro hin
      constructor
      · intro b hb
        obtain hlt | ⟨heq, _⟩ := hfirst b hb
        · exact hin event List.mem_cons_self b (List.mem_cons_of_mem _ hb) hlt
        · rw [heq]
      · intro a ha b hb hlt
        exact hin a (List.mem_cons_of_mem _ ha) b (List.mem_cons_of_mem _ hb) hlt

theorem iterEvents_sorted (h : iterEvents P root disk includeUncommitted = .ok events) :
    events.Pairwise eventLe := by
  unfold iterEvents at h
  obtain ⟨stored, _, h⟩ := Except.bind_eq_ok.1 h
  cases h
  have hsorted := List.pairwise_insertionSort eventLe stored
  split
  · exact hsorted
  · exact hsorted.filter _

theorem iterEvents_visible (h : iterEvents P root disk true = .ok events) :
    iterEvents P root disk false = .ok (visibleEvents P events) := by
  unfold iterEvents at h ⊢
  obtain ⟨stored, hstored, h⟩ := Except.bind_eq_ok.1 h
  cases h
  rw [hstored]
  rfl

/-- Accepted events are replayed in the order of their instants just when no two of them have
timestamps whose texts compare the other way round. -/
theorem replay_chronological_iff (P : Platform) (hP : P.HexDigests) (root : List String) :
    (∀ disk includeUncommitted events,
      iterEvents P root disk includeUncommitted = .ok events →
      (Chronological P events ↔ SpelledInOrder P events)) ∧
    ∀ start calls, EmptyRoot root start → (∀ call ∈ calls, call.event.Plain) →
      ∃ events, iterEvents P root ((journal P root).after start calls) true = .ok events ∧
        iterEvents P root ((journal P root).after start calls) false =
          .ok (visibleEvents P events) ∧
        (Chronological P events ↔ SpelledInOrder P (acceptedEvents P root start calls)) ∧
        (SpelledInOrder P (acceptedEvents P root start calls) →
          Chronological P (visibleEvents P events)) := by
  constructor
  · intro disk includeUncommitted events h
    exact chronological_iff (iterEvents_sorted h)
  · intro start calls hstart hplain
    obtain ⟨log, hlog, hmem, hcovered⟩ := after_represents hP (hstart.represents P) hplain
    rw [List.nil_append] at hlog
    obtain ⟨events, hiter, hperm⟩ := hlog.iterEvents_entries hP
    have hvisible := iterEvents_visible hiter
    have haccepted : ∀ a ∈ events, ∃ b ∈ acceptedEvents P root start calls,
        a.occurredAt = b.occurredAt := by
      intro a ha
      have hentry := hperm.mem_iff.1 (List.mem_map_of_mem (f := Event.entry) ha)
      obtain ⟨p, hp, he⟩ := List.mem_map.1 hentry
      exact ⟨p.2, hmem p hp, (sameEntry_of_entry he).occurredAt.symm⟩
    have hread : ∀ b ∈ acceptedEvents P root start calls, ∃ a ∈ events,
        b.occurredAt = a.occurredAt := by
      intro b hb
      obtain ⟨p, hp, he⟩ := hcovered b hb
      rw [List.nil_append] at hp
      have hentry := hperm.mem_iff.2 (List.mem_map_of_mem (f := fun q => q.2.entry) hp)
      obtain ⟨a, ha, hea⟩ := List.mem_map.1 hentry
      exact ⟨a, ha, (sameEntry_of_entry (hea.trans he)).occurredAt.symm⟩
    refine ⟨events, hiter, hvisible, ?_, ?_⟩
    · rw [chronological_iff (iterEvents_sorted hiter)]
      exact ⟨fun h => h.mono hread, fun h => h.mono haccepted⟩
    · intro h
      rw [chronological_iff (iterEvents_sorted hvisible)]
      apply h.mono
      intro a ha
      exact haccepted a (List.mem_of_mem_filter ha)

/-- Reads a timestamp to the second as `sampleMoment` does, and one with six digits after the
second. -/
def fractionMoment (s : List Char) : Option Moment :=
  if s.drop 19 = ['Z'] then sampleMoment s
  else do
    let fraction ← decimal ((s.drop 20).take 6)
    let moment ← sampleMoment (s.take 19 ++ ['Z'])
    if (s.drop 19).head? = some '.' ∧ s.drop 26 = ['Z'] then
      some { moment with instant := moment.instant + fraction }
    else none

def fractionPlatform : Platform :=
  { samplePlatform with fromisoformat := fun text => fractionMoment (Text.chars text) }

theorem fractionPlatform_hexDigests : fractionPlatform.HexDigests :=
  samplePlatform_hexDigests

/-- Appends a note that occurred at a time. -/
def noteCall (eventId occurredAt : String) : AppendCall :=
  callOf { sampleNote with eventId, occurredAt } List.nodup_nil List.nodup_nil

theorem noteCall_plain (hid : '/' ∉ Text.chars eventId) :
    (noteCall eventId occurredAt).event.Plain := by
  constructor
  · exact fun _ => hid
  · intro hversion
    exact absurd hversion (by decide : ¬ (2 : Int) ≤ 1)

theorem replay_chronological_seconds : ∃ events,
    iterEvents fractionPlatform ["events"] ((journal fractionPlatform ["events"]).after {}
      [noteCall "evt_a" "2026-07-20T10:00:01Z", noteCall "evt_b" "2026-07-20T10:00:00Z"]) true =
        .ok events ∧ Chronological fractionPlatform events := by
  have hreplay := replay_chronological_iff fractionPlatform fractionPlatform_hexDigests ["events"]
  obtain ⟨events, hiter, _, hchronological, _⟩ := hreplay.2 {}
    [noteCall "evt_a" "2026-07-20T10:00:01Z", noteCall "evt_b" "2026-07-20T10:00:00Z"]
    ⟨List.nodup_nil, fun path hp => absurd hp List.not_mem_nil⟩ (by
      intro call hc
      simp only [List.mem_cons, List.not_mem_nil, or_false] at hc
      obtain rfl | rfl := hc
      · exact noteCall_plain (by decide)
      · exact noteCall_plain (by decide))
  exact ⟨events, hiter, hchronological.2 (by decide)⟩

/-- An event half a second later is replayed before the one on the second. -/
theorem replay_not_chronological :
    ((journal fractionPlatform ["events"]).output {} []
      (noteCall "evt_a" "2026-07-20T10:00:00Z")).isOk = true ∧
    ((journal fractionPlatform ["events"]).output {} [noteCall "evt_a" "2026-07-20T10:00:00Z"]
      (noteCall "evt_b" "2026-07-20T10:00:00.500000Z")).isOk = true ∧
    ∃ events, iterEvents fractionPlatform ["events"] ((journal fractionPlatform ["events"]).after {}
      [noteCall "evt_a" "2026-07-20T10:00:00Z",
        noteCall "evt_b" "2026-07-20T10:00:00.500000Z"]) true = .ok events ∧
      events.map Event.eventId = ["evt_b", "evt_a"] ∧ ¬ Chronological fractionPlatform events := by
  refine ⟨by decide, by decide, ?_⟩
  apply Except.exists_ok_of_decide
  decide +kernel

end ExternalIntelligence
