import ExternalIntelligence.CloseoutInventory
import ExternalIntelligence.RoundRobin

namespace ExternalIntelligence
set_option autoImplicit true

/-- What a handler writes of a record, or finishes it with. -/
structure RecordUpdate where
  value : CloseoutRecord
  finished : Bool := false
deriving DecidableEq, Repr

namespace CloseoutStore

/-- A handler reads its record under the lock before it writes it, and none of them puts a record in
work over a terminal one. -/
def update (P : Platform) (s : CloseoutStore) (u : RecordUpdate) : CloseoutStore :=
  match s.readRecord P u.value.recordId with
  | .ok (some stored) =>
    if u.value.status ∈ CloseoutStatus.terminal ∨ stored.status ∉ CloseoutStatus.terminal then
      if u.finished then (s.finish P u.value).1 else (s.writeRecord P u.value).1
    else s
  | _ => s

def updates (P : Platform) (s : CloseoutStore) (us : List RecordUpdate) : CloseoutStore :=
  us.foldl (update P) s

/-- A record that recovery is given is handled, and then the cursor is advanced to it. -/
def recoverRecord (P : Platform) (handled : List RecordUpdate) (s : CloseoutStore)
    (recordId : String) : CloseoutStore :=
  ((s.updates P (handled.filter (·.value.recordId == recordId))).advanceCursor P recordId).1

/-- One call of the recovery and the ids it was given. How its handlers fare is decided outside the
store: `handled` lists what they write, each for its own record. -/
def recoverCloseoutAssociations (P : Platform) (maxRecords : Nat) (handled : List RecordUpdate)
    (s : CloseoutStore) : CloseoutStore × List String :=
  match s.activeRecords P maxRecords with
  | .error _ => (s, [])
  | .ok records =>
    ((records.map (·.recordId)).foldl (recoverRecord P handled) s, records.map (·.recordId))

end CloseoutStore

/-- A call of the recovery, after what foreground calls have written since the last one. -/
structure RecoveryRound where
  foreground : List RecordUpdate := []
  handled : List RecordUpdate := []

/-- A foreground call has finished a record since the last call of the recovery. -/
def RecoveryRound.finishes (round : RecoveryRound) : Bool :=
  round.foreground.any (·.finished)

def recoveryMachine (P : Platform) (maxRecords : Nat) :
    Machine CloseoutStore RecoveryRound (List String) :=
  ⟨fun s round => CloseoutStore.recoverCloseoutAssociations P maxRecords round.handled
    (s.updates P round.foreground)⟩

namespace CloseoutStore

variable {P : Platform} {s : CloseoutStore} {active : List String} {last : Option String}
  {id x : String} {record value : CloseoutRecord} {u : RecordUpdate} {us handled : List RecordUpdate}

theorem Established.readRecord_listed (h : Established P s active last)
    (hr : s.readRecord P id = .ok (some record)) (ht : record.status ∉ CloseoutStatus.terminal) :
    id ∈ active := by
  simp only [readRecord, h.inventory, ok_bind, Bool.not_true, Bool.false_eq_true, if_false] at hr
  obtain ⟨value, _, hr⟩ := Except.bind_eq_ok.1 hr
  simp only [refuse_bind_ok] at hr
  obtain ⟨hlisted, hr⟩ := hr
  cases hr
  by_contra hin
  simp [hin, ht] at hlisted

/-- A finish does nothing, or takes its record off the active list and moves the cursor to it. -/
theorem Established.finish (h : Established P s active last) (value : CloseoutRecord) :
    (s.finish P value).1 = s ∨ Established P (s.finish P value).1
      (active.filter (· != value.recordId)) (some value.recordId) := by
  rw [CloseoutStore.finish]
  cases hp : s.finishPlan P value with
  | error e => exact .inl rfl
  | ok writes =>
    right
    obtain ⟨hr, ht, rfl⟩ := finishPlan_ok h hp
    have hrecord := h.write_record hr (.inl ht)
    have hl : (s.write (.record value)).records.lookup value.recordId = some value :=
      Dict.lookup_set_self _ _ _
    by_cases hin : value.recordId ∈ active
    · rw [if_pos hin]
      exact (hrecord.write_index_filter hl ht).write_cursor ⟨value, hl⟩
    · have hself : active.filter (· != value.recordId) = active := by
        rw [List.filter_eq_self]
        intro id hid
        simp only [bne_iff_ne, ne_eq]
        intro he
        exact hin (he ▸ hid)
      rw [if_neg hin, hself]
      exact hrecord.write_cursor ⟨value, hl⟩

theorem Established.writeRecord (h : Established P s active last)
    (hs : value.status ∈ CloseoutStatus.terminal ∨ value.recordId ∈ active) :
    Established P (s.writeRecord P value).1 active last := by
  rw [CloseoutStore.writeRecord]
  cases hp : s.writeRecordPlan P value with
  | error e => exact h
  | ok writes =>
    obtain ⟨hr, rfl⟩ := writeRecordPlan_ok h hp
    exact h.write_record hr hs

/-- What one access can do: nothing to the index and the cursor, or a finish. -/
theorem Established.update (h : Established P s active last) (u : RecordUpdate) :
    Established P (s.update P u) active last ∨ (u.finished = true ∧
      Established P (s.update P u) (active.filter (· != u.value.recordId))
        (some u.value.recordId)) := by
  rw [CloseoutStore.update]
  split
  · rename_i stored hread
    split
    · rename_i hs
      split
      · rename_i hf
        rcases h.finish u.value with he | he
        · rw [he]
          exact .inl h
        · exact .inr ⟨hf, he⟩
      · left
        apply h.writeRecord
        exact hs.imp_right (h.readRecord_listed hread)
    · exact .inl h
  · exact .inl h

/-- What is left of the active list: those that are not updated stay, and all stay if none is
finished. -/
structure Left (active : List String) (last : Option String) (us : List RecordUpdate)
    (active' : List String) (last' : Option String) : Prop where
  kept : ∃ p : String → Bool, active' = active.filter p ∧
    ∀ id, (∀ u ∈ us, u.value.recordId ≠ id) → p id = true
  quiet : (∀ u ∈ us, u.finished = false) → active' = active ∧ last' = last

theorem Left.refl (active : List String) (last : Option String) : Left active last [] active last where
  kept := ⟨fun _ => true, by simp, fun _ _ => rfl⟩
  quiet _ := ⟨rfl, rfl⟩

theorem Left.trans {mid final : List String} {midLast finalLast : Option String}
    (h : Left active last us mid midLast) (h' : Left mid midLast others final finalLast) :
    Left active last (us ++ others) final finalLast where
  kept := by
    obtain ⟨p, rfl, hp⟩ := h.kept
    obtain ⟨q, rfl, hq⟩ := h'.kept
    refine ⟨fun id => q id && p id, by rw [List.filter_filter], ?_⟩
    intro id hid
    have hpid := hp id fun u hu => hid u (List.mem_append_left _ hu)
    have hqid := hq id fun u hu => hid u (List.mem_append_right _ hu)
    simp [hpid, hqid]
  quiet hall := by
    obtain ⟨rfl, rfl⟩ := h.quiet fun u hu => hall u (List.mem_append_left _ hu)
    exact h'.quiet fun u hu => hall u (List.mem_append_right _ hu)

theorem Established.updates (h : Established P s active last) (us : List RecordUpdate) :
    ∃ active' last', Established P (s.updates P us) active' last' ∧
      Left active last us active' last' := by
  induction us generalizing s active last with
  | nil => exact ⟨active, last, h, .refl active last⟩
  | cons u us ih =>
    rcases h.update u with hu | ⟨hf, hu⟩
    · obtain ⟨active', last', he, hleft⟩ := ih hu
      have hone : Left active last [u] active last :=
        ⟨⟨fun _ => true, by simp, fun _ _ => rfl⟩, fun _ => ⟨rfl, rfl⟩⟩
      exact ⟨active', last', he, hone.trans hleft⟩
    · obtain ⟨active', last', he, hleft⟩ := ih hu
      have hone : Left active last [u] (active.filter (· != u.value.recordId))
          (some u.value.recordId) := by
        refine ⟨⟨_, rfl, ?_⟩, ?_⟩
        · intro id hid
          simpa using (hid u (by simp)).symm
        · intro hall
          rw [hall u (by simp)] at hf
          cases hf
      exact ⟨active', last', he, hone.trans hleft⟩

theorem lookup_carryOut {plan : Except Raised (List StoreWrite)}
    {check : CloseoutStore → Except Raised Unit}
    (hl : ∃ record, s.records.lookup id = some record) :
    ∃ record, (s.carryOut plan check).1.records.lookup id = some record := by
  cases plan with
  | error e => exact hl
  | ok writes => exact lookup_writeAll hl

theorem lookup_updates (hl : ∃ record, s.records.lookup id = some record)
    (us : List RecordUpdate) : ∃ record, (s.updates P us).records.lookup id = some record := by
  induction us generalizing s with
  | nil => exact hl
  | cons u us ih =>
    apply ih
    rw [update]
    split
    · split
      · split
        · exact lookup_carryOut hl
        · exact lookup_carryOut hl
      · exact hl
    · exact hl

/-- With its record in the store, the cursor is advanced to an id. -/
theorem Established.advanceCursor (h : Established P s active last)
    (hl : ∃ record, s.records.lookup id = some record) :
    Established P (s.advanceCursor P id).1 active (some id) := by
  obtain ⟨record, hl⟩ := hl
  have hid := (h.readable id record hl).id
  have hplan : s.advanceCursorPlan P id = .ok [.cursor (some id)] := by
    simp [advanceCursorPlan, h.inventory, refuse, hid]
  rw [CloseoutStore.advanceCursor, hplan]
  exact h.write_cursor ⟨record, hl⟩

theorem Established.recoverRecord (handled : List RecordUpdate)
    (h : Established P s active last)
    (hl : ∃ record, s.records.lookup id = some record) :
    ∃ active', Established P (s.recoverRecord P handled id) active' (some id) ∧
      ∃ p : String → Bool, active' = active.filter p ∧ ∀ y, y ≠ id → p y = true := by
  obtain ⟨active', last', he, hleft⟩ := h.updates
    (handled.filter (·.value.recordId == id))
  obtain ⟨p, hp, hkeep⟩ := hleft.kept
  refine ⟨active', he.advanceCursor (lookup_updates hl _), p, hp, ?_⟩
  intro y hy
  apply hkeep
  intro u hu hrecord
  have hid := (List.mem_filter.1 hu).2
  rw [beq_iff_eq, hrecord] at hid
  exact hy hid

/-- After the records of some ids are handled the cursor is at the last, and no other record has
left the active list. -/
theorem Established.recoverAll {ids : List String} (h : Established P s active last)
    (hids : ∀ id ∈ ids, ∃ record, s.records.lookup id = some record) :
    ∃ active', Established P (ids.foldl (CloseoutStore.recoverRecord P handled) s) active'
        (ids.getLast?.or last) ∧
      ∃ p : String → Bool, active' = active.filter p ∧ ∀ y, y ∉ ids → p y = true := by
  induction ids generalizing s active last with
  | nil => exact ⟨active, h, fun _ => true, by simp, fun _ _ => rfl⟩
  | cons id ids ih =>
    obtain ⟨mid, hmid, p, rfl, hp⟩ := h.recoverRecord handled (hids id (by simp))
    have hrest : ∀ id' ∈ ids, ∃ record,
        (s.recoverRecord P handled id).records.lookup id' = some record := by
      intro id' hid'
      exact lookup_carryOut (lookup_updates (hids id' (List.mem_cons_of_mem _ hid')) _)
    obtain ⟨active', he, q, rfl, hq⟩ := ih hmid hrest
    refine ⟨(active.filter p).filter q, ?_, fun y => q y && p y, List.filter_filter .., ?_⟩
    · have hlast : (id :: ids).getLast?.or last = ids.getLast?.or (some id) := by
        cases ids with
        | nil => rfl
        | cons a ids => simp [List.getLast?_cons]
      rw [hlast]
      exact he
    · intro y hy
      rw [List.mem_cons, not_or] at hy
      simp [hp y hy.1, hq y hy.2]

/-- The order of recovery is that of a round robin. -/
theorem recoveryOrder_eq (active : List String) (last : Option String) :
    recoveryOrder active last = RoundRobin.order active last := by
  have hstart (start : Nat) : active.drop (if start = active.length then 0 else start) ++
      active.take (if start = active.length then 0 else start) =
        active.drop start ++ active.take start := by
    split
    · rename_i hall
      rw [hall]
      simp
    · rfl
  cases last with
  | none => exact (hstart 0).trans (List.append_nil active)
  | some c =>
    have htake : active.take (bisectRight active c) = active.takeWhile (· ≤ c) :=
      List.prefix_iff_eq_take.1 (List.takeWhile_prefix _) |>.symm
    have hdrop : active.drop (bisectRight active c) = active.dropWhile (· ≤ c) := by
      have hsplit := List.take_append_drop (bisectRight active c) active
      have happ := List.takeWhile_append_dropWhile (p := fun y => decide (y ≤ c)) (l := active)
      rw [htake] at hsplit
      exact List.append_cancel_left (hsplit.trans happ.symm)
    apply (hstart (bisectRight active c)).trans
    rw [htake, hdrop]
    rfl

theorem activeRecords_ids (h : Established P s active last) (hk : 1 ≤ k ∧ k ≤ 64) :
    ∃ records : List CloseoutRecord, s.activeRecords P k = .ok records ∧
      records.map (·.recordId) = (RoundRobin.order active last).take k := by
  have hlimit : (k == 0 || decide (maxActive < k)) = false := by
    have hzero : ¬k = 0 := by omega
    have hmost : ¬maxActive < k := Nat.not_lt.2 hk.2
    simp [hzero, hmost]
  refine ⟨_, by rw [activeRecords, hlimit, refuse_false, ok_bind, h.inventory]; rfl, ?_⟩
  rw [recoveryOrder_eq]
  have hall : ∀ id ∈ (RoundRobin.order active last).take k, id ∈ active := by
    intro id hid
    exact RoundRobin.mem_order.1 (List.mem_of_mem_take hid)
  generalize (RoundRobin.order active last).take k = ids at hall
  induction ids with
  | nil => rfl
  | cons id ids ih =>
    obtain ⟨record, hl, hr⟩ := h.readable_listed (hall id (by simp))
    have hfound : (collected s active).lookup id = some record := by
      cases hc : (collected s active).lookup id with
      | none =>
        have hin : (id, record) ∈ collected s active := mem_collected.2 ⟨hall id (by simp), hl⟩
        exact absurd (List.mem_map_of_mem hin) (Dict.lookup_eq_none_iff.1 hc)
      | some other =>
        have hother := (mem_collected.1 (Dict.mem_of_lookup hc)).2
        rw [← hl, hother]
    rw [List.filterMap_cons, hfound, List.map_cons, hr.named,
      ih fun id' hid' => hall id' (List.mem_cons_of_mem _ hid')]

end CloseoutStore

/-- A record that is active in a store. -/
def ActiveIn (s : CloseoutStore) (recordId : String) : Prop :=
  ∃ active, s.index = some active ∧ recordId ∈ active

section Fairness

variable {P : Platform} {s : CloseoutStore} {active : List String} {last : Option String}
  {x : String} {k n : Nat} {round : RecoveryRound} {rounds : List RecoveryRound}

/-- A call of the recovery returns the first of the order, and leaves the cursor at the last of
them and every other record active. -/
theorem CloseoutStore.Established.recover (handled : List RecordUpdate)
    (h : Established P s active last) (hk : 1 ≤ k ∧ k ≤ 64) :
    (s.recoverCloseoutAssociations P k handled).2 = (RoundRobin.order active last).take k ∧
      ∃ active', Established P (s.recoverCloseoutAssociations P k handled).1 active'
          (((RoundRobin.order active last).take k).getLast?.or last) ∧
        ∃ p : String → Bool, active' = active.filter p ∧
          ∀ y, y ∉ (RoundRobin.order active last).take k → p y = true := by
  obtain ⟨records, hrecords, hids⟩ := activeRecords_ids h hk
  rw [recoverCloseoutAssociations, hrecords]
  refine ⟨hids, ?_⟩
  dsimp only
  rw [hids]
  apply h.recoverAll
  intro id hid
  exact h.listed id (RoundRobin.mem_order.1 (List.mem_of_mem_take hid))

/-- A round leaves the files together and adds nothing to the active list. -/
theorem recoveryStep_established (h : CloseoutStore.Established P s active last)
    (hk : 1 ≤ k ∧ k ≤ 64) (round : RecoveryRound) :
    ∃ active' last', CloseoutStore.Established P ((recoveryMachine P k).step s round).1
      active' last' ∧ active' ⊆ active := by
  obtain ⟨mid, midLast, hmid, hleft⟩ := h.updates round.foreground
  obtain ⟨_, active', he, p, hp, _⟩ := hmid.recover round.handled hk
  obtain ⟨q, hq, _⟩ := hleft.kept
  refine ⟨active', _, he, ?_⟩
  intro id hid
  rw [hp, hq] at hid
  exact List.mem_of_mem_filter (List.mem_of_mem_filter hid)

/-- What is active after a run was active all along. -/
theorem activeIn_of_after (h : CloseoutStore.Established P s active last) (hk : 1 ≤ k ∧ k ≤ 64)
    (hx : ActiveIn ((recoveryMachine P k).after s rounds) x) : x ∈ active := by
  induction rounds generalizing s active last with
  | nil =>
    obtain ⟨listed, hl, hin⟩ := hx
    cases h.index.symm.trans hl
    exact hin
  | cons round rounds ih =>
    obtain ⟨active', last', he, hsub⟩ := recoveryStep_established h hk round
    exact hsub (ih he hx)

/-- A call that passes a record over brings it nearer by as many as it returns. -/
theorem recover_nearer {handled : List RecordUpdate} (h : CloseoutStore.Established P s active last)
    (hk : 1 ≤ k ∧ k ≤ 64) (hx : x ∈ active)
    (hskip : x ∉ (s.recoverCloseoutAssociations P k handled).2) :
    ∃ active' last', CloseoutStore.Established P (s.recoverCloseoutAssociations P k handled).1
        active' last' ∧ active'.length ≤ active.length ∧
      RoundRobin.ahead active' last' x + k = RoundRobin.ahead active last x := by
  obtain ⟨hreturned, active', he, p, rfl, hp⟩ := h.recover handled hk
  rw [hreturned] at hskip
  have hrest : ∀ y ∈ (RoundRobin.order active last).drop k, p y = true := by
    intro y hy
    apply hp
    intro hin
    have hnodup : (RoundRobin.order active last).Nodup :=
      (RoundRobin.order_perm active last).nodup_iff.2 (h.sorted.imp fun hab => ne_of_lt hab)
    rw [← List.take_append_drop k (RoundRobin.order active last)] at hnodup
    exact (List.nodup_append.1 hnodup).2.2 y hin y hy rfl
  obtain ⟨r, hr, hahead⟩ := RoundRobin.ahead_advance h.sorted hx hk.1 hskip hrest
  rw [hr] at he
  exact ⟨_, _, he, List.length_filter_le _ _, hahead⟩

/-- The rounds in which a foreground call has moved the cursor. -/
def finishing (rounds : List RecoveryRound) : Nat :=
  (rounds.filter RecoveryRound.finishes).length

theorem RecoveryRound.quiet_of_not_finishes (h : round.finishes = false) :
    ∀ u ∈ round.foreground, u.finished = false := by
  intro u hu
  rw [RecoveryRound.finishes, List.any_eq_false] at h
  simpa using h u hu

/-- A record that stays active is passed over at most so often: its distance counts the calls up to
the next foreground finish, and each of those sets it back by less than the number of records. -/
theorem passed_le (h : CloseoutStore.Established P s active last) (hk : 1 ≤ k ∧ k ≤ 64)
    (hn : active.length ≤ n) (hx : ActiveIn ((recoveryMachine P k).after s rounds) x)
    (hskip : ∀ earlier round later, rounds = earlier ++ round :: later →
      x ∉ (recoveryMachine P k).output s earlier round) :
    rounds.length ≤ RoundRobin.ahead active last x / k + finishing rounds * ((n - 1) / k) := by
  induction rounds generalizing s active last with
  | nil => exact Nat.zero_le _
  | cons round rounds ih =>
    obtain ⟨mid, midLast, hmid, hleft⟩ := h.updates round.foreground
    have hxmid : x ∈ mid := by
      obtain ⟨_, active', he, p, hp, _⟩ := hmid.recover round.handled hk
      have hin : x ∈ active' := activeIn_of_after he hk hx
      rw [hp] at hin
      exact List.mem_of_mem_filter hin
    have hmidlen : mid.length ≤ active.length := by
      obtain ⟨p, rfl, _⟩ := hleft.kept
      exact List.length_filter_le _ _
    have hnow : x ∉ ((s.updates P round.foreground).recoverCloseoutAssociations P k
        round.handled).2 := hskip [] round rounds rfl
    obtain ⟨active', last', he, hlen, hahead⟩ := recover_nearer hmid hk hxmid hnow
    have hrest := ih he (hlen.trans (hmidlen.trans hn)) hx fun earlier r later hr =>
      hskip (round :: earlier) r later (by rw [hr, List.cons_append])
    have hone : RoundRobin.ahead mid midLast x / k =
        RoundRobin.ahead active' last' x / k + 1 := by
      rw [← hahead, Nat.add_div_right _ hk.1]
    cases hf : round.finishes with
    | false =>
      obtain ⟨rfl, rfl⟩ := hleft.quiet (RecoveryRound.quiet_of_not_finishes hf)
      have hcount : finishing (round :: rounds) = finishing rounds := by simp [finishing, hf]
      rw [hcount, hone, List.length_cons]
      omega
    | true =>
      have hback : RoundRobin.ahead mid midLast x / k ≤ (n - 1) / k := by
        apply Nat.div_le_div_right
        have hlt : RoundRobin.ahead mid midLast x < mid.length := RoundRobin.ahead_lt hxmid
        omega
      have hcount : finishing (round :: rounds) = finishing rounds + 1 := by simp [finishing, hf]
      have hnear : 0 ≤ RoundRobin.ahead active last x / k := Nat.zero_le _
      rw [hcount, List.length_cons, Nat.succ_mul]
      omega

theorem ceil_pred (hn : 0 < n) (hk : 1 ≤ k) : (n + k - 1) / k - 1 = (n - 1) / k := by
  have hsum : n + k - 1 = n - 1 + k := by omega
  rw [hsum, Nat.add_div_right _ hk, Nat.succ_sub_one]

end Fairness

section Retries

variable {P : Platform} {s : CloseoutStore} {active : List String} {last : Option String}
  {value stored : CloseoutRecord} {k : Nat}

/-- A terminal record that is no longer active can be finished again. -/
theorem CloseoutStore.Established.finish_again (h : Established P s active last)
    (hr : Readable P value.recordId value) (ht : value.status ∈ CloseoutStatus.terminal)
    (hl : s.records.lookup value.recordId = some stored) (hout : value.recordId ∉ active) :
    Established P (s.update P ⟨value, true⟩) active (some value.recordId) ∧
      (s.update P ⟨value, true⟩).records.lookup value.recordId = some value := by
  have hsmall : ¬maxRecordBytes < value.encodedLength := Nat.not_lt.2 hr.small
  have hstored := h.readable _ _ hl
  have hread : s.readRecord P value.recordId = .ok (some stored) := by
    have hterminal := h.terminal _ _ hl hout
    simp [readRecord, h.inventory, ok_bind, readRecordPath_some hl hstored, refuse, hterminal]
  have hplan : s.finishPlan P value = .ok [.record value, .cursor (some value.recordId)] := by
    simp [finishPlan, ok_bind, h.inventory, readRecordPath_some hl hstored, refuse, ht, hr.valid,
      hsmall, hout, Except.isOk, Except.toBool]
  have hupdate : s.update P ⟨value, true⟩ =
      (s.write (.record value)).write (.cursor (some value.recordId)) := by
    rw [CloseoutStore.update, hread]
    simp only [ht, true_or, if_true]
    rw [CloseoutStore.finish, hplan]
    rfl
  have hnew : (s.write (.record value)).records.lookup value.recordId = some value :=
    Dict.lookup_set_self _ _ _
  rw [hupdate]
  exact ⟨(h.write_record hr (.inl ht)).write_cursor ⟨value, hnew⟩, hnew⟩

/-- When no handler gets anywhere only the cursor moves. -/
theorem CloseoutStore.Established.recoverAll_idle {ids : List String}
    (h : Established P s active last)
    (hids : ∀ id ∈ ids, ∃ record, s.records.lookup id = some record) :
    (ids.foldl (CloseoutStore.recoverRecord P []) s).records = s.records ∧
      ∃ last', Established P (ids.foldl (CloseoutStore.recoverRecord P []) s) active last' := by
  induction ids generalizing s last with
  | nil => exact ⟨rfl, last, h⟩
  | cons id ids ih =>
    have hone := h.advanceCursor (hids id (by simp))
    have hrecords : (s.advanceCursor P id).1.records = s.records := by
      rw [CloseoutStore.advanceCursor]
      cases hp : s.advanceCursorPlan P id with
      | error e => rfl
      | ok writes =>
        cases advanceCursorPlan_ok hp
        rfl
    obtain ⟨hrest, last', he⟩ := ih hone fun id' hid' => by
      rw [hrecords]
      exact hids id' (List.mem_cons_of_mem _ hid')
    exact ⟨hrest.trans hrecords, last', he⟩

theorem CloseoutStore.Established.recover_idle (h : Established P s active last)
    (hk : 1 ≤ k ∧ k ≤ 64) :
    (s.recoverCloseoutAssociations P k []).1.records = s.records ∧
      ∃ last', Established P (s.recoverCloseoutAssociations P k []).1 active last' := by
  obtain ⟨records, hrecords, hids⟩ := activeRecords_ids h hk
  rw [recoverCloseoutAssociations, hrecords]
  dsimp only
  rw [hids]
  apply h.recoverAll_idle
  intro id hid
  exact h.listed id (RoundRobin.mem_order.1 (List.mem_of_mem_take hid))

end Retries

/-- A record that was given up and finished. -/
def lostCloseout : CloseoutRecord :=
  { sampleCloseout 'a' with status := .lost }

/-- Two active records, and a finished one at which the cursor is. -/
def twoActive : CloseoutStore where
  present := true
  index := some [(sampleCloseout 'b').recordId, (sampleCloseout 'c').recordId]
  cursor := some (some lostCloseout.recordId)
  records := [(lostCloseout.recordId, lostCloseout),
    ((sampleCloseout 'b').recordId, sampleCloseout 'b'),
    ((sampleCloseout 'c').recordId, sampleCloseout 'c')]

theorem samples_readable : ∀ record ∈ [lostCloseout, sampleCloseout 'b', sampleCloseout 'c'],
    CloseoutStore.Readable samplePlatform record.recordId record := by
  have hall : ∀ record ∈ [lostCloseout, sampleCloseout 'b', sampleCloseout 'c'],
      validateCloseoutAssociation samplePlatform record = .ok () ∧
        record.encodedLength ≤ maxRecordBytes := by
    decide +kernel
  intro record hin
  exact CloseoutStore.readable_of_valid (hall record hin).1 (hall record hin).2

theorem twoActive_records {id : String} (h : twoActive.records.lookup id = some record) :
    record ∈ [lostCloseout, sampleCloseout 'b', sampleCloseout 'c'] ∧ record.recordId = id := by
  have hin := Dict.mem_of_lookup h
  simp only [twoActive, List.mem_cons, List.not_mem_nil, or_false, Prod.mk.injEq] at hin
  rcases hin with ⟨rfl, rfl⟩ | ⟨rfl, rfl⟩ | ⟨rfl, rfl⟩
  · exact ⟨by simp, rfl⟩
  · exact ⟨by simp, rfl⟩
  · exact ⟨by simp, rfl⟩

theorem twoActive_established : CloseoutStore.Established samplePlatform twoActive
    [(sampleCloseout 'b').recordId, (sampleCloseout 'c').recordId]
    (some lostCloseout.recordId) where
  present := rfl
  index := rfl
  cursor := rfl
  sorted := by decide
  few := by decide
  listed id hid := by
    simp only [List.mem_cons, List.not_mem_nil, or_false] at hid
    rcases hid with rfl | rfl
    · exact ⟨sampleCloseout 'b', by decide⟩
    · exact ⟨sampleCloseout 'c', by decide⟩
  readable id record hl := by
    obtain ⟨hin, rfl⟩ := twoActive_records hl
    exact samples_readable record hin
  terminal id record hl hout := by
    obtain ⟨hin, rfl⟩ := twoActive_records hl
    simp only [List.mem_cons, List.not_mem_nil, or_false] at hin
    rcases hin with rfl | rfl | rfl
    · decide
    · simp at hout
    · simp at hout
  cursorRecord id hid := by
    cases hid
    exact ⟨lostCloseout, by decide⟩

/-- A foreground retry of the finished record before a call of the recovery. -/
def retriedRound : RecoveryRound where
  foreground := [⟨lostCloseout, true⟩]

/-- A store with the two records active and the finished one in it. -/
def Stuck (s : CloseoutStore) : Prop :=
  (∃ last, CloseoutStore.Established samplePlatform s
    [(sampleCloseout 'b').recordId, (sampleCloseout 'c').recordId] last) ∧
    s.records.lookup lostCloseout.recordId = some lostCloseout

theorem retriedRound_stuck (h : Stuck s) :
    Stuck ((recoveryMachine samplePlatform 1).step s retriedRound).1 ∧
      ((recoveryMachine samplePlatform 1).step s retriedRound).2 =
        [(sampleCloseout 'b').recordId] := by
  obtain ⟨⟨last, he⟩, hl⟩ := h
  obtain ⟨hagain, hlost⟩ := he.finish_again (samples_readable lostCloseout (by simp)) (by decide) hl
    (by decide)
  obtain ⟨hrecords, hidle⟩ := hagain.recover_idle (k := 1) (by decide)
  obtain ⟨hreturned, _⟩ := hagain.recover [] (k := 1) (by decide)
  refine ⟨⟨hidle, ?_⟩, ?_⟩
  · rw [← hlost, ← hrecords]
    rfl
  · apply hreturned.trans
    decide

theorem idle_stuck (h : Stuck s) : Stuck ((recoveryMachine samplePlatform 1).step s {}).1 := by
  obtain ⟨⟨last, he⟩, hl⟩ := h
  obtain ⟨hrecords, hidle⟩ := he.recover_idle (k := 1) (by decide)
  refine ⟨hidle, ?_⟩
  rw [← hl, ← hrecords]
  rfl

theorem twoActive_stuck : Stuck twoActive :=
  ⟨⟨_, twoActive_established⟩, by decide⟩

theorem retriedRounds_stuck (n : Nat) :
    Stuck ((recoveryMachine samplePlatform 1).after twoActive (List.replicate n retriedRound)) := by
  induction n with
  | zero => exact twoActive_stuck
  | succ n ih =>
    rw [List.replicate_succ', Machine.after_concat]
    exact (retriedRound_stuck ih).1

end ExternalIntelligence
