import ExternalIntelligence.CaptureLedger
import ExternalIntelligence.JournalReading

namespace ExternalIntelligence
set_option autoImplicit true

theorem pairLe_total (p q : String × String) : pairLe p q ∨ pairLe q p := by
  rcases lt_trichotomy p.1 q.1 with h | h | h
  · exact .inl (.inl h)
  · rcases le_total p.2 q.2 with h' | h'
    · exact .inl (.inr ⟨h, h'⟩)
    · exact .inr (.inr ⟨h.symm, h'⟩)
  · exact .inr (.inl h)

theorem pairLe_trans {p q r : String × String} (hpq : pairLe p q) (hqr : pairLe q r) :
    pairLe p r := by
  rcases hpq with h | ⟨h, h'⟩
  · rcases hqr with g | ⟨g, _⟩
    · exact .inl (lt_trans h g)
    · exact .inl (g ▸ h)
  · rcases hqr with g | ⟨g, g'⟩
    · exact .inl (h ▸ g)
    · exact .inr ⟨h.trans g, le_trans h' g'⟩

theorem pairLe_antisymm {p q : String × String} (hpq : pairLe p q) (hqp : pairLe q p) :
    p = q := by
  rcases hpq with h | ⟨h, h'⟩
  · rcases hqp with g | ⟨g, _⟩
    · exact absurd h (lt_asymm g)
    · exact absurd g (ne_of_gt h)
  · rcases hqp with g | ⟨_, g'⟩
    · exact absurd h (ne_of_gt g)
    · exact Prod.ext h (le_antisymm h' g')

theorem insertionSort_pairLe (pairs : List (String × String)) :
    (pairs.insertionSort pairLe).Pairwise pairLe := by
  have : Std.Total pairLe := ⟨pairLe_total⟩
  have : IsTrans (String × String) pairLe := ⟨fun _ _ _ => pairLe_trans⟩
  exact List.pairwise_insertionSort _ _

/-- Two lists of pairs in order, each pair once, with the same members are equal. -/
theorem eq_of_same_pairs {xs ys : List (String × String)} (hx : xs.Pairwise pairLe)
    (hy : ys.Pairwise pairLe) (hxn : xs.Nodup) (hyn : ys.Nodup) (h : ∀ p, p ∈ xs ↔ p ∈ ys) :
    xs = ys := by
  apply ((List.perm_ext_iff_of_nodup hxn hyn).2 h).eq_of_pairwise _ hx hy
  intro p q _ _ hpq hqp
  exact pairLe_antisymm hpq hqp

/-- No key has two values. -/
def Functional (pairs : List (String × α)) : Prop :=
  ∀ p ∈ pairs, ∀ q ∈ pairs, p.1 = q.1 → p.2 = q.2

theorem Functional.of_subset {pairs others : List (String × α)} (h : Functional others)
    (hsub : ∀ p ∈ pairs, p ∈ others) : Functional pairs := by
  intro p hp q hq
  exact h p (hsub p hp) q (hsub q hq)

/-- A map that holds given pairs and nothing else. -/
def Holds (pairs merged : List (String × α)) : Prop :=
  (Dict.keys merged).Nodup ∧ ∀ p, p ∈ merged ↔ p ∈ pairs

theorem Holds.set [DecidableEq α] {pairs merged : List (String × α)} (h : Holds pairs merged)
    (hf : Functional (pairs ++ [p])) : Holds (pairs ++ [p]) (Dict.set p.1 p.2 merged) := by
  refine ⟨Dict.keys_set_nodup h.1, fun q => ?_⟩
  rw [Dict.mem_set h.1, h.2, List.mem_append, List.mem_singleton]
  constructor
  · rintro (⟨h₁, h₂⟩ | ⟨_, hq⟩)
    · exact .inr (Prod.ext h₁ h₂)
    · exact .inl hq
  · rintro (hq | rfl)
    · by_cases hk : q.1 = p.1
      · exact .inl ⟨hk, hf q (List.mem_append_left _ hq) p (by simp) hk⟩
      · exact .inr ⟨hk, hq⟩
    · exact .inl ⟨rfl, rfl⟩

theorem update_holds [DecidableEq α] {merged seen old : List (String × α)} (h : Holds seen merged)
    (hf : Functional (seen ++ old)) : Holds (seen ++ old) (Dict.update merged old) := by
  induction old generalizing merged seen with
  | nil =>
    rw [List.append_nil]
    exact h
  | cons p old ih =>
    have hp := h.set (p := p) (hf.of_subset (by simp; tauto))
    rw [List.append_cons] at hf ⊢
    exact ih hp hf

theorem addKeyed_holds [DecidableEq α] {merged seen : List (String × α)}
    (h : Holds seen merged) (hf : Functional (seen ++ [p])) :
    addKeyed conflict merged p = .ok (Dict.set p.1 p.2 merged) := by
  apply if_neg
  intro hany
  obtain ⟨v, hl, hv⟩ := Option.any_eq_true _ _ |>.1 hany
  have hseen : (p.1, v) ∈ seen := (h.2 _).1 (Dict.mem_of_lookup hl)
  have : v = p.2 := hf (p.1, v) (List.mem_append_left _ hseen) p (by simp) rfl
  exact of_decide_eq_true hv this

theorem mergeFold_holds [DecidableEq α] {merged seen new : List (String × α)}
    (h : Holds seen merged) (hf : Functional (seen ++ new)) :
    ∃ result, new.foldlM (addKeyed conflict) merged = .ok result ∧ Holds (seen ++ new) result := by
  induction new generalizing merged seen with
  | nil =>
    rw [List.append_nil]
    exact ⟨merged, rfl, h⟩
  | cons p new ih =>
    have hseen : Functional (seen ++ [p]) := hf.of_subset (by simp; tauto)
    rw [List.append_cons] at hf ⊢
    obtain ⟨result, hresult, hholds⟩ := ih (h.set hseen) hf
    exact ⟨result, Except.foldlM_cons_ok.2 ⟨_, addKeyed_holds h hseen, hresult⟩, hholds⟩

/-- Pairs that do not conflict are all merged. -/
theorem mergeKeyed_holds [DecidableEq α] {old new : List (String × α)}
    (hf : Functional (old ++ new)) :
    ∃ merged, mergeKeyed conflict old new = .ok merged ∧ Holds (old ++ new) merged := by
  apply mergeFold_holds _ hf
  have hempty : Holds ([] : List (String × α)) [] := ⟨List.nodup_nil, by simp⟩
  have hfold : Functional ([] ++ old) := hf.of_subset (by simp; tauto)
  have hold := update_holds hempty hfold
  rwa [List.nil_append] at hold

/-- What a receipt merged from others has collected of them. -/
structure Gathers (receipts : List CaptureReceipt) (merged : CaptureReceipt) : Prop where
  captureId : ∀ r ∈ receipts, r.captureId = merged.captureId
  candidate : ∀ c, c ∈ merged.candidateIds ↔ ∃ r ∈ receipts, c ∈ r.candidateIds
  covered : ∀ t, t ∈ merged.coveredTargetIds ↔ ∃ r ∈ receipts, t ∈ r.coveredTargetIds
  hashes : ∀ p, p ∈ merged.candidateHashes ↔ ∃ r ∈ receipts, p ∈ r.candidateHashes
  proofs : ∀ p ∈ merged.closeoutProofs, ∃ r ∈ receipts, p ∈ r.closeoutProofs
  newest : ∃ r ∈ receipts, r.updatedAt = merged.updatedAt
  latest : ∀ r ∈ receipts, r.updatedAt ≤ merged.updatedAt
  expired : merged.reasonCode = pendingExpired ↔ ∃ r ∈ receipts, r.reasonCode = pendingExpired
  known : merged.state ≠ .unknown

/-- How merging leaves a receipt: its lists in order and its state decided. -/
structure Tidy (merged : CaptureReceipt) : Prop where
  candidates : merged.candidateIds.Pairwise (· < ·)
  covered : merged.coveredTargetIds.Pairwise (· < ·)
  hashes : merged.candidateHashes.Pairwise pairLe
  hashesOnce : merged.candidateHashes.Nodup
  expired : merged.reasonCode = pendingExpired → merged.state = .unavailable
  secured : merged.reasonCode ≠ pendingExpired → merged.candidateIds ≠ [] →
    merged.state = .secured

/-- Receipts that can be merged in any order. -/
structure Mergeable (receipts : List CaptureReceipt) : Prop where
  captureId : ∀ r ∈ receipts, ∀ s ∈ receipts, r.captureId = s.captureId
  known : ∀ r ∈ receipts, r.state ≠ .unknown
  hashes : Functional (receipts.flatMap (·.candidateHashes))
  proofs : Functional (receipts.flatMap fun r => keyedProofs r.closeoutProofs)

theorem gathers_single (h : r.state ≠ .unknown) : Gathers [r] r where
  captureId := by simp
  candidate := by simp
  covered := by simp
  hashes := by simp
  proofs := by simp
  newest := by simp
  latest := by simp
  expired := by simp
  known := h

theorem Mergeable.of_subset {receipts others : List CaptureReceipt} (h : Mergeable others)
    (hsub : ∀ r ∈ receipts, r ∈ others) : Mergeable receipts where
  captureId := fun r hr s hs => h.captureId r (hsub r hr) s (hsub s hs)
  known := fun r hr => h.known r (hsub r hr)
  hashes := by
    apply h.hashes.of_subset
    intro p hp
    obtain ⟨r, hr, hp⟩ := List.mem_flatMap.1 hp
    exact List.mem_flatMap.2 ⟨r, hsub r hr, hp⟩
  proofs := by
    apply h.proofs.of_subset
    intro p hp
    obtain ⟨r, hr, hp⟩ := List.mem_flatMap.1 hp
    exact List.mem_flatMap.2 ⟨r, hsub r hr, hp⟩

/-- The two pair maps a merge builds exist when the receipts do not conflict. -/
theorem Gathers.merged_maps {receipts : List CaptureReceipt} {merged : CaptureReceipt}
    (h : Gathers receipts merged) (hm : Mergeable (receipts ++ [r])) :
    (∃ hashes, mergeKeyed "CAPTURE_CONTENT_CONFLICT" merged.candidateHashes r.candidateHashes =
        .ok hashes ∧ Holds (merged.candidateHashes ++ r.candidateHashes) hashes) ∧
      ∃ proofs, mergeKeyed "CAPTURE_CLOSEOUT_PROOF_CONFLICT" (keyedProofs merged.closeoutProofs)
        (keyedProofs r.closeoutProofs) = .ok proofs ∧
        Holds (keyedProofs merged.closeoutProofs ++ keyedProofs r.closeoutProofs) proofs := by
  constructor
  · apply mergeKeyed_holds
    apply hm.hashes.of_subset
    intro p hp
    rcases List.mem_append.1 hp with hp | hp
    · obtain ⟨s, hs, hp⟩ := (h.hashes p).1 hp
      exact List.mem_flatMap.2 ⟨s, List.mem_append_left _ hs, hp⟩
    · exact List.mem_flatMap.2 ⟨r, by simp, hp⟩
  · apply mergeKeyed_holds
    apply hm.proofs.of_subset
    intro p hp
    rcases List.mem_append.1 hp with hp | hp
    · obtain ⟨proof, hproof, rfl⟩ := List.mem_map.1 hp
      obtain ⟨s, hs, hin⟩ := h.proofs proof hproof
      exact List.mem_flatMap.2 ⟨s, List.mem_append_left _ hs, List.mem_map.2 ⟨_, hin, rfl⟩⟩
    · exact List.mem_flatMap.2 ⟨r, by simp, hp⟩

theorem exists_mem_concat {receipts : List CaptureReceipt} {q : CaptureReceipt → Prop} :
    (∃ s ∈ receipts ++ [r], q s) ↔ (∃ s ∈ receipts, q s) ∨ q r := by
  constructor
  · rintro ⟨s, hs, hq⟩
    rcases List.mem_append.1 hs with hs | hs
    · exact .inl ⟨s, hs, hq⟩
    · rw [List.mem_singleton] at hs
      exact .inr (hs ▸ hq)
  · rintro (⟨s, hs, hq⟩ | hq)
    · exact ⟨s, List.mem_append_left _ hs, hq⟩
    · exact ⟨r, by simp, hq⟩

theorem mem_proofs_of_keyed {proofs : List CloseoutProofRef}
    {pairs : List (String × CloseoutProofRef)}
    (h : ∀ p ∈ pairs, p ∈ keyedProofs proofs)
    (hp : proof ∈ (sortedText (Dict.keys pairs)).filterMap fun key => pairs.lookup key) :
    proof ∈ proofs := by
  obtain ⟨key, _, hl⟩ := List.mem_filterMap.1 hp
  obtain ⟨q, hq, he⟩ := List.mem_map.1 (h _ (Dict.mem_of_lookup hl))
  cases he
  exact hq

/-- The fields every merge writes, whether it expires or not. -/
structure Merges (old new next : CaptureReceipt) : Prop where
  captureId : next.captureId = old.captureId
  candidates : next.candidateIds = sortedSet (old.candidateIds ++ new.candidateIds)
  covered : next.coveredTargetIds = sortedSet (old.coveredTargetIds ++ new.coveredTargetIds)
  updatedAt : next.updatedAt = max old.updatedAt new.updatedAt
  hashes : ∃ hashes, mergeKeyed "CAPTURE_CONTENT_CONFLICT" old.candidateHashes
    new.candidateHashes = .ok hashes ∧ next.candidateHashes = hashes.insertionSort pairLe
  proofs : ∃ proofs, mergeKeyed "CAPTURE_CLOSEOUT_PROOF_CONFLICT" (keyedProofs old.closeoutProofs)
    (keyedProofs new.closeoutProofs) = .ok proofs ∧ (next.closeoutProofs = old.closeoutProofs ∨
      next.closeoutProofs = (sortedText (Dict.keys proofs)).filterMap fun key => proofs.lookup key)
  outcome : ((old.reasonCode = pendingExpired ∨ new.reasonCode = pendingExpired) ∧
      next.reasonCode = pendingExpired ∧ next.state = .unavailable) ∨
    (old.reasonCode ≠ pendingExpired ∧ new.reasonCode ≠ pendingExpired ∧
      next.reasonCode = new.reasonCode ∧ next.state = if next.candidateIds ≠ [] then .secured
        else if new.state = .waiting then old.state else new.state)

/-- A merge keeps an unknown receipt, or writes every field. -/
theorem mergeReceipt_cases (h : mergeReceipt old new = .ok next) :
    old.captureId = new.captureId ∧
      ((old.state = .unknown ∧ next = old) ∨ (old.state ≠ .unknown ∧ Merges old new next)) := by
  rw [mergeReceipt] at h
  obtain ⟨_, hid, h⟩ := Except.bind_eq_ok.1 h
  have hid : old.captureId = new.captureId := by simpa [refuse] using hid
  refine ⟨hid, ?_⟩
  split at h
  · rename_i hu
    cases h
    exact .inl ⟨hu, rfl⟩
  · rename_i hu
    obtain ⟨hashes, hh, h⟩ := Except.bind_eq_ok.1 h
    obtain ⟨proofs, hp, h⟩ := Except.bind_eq_ok.1 h
    right
    refine ⟨hu, ?_⟩
    split at h
    · rename_i he
      cases h
      exact ⟨rfl, rfl, rfl, rfl, ⟨hashes, hh, rfl⟩, ⟨proofs, hp, .inl rfl⟩, .inl ⟨he, rfl, rfl⟩⟩
    · rename_i he
      obtain ⟨ho, hn⟩ := not_or.1 he
      cases h
      exact ⟨hid.symm, rfl, rfl, rfl, ⟨hashes, hh, rfl⟩, ⟨proofs, hp, .inr rfl⟩,
        .inr ⟨ho, hn, rfl, rfl⟩⟩

theorem mergeReceipt_ok (hid : old.captureId = new.captureId) (hu : old.state ≠ .unknown)
    (hh : mergeKeyed "CAPTURE_CONTENT_CONFLICT" old.candidateHashes new.candidateHashes =
      .ok hashes)
    (hp : mergeKeyed "CAPTURE_CLOSEOUT_PROOF_CONFLICT" (keyedProofs old.closeoutProofs)
      (keyedProofs new.closeoutProofs) = .ok proofs) :
    ∃ next, mergeReceipt old new = .ok next := by
  have hrefuse : refuse (old.captureId != new.captureId) (valueError "CAPTURE_ID_CONFLICT") =
      .ok () := by simp [refuse, hid]
  rw [mergeReceipt, hrefuse, ok_bind, if_neg hu, hh, ok_bind, hp, ok_bind]
  split
  · exact ⟨_, rfl⟩
  · exact ⟨_, rfl⟩

theorem Merges.gathers {receipts : List CaptureReceipt} {merged : CaptureReceipt}
    (h : Merges merged r next) (hg : Gathers receipts merged) (hm : Mergeable (receipts ++ [r])) :
    Gathers (receipts ++ [r]) next where
  captureId := by
    intro s hs
    obtain ⟨q, hq, _⟩ := hg.newest
    rw [h.captureId, ← hg.captureId q hq]
    exact hm.captureId s hs q (List.mem_append_left _ hq)
  candidate c := by rw [h.candidates, mem_sortedSet, List.mem_append, hg.candidate, exists_mem_concat]
  covered t := by rw [h.covered, mem_sortedSet, List.mem_append, hg.covered, exists_mem_concat]
  hashes p := by
    obtain ⟨⟨hashes, hh, hholds⟩, _⟩ := hg.merged_maps hm
    obtain ⟨hashes', hh', he⟩ := h.hashes
    cases hh.symm.trans hh'
    rw [he, List.mem_insertionSort, hholds.2, List.mem_append, hg.hashes, exists_mem_concat]
  proofs proof hproof := by
    obtain ⟨_, proofs, hp, hholds⟩ := hg.merged_maps hm
    obtain ⟨proofs', hp', he⟩ := h.proofs
    cases hp.symm.trans hp'
    rw [exists_mem_concat]
    rcases he with he | he
    · exact .inl (hg.proofs proof (he ▸ hproof))
    · rw [he] at hproof
      have hkeyed : ∀ p ∈ proofs, p ∈ keyedProofs (merged.closeoutProofs ++ r.closeoutProofs) := by
        intro p hp
        rw [keyedProofs, List.map_append]
        exact (hholds.2 p).1 hp
      have hin := mem_proofs_of_keyed hkeyed hproof
      rcases List.mem_append.1 hin with hin | hin
      · exact .inl (hg.proofs proof hin)
      · exact .inr hin
  newest := by
    rw [exists_mem_concat, h.updatedAt]
    rcases max_choice merged.updatedAt r.updatedAt with hmax | hmax
    · rw [hmax]
      exact .inl hg.newest
    · rw [hmax]
      exact .inr rfl
  latest s hs := by
    rw [h.updatedAt]
    rcases List.mem_append.1 hs with hs | hs
    · exact le_max_of_le_left (hg.latest s hs)
    · rw [List.mem_singleton.1 hs]
      exact le_max_right _ _
  expired := by
    rw [exists_mem_concat, ← hg.expired]
    rcases h.outcome with ⟨he, hr, _⟩ | ⟨ho, hn, hr, _⟩
    · simp [he, hr]
    · simp [ho, hn, hr]
  known := by
    rcases h.outcome with ⟨_, _, hs⟩ | ⟨_, _, _, hs⟩
    · simp [hs]
    · rw [hs]
      split
      · simp
      · split
        · exact hg.known
        · exact hm.known r (by simp)

theorem Merges.tidy {receipts : List CaptureReceipt} {merged : CaptureReceipt}
    (h : Merges merged r next) (hg : Gathers receipts merged)
    (hm : Mergeable (receipts ++ [r])) : Tidy next where
  candidates := by
    rw [h.candidates]
    exact sortedSet_pairwise _
  covered := by
    rw [h.covered]
    exact sortedSet_pairwise _
  hashes := by
    obtain ⟨hashes, _, he⟩ := h.hashes
    rw [he]
    exact insertionSort_pairLe hashes
  hashesOnce := by
    obtain ⟨⟨hashes, hh, hholds⟩, _⟩ := hg.merged_maps hm
    obtain ⟨hashes', hh', he⟩ := h.hashes
    cases hh.symm.trans hh'
    rw [he, (List.perm_insertionSort _ _).nodup_iff]
    exact hholds.1.of_map
  expired he := by
    rcases h.outcome with ⟨_, _, hs⟩ | ⟨_, hn, hr, _⟩
    · exact hs
    · exact absurd (hr ▸ he) hn
  secured he hc := by
    rcases h.outcome with ⟨_, hr, _⟩ | ⟨_, _, _, hs⟩
    · exact absurd hr he
    · rw [hs, if_pos hc]

/-- Merging one more receipt collects it and leaves the result in order. -/
theorem Gathers.merge {receipts : List CaptureReceipt} {merged : CaptureReceipt}
    (h : Gathers receipts merged) (hm : Mergeable (receipts ++ [r])) :
    ∃ next, mergeReceipt merged r = .ok next ∧ Gathers (receipts ++ [r]) next ∧ Tidy next := by
  obtain ⟨⟨_, hh, _⟩, _, hp, _⟩ := h.merged_maps hm
  obtain ⟨q, hq, _⟩ := h.newest
  have hid : merged.captureId = r.captureId :=
    (h.captureId q hq).symm.trans (hm.captureId q (List.mem_append_left _ hq) r (by simp))
  obtain ⟨next, hnext⟩ := mergeReceipt_ok hid h.known hh hp
  rcases (mergeReceipt_cases hnext).2 with ⟨hu, _⟩ | ⟨_, hmerges⟩
  · exact absurd hu h.known
  · exact ⟨next, hnext, hmerges.gathers h hm, hmerges.tidy h hm⟩

/-- A receipt and those merged into it one after another. -/
def mergeReceipts (first : CaptureReceipt) (rest : List CaptureReceipt) :
    Except Raised CaptureReceipt :=
  rest.foldlM mergeReceipt first

/-- Receipts that can be merged in any order are merged, whatever their number. -/
theorem mergeReceipts_gathers {rest : List CaptureReceipt} (hm : Mergeable (first :: rest)) :
    ∃ merged, mergeReceipts first rest = .ok merged ∧ Gathers (first :: rest) merged ∧
      (rest ≠ [] → Tidy merged) := by
  induction rest using List.reverseRecOn with
  | nil => exact ⟨first, rfl, gathers_single (hm.known first (by simp)), fun h => absurd rfl h⟩
  | append_singleton rest r ih =>
    obtain ⟨merged, hmerged, hg, _⟩ := ih (hm.of_subset (by simp; tauto))
    obtain ⟨next, hnext, hgn, htn⟩ := hg.merge (r := r) hm
    refine ⟨next, ?_, hgn, fun _ => htn⟩
    exact Except.foldlM_concat_ok.2 ⟨merged, hmerged, hnext⟩

theorem Gathers.perm {receipts others : List CaptureReceipt} {merged : CaptureReceipt}
    (h : Gathers receipts merged) (hp : receipts.Perm others) : Gathers others merged := by
  have hmem (q : CaptureReceipt → Prop) : (∃ r ∈ receipts, q r) ↔ ∃ r ∈ others, q r := by
    simp only [hp.mem_iff]
  exact ⟨fun r hr => h.captureId r (hp.mem_iff.2 hr), fun c => (h.candidate c).trans (hmem _),
    fun t => (h.covered t).trans (hmem _), fun p => (h.hashes p).trans (hmem _),
    fun p hpr => (hmem _).1 (h.proofs p hpr), (hmem _).1 h.newest,
    fun r hr => h.latest r (hp.mem_iff.2 hr), h.expired.trans (hmem _), h.known⟩

/-- Two merged receipts agree on everything that callers rely on. -/
structure SameKnowledge (a b : CaptureReceipt) : Prop where
  candidateIds : a.candidateIds = b.candidateIds
  coveredTargetIds : a.coveredTargetIds = b.coveredTargetIds
  candidateHashes : a.candidateHashes = b.candidateHashes
  updatedAt : a.updatedAt = b.updatedAt
  state : a.state = b.state

theorem Gathers.updatedAt_le {receipts : List CaptureReceipt} {a b : CaptureReceipt}
    (ha : Gathers receipts a) (hb : Gathers receipts b) : a.updatedAt ≤ b.updatedAt := by
  obtain ⟨r, hr, he⟩ := ha.newest
  rw [← he]
  exact hb.latest r hr

theorem Gathers.candidates_ne_nil {receipts : List CaptureReceipt} {merged : CaptureReceipt}
    (h : Gathers receipts merged) (hc : ∃ r ∈ receipts, r.candidateIds ≠ []) :
    merged.candidateIds ≠ [] := by
  obtain ⟨r, hr, hne⟩ := hc
  obtain ⟨c, hin⟩ := List.exists_mem_of_ne_nil _ hne
  exact List.ne_nil_of_mem ((h.candidate c).2 ⟨r, hr, hin⟩)

theorem Gathers.state {receipts : List CaptureReceipt} {merged : CaptureReceipt}
    (h : Gathers receipts merged) (ht : Tidy merged) (hc : ∃ r ∈ receipts, r.candidateIds ≠ []) :
    ((∃ r ∈ receipts, r.reasonCode = pendingExpired) →
        merged.reasonCode = pendingExpired ∧ merged.state = .unavailable) ∧
      ((¬∃ r ∈ receipts, r.reasonCode = pendingExpired) →
        merged.reasonCode ≠ pendingExpired ∧ merged.state = .secured) := by
  rw [← h.expired]
  constructor
  · intro he
    exact ⟨he, ht.expired he⟩
  · intro he
    exact ⟨he, ht.secured he (h.candidates_ne_nil hc)⟩

theorem Gathers.sameKnowledge {receipts : List CaptureReceipt} {a b : CaptureReceipt}
    (ha : Gathers receipts a) (hb : Gathers receipts b) (hta : Tidy a) (htb : Tidy b)
    (hc : ∃ r ∈ receipts, r.candidateIds ≠ []) : SameKnowledge a b where
  candidateIds := eq_of_same_members hta.candidates htb.candidates fun c =>
    (ha.candidate c).trans (hb.candidate c).symm
  coveredTargetIds := eq_of_same_members hta.covered htb.covered fun t =>
    (ha.covered t).trans (hb.covered t).symm
  candidateHashes := eq_of_same_pairs hta.hashes htb.hashes hta.hashesOnce htb.hashesOnce fun p =>
    (ha.hashes p).trans (hb.hashes p).symm
  updatedAt := le_antisymm (ha.updatedAt_le hb) (hb.updatedAt_le ha)
  state := by
    by_cases he : ∃ r ∈ receipts, r.reasonCode = pendingExpired
    · rw [((ha.state hta hc).1 he).2, ((hb.state htb hc).1 he).2]
    · rw [((ha.state hta hc).2 he).2, ((hb.state htb hc).2 he).2]

/-- What a receipt never loses when others are merged into it. -/
structure Grows (earlier later : CaptureReceipt) : Prop where
  candidates : earlier.candidateIds ⊆ later.candidateIds
  covered : earlier.coveredTargetIds ⊆ later.coveredTargetIds
  expired : earlier.reasonCode = pendingExpired →
    later.reasonCode = pendingExpired ∧ (later.state = .unavailable ∨ later = earlier)
  unknown : earlier.state = .unknown → later = earlier

theorem Grows.refl (receipt : CaptureReceipt) : Grows receipt receipt where
  candidates := List.Subset.refl _
  covered := List.Subset.refl _
  expired h := ⟨h, .inr rfl⟩
  unknown _ := rfl

theorem Grows.trans (h : Grows a b) (h' : Grows b c) : Grows a c where
  candidates := List.Subset.trans h.candidates h'.candidates
  covered := List.Subset.trans h.covered h'.covered
  expired he := by
    obtain ⟨hb, hs⟩ := h.expired he
    obtain ⟨hc, hs'⟩ := h'.expired hb
    refine ⟨hc, ?_⟩
    rcases hs' with hs' | rfl
    · exact .inl hs'
    · exact hs
  unknown hu := by
    cases h.unknown hu
    exact h'.unknown hu

theorem mergeReceipt_grows (h : mergeReceipt old new = .ok next) : Grows old next := by
  rcases (mergeReceipt_cases h).2 with ⟨_, rfl⟩ | ⟨hu, hm⟩
  · exact .refl _
  · refine ⟨?_, ?_, ?_, fun h => absurd h hu⟩
    · rw [hm.candidates]
      intro c hc
      exact mem_sortedSet.2 (List.mem_append_left _ hc)
    · rw [hm.covered]
      intro t ht
      exact mem_sortedSet.2 (List.mem_append_left _ ht)
    · intro he
      rcases hm.outcome with ⟨_, hr, hs⟩ | ⟨ho, _⟩
      · exact ⟨hr, .inl hs⟩
      · exact absurd he ho

theorem mergeReceipts_append {earlier later : List CaptureReceipt}
    (hearly : mergeReceipts first earlier = .ok early) :
    mergeReceipts first (earlier ++ later) = mergeReceipts early later := by
  rw [mergeReceipts, List.foldlM_append]
  exact congrArg (· >>= _) hearly

/-- Whatever the receipts, what is known after some of them only grows with more of them. -/
theorem mergeReceipts_grows {earlier later : List CaptureReceipt} {early late : CaptureReceipt}
    (hearly : mergeReceipts first earlier = .ok early)
    (hlate : mergeReceipts first (earlier ++ later) = .ok late) : Grows early late := by
  rw [mergeReceipts_append hearly] at hlate
  apply Except.foldlM_invariant (I := Grows early) _ (.refl early) hlate
  intro s r _ t hs ht
  exact hs.trans (mergeReceipt_grows ht)

theorem checkProofs_nodup {proofs : List CloseoutProofRef} {seen result : List String}
    (h : proofs.foldlM checkProof seen = .ok result) (hs : seen.Nodup) :
    (proofs.map (·.recordId)).Nodup ∧ ∀ proof ∈ proofs, proof.recordId ∉ seen := by
  induction proofs generalizing seen with
  | nil => simp
  | cons proof proofs ih =>
    obtain ⟨mid, hmid, hrest⟩ := Except.foldlM_cons_ok.1 h
    simp only [checkProof, refuse_bind_ok] at hmid
    obtain ⟨hnew, _, _, _, _, hok⟩ := hmid
    cases hok
    have hseen : proof.recordId ∉ seen := by
      simp only [Bool.or_eq_false_iff, List.contains_eq_mem, decide_eq_false_iff_not] at hnew
      exact hnew.2
    obtain ⟨hnodup, hfresh⟩ := ih hrest (List.nodup_cons.2 ⟨hseen, hs⟩)
    constructor
    · rw [List.map_cons, List.nodup_cons]
      refine ⟨?_, hnodup⟩
      intro hin
      obtain ⟨other, hother, he⟩ := List.mem_map.1 hin
      exact hfresh other hother (he ▸ List.mem_cons_self)
    · intro other hother
      rcases List.mem_cons.1 hother with rfl | hother
      · exact hseen
      · intro hin
        exact hfresh other hother (List.mem_cons_of_mem _ hin)

/-- A valid receipt has one hash for a candidate and one proof of a record. -/
theorem validateCaptureReceipt_once (h : validateCaptureReceipt receipt = .ok ()) :
    (Dict.keys receipt.candidateHashes).Nodup ∧
      (receipt.closeoutProofs.map (·.recordId)).Nodup := by
  simp only [validateCaptureReceipt, refuse_bind_ok] at h
  obtain ⟨_, _, _, _, _, _, _, _, hkeys, _, h⟩ := h
  obtain ⟨_, hproofs, _⟩ := Except.bind_eq_ok.1 h
  exact ⟨by simpa using hkeys, (checkProofs_nodup hproofs List.nodup_nil).1⟩

/-- Two receipts of one capture whose hashes and proofs do not conflict. -/
structure Agree (r s : CaptureReceipt) : Prop where
  captureId : r.captureId = s.captureId
  hashes : ∀ p ∈ r.candidateHashes, ∀ q ∈ s.candidateHashes, p.1 = q.1 → p.2 = q.2
  proofs : ∀ p ∈ r.closeoutProofs, ∀ q ∈ s.closeoutProofs, p.recordId = q.recordId → p = q

instance : Decidable (Agree r s) :=
  decidable_of_iff (r.captureId = s.captureId ∧
    (∀ p ∈ r.candidateHashes, ∀ q ∈ s.candidateHashes, p.1 = q.1 → p.2 = q.2) ∧
    ∀ p ∈ r.closeoutProofs, ∀ q ∈ s.closeoutProofs, p.recordId = q.recordId → p = q)
    ⟨fun h => ⟨h.1, h.2.1, h.2.2⟩, fun h => ⟨h.captureId, h.hashes, h.proofs⟩⟩

theorem agree_self (h : validateCaptureReceipt receipt = .ok ()) : Agree receipt receipt where
  captureId := rfl
  hashes p hp q hq hk := by
    have hd := (validateCaptureReceipt_once h).1
    have hq' := Dict.lookup_of_mem hd (k := q.1) (v := q.2) hq
    rw [← hk, Dict.lookup_of_mem hd (k := p.1) (v := p.2) hp] at hq'
    exact Option.some.inj hq'
  proofs p hp q hq hk :=
    List.inj_on_of_nodup_map (validateCaptureReceipt_once h).2 hp hq hk

theorem mergeable_of_agree {receipts : List CaptureReceipt}
    (hvalid : ∀ r ∈ receipts, validateCaptureReceipt r = .ok ())
    (hagree : ∀ r ∈ receipts, ∀ s ∈ receipts, r ≠ s → Agree r s)
    (hknown : ∀ r ∈ receipts, r.state ≠ .unknown) : Mergeable receipts := by
  have hall : ∀ r ∈ receipts, ∀ s ∈ receipts, Agree r s := by
    intro r hr s hs
    by_cases he : r = s
    · exact he ▸ agree_self (hvalid r hr)
    · exact hagree r hr s hs he
  refine ⟨fun r hr s hs => (hall r hr s hs).captureId, hknown, ?_, ?_⟩
  · intro p hp q hq hk
    obtain ⟨r, hr, hp⟩ := List.mem_flatMap.1 hp
    obtain ⟨s, hs, hq⟩ := List.mem_flatMap.1 hq
    exact (hall r hr s hs).hashes p hp q hq hk
  · intro p hp q hq hk
    obtain ⟨r, hr, hp⟩ := List.mem_flatMap.1 hp
    obtain ⟨s, hs, hq⟩ := List.mem_flatMap.1 hq
    obtain ⟨a, ha, rfl⟩ := List.mem_map.1 hp
    obtain ⟨b, hb, rfl⟩ := List.mem_map.1 hq
    exact (hall r hr s hs).proofs a ha b hb hk

/-- Merging valid receipts that do not conflict gives the same knowledge in every order, decides
the state by whether one of them expired, and loses nothing on the way. -/
theorem mergeReceipts_anyOrder {rest : List CaptureReceipt}
    (hvalid : ∀ r ∈ first :: rest, validateCaptureReceipt r = .ok ())
    (hagree : ∀ r ∈ first :: rest, ∀ s ∈ first :: rest, r ≠ s → Agree r s)
    (hknown : ∀ r ∈ first :: rest, r.state ≠ .unknown)
    (hcandidate : ∃ r ∈ first :: rest, r.candidateIds ≠ []) :
    ∃ merged, mergeReceipts first rest = .ok merged ∧
      (rest ≠ [] →
        ((merged.state = .unavailable ∧ merged.reasonCode = pendingExpired) ↔
          ∃ r ∈ first :: rest, r.reasonCode = pendingExpired) ∧
        ((¬∃ r ∈ first :: rest, r.reasonCode = pendingExpired) → merged.state = .secured)) ∧
      ∀ first' rest', (first' :: rest').Perm (first :: rest) →
        ∃ merged', mergeReceipts first' rest' = .ok merged' ∧ SameKnowledge merged' merged ∧
          ∀ earlier later early, rest' = earlier ++ later →
            mergeReceipts first' earlier = .ok early → Grows early merged' := by
  have hm := mergeable_of_agree hvalid hagree hknown
  obtain ⟨merged, hmerged, hg, ht⟩ := mergeReceipts_gathers hm
  refine ⟨merged, hmerged, ?_, ?_⟩
  · intro hrest
    have hs := hg.state (ht hrest) hcandidate
    refine ⟨⟨?_, ?_⟩, fun h => (hs.2 h).2⟩
    · rintro ⟨_, he⟩
      exact hg.expired.1 he
    · intro he
      exact ⟨(hs.1 he).2, (hs.1 he).1⟩
  · intro first' rest' hp
    have hsub : ∀ r ∈ first' :: rest', r ∈ first :: rest := fun r hr => hp.mem_iff.1 hr
    obtain ⟨merged', hmerged', hg', ht'⟩ := mergeReceipts_gathers (hm.of_subset hsub)
    refine ⟨merged', hmerged', ?_, ?_⟩
    · by_cases hrest : rest = []
      · subst hrest
        have hone := List.perm_singleton.1 hp
        cases hone
        cases hmerged.symm.trans hmerged'
        exact ⟨rfl, rfl, rfl, rfl, rfl⟩
      · have hrest' : rest' ≠ [] := by
          intro he
          subst he
          have hlen := hp.length_eq
          simp only [List.length_cons, List.length_nil, Nat.add_right_cancel_iff] at hlen
          exact hrest (List.length_eq_zero_iff.1 hlen.symm)
        exact (hg'.perm hp).sameKnowledge hg (ht' hrest') (ht hrest) hcandidate
    · intro earlier later early he hearly
      exact mergeReceipts_grows hearly (he ▸ hmerged')

def sampleCaptureId : String :=
  "sha256:" ++ String.ofList (List.replicate 64 'a')

def sampleSecured : CaptureReceipt where
  captureId := sampleCaptureId
  state := .secured
  candidateIds := ["queue_" ++ String.ofList (List.replicate 32 'b')]
  coveredTargetIds := [sampleCaptureId]
  reasonCode := "PENDING_SECURED"
  updatedAt := 5
  candidateHashes := [("queue_" ++ String.ofList (List.replicate 32 'b'), sampleCaptureId)]

def sampleExpired : CaptureReceipt where
  captureId := sampleCaptureId
  state := .unavailable
  candidateIds := []
  coveredTargetIds := []
  reasonCode := pendingExpired
  updatedAt := 9

theorem sampleReceipts_anyOrder :
    ∃ merged merged', mergeReceipts sampleSecured [sampleExpired] = .ok merged ∧
      mergeReceipts sampleExpired [sampleSecured] = .ok merged' ∧
      SameKnowledge merged' merged ∧ merged.state = .unavailable := by
  have hvalid : ∀ r ∈ [sampleSecured, sampleExpired], validateCaptureReceipt r = .ok () := by
    decide
  have hagree : ∀ r ∈ [sampleSecured, sampleExpired], ∀ s ∈ [sampleSecured, sampleExpired],
      r ≠ s → Agree r s := by
    decide
  obtain ⟨merged, hmerged, hstate, horder⟩ := mergeReceipts_anyOrder hvalid hagree
    (by decide) (by decide)
  obtain ⟨merged', hmerged', hsame, _⟩ := horder sampleExpired [sampleSecured] (List.Perm.swap _ _ _)
  refine ⟨merged, merged', hmerged, hmerged', hsame, ?_⟩
  exact ((hstate (by simp)).1.2 ⟨sampleExpired, by simp, rfl⟩).1

end ExternalIntelligence
