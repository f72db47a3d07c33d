import ExternalIntelligence.SetupSettled
import Mathlib.Data.List.Dedup

namespace ExternalIntelligence
set_option autoImplicit true

open Value (ordered ordered_dict ordered_dict_eq_iff)

/-- What the options make of a store: those that give it or something of it are applied one after
the other to the store that is there in front of the first of them. -/
def askedStore (start : Fields) (ws : List Write) (kind : StoreKind) : Option Fields :=
  runStore kind ws (storeOf (runWrites (ws.takeWhile fun w => !w.touches kind) start) kind)

/-- Puts a store that is given into a mapping that has stores as well. -/
def putStore (write : StoreKind → Value → Fields → Fields) (given : StoreKind → Bool)
    (stores : StoreKind → Option Fields) (kind : StoreKind) (fields : Fields) : Fields :=
  if given kind then write kind (storeValue (stores kind)) fields else fields

def putStores (write : StoreKind → Value → Fields → Fields) (given : StoreKind → Bool)
    (stores : StoreKind → Option Fields) (fields : Fields) : Fields :=
  putStore write given stores .team (putStore write given stores .personal fields)

def Write.isManifest : Write → Bool
  | merge key _ => key == "manifest"
  | _ => false

/-- What the options make of the manifest: the one given is merged into the one that is there in
front of it, and the stores that are given later are put into it. -/
def askedManifest (start : Fields) (ws : List Write) : Option Value :=
  let put (later : List Write) := mirrored (putStores
    (fun kind v manifest => setManifestStore manifest kind.name v)
    (fun kind => later.any (Write.touches kind)) (askedStore start ws))
  match ws.dropWhile fun w => !w.isManifest with
  | .merge _ given :: later =>
    let front := runWrites (ws.takeWhile fun w => !w.isManifest) start
    put later (some (mergedValue (front.lookup "manifest") given))
  | _ => put ws (start.lookup "manifest")

/-- The value of a key that the options ask for. -/
def askedValue (start : Fields) (ws : List Write) (key : String) : Option Value :=
  if key = "manifest" then askedManifest start ws
  else if key = "knowledge_stores" then
    mirrored (putStores (fun kind v => Dict.set kind.name v)
      (fun kind => ws.any (Write.touches kind)) (askedStore start ws)) (start.lookup key)
  else
    match [StoreKind.personal, .team].find? fun kind => kind.name == key with
    | some kind =>
      if ws.any (Write.touches kind) then some (storeValue (askedStore start ws kind))
      else start.lookup key
    | none =>
      Edit.run mergedValue (ws.map (Write.plainEdit key (syncsRoot start))) (start.lookup key)

def Write.key : Write → String
  | put key _ => key
  | knowledgeRoot _ => "knowledge_root"
  | merge key _ => key
  | store kind _ => kind.name

/-- The state that the options ask for, value by value. -/
def askedState (start : Fields) (ws : List Write) : Fields :=
  (Dict.keys start ++ ws.map Write.key).dedup.filterMap fun key =>
    (askedValue start ws key).map (key, ·)

theorem keys_filterMap_keys (f : String → Option Value) (keys : List String) :
    (Dict.keys (keys.filterMap fun name => (f name).map (name, ·))).Sublist keys := by
  induction keys with
  | nil => exact List.Sublist.refl _
  | cons name keys ih =>
    rw [List.filterMap_cons]
    cases f name with
    | none => exact ih.cons name
    | some v => exact ih.cons_cons name

theorem plainEdit_of_key_ne {w : Write} (h : w.key ≠ key) (syncs : Bool) :
    w.plainEdit key syncs = .keep := by
  cases w with
  | put name v => exact if_neg h
  | knowledgeRoot v => exact if_neg fun hkey => h hkey.1.symm
  | merge name v => exact if_neg h
  | store kind edit => rfl

theorem askedManifest_of_none (h : ∀ w ∈ ws, w.isManifest = false) (start : Fields) :
    askedManifest start ws = mirrored (putStores
      (fun kind v manifest => setManifestStore manifest kind.name v)
      (fun kind => ws.any (Write.touches kind)) (askedStore start ws))
      (start.lookup "manifest") := by
  have hnil : ws.dropWhile (fun w => !w.isManifest) = [] := by
    rw [List.dropWhile_eq_nil_iff]
    intro w hw
    rw [h w hw]
    rfl
  rw [askedManifest, hnil]

theorem askedManifest_of_merge (h : ∀ w ∈ first, Write.isManifest w = false)
    (hws : ws = first ++ .merge "manifest" given :: second) (start : Fields) :
    askedManifest start ws = mirrored (putStores
      (fun kind v manifest => setManifestStore manifest kind.name v)
      (fun kind => second.any (Write.touches kind)) (askedStore start ws))
      (some (mergedValue ((runWrites first start).lookup "manifest") given)) := by
  have hfront : ∀ w ∈ first, (!w.isManifest) = true := by
    intro w hw
    rw [h w hw]
    rfl
  have hdrop : ws.dropWhile (fun w => !w.isManifest) = .merge "manifest" given :: second := by
    rw [hws, List.dropWhile_append_of_pos hfront]
    exact List.dropWhile_cons_of_neg Bool.false_ne_true
  have htake : ws.takeWhile (fun w => !w.isManifest) = first := by
    rw [hws, List.takeWhile_append_of_pos hfront, List.takeWhile_cons_of_neg Bool.false_ne_true,
      List.append_nil]
  rw [askedManifest, hdrop, htake]

theorem StoreKind.find_name (kind : StoreKind) :
    [StoreKind.personal, .team].find? (fun other => other.name == kind.name) = some kind := by
  cases kind <;> decide

theorem StoreKind.find_none (h : key ∉ storeKeys) :
    [StoreKind.personal, .team].find? (fun kind => kind.name == key) = none := by
  rw [List.find?_eq_none]
  intro kind _ hname
  exact h (beq_iff_eq.1 hname ▸ kind.name_mem)

theorem askedValue_name (start : Fields) (ws : List Write) (kind : StoreKind) :
    askedValue start ws kind.name =
      if ws.any (Write.touches kind) then some (storeValue (askedStore start ws kind))
      else start.lookup kind.name := by
  have hmanifest : kind.name ≠ "manifest" := by cases kind <;> decide
  rw [askedValue, if_neg hmanifest, if_neg kind.name_ne_stores, kind.find_name]

theorem askedValue_plain (h : key ∉ storeKeys) (start : Fields) (ws : List Write) :
    askedValue start ws key =
      Edit.run mergedValue (ws.map (Write.plainEdit key (syncsRoot start))) (start.lookup key) := by
  rw [askedValue, if_neg (ne_of_not_mem h (by decide)), if_neg (ne_of_not_mem h (by decide)),
    StoreKind.find_none h]

theorem askedValue_stores (start : Fields) (ws : List Write) :
    askedValue start ws "knowledge_stores" = mirrored (putStores
      (fun kind v => Dict.set kind.name v) (fun kind => ws.any (Write.touches kind))
      (askedStore start ws)) (start.lookup "knowledge_stores") := by
  rw [askedValue, if_neg (by decide), if_pos rfl]

theorem any_touches_of_key {ws : List Write} {kind : StoreKind}
    (h : kind.name ∉ ws.map Write.key) : ws.any (Write.touches kind) = false := by
  rw [List.any_eq_false]
  intro w hw htouch
  cases w with
  | store other edit =>
    apply h
    rw [← of_decide_eq_true htouch]
    exact List.mem_map_of_mem hw
  | _ => cases htouch

theorem putStores_of_not_given (write : StoreKind → Value → Fields → Fields)
    (stores : StoreKind → Option Fields) (h : ∀ kind, given kind = false) (fields : Fields) :
    putStores write given stores fields = fields := by
  have hput (kind : StoreKind) (fields : Fields) :
      putStore write given stores kind fields = fields :=
    if_neg (h kind ▸ Bool.false_ne_true)
  rw [putStores, hput, hput]

theorem mirrored_unwritten {v : Option Value} (h : v = none ∨ ∀ kind, given kind = false)
    (write : StoreKind → Value → Fields → Fields) (stores : StoreKind → Option Fields) :
    mirrored (putStores write given stores) v = v := by
  obtain rfl | h := h
  · rfl
  · unfold mirrored
    split
    · rw [putStores_of_not_given write stores h]
    · rfl

/-- Options that do not write a key leave its value, if it has none or they write no store. -/
theorem askedValue_unwritten (h : key ∉ ws.map Write.key)
    (hstores : start.lookup key = none ∨ ∀ kind, StoreKind.name kind ∉ ws.map Write.key) :
    askedValue start ws key = start.lookup key := by
  have hne : ∀ w ∈ ws, w.key ≠ key := fun w hw he => h (he ▸ List.mem_map_of_mem hw)
  have htouch : start.lookup key = none ∨ ∀ kind, ws.any (Write.touches kind) = false :=
    hstores.imp id fun hstores kind => any_touches_of_key (hstores kind)
  have hname (kind : StoreKind) (hkind : kind.name ∉ ws.map Write.key) :
      askedValue start ws kind.name = start.lookup kind.name := by
    rw [askedValue_name, any_touches_of_key hkind, if_neg Bool.false_ne_true]
  by_cases hplain : key ∈ storeKeys
  · simp only [storeKeys, List.mem_cons, List.not_mem_nil, or_false] at hplain
    rcases hplain with rfl | rfl | rfl | rfl
    · exact hname .personal h
    · exact hname .team h
    · rw [askedValue_stores]
      exact mirrored_unwritten htouch _ _
    · have hmanifest : ∀ w ∈ ws, w.isManifest = false := by
        intro w hw
        cases w with
        | merge name v => exact beq_eq_false_iff_ne.2 (hne _ hw)
        | _ => rfl
      rw [askedValue, if_pos rfl, askedManifest_of_none hmanifest]
      exact mirrored_unwritten htouch _ _
  · rw [askedValue_plain hplain]
    apply Edit.run_of_keep mergedValue
    intro e he
    obtain ⟨w, hw, rfl⟩ := List.mem_map.1 he
    exact plainEdit_of_key_ne (hne w hw) _

theorem lookup_askedState (start : Fields) (ws : List Write) (key : String) :
    (askedState start ws).lookup key = askedValue start ws key := by
  rw [askedState, lookup_filterMap_keys]
  split
  · rfl
  · rename_i h
    rw [List.mem_dedup, List.mem_append, not_or] at h
    have hstart : start.lookup key = none := Dict.lookup_eq_none_iff.2 h.1
    rw [askedValue_unwritten h.2 (.inl hstart), hstart]

/-- A store that options give is in the state what they make of it. -/
theorem hasStore_askedStore (hw : ∀ w ∈ ws, Write.Proper w)
    (h : ws.any (Write.touches kind) = true) (start : Fields) :
    HasStore (runWrites ws start) kind (askedStore start ws kind) := by
  induction ws generalizing start with
  | nil => cases h
  | cons w ws ih =>
    have hrest (v : Write) (hv : v ∈ ws) : v.Proper := hw v (List.mem_cons_of_mem _ hv)
    cases htouch : w.touches kind with
    | false =>
      rw [List.any_cons, htouch, Bool.false_or] at h
      have htake : (w :: ws).takeWhile (fun v => !v.touches kind) =
          w :: ws.takeWhile fun v => !v.touches kind := by
        rw [List.takeWhile_cons, htouch]
        rfl
      rw [askedStore, htake, runWrites_cons, runWrites_cons, runStore_cons,
        onStore_of_not_touches htouch]
      exact ih hrest h (w.apply start)
    | true =>
      have htake : (w :: ws).takeWhile (fun v => !v.touches kind) = [] := by
        rw [List.takeWhile_cons, htouch]
        rfl
      rw [askedStore, htake]
      cases w with
      | store other edit =>
        obtain rfl : other = kind := of_decide_eq_true htouch
        rw [runWrites_cons, runStore_cons, Write.onStore, if_pos rfl]
        exact (hasStore_apply_store (hw _ List.mem_cons_self) start).runWrites hrest
      | _ => cases htouch

section Put

variable {site : MirrorSite} {given : StoreKind → Bool} {stores : StoreKind → Option Fields}

theorem shape_putStore (kind : StoreKind) (fields : Fields) :
    site.shape (putStore site.write given stores kind fields) = site.shape fields := by
  rw [putStore]
  split
  · exact site.shape_write _ _ _
  · rfl

theorem view_putStore_place (h : given kind = true) (fields : Fields) :
    site.view (putStore site.write given stores kind fields)
      (site.place (site.shape fields) kind) = some (storeValue (stores kind)) := by
  rw [putStore, if_pos h, site.view_place]

theorem view_putStore_other (fields : Fields)
    (h : given kind = true → site.place (site.shape fields) kind ≠ p) :
    site.view (putStore site.write given stores kind fields) p = site.view fields p := by
  rw [putStore]
  split
  · rename_i hgiven
    exact site.view_other _ _ _ _ (h hgiven)
  · rfl

theorem shape_putStores (fields : Fields) :
    site.shape (putStores site.write given stores fields) = site.shape fields := by
  rw [putStores, shape_putStore, shape_putStore]

/-- A mapping with the stores that are given is what writes to them make of it. -/
theorem Mirrors.view_putStores (h : Mirrors site given state after)
    (hstate : state.lookup site.key = some (.dict fields))
    (hafter : after.lookup site.key = some (.dict written))
    (hstores : ∀ kind, given kind = true →
      after.lookup kind.name = some (storeValue (stores kind))) (p : site.Place) :
    site.view written p = site.view (putStores site.write given stores fields) p := by
  obtain ⟨others, hothers, _, hother, hgiven⟩ := h.mapping fields hstate
  rw [hafter] at hothers
  obtain rfl := Value.dict.inj (Option.some.inj hothers)
  by_cases hteam : given .team = true ∧ site.place (site.shape fields) .team = p
  · have hshape : site.place (site.shape (putStore site.write given stores .personal fields))
        .team = p := by
      rw [shape_putStore, hteam.2]
    rw [putStores, ← hshape, view_putStore_place hteam.1, shape_putStore, hgiven _ hteam.1,
      hstores _ hteam.1]
  · rw [putStores, view_putStore_other]
    · by_cases hpersonal : given .personal = true ∧ site.place (site.shape fields) .personal = p
      · rw [← hpersonal.2, view_putStore_place hpersonal.1, hgiven _ hpersonal.1,
          hstores _ hpersonal.1]
      · rw [view_putStore_other fields fun h hplace => hpersonal ⟨h, hplace⟩]
        apply hother
        intro kind hkind hplace
        cases kind with
        | personal => exact hpersonal ⟨hkind, hplace⟩
        | team => exact hteam ⟨hkind, hplace⟩
    · rw [shape_putStore]
      exact fun h hplace => hteam ⟨h, hplace⟩

theorem uniqueKeys_putStores (h : (Value.dict fields).UniqueKeys)
    (hwrite : ∀ kind v fields, v.UniqueKeys → (Value.dict fields).UniqueKeys →
      (Value.dict (site.write kind v fields)).UniqueKeys)
    (hstores : ∀ kind, given kind = true → UniqueStore (stores kind)) :
    (Value.dict (putStores site.write given stores fields)).UniqueKeys := by
  have hput (kind : StoreKind) {fields : Fields} (h : (Value.dict fields).UniqueKeys) :
      (Value.dict (putStore site.write given stores kind fields)).UniqueKeys := by
    rw [putStore]
    split
    · rename_i hgiven
      exact hwrite kind _ _ (uniqueKeys_storeValue (hstores kind hgiven)) h
    · exact h
  exact hput .team (hput .personal h)

/-- The value of a key that stores are mirrored under, but for the order of keys. -/
theorem Mirrors.alike (h : Mirrors site given state after)
    (hviews : ∀ a b, (Value.dict a).UniqueKeys → (Value.dict b).UniqueKeys →
      site.shape a = site.shape b →
      (∀ p, (site.view a p).map ordered = (site.view b p).map ordered) →
      ordered (.dict a) = ordered (.dict b))
    (hwrite : ∀ kind v fields, v.UniqueKeys → (Value.dict fields).UniqueKeys →
      (Value.dict (site.write kind v fields)).UniqueKeys)
    (hstate : (Value.dict state).UniqueKeys) (hafter : (Value.dict after).UniqueKeys)
    (hstores : ∀ kind, given kind = true → HasStore after kind (stores kind)) :
    Option.Rel Alike (after.lookup site.key)
      (mirrored (putStores site.write given stores) (state.lookup site.key)) := by
  by_cases hdict : ∃ fields, state.lookup site.key = some (.dict fields)
  · obtain ⟨fields, hfields⟩ := hdict
    obtain ⟨written, hwritten, hshape, _, _⟩ := h.mapping fields hfields
    have hput := uniqueKeys_putStores (uniqueKeys_lookup hstate hfields) hwrite
      fun kind hkind => (hstores kind hkind).unique hafter
    have hunique := uniqueKeys_lookup hafter hwritten
    rw [hwritten, hfields, mirrored]
    apply Option.Rel.some
    refine ⟨hunique, hput, hviews written _ hunique hput (hshape.trans (shape_putStores _).symm) ?_⟩
    intro p
    rw [h.view_putStores hfields hwritten (fun kind hkind => (hstores kind hkind).lookup) p]
  · rw [not_exists] at hdict
    rw [h.other hdict, mirrored_eq_self hdict]
    exact (Alike.refl hstate).lookup site.key

end Put

/-- A manifest is given at most once. -/
inductive OneManifest (ws : List Write) : Prop
  | none : (∀ w ∈ ws, Write.Keeps "manifest" w) → OneManifest ws
  | one (first second : List Write) (given : Value) :
      ws = first ++ .merge "manifest" given :: second → (∀ w ∈ first, Write.Keeps "manifest" w) →
      (∀ w ∈ second, Write.Keeps "manifest" w) → OneManifest ws

theorem isManifest_of_keeps (h : Write.Keeps "manifest" w) : w.isManifest = false := by
  cases w with
  | merge key v => exact beq_eq_false_iff_ne.2 h
  | _ => rfl

section Asked

variable {start : Fields} {ws : List Write} (hproper : ∀ w ∈ ws, Write.Proper w)
  (hunique : ∀ w ∈ ws, Write.Unique w) (hstart : (Value.dict start).UniqueKeys)

include hproper hunique hstart in
theorem alike_askedStores : Option.Rel Alike ((runWrites ws start).lookup "knowledge_stores")
    (askedValue start ws "knowledge_stores") := by
  have hkeeps : ∀ w ∈ ws, Write.Keeps storesSite.key w := by
    intro w hw
    have hw := hproper w hw
    cases w with
    | put name v => exact ne_of_not_reserved (putKeys_not_reserved name hw).1 (by decide)
    | knowledgeRoot v => exact show "knowledge_root" ≠ "knowledge_stores" by decide
    | merge name v => exact ne_of_not_reserved hw (by decide)
    | store kind edit => trivial
  rw [askedValue_stores]
  apply (storesSite.mirrors hproper hkeeps start).alike
  · intro a b ha hb _ hview
    exact (ordered_dict_eq_iff ha.1 hb.1).2 hview
  · exact fun kind v fields hv hfields => uniqueKeys_set hfields hv
  · exact hstart
  · exact uniqueKeys_runWrites hunique hstart
  · exact fun kind hkind => hasStore_askedStore hproper hkind start

include hproper hunique hstart in
theorem alike_askedManifest (h : OneManifest ws) :
    Option.Rel Alike ((runWrites ws start).lookup "manifest") (askedManifest start ws) := by
  have hviews (a b : Fields) (ha : (Value.dict a).UniqueKeys) (hb : (Value.dict b).UniqueKeys)
      (hnests : nests a = nests b)
      (hview : ∀ p, (viewOf a p).map ordered = (viewOf b p).map ordered) :
      ordered (.dict a) = ordered (.dict b) :=
    (ordered_manifest_iff ha hb hnests).2 hview
  have hwrite (kind : StoreKind) (v : Value) (fields : Fields) (hv : v.UniqueKeys)
      (hfields : (Value.dict fields).UniqueKeys) :
      (Value.dict (setManifestStore fields kind.name v)).UniqueKeys :=
    uniqueKeys_setManifestStore hfields hv
  have hafter := uniqueKeys_runWrites hunique hstart
  cases h with
  | none hkeeps =>
    rw [askedManifest_of_none fun w hw => isManifest_of_keeps (hkeeps w hw)]
    exact (manifestSite.mirrors hproper hkeeps start).alike hviews hwrite hstart hafter
      fun kind hkind => hasStore_askedStore hproper hkind start
  | one first second given hws hfirst hsecond =>
    rw [askedManifest_of_merge (fun w hw => isManifest_of_keeps (hfirst w hw)) hws]
    have hrun : runWrites ws start =
        runWrites second ((Write.merge "manifest" given).apply (runWrites first start)) := by
      rw [hws, runWrites_append, runWrites_cons]
    have hall := hproper
    rw [hws, List.forall_mem_append, List.forall_mem_cons] at hall
    have huniques := hunique
    rw [hws, List.forall_mem_append, List.forall_mem_cons] at huniques
    have hmiddle := Write.uniqueKeys huniques.2.1 (uniqueKeys_runWrites huniques.1 hstart)
    have hstores (kind : StoreKind) (hkind : second.any (Write.touches kind) = true) :
        HasStore (runWrites second
          ((Write.merge "manifest" given).apply (runWrites first start))) kind
          (askedStore start ws kind) := by
      rw [← hrun]
      apply hasStore_askedStore hproper
      rw [hws, List.any_append, List.any_cons, hkind, Bool.or_true, Bool.or_true]
    have halike := (manifestSite.mirrors hall.2.2 hsecond
      ((Write.merge "manifest" given).apply (runWrites first start))).alike hviews hwrite hmiddle
      (hrun ▸ hafter) hstores
    have hlookup : ((Write.merge "manifest" given).apply (runWrites first start)).lookup
        manifestSite.key = some (mergedValue ((runWrites first start).lookup "manifest") given) :=
      Dict.lookup_set_self _ _ _
    rw [hlookup, ← hrun] at halike
    exact halike

include hproper hunique hstart in
/-- Each value that the options leave is the one that they ask for. -/
theorem alike_askedValue (h : OneManifest ws) (key : String) :
    Option.Rel Alike ((runWrites ws start).lookup key) (askedValue start ws key) := by
  have hafter := uniqueKeys_runWrites hunique hstart
  have hsame (heq : (runWrites ws start).lookup key = askedValue start ws key) :
      Option.Rel Alike ((runWrites ws start).lookup key) (askedValue start ws key) := by
    rw [← heq]
    exact (Alike.refl hafter).lookup key
  have hname (kind : StoreKind) :
      (runWrites ws start).lookup kind.name = askedValue start ws kind.name := by
    rw [askedValue_name]
    cases htouch : ws.any (Write.touches kind) with
    | true =>
      rw [if_pos rfl]
      exact (hasStore_askedStore hproper htouch start).lookup
    | false =>
      rw [if_neg Bool.false_ne_true]
      exact lookup_runWrites_name hproper htouch start
  by_cases hplain : key ∈ storeKeys
  · simp only [storeKeys, List.mem_cons, List.not_mem_nil, or_false] at hplain
    rcases hplain with rfl | rfl | rfl | rfl
    · exact hsame (hname .personal)
    · exact hsame (hname .team)
    · exact alike_askedStores hproper hunique hstart
    · rw [askedValue, if_pos rfl]
      exact alike_askedManifest hproper hunique hstart h
  · apply hsame
    rw [askedValue_plain hplain]
    exact lookup_runWrites_plain hproper hplain start

include hproper hunique hstart in
/-- The options leave the state that they ask for, but for the order of keys. -/
theorem alike_askedState (h : OneManifest ws) :
    Alike (.dict (runWrites ws start)) (.dict (askedState start ws)) := by
  have hafter := uniqueKeys_runWrites hunique hstart
  have hvalues := alike_askedValue hproper hunique hstart h
  have hkeys : (Dict.keys (askedState start ws)).Nodup :=
    (keys_filterMap_keys _ _).nodup (List.nodup_dedup _)
  refine ⟨hafter, ⟨hkeys, ?_⟩, ?_⟩
  · rw [Value.uniqueFields_iff]
    intro p hp
    have hlookup := Dict.lookup_of_mem hkeys hp
    rw [lookup_askedState] at hlookup
    have hvalue := hvalues p.1
    rw [hlookup] at hvalue
    generalize (runWrites ws start).lookup p.1 = v at hvalue
    cases hvalue with
    | some halike => exact halike.right
  · apply (ordered_dict_eq_iff hafter.1 hkeys).2
    intro key
    rw [lookup_askedState]
    have hvalue := hvalues key
    generalize (runWrites ws start).lookup key = v at hvalue
    generalize askedValue start ws key = u at hvalue
    cases hvalue with
    | none => rfl
    | some halike => exact congrArg some halike.same

end Asked

theorem oneManifest_allWrites (hkeys : (Dict.keys explicit).Nodup)
    (h : allWrites explicit = .ok ws) : OneManifest ws := by
  by_cases hmem : "manifest" ∈ Dict.keys explicit
  · obtain ⟨_, given, _, vs, us, _, _, _, hwrites, hvs, hus⟩ := exists_manifest_split hkeys h hmem
    exact .one vs us given hwrites hvs hus
  · exact .none (keeps_manifest h hmem)

theorem OneManifest.append (h : OneManifest ws) (hkeeps : ∀ w ∈ vs, Write.Keeps "manifest" w) :
    OneManifest (ws ++ vs) := by
  cases h with
  | none h => exact .none (List.forall_mem_append.2 ⟨h, hkeeps⟩)
  | one first second given hws hfirst hsecond =>
    apply OneManifest.one first (second ++ vs) given _ hfirst
    · exact List.forall_mem_append.2 ⟨hsecond, hkeeps⟩
    · rw [hws, List.append_assoc, List.cons_append]

/-- The state that setup is asked for: what the options ask for, and the team store on or off. -/
def requestedState (current explicit : Fields) : Fields :=
  match allWrites explicit with
  | .ok ws =>
    let start := startState current
    askedState start (ws ++ switchWrites explicit (askedState start ws))
  | .error _ => []

/-- What the options leave is the state that setup is asked for. -/
theorem alike_requestedState (hcurrent : (Value.dict current).UniqueKeys)
    (hexplicit : (Value.dict explicit).UniqueKeys) (hws : allWrites explicit = .ok ws) :
    Alike (.dict (runWrites (setupWrites explicit ws (startState current)) (startState current)))
      (.dict (requestedState current explicit)) := by
  have hsteps := steps_allWrites hexplicit hws
  have hstart := uniqueKeys_startState hcurrent
  have hone := oneManifest_allWrites hexplicit.1 hws
  have hteam := (alike_askedState hsteps.proper hsteps.unique hstart hone).shows.team
  have hswitch : switchWrites explicit (askedState (startState current) ws) =
      switchWrites explicit (runWrites ws (startState current)) := by
    rw [switchWrites, switchWrites, rel_isSome hteam]
  have hall := hsteps.switch explicit (runWrites ws (startState current))
  have hkeeps := keeps_switchWrites "manifest" explicit (runWrites ws (startState current))
  rw [requestedState, hws]
  dsimp only
  rw [hswitch]
  exact alike_askedState hall.proper hall.unique hstart (hone.append hkeeps)

end ExternalIntelligence
