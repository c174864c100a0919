import Roammand.Host.Authorization
import Roammand.Library.Run
import Roammand.Protocol.Codec

/-!
# Registry and store agree

Every operation of the authorization registry persists the snapshot of the registry it
is about to commit.  This module follows registry and file through whole runs, with any
pattern of file system failures.

Main results:

- Theorem `AuthorizationRegistry.load_of_represents`: a list that holds exactly the
  entries of a well-formed registry loads as that registry.
- Theorem `AuthorizationRegistry.store_agreement`: over every run in which no write fails
  after its rename, registry and store agree, a failed operation changes neither, and
  every reachable registry is well formed.
- Theorem `AuthorizationRegistry.late_write_failure`: a write that fails after its rename
  leaves a file that no longer agrees with the registry.
-/

namespace Roammand

namespace Host

open Library Protocol HostAuthorizationSnapshot Option

namespace AuthorizationRegistry

/-! ## Well-formed registries -/

/-- What every reachable registry satisfies: its grants are valid, filed under their
controllers, bounded in number and told apart by their grant identifiers. -/
structure WellFormed (crypto : Crypto) (r : AuthorizationRegistry) : Prop where
  host : r.hostDeviceId.length = deviceIdBytes
  size : r.grantsByController.size ≤ maxControllerGrants
  valid : ∀ (k : Bytes) view, r.grantsByController[k]? = some view →
    validateStoredGrant crypto view r.hostDeviceId = .ok k
  grantIds : ∀ (k₁ k₂ : Bytes) view₁ view₂ grantId, r.grantsByController[k₁]? = some view₁ →
    r.grantsByController[k₂]? = some view₂ → hasGrantId grantId view₁ = true →
    hasGrantId grantId view₂ = true → k₁ = k₂

/-- A list holds exactly the entries of a grant map. -/
structure Represents (views : List ControllerGrantView) (grants : GrantMap) : Prop where
  nodup : (views.map controllerDeviceIdFor).Nodup
  mem : ∀ view, view ∈ views ↔
    ∃ k, controllerDeviceIdFor view = some k ∧ grants[k]? = some view

theorem getElem?_insert_self (grants : GrantMap) (k : Bytes) (view : ControllerGrantView) :
    (grants.insert k view)[k]? = some view := by
  simp

theorem getElem?_insert_of_ne {grants : GrantMap} {k a : Bytes} (h : k ≠ a)
    (view : ControllerGrantView) : (grants.insert k view)[a]? = grants[a]? := by
  rw [Std.ExtTreeMap.getElem?_insert, if_neg]
  exact fun heq => h (Std.LawfulEqCmp.eq_of_compare heq)

/-- An entry of an extended map is the new one or an old one. -/
theorem getElem?_insert_cases {grants : GrantMap} {k k' : Bytes}
    {view view' : ControllerGrantView} (h : (grants.insert k view)[k']? = some view') :
    (k' = k ∧ view' = view) ∨ grants[k']? = some view' := by
  by_cases heq : k = k'
  · subst heq
    rw [getElem?_insert_self] at h
    exact .inl ⟨rfl, (some.inj h).symm⟩
  · rw [getElem?_insert_of_ne heq] at h
    exact .inr h

theorem getElem?_erase_of_ne {grants : GrantMap} {k a : Bytes} (h : k ≠ a) :
    (grants.erase k)[a]? = grants[a]? := by
  rw [Std.ExtTreeMap.getElem?_erase, if_neg]
  exact fun heq => h (Std.LawfulEqCmp.eq_of_compare heq)

/-- The listed grants are the entries of the registry. -/
theorem listControllerGrants_represents {crypto : Crypto} {r : AuthorizationRegistry}
    (h : r.WellFormed crypto) : Represents r.listControllerGrants r.grantsByController := by
  have hmem : ∀ k view, (k, view) ∈ r.grantsByController.toList ↔
      r.grantsByController[k]? = some view := fun k view =>
    Std.ExtTreeMap.mem_toList_iff_getElem?_eq_some
  refine ⟨?_, ?_⟩
  · have hkeys : (r.listControllerGrants.map controllerDeviceIdFor) =
        r.grantsByController.toList.map fun entry => some entry.1 := by
      simp only [listControllerGrants, List.map_map]
      refine List.map_congr_left fun entry hentry => ?_
      exact controllerDeviceIdFor_of_valid (h.valid _ _ ((hmem entry.1 entry.2).mp hentry))
    rw [hkeys, List.Nodup, List.pairwise_map]
    refine Std.ExtTreeMap.distinct_keys_toList.imp fun hne heq => hne ?_
    rw [some.inj heq]
    exact Std.ReflCmp.compare_self
  · intro view
    simp only [listControllerGrants, List.mem_map, Prod.exists, exists_eq_right]
    constructor
    · rintro ⟨k, hk⟩
      have hget := (hmem k view).mp hk
      exact ⟨k, controllerDeviceIdFor_of_valid (h.valid _ _ hget), hget⟩
    · rintro ⟨k, -, hget⟩
      exact ⟨k, (hmem k view).mpr hget⟩

/-- Loading a list of valid grants with distinct controllers and identifiers files each
of them under its controller. -/
theorem loadGrants_of_valid (crypto : Crypto) (host : Bytes) (grantIds : List Bytes)
    (grants : GrantMap) {views : List ControllerGrantView}
    (hvalid : ∀ view ∈ views, ∃ k, validateStoredGrant crypto view host = .ok k)
    (hkeys : (views.map controllerDeviceIdFor).Nodup)
    (hfree : ∀ view ∈ views, ∀ k, controllerDeviceIdFor view = some k → k ∉ grants)
    (hids : views.Pairwise fun a b => ∀ id, hasGrantId id a = true → hasGrantId id b = false)
    (hseen : ∀ view ∈ views, ∀ id ∈ grantIds, hasGrantId id view = false) :
    ∃ result, loadGrants crypto host grantIds grants views = .ok result ∧
      (∀ view ∈ views, ∀ k, controllerDeviceIdFor view = some k →
        result[k]? = some view) ∧
      ∀ k, (∀ view ∈ views, controllerDeviceIdFor view ≠ some k) →
        result[k]? = grants[k]? := by
  induction views generalizing grantIds grants with
  | nil => exact ⟨grants, rfl, by simp, fun k _ => rfl⟩
  | cons view views ih =>
    obtain ⟨k, hk⟩ := hvalid view (by simp)
    have hfor := controllerDeviceIdFor_of_valid hk
    obtain ⟨grant, controller, hgrant, -⟩ := validateStoredGrant_eq_ok.mp hk
    rw [List.map_cons, List.nodup_cons] at hkeys
    rw [List.pairwise_cons] at hids
    have hother : ∀ view' ∈ views, controllerDeviceIdFor view' ≠ some k := by
      intro view' hview' heq
      exact hkeys.1 (List.mem_map.mpr ⟨view', hview', by rw [heq, hfor]⟩)
    have hgrantId : hasGrantId grant.grantId view = true := by
      simp [hasGrantId, hgrant]
    have hstep : loadGrants crypto host grantIds grants (view :: views) =
        loadGrants crypto host (grant.grantId :: grantIds) (grants.insert k view) views := by
      have hnew : grant.grantId ∉ grantIds := by
        intro hmem
        rw [hseen view (by simp) _ hmem] at hgrantId
        cases hgrantId
      have hkfree : k ∉ grants := hfree view (by simp) k hfor
      simp [loadGrants, hk, hgrant, okOr, ensure, hnew, hkfree, bind, Except.bind]
    have hfree' : ∀ view' ∈ views, ∀ k', controllerDeviceIdFor view' = some k' →
        k' ∉ grants.insert k view := by
      intro view' hview' k' hk' hmem
      rcases Std.ExtTreeMap.mem_insert.mp hmem with heq | hmem
      · rw [← Std.LawfulEqCmp.eq_of_compare heq] at hk'
        exact hother view' hview' hk'
      · exact hfree view' (List.mem_cons_of_mem _ hview') k' hk' hmem
    have hseen' : ∀ view' ∈ views, ∀ id ∈ grant.grantId :: grantIds,
        hasGrantId id view' = false := by
      intro view' hview' id hid
      rcases List.mem_cons.mp hid with rfl | hid
      · exact hids.1 view' hview' _ hgrantId
      · exact hseen view' (List.mem_cons_of_mem _ hview') id hid
    obtain ⟨result, hresult, hmembers, hframe⟩ :=
      ih _ _ (fun v hv => hvalid v (List.mem_cons_of_mem _ hv)) hkeys.2 hfree' hids.2 hseen'
    refine ⟨result, hstep.trans hresult, ?_, ?_⟩
    · intro view' hview' k' hk'
      rcases List.mem_cons.mp hview' with rfl | hview'
      · obtain rfl : k = k' := some.inj (hfor.symm.trans hk')
        rw [hframe k hother]
        exact getElem?_insert_self grants k _
      · exact hmembers view' hview' k' hk'
    · intro k' hk'
      have hne : k ≠ k' := fun heq => hk' view (by simp) (by rw [hfor, heq])
      rw [hframe k' fun v hv => hk' v (List.mem_cons_of_mem _ hv)]
      exact getElem?_insert_of_ne hne view

/-- A list that holds exactly the entries of a well-formed registry loads as that
registry. -/
theorem load_of_represents {crypto : Crypto} {r : AuthorizationRegistry}
    {views : List ControllerGrantView} (hwf : r.WellFormed crypto)
    (hviews : Represents views r.grantsByController) :
    loadGrants crypto r.hostDeviceId [] ∅ views = .ok r.grantsByController := by
  have hpairs : views.Pairwise fun a b =>
      ∀ id, hasGrantId id a = true → hasGrantId id b = false := by
    have hdistinct := List.pairwise_map.mp hviews.nodup
    refine hdistinct.imp_of_mem fun {a b} ha hb hne id hida => ?_
    obtain ⟨ka, hka, hgeta⟩ := (hviews.mem a).mp ha
    obtain ⟨kb, hkb, hgetb⟩ := (hviews.mem b).mp hb
    by_contra hidb
    have heq := hwf.grantIds ka kb a b id hgeta hgetb hida (by simpa using hidb)
    exact hne (by rw [hka, hkb, heq])
  obtain ⟨result, hresult, hmembers, hframe⟩ :=
    loadGrants_of_valid crypto r.hostDeviceId [] ∅ (fun view hview => by
        obtain ⟨k, -, hget⟩ := (hviews.mem view).mp hview
        exact ⟨k, hwf.valid k view hget⟩)
      hviews.nodup (by simp) hpairs (by simp)
  rw [hresult]
  congr 1
  refine Std.ExtTreeMap.ext_getElem? fun k => ?_
  by_cases hk : ∃ view ∈ views, controllerDeviceIdFor view = some k
  · obtain ⟨view, hview, hfor⟩ := hk
    obtain ⟨k', hk', hget⟩ := (hviews.mem view).mp hview
    obtain rfl : k = k' := some.inj (hfor.symm.trans hk')
    rw [hmembers view hview k hfor, hget]
  · push Not at hk
    rw [hframe k hk, Std.ExtTreeMap.getElem?_empty]
    refine (eq_none_iff_forall_ne_some.mpr fun view hget => ?_).symm
    have hfor := controllerDeviceIdFor_of_valid (hwf.valid k view hget)
    exact hk view ((hviews.mem view).mpr ⟨k, hfor, hget⟩) hfor

/-- Whatever loads is a well-formed collection of grants. -/
theorem loadGrants_wellFormed {crypto : Crypto} {host : Bytes}
    {views : List ControllerGrantView} {grantIds : List Bytes} {grants result : GrantMap}
    (h : loadGrants crypto host grantIds grants views = .ok result)
    (hvalid : ∀ (k : Bytes) view, grants[k]? = some view →
      validateStoredGrant crypto view host = .ok k)
    (hids : ∀ (k₁ k₂ : Bytes) view₁ view₂ grantId, grants[k₁]? = some view₁ →
      grants[k₂]? = some view₂ → hasGrantId grantId view₁ = true →
      hasGrantId grantId view₂ = true → k₁ = k₂)
    (hseen : ∀ (k : Bytes) view grantId, grants[k]? = some view →
      hasGrantId grantId view = true → grantId ∈ grantIds) :
    result.size ≤ grants.size + views.length ∧
    (∀ (k : Bytes) view, result[k]? = some view →
      validateStoredGrant crypto view host = .ok k) ∧
    ∀ (k₁ k₂ : Bytes) view₁ view₂ grantId, result[k₁]? = some view₁ →
      result[k₂]? = some view₂ → hasGrantId grantId view₁ = true →
      hasGrantId grantId view₂ = true → k₁ = k₂ := by
  induction views generalizing grantIds grants with
  | nil =>
    cases h
    exact ⟨by simp, hvalid, hids⟩
  | cons view views ih =>
    simp only [loadGrants, bind_eq_ok, okOr_eq_ok, ensure_eq_ok] at h
    obtain ⟨k, hk, grant, hgrant, -, hnew, -, hfree, hrest⟩ := h
    have hown : ∀ id, hasGrantId id view = true → id = grant.grantId := by
      intro id hid
      simpa [hasGrantId, hgrant, eq_comm] using hid
    have hvalid' : ∀ (k' : Bytes) view', (grants.insert k view)[k']? = some view' →
        validateStoredGrant crypto view' host = .ok k' := by
      intro k' view' hget
      rcases getElem?_insert_cases hget with ⟨rfl, rfl⟩ | hget
      · exact hk
      · exact hvalid k' view' hget
    have hids' : ∀ (k₁ k₂ : Bytes) view₁ view₂ id, (grants.insert k view)[k₁]? = some view₁ →
        (grants.insert k view)[k₂]? = some view₂ → hasGrantId id view₁ = true →
        hasGrantId id view₂ = true → k₁ = k₂ := by
      intro k₁ k₂ view₁ view₂ id h₁ h₂ hid₁ hid₂
      rcases getElem?_insert_cases h₁ with ⟨rfl, rfl⟩ | hold₁ <;>
        rcases getElem?_insert_cases h₂ with ⟨rfl, rfl⟩ | hold₂
      · rfl
      · exact absurd (hown id hid₁ ▸ hseen _ _ _ hold₂ hid₂) hnew
      · exact absurd (hown id hid₂ ▸ hseen _ _ _ hold₁ hid₁) hnew
      · exact hids _ _ _ _ id hold₁ hold₂ hid₁ hid₂
    have hseen' : ∀ (k' : Bytes) view' id, (grants.insert k view)[k']? = some view' →
        hasGrantId id view' = true → id ∈ grant.grantId :: grantIds := by
      intro k' view' id hget hid
      rcases getElem?_insert_cases hget with ⟨rfl, rfl⟩ | hget
      · rw [hown id hid]; simp
      · exact List.mem_cons_of_mem _ (hseen k' view' id hget hid)
    obtain ⟨hsize, hresult⟩ := ih hrest hvalid' hids' hseen'
    refine ⟨?_, hresult⟩
    have := Std.ExtTreeMap.size_insert_le (t := grants) (k := k) (v := view)
    simp only [List.length_cons]
    omega

section Load

variable {crypto : Crypto} {decode : Bytes → Option HostAuthorizationSnapshot}

theorem load_eq_ok {faults : FileFaults} {file : Option Bytes} {host : Bytes}
    {r : AuthorizationRegistry} :
    load crypto decode faults file host = .ok r ↔ host.length = deviceIdBytes ∧
      ∃ loaded, FileGrantStore.load crypto decode faults file host = .ok loaded ∧
        loaded.length ≤ maxControllerGrants ∧
        loadGrants crypto host [] ∅ loaded = .ok r.grantsByController ∧
        r.hostDeviceId = host := by
  unfold load
  simp only [bind_eq_ok, ensure_eq_ok, mapError_eq_ok]
  constructor
  · rintro ⟨-, hhost, loaded, hloaded, -, hlength, grants, hgrants, hr⟩
    cases hr
    exact ⟨hhost, loaded, hloaded, hlength, hgrants, rfl⟩
  · rintro ⟨hhost, loaded, hloaded, hlength, hgrants, rfl⟩
    exact ⟨⟨⟩, hhost, loaded, hloaded, ⟨⟩, hlength, _, hgrants, rfl⟩

/-- A loaded registry is well formed. -/
theorem load_wellFormed {faults : FileFaults} {file : Option Bytes} {host : Bytes}
    {r : AuthorizationRegistry} (h : load crypto decode faults file host = .ok r) :
    r.WellFormed crypto := by
  obtain ⟨hhost, loaded, -, hlength, hgrants, rfl⟩ := load_eq_ok.mp h
  obtain ⟨hsize, hvalid, hids⟩ := loadGrants_wellFormed hgrants (by simp) (by simp) (by simp)
  refine ⟨hhost, ?_, hvalid, hids⟩
  simp only [Std.ExtTreeMap.size_empty, Nat.zero_add] at hsize
  omega

end Load

/-! ## What each operation writes -/

theorem generateGrantId_ok {r : AuthorizationRegistry} {attempts : Nat}
    {random : Nat → Option (Vector UInt8 16)} {grantId : Bytes}
    (h : r.generateGrantId attempts random = .ok grantId) :
    grantId.length = grantIdBytes ∧
      ∀ view ∈ r.listControllerGrants, hasGrantId grantId view = false := by
  induction attempts with
  | zero => cases h
  | succ attempts ih =>
    unfold generateGrantId at h
    split at h
    · cases h
    · next id _ =>
      split at h
      · exact ih h
      · next hnew =>
        cases h
        refine ⟨by simp [grantIdBytes], fun view hview => ?_⟩
        simpa using fun hid => hnew (List.any_eq_true.mpr ⟨view, hview, hid⟩)

theorem Represents.perm {views views' : List ControllerGrantView} {grants : GrantMap}
    (h : Represents views grants) (hperm : views'.Perm views) : Represents views' grants where
  nodup := (hperm.map _).nodup_iff.mpr h.nodup
  mem view := hperm.mem_iff.trans (h.mem view)

variable {views : List ControllerGrantView}

/-- Appending a view for a new controller represents the extended map. -/
theorem Represents.snoc {grants : GrantMap} {k : Bytes}
    {view : ControllerGrantView} (h : Represents views grants) (hfree : grants[k]? = none)
    (hfor : controllerDeviceIdFor view = some k) :
    Represents (views ++ [view]) (grants.insert k view) := by
  have hout : ∀ v ∈ views, controllerDeviceIdFor v ≠ some k := by
    intro v hv heq
    obtain ⟨k', hk', hget⟩ := (h.mem v).mp hv
    obtain rfl : k = k' := some.inj (heq.symm.trans hk')
    rw [hfree] at hget
    cases hget
  refine ⟨?_, ?_⟩
  · rw [List.map_append, List.nodup_append]
    refine ⟨h.nodup, by simp, ?_⟩
    intro a ha b hb
    obtain ⟨v, hv, rfl⟩ := List.mem_map.mp ha
    simp only [List.map_cons, List.map_nil, List.mem_singleton] at hb
    rw [hb, hfor]
    exact hout v hv
  · intro v
    rw [List.mem_append, List.mem_singleton, h.mem v]
    constructor
    · rintro (⟨k', hk', hget⟩ | rfl)
      · refine ⟨k', hk', ?_⟩
        have hne : k ≠ k' := fun heq => hout v ((h.mem v).mpr ⟨k', hk', hget⟩) (heq ▸ hk')
        rw [getElem?_insert_of_ne hne, hget]
      · exact ⟨k, hfor, getElem?_insert_self _ _ _⟩
    · rintro ⟨k', hk', hget⟩
      by_cases heq : k = k'
      · subst heq
        rw [getElem?_insert_self] at hget
        exact .inr (some.inj hget).symm
      · rw [getElem?_insert_of_ne heq] at hget
        exact .inl ⟨k', hk', hget⟩

/-- Replacing the view of a controller represents the updated map. -/
theorem Represents.replace {views next : List ControllerGrantView} {grants : GrantMap}
    {k : Bytes} {view : ControllerGrantView} (h : Represents views grants)
    (hfor : controllerDeviceIdFor view = some k)
    (hnext : replaceFirst (fun v => controllerDeviceIdFor v = some k) view views =
      some next) :
    Represents next (grants.insert k view) := by
  have hreplace : ∀ (l l' : List ControllerGrantView), (l.map controllerDeviceIdFor).Nodup →
      replaceFirst (fun v => controllerDeviceIdFor v = some k) view l = some l' →
      l'.map controllerDeviceIdFor = l.map controllerDeviceIdFor ∧
        ∀ v, v ∈ l' ↔ v = view ∨ (v ∈ l ∧ controllerDeviceIdFor v ≠ some k) := by
    intro l
    induction l with
    | nil => intro l' _ hl'; cases hl'
    | cons a l ih =>
      intro l' hnodup hl'
      rw [List.map_cons, List.nodup_cons] at hnodup
      unfold replaceFirst at hl'
      split at hl'
      · next ha =>
        have ha : controllerDeviceIdFor a = some k := by simpa using ha
        cases hl'
        refine ⟨by simp [hfor, ha], fun v => ?_⟩
        have hrest : ∀ w ∈ l, controllerDeviceIdFor w ≠ some k := fun w hw heq =>
          hnodup.1 (List.mem_map.mpr ⟨w, hw, by rw [heq, ha]⟩)
        simp only [List.mem_cons]
        constructor
        · rintro (rfl | hv)
          · exact .inl rfl
          · exact .inr ⟨.inr hv, hrest v hv⟩
        · rintro (rfl | ⟨rfl | hv, hne⟩)
          · exact .inl rfl
          · exact absurd ha hne
          · exact .inr hv
      · next ha =>
        have ha : controllerDeviceIdFor a ≠ some k := by simpa using ha
        obtain ⟨l'', hl'', rfl⟩ := map_eq_some_iff.mp hl'
        obtain ⟨hmap, hmem⟩ := ih l'' hnodup.2 hl''
        refine ⟨by simp [hmap], fun v => ?_⟩
        simp only [List.mem_cons, hmem v]
        constructor
        · rintro (rfl | rfl | ⟨hv, hne⟩)
          · exact .inr ⟨.inl rfl, ha⟩
          · exact .inl rfl
          · exact .inr ⟨.inr hv, hne⟩
        · rintro (rfl | ⟨rfl | hv, hne⟩)
          · exact .inr (.inl rfl)
          · exact .inl rfl
          · exact .inr (.inr ⟨hv, hne⟩)
  obtain ⟨hmap, hmem⟩ := hreplace views next h.nodup hnext
  refine ⟨by rw [hmap]; exact h.nodup, ?_⟩
  · intro v
    rw [hmem v, h.mem v]
    constructor
    · rintro (rfl | ⟨⟨k', hk', hget⟩, hne⟩)
      · exact ⟨k, hfor, getElem?_insert_self _ _ _⟩
      · have hkk : k ≠ k' := fun heq => hne (heq ▸ hk')
        exact ⟨k', hk', by rw [getElem?_insert_of_ne hkk, hget]⟩
    · rintro ⟨k', hk', hget⟩
      by_cases heq : k = k'
      · subst heq
        rw [getElem?_insert_self] at hget
        exact .inl (some.inj hget).symm
      · rw [getElem?_insert_of_ne heq] at hget
        exact .inr ⟨⟨k', hk', hget⟩, fun hfork => heq (some.inj (hfork.symm.trans hk'))⟩

/-- Leaving out a controller represents the map without it. -/
theorem Represents.remove {grants : GrantMap} (k : Bytes) (h : Represents views grants) :
    Represents (views.filter fun v => controllerDeviceIdFor v ≠ some k) (grants.erase k) := by
  refine ⟨h.nodup.sublist (List.Sublist.map _ List.filter_sublist), fun v => ?_⟩
  simp only [List.mem_filter, h.mem v, decide_eq_true_eq, ne_eq]
  constructor
  · rintro ⟨⟨k', hk', hget⟩, hne⟩
    have hkk : k ≠ k' := fun heq => hne (heq ▸ hk')
    exact ⟨k', hk', by rw [getElem?_erase_of_ne hkk, hget]⟩
  · rintro ⟨k', hk', hget⟩
    by_cases heq : k = k'
    · subst heq
      simp at hget
    · rw [getElem?_erase_of_ne heq] at hget
      exact ⟨⟨k', hk', hget⟩, fun hfork => heq (some.inj (hfork.symm.trans hk'))⟩

theorem length_replaceFirst {α : Type} {p : α → Bool} {new : α} {l l' : List α}
    (h : replaceFirst p new l = some l') : l'.length = l.length := by
  induction l generalizing l' with
  | nil => cases h
  | cons a l ih =>
    unfold replaceFirst at h
    split at h
    · cases h; rfl
    · obtain ⟨l'', hl'', rfl⟩ := map_eq_some_iff.mp h
      simp [ih hl'']

/-- The next registry a writing operation commits and the snapshot it persists for it. -/
structure NextSnapshot (crypto : Crypto) (r : AuthorizationRegistry)
    (next : List ControllerGrantView) (grants : GrantMap) : Prop where
  wellFormed : WellFormed crypto { r with grantsByController := grants }
  represents : Represents next grants
  bounded : next.length ≤ maxControllerGrants

/-- Inserting a valid grant with an identifier of its own keeps a registry well
formed. -/
theorem WellFormed.insert {crypto : Crypto} {r : AuthorizationRegistry} {k : Bytes}
    {view : ControllerGrantView} (h : r.WellFormed crypto)
    (hvalid : validateStoredGrant crypto view r.hostDeviceId = .ok k)
    (hsize : (r.grantsByController.insert k view).size ≤ maxControllerGrants)
    (hids : ∀ (k' : Bytes) view' id, r.grantsByController[k']? = some view' →
      hasGrantId id view = true → hasGrantId id view' = true → k' = k) :
    WellFormed crypto { r with grantsByController := r.grantsByController.insert k view } := by
  refine ⟨h.host, hsize, ?_, ?_⟩
  · intro k' view' hget
    rcases getElem?_insert_cases hget with ⟨rfl, rfl⟩ | hold
    · exact hvalid
    · exact h.valid k' view' hold
  · intro k₁ k₂ view₁ view₂ id h₁ h₂ hid₁ hid₂
    rcases getElem?_insert_cases h₁ with ⟨rfl, rfl⟩ | hold₁ <;>
      rcases getElem?_insert_cases h₂ with ⟨rfl, rfl⟩ | hold₂
    · rfl
    · exact (hids k₂ view₂ id hold₂ hid₁ hid₂).symm
    · exact hids k₁ view₁ id hold₁ hid₂ hid₁
    · exact h.grantIds k₁ k₂ view₁ view₂ id hold₁ hold₂ hid₁ hid₂

theorem length_listControllerGrants (r : AuthorizationRegistry) :
    r.listControllerGrants.length = r.grantsByController.size := by
  simp [listControllerGrants]

/-- An operation either leaves registry and file alone or persists the snapshot of the
registry it commits. -/
def Writes (crypto : Crypto) (r : AuthorizationRegistry) (faults : FileFaults) (file : Option Bytes)
    (result : (AuthorizationRegistry × Option Bytes) ×
      Except AuthorizationError ControllerGrantView) : Prop :=
  (∃ out, result = ((r, file), out)) ∨
    ∃ next grants answer, result = r.persistThen crypto faults file next grants answer ∧
      NextSnapshot crypto r next grants

/-- A grant for a checked request is a valid stored grant. -/
theorem newGrantView_valid {crypto : Crypto} {r : AuthorizationRegistry}
    {controller : DeviceIdentity} {permissions : List SessionPermission}
    {normalized : List Int32} {grantId : Bytes}
    (hrequest : r.checkRequest crypto controller permissions = .ok normalized)
    (hlength : grantId.length = grantIdBytes) (createdAtUnixMs : UInt64) :
    validateStoredGrant crypto (r.newGrantView grantId controller createdAtUnixMs normalized)
      r.hostDeviceId = .ok controller.deviceId := by
  simp only [checkRequest, normalizePermissions, bind_eq_ok, ensure_eq_ok] at hrequest
  obtain ⟨_, hcontroller, -, hself, hnormalized⟩ := hrequest
  exact validateStoredGrant_eq_ok.mpr ⟨_, controller, rfl, rfl, rfl, hlength, rfl, hcontroller,
    hself, normalizeStoredPermissions_idem hnormalized⟩

/-- Granting access leaves registry and file alone or persists one more grant. -/
theorem createControllerGrant_cases {crypto : Crypto} {r : AuthorizationRegistry}
    (h : r.WellFormed crypto) (faults : FileFaults) (file : Option Bytes)
    (controller : DeviceIdentity) (permissions : List SessionPermission)
    (createdAtUnixMs : UInt64) (random : Nat → Option (Vector UInt8 16)) :
    (∃ out, r.createControllerGrant crypto faults file controller permissions createdAtUnixMs
      random = ((r, file), out)) ∨
    ∃ next view, r.grantsByController[controller.deviceId]? = none ∧
      r.createControllerGrant crypto faults file controller permissions createdAtUnixMs random =
        r.persistThen crypto faults file next
          (r.grantsByController.insert controller.deviceId view) view ∧
      NextSnapshot crypto r next (r.grantsByController.insert controller.deviceId view) := by
  unfold createControllerGrant
  split
  · exact .inl ⟨_, rfl⟩
  · next normalized hrequest =>
    split
    · split
      · exact .inl ⟨_, rfl⟩
      · split
        · exact .inl ⟨_, rfl⟩
        · exact .inl ⟨_, rfl⟩
    · next hfree =>
      split
      · exact .inl ⟨_, rfl⟩
      · next hlimit =>
        split
        · exact .inl ⟨_, rfl⟩
        · next grantId hgrantId =>
          refine .inr ⟨_, _, hfree, rfl, ?_⟩
          obtain ⟨hlength, hunused⟩ := generateGrantId_ok hgrantId
          have hvalid := newGrantView_valid hrequest hlength createdAtUnixMs
          set view := r.newGrantView grantId controller createdAtUnixMs normalized with hview
          have hrepresents := listControllerGrants_represents h
          have hextended := hrepresents.snoc hfree (controllerDeviceIdFor_of_valid hvalid)
          refine ⟨h.insert hvalid ?_ ?_, hextended.perm (List.perm_insertionSort _ _), ?_⟩
          · have := Std.ExtTreeMap.size_insert_le (t := r.grantsByController)
              (k := controller.deviceId) (v := view)
            omega
          · intro k' view' id hget hid hid'
            have hown : id = grantId := by
              simpa [hview, newGrantView, hasGrantId, eq_comm] using hid
            have hlisted : view' ∈ r.listControllerGrants := (hrepresents.mem view').mpr
              ⟨k', controllerDeviceIdFor_of_valid (h.valid k' view' hget), hget⟩
            have hnot := hunused view' hlisted
            rw [← hown, hid'] at hnot
            cases hnot
          · have hsize := length_listControllerGrants r
            simp only [sortGrants, List.length_insertionSort, List.length_append,
              List.length_singleton]
            omega

theorem createControllerGrant_writes {crypto : Crypto} {r : AuthorizationRegistry}
    (h : r.WellFormed crypto) (faults : FileFaults) (file : Option Bytes)
    (controller : DeviceIdentity) (permissions : List SessionPermission)
    (createdAtUnixMs : UInt64) (random : Nat → Option (Vector UInt8 16)) :
    Writes crypto r faults file
      (r.createControllerGrant crypto faults file controller permissions createdAtUnixMs
        random) := by
  rcases createControllerGrant_cases h faults file controller permissions createdAtUnixMs
      random with hsame | ⟨next, view, -, heq, hnext⟩
  · exact .inl hsame
  · exact .inr ⟨next, _, view, heq, hnext⟩

theorem recordAuthenticatedSession_writes {crypto : Crypto} {r : AuthorizationRegistry}
    (h : r.WellFormed crypto) (faults : FileFaults) (file : Option Bytes)
    (controllerDeviceId : Bytes) (authenticatedAtUnixMs : UInt64) :
    Writes crypto r faults file
      (r.recordAuthenticatedSession crypto faults file controllerDeviceId
        authenticatedAtUnixMs) := by
  unfold recordAuthenticatedSession
  split
  · exact .inl ⟨_, rfl⟩
  · next existing hget =>
    split
    · exact .inl ⟨_, rfl⟩
    · dsimp only
      split
      · exact .inl ⟨_, rfl⟩
      · next next hnext =>
        refine .inr ⟨_, _, _, rfl, ?_⟩
        set updated := { existing with
          lastSuccessfulConnectionAtUnixMs := authenticatedAtUnixMs } with hupdated
        have hvalid : validateStoredGrant crypto updated r.hostDeviceId =
            .ok controllerDeviceId := h.valid controllerDeviceId existing hget
        have hfor := controllerDeviceIdFor_of_valid hvalid
        have hcontains : r.grantsByController.contains controllerDeviceId = true := by
          refine Std.ExtTreeMap.mem_iff_contains.mp (Std.ExtTreeMap.mem_iff_isSome_getElem?.mpr ?_)
          rw [hget]
          rfl
        have hrepresents := (listControllerGrants_represents h).replace hfor hnext
        refine ⟨h.insert hvalid ?_ ?_, hrepresents, ?_⟩
        · rw [Std.ExtTreeMap.size_insert, if_pos hcontains]
          exact h.size
        · intro k' view' id hget' hid hid'
          exact h.grantIds k' controllerDeviceId view' existing id hget' hget hid' hid
        · rw [length_replaceFirst hnext, length_listControllerGrants]
          exact h.size

theorem revokeControllerGrant_writes {crypto : Crypto} {r : AuthorizationRegistry}
    (h : r.WellFormed crypto) (faults : FileFaults) (file : Option Bytes)
    (grantId : Bytes) :
    Writes crypto r faults file (r.revokeControllerGrant crypto faults file grantId) := by
  unfold revokeControllerGrant
  split
  · exact .inl ⟨_, rfl⟩
  · next controllerId removed hfind =>
    refine .inr ⟨_, _, _, rfl, ?_⟩
    have hsub : ∀ (k : Bytes) view, (r.grantsByController.erase controllerId)[k]? = some view →
        r.grantsByController[k]? = some view := by
      intro k view hget
      by_cases heq : controllerId = k
      · subst heq
        simp at hget
      · rwa [getElem?_erase_of_ne heq] at hget
    refine ⟨⟨h.host, ?_, ?_, ?_⟩, (listControllerGrants_represents h).remove controllerId, ?_⟩
    · exact Nat.le_trans Std.ExtTreeMap.size_erase_le h.size
    · intro k view hget
      exact h.valid k view (hsub k view hget)
    · intro k₁ k₂ view₁ view₂ id h₁ h₂
      exact h.grantIds k₁ k₂ view₁ view₂ id (hsub k₁ view₁ h₁) (hsub k₂ view₂ h₂)
    · refine Nat.le_trans (List.length_filter_le _ _) ?_
      rw [length_listControllerGrants]
      exact h.size

/-! ## Whole runs -/

end AuthorizationRegistry

/-- The registry together with the file it is persisted in. -/
structure AuthorizationState where
  registry : AuthorizationRegistry
  file : Option Bytes

/-- One operation with its arguments and the file system failures it meets. -/
inductive AuthorizationOp where
  | create (controller : DeviceIdentity) (permissions : List SessionPermission)
      (createdAtUnixMs : UInt64) (random : Nat → Option (Vector UInt8 16))
      (faults : FileFaults)
  | record (controllerDeviceId : Bytes) (authenticatedAtUnixMs : UInt64)
      (faults : FileFaults)
  | revoke (grantId : Bytes) (faults : FileFaults)
  | reload (faults : FileFaults)

/-- The failures an operation meets. -/
def AuthorizationOp.faults : AuthorizationOp → FileFaults
  | .create _ _ _ _ faults => faults
  | .record _ _ faults => faults
  | .revoke _ faults => faults
  | .reload faults => faults

namespace AuthorizationRegistry

/-- The state and answer after an operation on the registry. -/
def committed
    (result : (AuthorizationRegistry × Option Bytes) ×
      Except AuthorizationError ControllerGrantView) :
    AuthorizationState × Except AuthorizationError (Option ControllerGrantView) :=
  ({ registry := result.1.1, file := result.1.2 }, result.2.map some)

/-- The registry and its file as a machine; a reload is a restart of the Host. -/
def machine (crypto : Crypto) (decode : Bytes → Option HostAuthorizationSnapshot) :
    Machine AuthorizationState AuthorizationOp
      (Except AuthorizationError (Option ControllerGrantView)) where
  step s op := match op with
    | .create controller permissions createdAtUnixMs random faults =>
      committed (s.registry.createControllerGrant crypto faults s.file controller
        permissions createdAtUnixMs random)
    | .record controllerDeviceId authenticatedAtUnixMs faults =>
      committed (s.registry.recordAuthenticatedSession crypto faults s.file
        controllerDeviceId authenticatedAtUnixMs)
    | .revoke grantId faults =>
      committed (s.registry.revokeControllerGrant crypto faults s.file grantId)
    | .reload faults =>
      match load crypto decode faults s.file s.registry.hostDeviceId with
      | .error e => (s, .error e)
      | .ok registry => ({ s with registry }, .ok none)

/-- Nothing fails after the rename of a write. -/
def NoLateFailure (op : AuthorizationOp) : Prop :=
  attempt op.faults stepsAfterRename = .ok ()

section Agreement

variable {crypto : Crypto} {decode : Bytes → Option HostAuthorizationSnapshot}

/-- The registry is what a restart would load from the file. -/
def Agrees (crypto : Crypto) (decode : Bytes → Option HostAuthorizationSnapshot)
    (s : AuthorizationState) : Prop :=
  load crypto decode noFaults s.file s.registry.hostDeviceId = .ok s.registry

/-- A load that succeeds in spite of failures elsewhere loads what is there. -/
theorem load_noFaults {faults : FileFaults} {file : Option Bytes} {host : Bytes}
    {r : AuthorizationRegistry} (h : load crypto decode faults file host = .ok r) :
    load crypto decode noFaults file host = .ok r := by
  obtain ⟨hhost, loaded, hloaded, hlength, hgrants, hr⟩ := load_eq_ok.mp h
  refine load_eq_ok.mpr ⟨hhost, loaded, ?_, hlength, hgrants, hr⟩
  unfold FileGrantStore.load at hloaded ⊢
  split at hloaded
  · cases hloaded
  · cases file with
    | none => exact hloaded
    | some contents =>
      simp only at hloaded ⊢
      split at hloaded
      · cases hloaded
      · next envelope hread =>
        obtain ⟨hsize, rfl⟩ : contents.length ≤ maxEnvelopeBytes ∧ contents = envelope := by
          unfold readPrivateFile at hread
          simp only [bind_eq_ok, ensure_eq_ok] at hread
          obtain ⟨-, -, -, hsize, -, -, -, -, -, -, -, -, heq⟩ := hread
          exact ⟨hsize, Except.ok.inj heq⟩
        rw [readPrivateFile_noFaults hsize]
        exact hloaded

/-- The operation wrote the snapshot of the registry it left behind. -/
def Wrote (crypto : Crypto) (s : AuthorizationState) : Prop :=
  ∃ views, Represents views s.registry.grantsByController ∧
    s.file = some (encodeEnvelope crypto
      (encode { hostDeviceId := s.registry.hostDeviceId, grants := views }))

/-- Writing the next snapshot keeps registry and file in agreement. -/
theorem persistThen_agrees (hdecode : DecodesSnapshots decode) {r : AuthorizationRegistry}
    {faults : FileFaults} (file : Option Bytes) {next : List ControllerGrantView}
    {grants : GrantMap} (answer : ControllerGrantView)
    (hlate : attempt faults stepsAfterRename = .ok ())
    (hnext : NextSnapshot crypto r next grants) :
    (∃ e, r.persistThen crypto faults file next grants answer = ((r, file), .error e)) ∨
    ∃ file', r.persistThen crypto faults file next grants answer =
        (({ r with grantsByController := grants }, file'), .ok answer) ∧
      Agrees crypto decode ⟨{ r with grantsByController := grants }, file'⟩ ∧
      Wrote crypto ⟨{ r with grantsByController := grants }, file'⟩ := by
  unfold persistThen
  split
  · next file' e hpersist =>
    rw [FileGrantStore.persist_error hlate hpersist]
    exact .inl ⟨_, rfl⟩
  · next file' hpersist =>
    refine .inr ⟨file', rfl, load_eq_ok.mpr ⟨hnext.wellFormed.host, next, ?_, hnext.bounded,
      ?_, rfl⟩, next, hnext.represents, (FileGrantStore.persist_ok hpersist).2⟩
    · exact FileGrantStore.load_persist hdecode hpersist
    · exact load_of_represents hnext.wellFormed hnext.represents

/-- What one operation leaves behind: nothing happened, or the new registry was
persisted and answered with success. -/
structure StepAgrees (crypto : Crypto) (decode : Bytes → Option HostAuthorizationSnapshot)
    (s s' : AuthorizationState)
    (out : Except AuthorizationError (Option ControllerGrantView)) : Prop where
  wellFormed : s'.registry.WellFormed crypto
  agrees : Agrees crypto decode s'
  host : s'.registry.hostDeviceId = s.registry.hostDeviceId
  change : s' = s ∨ ((∃ answer, out = .ok answer) ∧ Wrote crypto s')

theorem committed_agrees (hdecode : DecodesSnapshots decode) {s : AuthorizationState}
    {faults : FileFaults} (hwf : s.registry.WellFormed crypto)
    (hagrees : Agrees crypto decode s) (hlate : attempt faults stepsAfterRename = .ok ())
    {result : (AuthorizationRegistry × Option Bytes) ×
      Except AuthorizationError ControllerGrantView}
    (h : Writes crypto s.registry faults s.file result) :
    StepAgrees crypto decode s (committed result).1 (committed result).2 := by
  rcases h with ⟨out, rfl⟩ | ⟨next, grants, answer, rfl, hnext⟩
  · exact ⟨hwf, hagrees, rfl, .inl rfl⟩
  · rcases persistThen_agrees hdecode s.file answer hlate hnext with
      ⟨e, heq⟩ | ⟨file', heq, hafter, hwrote⟩
    · rw [heq]
      exact ⟨hwf, hagrees, rfl, .inl rfl⟩
    · rw [heq]
      exact ⟨hnext.wellFormed, hafter, rfl, .inr ⟨⟨_, rfl⟩, hwrote⟩⟩

/-- One operation with no failure after a rename. -/
theorem step_agrees (hdecode : DecodesSnapshots decode) {s : AuthorizationState}
    {op : AuthorizationOp} (hwf : s.registry.WellFormed crypto)
    (hagrees : Agrees crypto decode s) (hlate : NoLateFailure op) :
    StepAgrees crypto decode s ((machine crypto decode).step s op).1
      ((machine crypto decode).step s op).2 := by
  cases op with
  | create controller permissions createdAtUnixMs random faults =>
    exact committed_agrees hdecode hwf hagrees hlate (createControllerGrant_writes hwf _ _ _ _ _ _)
  | record controllerDeviceId authenticatedAtUnixMs faults =>
    exact committed_agrees hdecode hwf hagrees hlate (recordAuthenticatedSession_writes hwf _ _ _ _)
  | revoke grantId faults =>
    exact committed_agrees hdecode hwf hagrees hlate (revokeControllerGrant_writes hwf _ _ _)
  | reload faults =>
    simp only [machine]
    cases hload : load crypto decode faults s.file s.registry.hostDeviceId with
    | error e => exact ⟨hwf, hagrees, rfl, .inl rfl⟩
    | ok registry =>
      have hsame : registry = s.registry :=
        Except.ok.inj ((load_noFaults hload).symm.trans hagrees)
      subst hsame
      exact ⟨hwf, hagrees, rfl, .inl rfl⟩

/-- What an operation commits is well formed, whatever fails. -/
theorem Writes.wellFormed {r : AuthorizationRegistry} {faults : FileFaults} {file : Option Bytes}
    {result : (AuthorizationRegistry × Option Bytes) ×
      Except AuthorizationError ControllerGrantView} (h : Writes crypto r faults file result)
    (hwf : r.WellFormed crypto) : result.1.1.WellFormed crypto := by
  rcases h with ⟨out, rfl⟩ | ⟨next, grants, answer, rfl, hnext⟩
  · exact hwf
  · unfold persistThen
    split
    · exact hwf
    · exact hnext.wellFormed

theorem step_wellFormed {s : AuthorizationState} (hwf : s.registry.WellFormed crypto)
    (op : AuthorizationOp) : ((machine crypto decode).step s op).1.registry.WellFormed crypto := by
  cases op with
  | create controller permissions createdAtUnixMs random faults =>
    exact (createControllerGrant_writes hwf _ _ _ _ _ _).wellFormed hwf
  | record controllerDeviceId authenticatedAtUnixMs faults =>
    exact (recordAuthenticatedSession_writes hwf _ _ _ _).wellFormed hwf
  | revoke grantId faults => exact (revokeControllerGrant_writes hwf _ _ _).wellFormed hwf
  | reload faults =>
    simp only [machine]
    cases hload : load crypto decode faults s.file s.registry.hostDeviceId with
    | error e => exact hwf
    | ok registry => exact load_wellFormed hload

/-- A registry is well formed over its whole life. -/
theorem run_wellFormed {faults : FileFaults} {file : Option Bytes} {host : Bytes}
    {registry : AuthorizationRegistry} (hload : load crypto decode faults file host = .ok registry)
    (ops : List AuthorizationOp) :
    ((machine crypto decode).run ⟨registry, file⟩ ops).registry.WellFormed crypto :=
  Machine.run_invariant (M := machine crypto decode) (G := fun _ _ => True)
    (fun s => s.registry.WellFormed crypto) (fun _ op hwf _ => step_wellFormed hwf op)
    (load_wellFormed hload) (Machine.guarded_true _ _)

/-- The properties of a registry in terms of its grants. -/
structure Sound (crypto : Crypto) (r : AuthorizationRegistry) : Prop where
  bounded : r.grantsByController.size ≤ 256
  keyed : ∀ (k : Bytes) view, r.grantsByController[k]? = some view →
    ∃ grant controller derived, view.grant = some grant ∧
      grant.controller = some controller ∧ controller.deviceId = k ∧
      deriveDeviceIdV1 crypto controller.publicKey = .ok derived ∧ k = derived.toList ∧
      k ≠ r.hostDeviceId ∧
      (SessionPermission.controlInput.toInt32 ∈ grant.permissions →
        SessionPermission.viewScreen.toInt32 ∈ grant.permissions)
  grantIds : ∀ (k₁ k₂ : Bytes) view₁ view₂ grantId, r.grantsByController[k₁]? = some view₁ →
    r.grantsByController[k₂]? = some view₂ → hasGrantId grantId view₁ = true →
    hasGrantId grantId view₂ = true → k₁ = k₂
  controllers : ∀ (k₁ k₂ : Bytes) view₁ view₂, r.grantsByController[k₁]? = some view₁ →
    r.grantsByController[k₂]? = some view₂ →
    controllerDeviceIdFor view₁ = controllerDeviceIdFor view₂ → k₁ = k₂

theorem WellFormed.sound {r : AuthorizationRegistry} (h : r.WellFormed crypto) :
    Sound crypto r := by
  refine ⟨h.size, ?_, h.grantIds, ?_⟩
  · intro k view hget
    obtain ⟨grant, controller, hgrant, hcontroller, rfl, -, -, hvalid, hself, hpermissions⟩ :=
      validateStoredGrant_eq_ok.mp (h.valid k view hget)
    unfold validateController at hvalid
    simp only [bind_eq_ok, okOr_eq_ok, ensure_eq_ok, mapError_eq_ok, toArray?_eq_some] at hvalid
    obtain ⟨_, -, key, hkey, -, -, derived, hderived, hid⟩ := hvalid
    rw [hkey] at hderived
    refine ⟨grant, controller, derived, hgrant, hcontroller, rfl, hderived, hid, hself, ?_⟩
    rcases normalizeStoredPermissions_ok hpermissions with heq | heq
    · rw [heq]; decide
    · rw [heq]; decide
  · intro k₁ k₂ view₁ view₂ h₁ h₂ heq
    rw [controllerDeviceIdFor_of_valid (h.valid k₁ view₁ h₁),
      controllerDeviceIdFor_of_valid (h.valid k₂ view₂ h₂)] at heq
    exact some.inj heq

/-- Over every run in which no write fails after its rename, a restart would load exactly
the registry in memory, every change of memory or store is one successfully persisted
snapshot, a failed operation changes nothing, and the registry is sound. -/
theorem store_agreement (hdecode : DecodesSnapshots decode) {faults : FileFaults}
    {file : Option Bytes} {host : Bytes} {registry : AuthorizationRegistry}
    (hload : load crypto decode faults file host = .ok registry)
    (ops : List AuthorizationOp) (hlate : ∀ op ∈ ops, NoLateFailure op) :
    Agrees crypto decode ((machine crypto decode).run ⟨registry, file⟩ ops) ∧
    Sound crypto ((machine crypto decode).run ⟨registry, file⟩ ops).registry ∧
    ∀ e ∈ (machine crypto decode).trace ⟨registry, file⟩ ops,
      (∀ err, e.output = .error err → e.after = e.before) ∧
      (e.after = e.before ∨ Wrote crypto e.after) ∧ Agrees crypto decode e.after := by
  have hstep : ∀ s op, s.registry.WellFormed crypto ∧ Agrees crypto decode s → NoLateFailure op →
      ((machine crypto decode).step s op).1.registry.WellFormed crypto ∧
        Agrees crypto decode ((machine crypto decode).step s op).1 := by
    intro s op hs hop
    have h := step_agrees hdecode hs.1 hs.2 hop
    exact ⟨h.wellFormed, h.agrees⟩
  have hinit : registry.WellFormed crypto ∧ Agrees crypto decode ⟨registry, file⟩ := by
    have hhost := (load_eq_ok.mp hload).2
    obtain ⟨_, -, -, -, rfl⟩ := hhost
    exact ⟨load_wellFormed hload, load_noFaults hload⟩
  have hguard := Machine.guarded_of_mem (M := machine crypto decode)
    (G := fun _ op => NoLateFailure op) (fun op hop _ => hlate op hop) ⟨registry, file⟩
  have hrun := Machine.run_invariant
    (fun s => s.registry.WellFormed crypto ∧ Agrees crypto decode s) hstep hinit hguard
  refine ⟨hrun.2, hrun.1.sound, fun e he => ?_⟩
  obtain ⟨hbefore, hop, hafter, heq⟩ := Machine.trace_invariant
    (fun s => s.registry.WellFormed crypto ∧ Agrees crypto decode s) hstep hinit hguard he
  have h := step_agrees hdecode hbefore.1 hbefore.2 hop
  rw [heq]
  refine ⟨?_, ?_, h.agrees⟩
  · intro err herr
    rcases h.change with hsame | ⟨⟨answer, hanswer⟩, -⟩
    · exact hsame
    · rw [Machine.occurrence_output, hanswer] at herr
      cases herr
  · exact h.change.imp id And.right

end Agreement

/-! ## A write that fails after its rename -/

/-- The identifier of a Host with a fixed key. -/
def sampleHostId : Bytes :=
  [120, 146, 128, 80, 176, 254, 95, 28, 155, 168, 157, 141, 38, 102, 122, 102,
   226, 162, 44, 45, 71, 208, 88, 130, 152, 30, 187, 5, 135, 73, 30, 56]

/-- A controller identity with a fixed key and its derived identifier. -/
def sampleController : DeviceIdentity where
  deviceId :=
    [144, 168, 250, 12, 232, 237, 216, 147, 207, 48, 169, 75, 31, 213, 61, 85,
     2, 89, 132, 170, 251, 119, 111, 117, 246, 179, 136, 247, 112, 28, 13, 151]
  publicKeyAlgorithm := 1
  publicKey :=
    [129, 57, 119, 14, 168, 125, 23, 95, 86, 163, 84, 102, 195, 76, 126, 204,
     203, 141, 138, 145, 180, 238, 55, 162, 93, 246, 15, 91, 143, 201, 179, 148]
  displayName := "phone"
  platform := 1

/-- The empty registry of the sample Host. -/
def sampleRegistry : AuthorizationRegistry :=
  { hostDeviceId := sampleHostId, grantsByController := ∅ }

/-- The grant of the sample controller. -/
def sampleGrantView : ControllerGrantView :=
  sampleRegistry.newGrantView (List.replicate 16 5) sampleController 1700000000000 [1, 2]

/-- The registry with this grant. -/
def grantedRegistry : AuthorizationRegistry :=
  { sampleRegistry with
    grantsByController := (∅ : GrantMap).insert sampleController.deviceId sampleGrantView }

/-- The primitives on the sample inputs: the digests of the controller's key material and
of the snapshot with its grant. -/
def sampleCrypto : Crypto where
  sha256 input :=
    if input = identityDerivationDomain ++ [0] ++ bigEndian 2 1 ++ sampleController.publicKey
    then #v[144, 168, 250, 12, 232, 237, 216, 147, 207, 48, 169, 75, 31, 213, 61, 85,
            2, 89, 132, 170, 251, 119, 111, 117, 246, 179, 136, 247, 112, 28, 13, 151]
    else if input = encode { hostDeviceId := sampleHostId, grants := [sampleGrantView] }
    then #v[233, 201, 11, 129, 227, 8, 208, 103, 83, 155, 38, 201, 49, 22, 189, 46,
            6, 75, 53, 89, 2, 234, 135, 65, 60, 229, 199, 22, 46, 230, 154, 81]
    else Vector.replicate 32 0
  validKey key := key.toList = sampleController.publicKey
  verifies _ _ _ := false

/-- The directory cannot be synced after the rename. -/
def syncDirectoryFails : FileFaults := fun step =>
  if step = .syncDirectory then some .io else none

/-- Granting the sample controller access. -/
def sampleCreate (faults : FileFaults) : AuthorizationOp :=
  .create sampleController [.viewScreen, .controlInput] 1700000000000
    (fun _ => some (Vector.replicate 16 5)) faults

/-- The reader of this development satisfies what is assumed of the decoder. -/
theorem decodesSnapshots_decode : DecodesSnapshots decode :=
  fun snapshot hlength =>
    snapshot.decode_encode (Nat.lt_of_le_of_lt hlength (by decide))

/-- A failure after the rename is answered with an error although the file has changed,
and a restart then loads another registry than the one in memory. -/
theorem late_write_failure :
    load sampleCrypto decode noFaults none sampleHostId =
      .ok sampleRegistry ∧
    ((machine sampleCrypto decode).step ⟨sampleRegistry, none⟩
      (sampleCreate syncDirectoryFails)).2 = .error (.store .io) ∧
    ((machine sampleCrypto decode).step ⟨sampleRegistry, none⟩
      (sampleCreate syncDirectoryFails)).1.registry = sampleRegistry ∧
    ((machine sampleCrypto decode).step ⟨sampleRegistry, none⟩
      (sampleCreate syncDirectoryFails)).1.file ≠ none ∧
    load sampleCrypto decode noFaults
      ((machine sampleCrypto decode).step ⟨sampleRegistry, none⟩
        (sampleCreate syncDirectoryFails)).1.file sampleHostId ≠ .ok sampleRegistry := by
  refine ⟨?_, ?_, ?_, ?_, ?_⟩ <;> decide +kernel

/-- A rename that fails is met before the file changes. -/
def renameFails : FileFaults := fun step => if step = .rename then some .io else none

/-- A run that grants, fails to grant again, uses, revokes and restarts. -/
def sampleAuthorizationOps : List AuthorizationOp :=
  [.record sampleController.deviceId 5 noFaults, sampleCreate renameFails,
    sampleCreate noFaults, .record sampleController.deviceId 1700000000500 renameFails,
    .record sampleController.deviceId 1700000000500 noFaults,
    .revoke (List.replicate 16 5) renameFails, .reload noFaults]

theorem store_agreement_sample :
    DecodesSnapshots decode ∧
    load sampleCrypto decode noFaults none sampleHostId =
      .ok sampleRegistry ∧
    (∀ op ∈ sampleAuthorizationOps, NoLateFailure op) ∧
    ((machine sampleCrypto decode).run ⟨sampleRegistry, none⟩
      sampleAuthorizationOps).registry.grantsByController.size = 1 ∧
    Agrees sampleCrypto decode
      ((machine sampleCrypto decode).run ⟨sampleRegistry, none⟩
        sampleAuthorizationOps) := by
  have hload : load sampleCrypto decode noFaults none sampleHostId =
      .ok sampleRegistry := by decide +kernel
  have hlate : ∀ op ∈ sampleAuthorizationOps, NoLateFailure op := by
    intro op hop
    simp only [sampleAuthorizationOps, List.mem_cons, List.not_mem_nil, or_false] at hop
    rcases hop with rfl | rfl | rfl | rfl | rfl | rfl | rfl <;> rfl
  exact ⟨decodesSnapshots_decode, hload, hlate, by decide +kernel,
    (store_agreement decodesSnapshots_decode hload sampleAuthorizationOps hlate).1⟩

end AuthorizationRegistry

end Host

end Roammand
