import Roammand.Server.ExpiryHeap

/-!
# The rendezvous store describes one set of rendezvous

The six structures of the store agree after every sequence of calls.  All but the member index
agree whatever the calls are; the member index agrees as long as no rendezvous is created with
a controller already in it, which is how the service creates them.

Main results:

- Definitions `RendezvousStore.Indexed` and `RendezvousStore.MembersIndexed`.
- Definition `RendezvousStore.Removes`: what taking rendezvous out means for the stored set.
- Theorems `deleteLocked_spec`, `sweepLocked_spec` and `removeForDevice_spec`: what the
  removals take out.
- Theorem `step_effect`: everything that a call can do.
- Theorem `store_representation`: the agreement over every run.
-/

namespace Roammand

namespace Server

open Library Protocol Finmap RendezvousExpiryHeap MemberIndex Option

/-- The devices of a rendezvous. -/
def Rendezvous.Member (r : Rendezvous) (deviceID : DeviceID) : Prop :=
  r.host = deviceID ∨ r.controller = some deviceID

namespace MemberIndex

/-- The rendezvous that the index has under a device. -/
def memberIDs (index : MemberIndex) (deviceID : DeviceID) : Finset RendezvousID :=
  (index.lookup deviceID).getD ∅

/-- No device is entered without a rendezvous. -/
def NoEmpty (index : MemberIndex) : Prop :=
  ∀ deviceID ids, index.lookup deviceID = some ids → ids.Nonempty

variable {index : MemberIndex} {d d' : DeviceID} {id id' : RendezvousID}

theorem mem_indexMemberLocked :
    id' ∈ (index.indexMemberLocked d id).memberIDs d' ↔
      (d' = d ∧ id' = id) ∨ id' ∈ index.memberIDs d' := by
  unfold memberIDs indexMemberLocked
  rw [Table.lookup_insert]
  by_cases hd : d' = d
  · subst hd
    simp
  · simp [hd]

theorem NoEmpty.indexMemberLocked (h : NoEmpty index) : NoEmpty (index.indexMemberLocked d id) := by
  intro d' ids hids
  unfold MemberIndex.indexMemberLocked at hids
  rw [Table.lookup_insert] at hids
  by_cases hd : d' = d
  · rw [if_pos hd] at hids
    rw [← some.inj hids]
    exact Finset.insert_nonempty id _
  · rw [if_neg hd] at hids
    exact h d' ids hids

theorem mem_removeMemberIndexLocked :
    id' ∈ (index.removeMemberIndexLocked d id).memberIDs d' ↔
      id' ∈ index.memberIDs d' ∧ ¬ (d' = d ∧ id' = id) := by
  unfold memberIDs removeMemberIndexLocked
  by_cases hd : d' = d
  · subst hd
    by_cases hempty : (((index.lookup d').getD ∅).erase id).card = 0
    · rw [if_pos hempty, Table.lookup_erase, if_pos rfl]
      rw [Finset.card_eq_zero] at hempty
      have : id' ∉ ((index.lookup d').getD ∅).erase id := by simp [hempty]
      rw [Finset.mem_erase] at this
      simp only [getD_none, Finset.notMem_empty, true_and, false_iff]
      tauto
    · rw [if_neg hempty, Table.lookup_insert, if_pos rfl, getD_some, Finset.mem_erase]
      tauto
  · by_cases hempty : (((index.lookup d).getD ∅).erase id).card = 0
    · rw [if_pos hempty, Table.lookup_erase, if_neg hd]
      simp [hd]
    · rw [if_neg hempty, Table.lookup_insert, if_neg hd]
      simp [hd]

theorem NoEmpty.removeMemberIndexLocked (h : NoEmpty index) :
    NoEmpty (index.removeMemberIndexLocked d id) := by
  intro d' ids hids
  unfold MemberIndex.removeMemberIndexLocked at hids
  by_cases hempty : (((index.lookup d).getD ∅).erase id).card = 0
  · rw [if_pos hempty, Table.lookup_erase] at hids
    by_cases hd : d' = d
    · rw [if_pos hd] at hids
      cases hids
    · rw [if_neg hd] at hids
      exact h d' ids hids
  · rw [if_neg hempty, Table.lookup_insert] at hids
    by_cases hd : d' = d
    · rw [if_pos hd] at hids
      rw [← some.inj hids, ← Finset.card_pos]
      exact Nat.pos_of_ne_zero hempty
    · rw [if_neg hd] at hids
      exact h d' ids hids

end MemberIndex

namespace RendezvousStore

/-! ## Agreement -/

/-- The stored rendezvous of a Host. -/
def hosted (s : RendezvousStore) (host : DeviceID) : Finset RendezvousID :=
  s.byID.keys.filter fun id => (s.byID.lookup id).map Rendezvous.host = some host

/-- All structures but the member index describe the rendezvous in `byID`. -/
structure Indexed (s : RendezvousStore) : Prop where
  ids : ∀ id r, s.byID.lookup id = some r → r.id = id
  codes : ∀ hash id, s.codeIndex.lookup hash = some id ↔
    ∃ r, s.byID.lookup id = some r ∧ r.kind = .desktopCode ∧ r.codeHash = hash
  counts : ∀ host, s.hostCounts.lookup host =
    if (s.hosted host).card = 0 then none else some ((s.hosted host).card : Int)
  heap : s.expirations.WellFormed
  expiry : ∀ id ref, s.expiryIndex.lookup id = some ref ↔
    ref ∈ s.expirations.entries ∧ (s.expirations.cells ref).id = id
  entry : ∀ id, id ∈ s.expiryIndex ↔ id ∈ s.byID
  expiresAt : ∀ ref r, ref ∈ s.expirations.entries →
    s.byID.lookup (s.expirations.cells ref).id = some r →
      (s.expirations.cells ref).expiresAt = r.expiresAt
  allocated : ∀ ref ∈ s.expirations.entries, ref < s.allocated
  total : (s.len : Int) ≤ s.maxTotal
  perHost : ∀ host, ((s.hosted host).card : Int) ≤ s.maxPerHost

/-- The member index holds exactly the devices of the rendezvous in `byID`. -/
structure MembersIndexed (s : RendezvousStore) : Prop where
  members : ∀ deviceID id, id ∈ s.memberIndex.memberIDs deviceID ↔
    ∃ r, s.byID.lookup id = some r ∧ r.Member deviceID
  noEmpty : s.memberIndex.NoEmpty

theorem mem_hosted {s : RendezvousStore} {host : DeviceID} {id : RendezvousID} :
    id ∈ s.hosted host ↔ ∃ r, s.byID.lookup id = some r ∧ r.host = host := by
  rw [hosted, Finset.mem_filter, mem_keys, map_eq_some_iff]
  constructor
  · exact fun h => h.2
  · rintro ⟨r, hr, hhost⟩
    exact ⟨mem_of_lookup_eq_some hr, r, hr, hhost⟩

namespace Indexed

variable {s : RendezvousStore}

/-- Every stored rendezvous has an entry in the heap. -/
theorem exists_entry (hs : s.Indexed) {id : RendezvousID} {r : Rendezvous}
    (hr : s.byID.lookup id = some r) :
    ∃ ref, s.expiryIndex.lookup id = some ref ∧ ref ∈ s.expirations.entries ∧
      (s.expirations.cells ref).id = id ∧ (s.expirations.cells ref).expiresAt = r.expiresAt := by
  have hmem := (hs.entry id).mpr (mem_of_lookup_eq_some hr)
  obtain ⟨ref, href⟩ := mem_iff.mp hmem
  obtain ⟨hin, hid⟩ := (hs.expiry id ref).mp href
  exact ⟨ref, href, hin, hid, hs.expiresAt ref r hin (by rw [hid]; exact hr)⟩

/-- Every entry of the heap belongs to a stored rendezvous. -/
theorem exists_rendezvous (hs : s.Indexed) {ref : ExpiryRef} (href : ref ∈ s.expirations.entries) :
    ∃ r, s.byID.lookup (s.expirations.cells ref).id = some r ∧
      r.id = (s.expirations.cells ref).id ∧
      r.expiresAt = (s.expirations.cells ref).expiresAt := by
  have hidx := (hs.expiry _ ref).mpr ⟨href, rfl⟩
  have hmem := (hs.entry _).mp (mem_of_lookup_eq_some hidx)
  obtain ⟨r, hr⟩ := mem_iff.mp hmem
  exact ⟨r, hr, hs.ids _ _ hr, (hs.expiresAt ref r href hr).symm⟩

end Indexed

/-! ## Deletion -/

/-- The limits of a store do not change. -/
def SameLimits (s s' : RendezvousStore) : Prop :=
  s'.maxPerHost = s.maxPerHost ∧ s'.maxTotal = s.maxTotal

/-- A step of the store that keeps the agreement of its structures. -/
structure Sound (s s' : RendezvousStore) : Prop where
  indexed : s'.Indexed
  members : s.MembersIndexed → s'.MembersIndexed
  limits : SameLimits s s'

theorem Sound.refl {s : RendezvousStore} (hs : s.Indexed) : Sound s s := ⟨hs, id, rfl, rfl⟩

theorem Sound.trans {s s' s'' : RendezvousStore} (h₁ : Sound s s') (h₂ : Sound s' s'') :
    Sound s s'' :=
  ⟨h₂.indexed, fun h => h₂.members (h₁.members h), h₂.limits.1.trans h₁.limits.1,
    h₂.limits.2.trans h₁.limits.2⟩

/-- The store after a stored rendezvous is taken out, given the heap without its entry. -/
def deleted (s : RendezvousStore) (stored : Rendezvous) (expirations : RendezvousExpiryHeap) :
    RendezvousStore :=
  let members := s.memberIndex.removeMemberIndexLocked stored.host stored.id
  { s with
    byID := s.byID.erase stored.id
    expirations
    expiryIndex := s.expiryIndex.erase stored.id
    memberIndex :=
      match stored.controller with
      | none => members
      | some controller => members.removeMemberIndexLocked controller stored.id
    codeIndex :=
      if stored.kind = .desktopCode then s.codeIndex.erase stored.codeHash
      else s.codeIndex
    hostCounts := uncount s.hostCounts stored.host }

section deletion

variable {s : RendezvousStore} {r : Rendezvous} {expirations : RendezvousExpiryHeap}

theorem deleteLocked_eq {ref : ExpiryRef} (hr : s.byID.lookup r.id = some r)
    (href : s.expiryIndex.lookup r.id = some ref)
    (hremove : s.expirations.remove (s.expirations.cells ref).index = some expirations) :
    s.deleteLocked r = some (s.deleted r expirations) := by
  unfold deleteLocked
  simp only [hr, href, hremove]
  rfl

theorem hosted_deleted (hr : s.byID.lookup r.id = some r) (host : DeviceID) :
    (s.deleted r expirations).hosted host =
      if r.host = host then (s.hosted host).erase r.id else s.hosted host := by
  ext id
  rw [mem_hosted]
  change (∃ r', (s.byID.erase r.id).lookup id = some r' ∧ r'.host = host) ↔ _
  rw [Table.lookup_erase]
  by_cases hid : id = r.id
  · subst hid
    by_cases hhost : r.host = host
    · simp [hhost]
    · simp [hhost, mem_hosted, hr]
  · rw [if_neg hid]
    by_cases hhost : r.host = host
    · rw [if_pos hhost, Finset.mem_erase, mem_hosted]
      tauto
    · rw [if_neg hhost, mem_hosted]

theorem mem_hosted_self (hr : s.byID.lookup r.id = some r) : r.id ∈ s.hosted r.host :=
  mem_hosted.mpr ⟨r, hr, rfl⟩

theorem counts_deleted (hs : s.Indexed) (hr : s.byID.lookup r.id = some r) (host : DeviceID) :
    (s.deleted r expirations).hostCounts.lookup host =
      if ((s.deleted r expirations).hosted host).card = 0 then none
      else some (((s.deleted r expirations).hosted host).card : Int) := by
  rw [hosted_deleted hr]
  change (uncount s.hostCounts r.host).lookup host = _
  have hpos : 0 < (s.hosted r.host).card := Finset.card_pos.mpr ⟨r.id, mem_hosted_self hr⟩
  have hcount := hs.counts r.host
  rw [if_neg (by omega)] at hcount
  unfold uncount
  simp only [hcount, getD_some]
  by_cases hhost : r.host = host
  · subst hhost
    rw [if_pos rfl, Finset.card_erase_of_mem (mem_hosted_self hr)]
    by_cases hlast : ((s.hosted r.host).card : Int) - 1 ≤ 0
    · rw [if_pos hlast, Table.lookup_erase, if_pos rfl, if_pos (by omega)]
    · rw [if_neg hlast, Table.lookup_insert, if_pos rfl, if_neg (by omega),
        Nat.cast_sub (by omega), Nat.cast_one]
  · rw [if_neg hhost, ← hs.counts host]
    split
    · rw [Table.lookup_erase, if_neg (Ne.symm hhost)]
    · rw [Table.lookup_insert, if_neg (Ne.symm hhost)]

theorem codes_deleted (hs : s.Indexed) (hr : s.byID.lookup r.id = some r) (hash : CodeHash)
    (id : RendezvousID) :
    (s.deleted r expirations).codeIndex.lookup hash = some id ↔
      ∃ r', (s.deleted r expirations).byID.lookup id = some r' ∧ r'.kind = .desktopCode ∧
        r'.codeHash = hash := by
  have hold := hs.codes hash id
  change (if r.kind = .desktopCode then s.codeIndex.erase r.codeHash else s.codeIndex).lookup
    hash = some id ↔ ∃ r', (s.byID.erase r.id).lookup id = some r' ∧ _
  rw [Table.lookup_erase]
  have hunique : r.kind = .desktopCode → s.codeIndex.lookup r.codeHash = some r.id :=
    fun hkind => (hs.codes _ _).mpr ⟨r, hr, hkind, rfl⟩
  by_cases hkind : r.kind = .desktopCode
  · rw [if_pos hkind, Table.lookup_erase]
    by_cases hhash : hash = r.codeHash
    · rw [if_pos hhash]
      constructor
      · exact nofun
      · rintro ⟨r', hr', hkind', hhash'⟩
        by_cases hid : id = r.id
        · rw [if_pos hid] at hr'
          cases hr'
        · rw [if_neg hid] at hr'
          have := hold.mpr ⟨r', hr', hkind', hhash'⟩
          rw [hhash, hunique hkind] at this
          exact absurd (some.inj this).symm hid
    · rw [if_neg hhash, hold]
      by_cases hid : id = r.id
      · subst hid
        simp only [hr, if_pos]
        constructor
        · rintro ⟨r', hr', -, hhash'⟩
          rw [← some.inj hr'] at hhash'
          exact absurd hhash'.symm hhash
        · rintro ⟨r', hr', -⟩
          cases hr'
      · rw [if_neg hid]
  · rw [if_neg hkind, hold]
    by_cases hid : id = r.id
    · subst hid
      simp only [hr, if_pos]
      constructor
      · rintro ⟨r', hr', hkind', -⟩
        rw [← some.inj hr'] at hkind'
        exact absurd hkind' hkind
      · rintro ⟨r', hr', -⟩
        cases hr'
    · rw [if_neg hid]

theorem len_deleted (hr : s.byID.lookup r.id = some r) :
    (s.deleted r expirations).len + 1 = s.len := by
  change (s.byID.erase r.id).keys.card + 1 = s.byID.keys.card
  rw [keys_erase]
  exact Finset.card_erase_add_one (mem_keys.mpr (mem_of_lookup_eq_some hr))

/-- What a removal from the heap does to the agreement. -/
theorem Indexed.deleted (hs : s.Indexed) (hr : s.byID.lookup r.id = some r) {ref : ExpiryRef}
    (href : s.expiryIndex.lookup r.id = some ref) (hwf : expirations.WellFormed)
    (hsame : SameContents s.expirations expirations)
    (hmem : ∀ ref', ref' ∈ expirations.entries ↔ ref' ∈ s.expirations.entries ∧ ref' ≠ ref) :
    (s.deleted r expirations).Indexed := by
  have hother : ∀ ref', ref' ∈ s.expirations.entries →
      (ref' ≠ ref ↔ (s.expirations.cells ref').id ≠ r.id) := by
    intro ref' hin
    rw [not_iff_not]
    constructor
    · rintro rfl
      exact ((hs.expiry _ _).mp href).2
    · intro hid
      have := (hs.expiry _ ref').mpr ⟨hin, hid⟩
      exact some.inj (this.symm.trans href)
  constructor
  · intro id r' hr'
    change (s.byID.erase r.id).lookup id = some r' at hr'
    rw [Table.lookup_erase] at hr'
    by_cases hid : id = r.id
    · rw [if_pos hid] at hr'
      cases hr'
    · rw [if_neg hid] at hr'
      exact hs.ids id r' hr'
  · exact codes_deleted hs hr
  · exact counts_deleted hs hr
  · exact hwf
  · intro id ref'
    change (s.expiryIndex.erase r.id).lookup id = some ref' ↔
      ref' ∈ expirations.entries ∧ (expirations.cells ref').id = id
    rw [Table.lookup_erase, hmem, (hsame ref').1]
    by_cases hid : id = r.id
    · rw [if_pos hid]
      constructor
      · exact nofun
      · rintro ⟨⟨hin, hne⟩, hid'⟩
        exact absurd (hid'.trans hid) ((hother ref' hin).mp hne)
    · rw [if_neg hid, hs.expiry]
      constructor
      · rintro ⟨hin, hid'⟩
        exact ⟨⟨hin, (hother ref' hin).mpr (by rw [hid']; exact hid)⟩, hid'⟩
      · rintro ⟨⟨hin, -⟩, hid'⟩
        exact ⟨hin, hid'⟩
  · intro id
    change id ∈ s.expiryIndex.erase r.id ↔ id ∈ s.byID.erase r.id
    rw [mem_erase, mem_erase, hs.entry]
  · intro ref' r' hin hr'
    change (s.byID.erase r.id).lookup (expirations.cells ref').id = some r' at hr'
    change (expirations.cells ref').expiresAt = r'.expiresAt
    rw [(hsame ref').1, Table.lookup_erase] at hr'
    rw [(hsame ref').2]
    by_cases hid : (s.expirations.cells ref').id = r.id
    · rw [if_pos hid] at hr'
      cases hr'
    · rw [if_neg hid] at hr'
      exact hs.expiresAt ref' r' ((hmem ref').mp hin).1 hr'
  · exact fun ref' hin => hs.allocated ref' ((hmem ref').mp hin).1
  · have hlen : (s.deleted r expirations).len + 1 = s.len := len_deleted hr
    have htotal := hs.total
    change ((s.deleted r expirations).len : Int) ≤ s.maxTotal
    omega
  · intro host
    rw [hosted_deleted hr]
    refine le_trans ?_ (hs.perHost host)
    rw [Nat.cast_le]
    split
    · exact Finset.card_le_card (Finset.erase_subset _ _)
    · exact le_refl _

theorem MembersIndexed.deleted (hm : s.MembersIndexed) (hr : s.byID.lookup r.id = some r) :
    (s.deleted r expirations).MembersIndexed := by
  have hmembers : ∀ d id, id ∈ (s.deleted r expirations).memberIndex.memberIDs d ↔
      id ∈ s.memberIndex.memberIDs d ∧ ¬ (r.Member d ∧ id = r.id) := by
    intro d id
    unfold RendezvousStore.deleted Rendezvous.Member
    cases r.controller with
    | none =>
      rw [mem_removeMemberIndexLocked]
      simp only [reduceCtorEq, or_false, eq_comm]
    | some controller =>
      rw [mem_removeMemberIndexLocked, mem_removeMemberIndexLocked]
      simp only [some.injEq]
      grind
  constructor
  · intro d id
    rw [hmembers, hm.members]
    change _ ↔ ∃ r', (s.byID.erase r.id).lookup id = some r' ∧ _
    rw [Table.lookup_erase]
    by_cases hid : id = r.id
    · subst hid
      rw [if_pos rfl, hr]
      simp
    · rw [if_neg hid]
      simp [hid]
  · unfold RendezvousStore.deleted
    cases r.controller with
    | none => exact hm.noEmpty.removeMemberIndexLocked
    | some controller => exact hm.noEmpty.removeMemberIndexLocked.removeMemberIndexLocked

/-- Deleting a stored rendezvous succeeds and takes it, and nothing else, out. -/
theorem deleteLocked_spec (hs : s.Indexed) (hr : s.byID.lookup r.id = some r) :
    ∃ s', s.deleteLocked r = some s' ∧ Sound s s' ∧ s'.byID = s.byID.erase r.id ∧
      s'.expirations.entries.length + 1 = s.expirations.entries.length := by
  obtain ⟨ref, href, hin, -, -⟩ := hs.exists_entry hr
  obtain ⟨expirations, hremove, hwf, hsame, hmem⟩ :=
    remove_spec hs.heap hin
  refine ⟨_, deleteLocked_eq hr href hremove,
    ⟨hs.deleted hr href hwf hsame hmem, fun hm => hm.deleted hr, rfl, rfl⟩, rfl, ?_⟩
  have hperm : List.Perm expirations.entries (s.expirations.entries.erase ref) := by
    rw [List.perm_ext_iff_of_nodup hwf.nodup (hs.heap.nodup.erase ref)]
    intro ref'
    rw [hmem, hs.heap.nodup.mem_erase_iff, and_comm]
  change expirations.entries.length + 1 = s.expirations.entries.length
  rw [hperm.length_eq, List.length_erase_add_one hin]

end deletion

/-! ## Taking rendezvous out -/

/-- The listed rendezvous were stored, each once, and are stored no longer; nothing else
changes in the stored set. -/
structure Removes (s : RendezvousStore) (removed : List Rendezvous) (s' : RendezvousStore) :
    Prop where
  nodup : (removed.map Rendezvous.id).Nodup
  stored : ∀ r ∈ removed, s.byID.lookup r.id = some r
  after : ∀ id, s'.byID.lookup id =
    if id ∈ removed.map Rendezvous.id then none else s.byID.lookup id

theorem Removes.refl (s : RendezvousStore) : Removes s [] s :=
  ⟨List.nodup_nil, nofun, fun _ => rfl⟩

/-- A stored rendezvous has been removed iff it is on the list. -/
theorem Removes.lookup_eq_some {s s' : RendezvousStore} {removed : List Rendezvous}
    (h : Removes s removed s') {id : RendezvousID} {r : Rendezvous}
    (hr : s'.byID.lookup id = some r) :
    id ∉ removed.map Rendezvous.id ∧ s.byID.lookup id = some r := by
  rw [h.after] at hr
  by_cases hid : id ∈ removed.map Rendezvous.id
  · rw [if_pos hid] at hr
    cases hr
  · rw [if_neg hid] at hr
    exact ⟨hid, hr⟩

/-- A stored rendezvous whose identifier is on the list is on the list. -/
theorem Removes.mem_of_id_mem {s s' : RendezvousStore} {removed : List Rendezvous}
    {r : Rendezvous} (h : Removes s removed s') (hr : s.byID.lookup r.id = some r)
    (hid : r.id ∈ removed.map Rendezvous.id) : r ∈ removed := by
  obtain ⟨r', hr', hid'⟩ := List.mem_map.mp hid
  have hstored := h.stored r' hr'
  rw [hid', hr] at hstored
  exact some.inj hstored ▸ hr'

/-- What a sweep at `now` does: it takes out exactly the expired rendezvous. -/
structure Sweeps (s : RendezvousStore) (now : Time) (removed : List Rendezvous)
    (s' : RendezvousStore) : Prop where
  sound : Sound s s'
  removes : Removes s removed s'
  expired : ∀ r ∈ removed, r.expiresAt ≤ now
  live : ∀ id r, s'.byID.lookup id = some r → now < r.expiresAt

/-- A rendezvous is swept away iff it is stored and expired. -/
theorem Sweeps.mem_iff {s s' : RendezvousStore} {now : Time} {removed : List Rendezvous}
    (h : Sweeps s now removed s') {r : Rendezvous} :
    r ∈ removed ↔ s.byID.lookup r.id = some r ∧ r.expiresAt ≤ now := by
  constructor
  · exact fun hr => ⟨h.removes.stored r hr, h.expired r hr⟩
  · rintro ⟨hr, htime⟩
    by_contra hnot
    have hafter := h.removes.after r.id
    have hid : r.id ∉ removed.map Rendezvous.id := fun hmem =>
      hnot (h.removes.mem_of_id_mem hr hmem)
    rw [if_neg hid, hr] at hafter
    exact absurd htime (not_le.mpr (h.live r.id r hafter))

/-- Deleting a stored rendezvous before further removals. -/
theorem Removes.cons {s s' s'' : RendezvousStore} {removed : List Rendezvous} {r : Rendezvous}
    (hr : s.byID.lookup r.id = some r) (hdelete : s'.byID = s.byID.erase r.id)
    (h : Removes s' removed s'') : Removes s (r :: removed) s'' := by
  have hlookup : ∀ id, s'.byID.lookup id = if id = r.id then none else s.byID.lookup id := by
    intro id
    rw [hdelete, Table.lookup_erase]
  have hstored : ∀ r' ∈ removed, r'.id ≠ r.id ∧ s.byID.lookup r'.id = some r' := by
    intro r' hr'
    have := h.stored r' hr'
    rw [hlookup] at this
    by_cases hid : r'.id = r.id
    · rw [if_pos hid] at this
      cases this
    · rw [if_neg hid] at this
      exact ⟨hid, this⟩
  constructor
  · rw [List.map_cons, List.nodup_cons]
    refine ⟨?_, h.nodup⟩
    intro hmem
    obtain ⟨r', hr', hid⟩ := List.mem_map.mp hmem
    exact (hstored r' hr').1 hid
  · intro r' hr'
    rcases List.mem_cons.mp hr' with rfl | hr'
    · exact hr
    · exact (hstored r' hr').2
  · intro id
    rw [h.after, hlookup]
    by_cases hid : id = r.id
    · simp [hid]
    · simp [hid]

/-- The loop of a sweep ends within as many rounds as the heap has entries, having taken out
exactly the expired rendezvous. -/
theorem sweepLoop_spec {now : Time} :
    ∀ (fuel : Nat) (s : RendezvousStore) (removed : List Rendezvous),
      s.Indexed → s.expirations.entries.length < fuel →
      ∃ swept s', sweepLoop now fuel s removed = some (removed ++ swept, s') ∧
        Sweeps s now swept s' := by
  intro fuel
  induction fuel with
  | zero => intro s removed _ hfuel; omega
  | succ fuel ih =>
    intro s removed hs hfuel
    unfold sweepLoop
    split
    case h_1 hempty =>
      refine ⟨[], s, by rw [List.append_nil], Sound.refl hs, Removes.refl s, nofun, ?_⟩
      intro id r hr
      obtain ⟨ref, -, hin, -⟩ := hs.exists_entry hr
      rw [hempty] at hin
      cases hin
    case h_2 root rest hentries =>
      have hin : root ∈ s.expirations.entries := by rw [hentries]; exact List.mem_cons_self
      obtain ⟨r, hr, hid, htime⟩ := hs.exists_rendezvous hin
      by_cases hlive : now < (s.expirations.cells root).expiresAt
      · rw [if_pos hlive]
        refine ⟨[], s, by rw [List.append_nil], Sound.refl hs, Removes.refl s, nofun, ?_⟩
        intro id r' hr'
        obtain ⟨ref, -, hin', -, htime'⟩ := hs.exists_entry hr'
        obtain ⟨k, hk⟩ := List.mem_iff_getElem?.mp hin'
        have hroot := hs.heap.ordered.root_le k (List.getElem?_eq_some_iff.mp hk).1
        have hzero : s.expirations.ref 0 = root :=
          ref_eq (by rw [hentries]; rfl)
        rw [expiryAt, expiryAt, hzero, ref_eq hk, htime'] at hroot
        exact lt_of_lt_of_le hlive hroot
      · rw [if_neg hlive]
        simp only [hr, getD_some]
        rw [← hid] at hr
        obtain ⟨s', hdelete, hsound, hby, hlen⟩ := deleteLocked_spec hs hr
        rw [hdelete]
        obtain ⟨swept, s'', hloop, hsweeps⟩ :=
          ih s' (removed ++ [r]) hsound.indexed (by omega)
        refine ⟨r :: swept, s'', by simpa using hloop, hsound.trans hsweeps.sound,
          hsweeps.removes.cons hr hby, ?_, hsweeps.live⟩
        intro r' hr'
        rcases List.mem_cons.mp hr' with rfl | hr'
        · rw [htime]
          exact not_lt.mp hlive
        · exact hsweeps.expired r' hr'

/-- Sweeping ends and takes out exactly the expired rendezvous. -/
theorem sweepLocked_spec {s : RendezvousStore} (hs : s.Indexed) (now : Time) :
    ∃ removed s', s.sweepLocked now = some (removed, s') ∧ Sweeps s now removed s' :=
  sweepLoop_spec _ s [] hs (Nat.lt_succ_self _)

/-- The outcomes of `activeLocked`. -/
theorem activeLocked_cases (s : RendezvousStore) (id : RendezvousID) (now : Time) :
    (∃ err, s.activeLocked id now = .error err) ∨
    (∃ r, s.activeLocked id now = .ok r ∧ s.byID.lookup id = some r ∧ now < r.expiresAt) := by
  unfold activeLocked
  cases hr : s.byID.lookup id with
  | none => exact .inl ⟨_, rfl⟩
  | some r =>
    by_cases htime : now < r.expiresAt
    · exact .inr ⟨r, if_pos htime, rfl, htime⟩
    · exact .inl ⟨_, if_neg htime⟩

/-- The loop over the rendezvous of a device takes out those that are stored. -/
theorem removeLoop_spec :
    ∀ (ids : List RendezvousID) (s : RendezvousStore) (removed : List Rendezvous),
      s.Indexed →
      ∃ taken s', removeLoop ids s removed = some (removed ++ taken, s') ∧ Sound s s' ∧
        Removes s taken s' ∧ (∀ r ∈ taken, r.id ∈ ids) ∧
        (∀ id ∈ ids, s'.byID.lookup id = none) := by
  intro ids
  induction ids with
  | nil =>
    intro s removed hs
    exact ⟨[], s, by rw [removeLoop, List.append_nil], Sound.refl hs, Removes.refl s, nofun,
      nofun⟩
  | cons id ids ih =>
    intro s removed hs
    unfold removeLoop
    cases hid : s.byID.lookup id with
    | none =>
      obtain ⟨taken, s', hloop, hsound, hremoves, hmem, hnone⟩ := ih s removed hs
      refine ⟨taken, s', hloop, hsound, hremoves, ?_, ?_⟩
      · intro r hr
        exact List.mem_cons_of_mem id (hmem r hr)
      · intro id' hid'
        rcases List.mem_cons.mp hid' with rfl | hid'
        · rw [hremoves.after, hid, ite_self]
        · exact hnone id' hid'
    | some r =>
      have hrid := hs.ids id r hid
      rw [← hrid] at hid
      obtain ⟨s', hdelete, hsound, hby, -⟩ := deleteLocked_spec hs hid
      obtain ⟨taken, s'', hloop, hsound', hremoves, hmem, hnone⟩ :=
        ih s' (removed ++ [r]) hsound.indexed
      simp only [hdelete]
      refine ⟨r :: taken, s'', by simpa using hloop, hsound.trans hsound',
        hremoves.cons hid hby, ?_, ?_⟩
      · intro r' hr'
        rcases List.mem_cons.mp hr' with rfl | hr'
        · rw [hrid]
          exact List.mem_cons_self
        · exact List.mem_cons_of_mem id (hmem r' hr')
      · intro id' hid'
        rcases List.mem_cons.mp hid' with rfl | hid'
        · rw [hremoves.after, hby, ← hrid, lookup_erase, ite_self]
        · exact hnone id' hid'

/-- Removing the rendezvous of a device takes out those that the member index has under it. -/
theorem removeForDevice_spec {s : RendezvousStore} (hs : s.Indexed) (deviceID : DeviceID)
    (order : RangeOrder RendezvousID) :
    ∃ removed s', s.removeForDevice deviceID order = some (removed, s') ∧ Sound s s' ∧
      Removes s removed s' ∧
      ∀ r, r ∈ removed ↔
        s.byID.lookup r.id = some r ∧ r.id ∈ s.memberIndex.memberIDs deviceID := by
  obtain ⟨removed, s', hloop, hsound, hremoves, hmem, hnone⟩ :=
    removeLoop_spec (order.enumerate (s.memberIndex.memberIDs deviceID)) s [] hs
  refine ⟨removed, s', hloop, hsound, hremoves, fun r => ⟨fun hr => ?_, fun hr => ?_⟩⟩
  · exact ⟨hremoves.stored r hr, (order.mem_iff _ _).mp (hmem r hr)⟩
  · by_contra hnot
    have hafter := hnone r.id ((order.mem_iff _ _).mpr hr.2)
    rw [hremoves.after, if_neg fun hid => hnot (hremoves.mem_of_id_mem hr.1 hid), hr.1] at hafter
    cases hafter

/-- The outcomes of `Complete`. -/
theorem complete_spec {s : RendezvousStore} (hs : s.Indexed) (id : RendezvousID)
    (host : DeviceID) (now : Time) :
    (∃ err, s.complete id host now = some (.error err, s)) ∨
    (∃ r s', s.complete id host now = some (.ok r, s') ∧ s.byID.lookup id = some r ∧
      r.id = id ∧ r.host = host ∧ now < r.expiresAt ∧ Sound s s' ∧ Removes s [r] s') := by
  unfold complete
  rcases activeLocked_cases s id now with ⟨err, hactive⟩ | ⟨r, hactive, hr, htime⟩
  · rw [hactive]
    exact .inl ⟨err, rfl⟩
  · rw [hactive]
    by_cases hhost : r.host ≠ host
    · exact .inl ⟨.rendezvousNotHost, by simp only [if_pos hhost]⟩
    · have hrid := hs.ids id r hr
      have hr' := hr
      rw [← hrid] at hr'
      obtain ⟨s', hdelete, hsound, hby, -⟩ := deleteLocked_spec hs hr'
      refine .inr ⟨r, s', ?_, hr, hrid, not_not.mp hhost, htime, hsound,
        (Removes.refl s').cons hr' hby⟩
      simp only [if_neg hhost, hdelete]

/-! ## Adding a rendezvous -/

theorem refusal_eq_none {s : RendezvousStore} {r : Rendezvous} (h : s.refusal r = none) :
    r.id ∉ s.byID ∧ (r.kind = .desktopCode → r.codeHash ∉ s.codeIndex) ∧
      (s.len : Int) < s.maxTotal ∧ (s.hostCounts.lookup r.host).getD 0 < s.maxPerHost := by
  unfold refusal at h
  split at h
  · cases h
  · split at h
    · cases h
    · split at h
      · cases h
      · split at h
        · cases h
        · rename_i hid hcode htotal hhost
          exact ⟨hid, fun hkind hmem => hcode ⟨hkind, hmem⟩, not_le.mp htotal, not_le.mp hhost⟩

/-- Writing a cell that the heap does not refer to. -/
theorem wellFormed_update {h : RendezvousExpiryHeap} (hwf : h.WellFormed) {ref : ExpiryRef}
    (hnew : ref ∉ h.entries) (c : RendezvousExpiry) :
    WellFormed { h with cells := Function.update h.cells ref c } := by
  have hcell : ∀ ref' ∈ h.entries, Function.update h.cells ref c ref' = h.cells ref' := by
    intro ref' hin
    refine Function.update_of_ne ?_ _ _
    rintro rfl
    exact hnew hin
  refine ⟨hwf.nodup, ?_, ?_⟩
  · intro k ref' hk
    change (Function.update h.cells ref c ref').index = k
    rw [hcell ref' (List.mem_of_getElem? hk)]
    exact hwf.positioned k ref' hk
  · have hexpiry : ∀ k, k < h.entries.length →
        expiryAt { h with cells := Function.update h.cells ref c } k =
          h.expiryAt k := by
      intro k hk
      change (Function.update h.cells ref c (h.ref k)).expiresAt = _
      rw [hcell _ (List.mem_of_getElem? (getElem?_ref hk))]
      rfl
    intro j hj hjn
    have hparent := heapParent_lt hj
    rw [hexpiry _ (lt_trans hparent hjn), hexpiry j hjn]
    exact hwf.ordered j hj hjn

section adding

variable {s : RendezvousStore} {r : Rendezvous}

/-- The entry of a new rendezvous is the only change to the heap. -/
theorem expirations_add (hs : s.Indexed) (r : Rendezvous) :
    (s.add r).expirations.WellFormed ∧
      (∀ ref, ref ∈ (s.add r).expirations.entries ↔
        ref ∈ s.expirations.entries ∨ ref = s.allocated) ∧
      ((s.add r).expirations.cells s.allocated).id = r.id ∧
      ((s.add r).expirations.cells s.allocated).expiresAt = r.expiresAt ∧
      ∀ ref ∈ s.expirations.entries,
        ((s.add r).expirations.cells ref).id = (s.expirations.cells ref).id ∧
        ((s.add r).expirations.cells ref).expiresAt = (s.expirations.cells ref).expiresAt := by
  have hnew : s.allocated ∉ s.expirations.entries :=
    fun hin => absurd (hs.allocated _ hin) (lt_irrefl _)
  obtain ⟨hwf, hsame, hmem⟩ := push_spec
    (wellFormed_update hs.heap hnew { id := r.id, expiresAt := r.expiresAt, index := 0 }) hnew
  refine ⟨hwf, hmem, ?_, ?_, ?_⟩
  · refine (hsame s.allocated).1.trans ?_
    simp only [Function.update_self]
  · refine (hsame s.allocated).2.trans ?_
    simp only [Function.update_self]
  · intro ref hin
    have hne : ref ≠ s.allocated := by
      rintro rfl
      exact hnew hin
    have hcell := hsame ref
    simp only [Function.update_of_ne hne] at hcell
    exact hcell

theorem lookup_add (s : RendezvousStore) (r : Rendezvous) (id : RendezvousID) :
    (s.add r).byID.lookup id = if id = r.id then some r else s.byID.lookup id :=
  Table.lookup_insert s.byID r.id id r

theorem hosted_add (hnew : r.id ∉ s.byID) (host : DeviceID) :
    (s.add r).hosted host =
      if r.host = host then insert r.id (s.hosted host) else s.hosted host := by
  have hnone : s.byID.lookup r.id = none := lookup_eq_none.mpr hnew
  ext id
  rw [mem_hosted, lookup_add]
  by_cases hid : id = r.id
  · subst hid
    by_cases hhost : r.host = host
    · simp [hhost]
    · simp [hhost, mem_hosted, hnone]
  · rw [if_neg hid]
    by_cases hhost : r.host = host
    · rw [if_pos hhost, Finset.mem_insert, mem_hosted]
      simp [hid]
    · rw [if_neg hhost, mem_hosted]

theorem notMem_hosted (hnew : r.id ∉ s.byID) (host : DeviceID) : r.id ∉ s.hosted host := by
  intro hmem
  obtain ⟨r', hr', -⟩ := mem_hosted.mp hmem
  exact hnew (mem_of_lookup_eq_some hr')

theorem Indexed.count_getD (hs : s.Indexed) (host : DeviceID) :
    (s.hostCounts.lookup host).getD 0 = ((s.hosted host).card : Int) := by
  rw [hs.counts]
  split
  case isTrue h => rw [h]; rfl
  case isFalse => rfl

theorem len_add (hnew : r.id ∉ s.byID) : (s.add r).len = s.len + 1 := by
  have hkeys : (s.add r).byID.keys = insert r.id s.byID.keys := by
    ext id
    change id ∈ (s.byID.insert r.id r).keys ↔ _
    rw [mem_keys, mem_insert, Finset.mem_insert, mem_keys]
  unfold len
  rw [hkeys, Finset.card_insert_of_notMem (by rwa [mem_keys])]

theorem codes_add (hs : s.Indexed) (hnew : r.id ∉ s.byID)
    (hcode : r.kind = .desktopCode → r.codeHash ∉ s.codeIndex) (hash : CodeHash)
    (id : RendezvousID) :
    (s.add r).codeIndex.lookup hash = some id ↔
      ∃ r', (s.add r).byID.lookup id = some r' ∧ r'.kind = .desktopCode ∧ r'.codeHash = hash := by
  have hold := hs.codes hash id
  have hnone : s.byID.lookup r.id = none := lookup_eq_none.mpr hnew
  rw [lookup_add]
  change (if r.kind = .desktopCode then s.codeIndex.insert r.codeHash r.id
    else s.codeIndex).lookup hash = some id ↔ _
  by_cases hkind : r.kind = .desktopCode
  · rw [if_pos hkind, Table.lookup_insert]
    by_cases hhash : hash = r.codeHash
    · rw [if_pos hhash]
      by_cases hid : id = r.id
      · simp [hid, hkind, hhash]
      · rw [if_neg hid, ← hold, hhash, lookup_eq_none.mpr (hcode hkind)]
        simp [Ne.symm hid]
    · rw [if_neg hhash, hold]
      by_cases hid : id = r.id
      · subst hid
        simp [hnone, Ne.symm hhash]
      · rw [if_neg hid]
  · rw [if_neg hkind, hold]
    by_cases hid : id = r.id
    · subst hid
      simp [hnone, hkind]
    · rw [if_neg hid]

/-- Adding a rendezvous that nothing speaks against keeps the agreement. -/
theorem Indexed.add (hs : s.Indexed) (h : s.refusal r = none) : (s.add r).Indexed := by
  obtain ⟨hnew, hcode, htotal, hhost⟩ := refusal_eq_none h
  obtain ⟨hwf, hmem, hid, htime, hkeep⟩ := expirations_add hs r
  have hfresh : ∀ ref ∈ s.expirations.entries, (s.expirations.cells ref).id ≠ r.id := by
    intro ref hin heq
    obtain ⟨r', hr', -⟩ := hs.exists_rendezvous hin
    rw [heq] at hr'
    exact hnew (mem_of_lookup_eq_some hr')
  constructor
  · intro id r' hr'
    rw [lookup_add] at hr'
    by_cases hid : id = r.id
    · rw [if_pos hid] at hr'
      rw [← some.inj hr', hid]
    · rw [if_neg hid] at hr'
      exact hs.ids id r' hr'
  · exact codes_add hs hnew hcode
  · intro host
    rw [hosted_add hnew]
    change (s.hostCounts.insert r.host ((s.hostCounts.lookup r.host).getD 0 + 1)).lookup host = _
    rw [Table.lookup_insert]
    by_cases heq : host = r.host
    · subst heq
      rw [if_pos rfl, if_pos rfl, Finset.card_insert_of_notMem (notMem_hosted hnew _),
        if_neg (Nat.succ_ne_zero _), hs.count_getD, Nat.cast_succ]
    · rw [if_neg heq, if_neg (Ne.symm heq), hs.counts]
  · exact hwf
  · intro id ref
    change (s.expiryIndex.insert r.id s.allocated).lookup id = some ref ↔ _
    rw [Table.lookup_insert, hmem]
    by_cases hrid : id = r.id
    · rw [if_pos hrid]
      constructor
      · rintro href
        rw [← some.inj href]
        exact ⟨.inr rfl, hid.trans hrid.symm⟩
      · rintro ⟨hin | rfl, href⟩
        · rw [(hkeep ref hin).1, hrid] at href
          exact absurd href (hfresh ref hin)
        · rfl
    · rw [if_neg hrid, hs.expiry]
      constructor
      · rintro ⟨hin, href⟩
        exact ⟨.inl hin, (hkeep ref hin).1.trans href⟩
      · rintro ⟨hin | rfl, href⟩
        · exact ⟨hin, (hkeep ref hin).1.symm.trans href⟩
        · exact absurd (href.symm.trans hid) hrid
  · intro id
    change id ∈ s.expiryIndex.insert r.id s.allocated ↔ id ∈ s.byID.insert r.id r
    rw [mem_insert, mem_insert, hs.entry]
  · intro ref r' hin hr'
    rcases (hmem ref).mp hin with hin | rfl
    · rw [(hkeep ref hin).1, lookup_add, if_neg (hfresh ref hin)] at hr'
      rw [(hkeep ref hin).2]
      exact hs.expiresAt ref r' hin hr'
    · rw [hid, lookup_add, if_pos rfl] at hr'
      rw [htime, some.inj hr']
  · intro ref hin
    change ref < s.allocated + 1
    rcases (hmem ref).mp hin with hin | rfl
    · exact lt_trans (hs.allocated ref hin) (Nat.lt_succ_self _)
    · exact Nat.lt_succ_self _
  · rw [len_add hnew]
    change ((s.len + 1 : Nat) : Int) ≤ s.maxTotal
    omega
  · intro host
    change _ ≤ s.maxPerHost
    rw [hosted_add hnew]
    by_cases heq : r.host = host
    · subst heq
      rw [if_pos rfl, Finset.card_insert_of_notMem (notMem_hosted hnew _)]
      rw [hs.count_getD] at hhost
      omega
    · rw [if_neg heq]
      exact hs.perHost host

theorem MembersIndexed.add (hm : s.MembersIndexed) (hnew : r.id ∉ s.byID)
    (hcontroller : r.controller = none) : (s.add r).MembersIndexed := by
  have hnone : s.byID.lookup r.id = none := lookup_eq_none.mpr hnew
  refine ⟨?_, hm.noEmpty.indexMemberLocked⟩
  intro d id
  change id ∈ (s.memberIndex.indexMemberLocked r.host r.id).memberIDs d ↔ _
  rw [mem_indexMemberLocked, lookup_add, hm.members]
  by_cases hid : id = r.id
  · subst hid
    simp [hnone, Rendezvous.Member, hcontroller, eq_comm]
  · simp [hid]

end adding

/-! ## Joining -/

/-- The store after a controller has joined. -/
def joined (s : RendezvousStore) (r : Rendezvous) (controller : DeviceID) : RendezvousStore :=
  { s with
    byID := s.byID.insert r.id { r with controller := some controller }
    memberIndex := s.memberIndex.indexMemberLocked controller r.id }

/-- The outcomes of a join. -/
theorem joinLocked_cases {s : RendezvousStore} (hs : s.Indexed) (id : RendezvousID)
    (controller : DeviceID) (now : Time) :
    (∃ err, s.joinLocked id controller now = (.error err, s)) ∨
    (∃ r, s.joinLocked id controller now = (.ok r, s) ∧ s.byID.lookup id = some r ∧ r.id = id ∧
      now < r.expiresAt ∧ r.host ≠ controller ∧ r.controller = some controller) ∨
    (∃ r, s.joinLocked id controller now =
        (.ok { r with controller := some controller }, s.joined r controller) ∧
      s.byID.lookup id = some r ∧ r.id = id ∧ now < r.expiresAt ∧ r.host ≠ controller ∧
      r.controller = none) := by
  unfold joinLocked
  rcases activeLocked_cases s id now with ⟨err, hactive⟩ | ⟨r, hactive, hr, htime⟩
  · rw [hactive]
    exact .inl ⟨err, rfl⟩
  · rw [hactive]
    have hid := hs.ids id r hr
    by_cases hhost : r.host = controller
    · exact .inl ⟨.rendezvousSelfJoin, by simp only [if_pos hhost]⟩
    · simp only [if_neg hhost]
      cases hcontroller : r.controller with
      | none =>
        refine .inr (.inr ⟨r, ?_, hr, hid, htime, hhost, hcontroller⟩)
        rw [joined, hid]
      | some old =>
        by_cases heq : old = controller
        · subst heq
          exact .inr (.inl ⟨r, if_pos rfl, hr, hid, htime, hhost, hcontroller⟩)
        · exact .inl ⟨.rendezvousFull, if_neg heq⟩

section joining

variable {s : RendezvousStore} {r : Rendezvous} {controller : DeviceID}

theorem lookup_joined (s : RendezvousStore) (r : Rendezvous) (controller : DeviceID)
    (id : RendezvousID) :
    (s.joined r controller).byID.lookup id =
      if id = r.id then some { r with controller := some controller } else s.byID.lookup id :=
  Table.lookup_insert s.byID r.id id _

/-- A join changes nothing of a rendezvous but its controller. -/
theorem lookup_joined_congr {α : Type} (f : Rendezvous → α)
    (hf : f { r with controller := some controller } = f r)
    (hr : s.byID.lookup r.id = some r) (id : RendezvousID) :
    ((s.joined r controller).byID.lookup id).map f = (s.byID.lookup id).map f := by
  rw [lookup_joined]
  by_cases hid : id = r.id
  · rw [if_pos hid, hid, hr, map_some, map_some, hf]
  · rw [if_neg hid]

theorem keys_joined (hr : s.byID.lookup r.id = some r) :
    (s.joined r controller).byID.keys = s.byID.keys := by
  ext id
  rw [mem_keys, mem_keys]
  change id ∈ s.byID.insert r.id _ ↔ id ∈ s.byID
  rw [mem_insert]
  constructor
  · rintro (rfl | hmem)
    · exact mem_of_lookup_eq_some hr
    · exact hmem
  · exact .inr

theorem hosted_joined (hr : s.byID.lookup r.id = some r) (host : DeviceID) :
    (s.joined r controller).hosted host = s.hosted host := by
  unfold hosted
  rw [keys_joined hr]
  apply Finset.filter_congr
  intro id _
  rw [lookup_joined_congr Rendezvous.host rfl hr]

theorem Indexed.joined (hs : s.Indexed) (hr : s.byID.lookup r.id = some r) :
    (s.joined r controller).Indexed := by
  have hback : ∀ id r', (s.joined r controller).byID.lookup id = some r' →
      ∃ r₀, s.byID.lookup id = some r₀ ∧ r'.id = r₀.id ∧ r'.kind = r₀.kind ∧
        r'.codeHash = r₀.codeHash ∧ r'.expiresAt = r₀.expiresAt := by
    intro id r' hr'
    rw [lookup_joined] at hr'
    by_cases hid : id = r.id
    · rw [if_pos hid] at hr'
      rw [← some.inj hr', hid]
      exact ⟨r, hr, rfl, rfl, rfl, rfl⟩
    · rw [if_neg hid] at hr'
      exact ⟨r', hr', rfl, rfl, rfl, rfl⟩
  constructor
  · intro id r' hr'
    obtain ⟨r₀, hr₀, hid, -⟩ := hback id r' hr'
    rw [hid]
    exact hs.ids id r₀ hr₀
  · intro hash id
    change s.codeIndex.lookup hash = some id ↔ _
    rw [hs.codes]
    constructor
    · rintro ⟨r₀, hr₀, hkind, hhash⟩
      have hsame : ((s.joined r controller).byID.lookup id).map (fun r' => (r'.kind, r'.codeHash)) =
          (s.byID.lookup id).map fun r' => (r'.kind, r'.codeHash) :=
        lookup_joined_congr _ rfl hr id
      rw [hr₀, map_some, map_eq_some_iff] at hsame
      obtain ⟨r', hr', heq⟩ := hsame
      rw [Prod.mk.injEq] at heq
      exact ⟨r', hr', heq.1.trans hkind, heq.2.trans hhash⟩
    · rintro ⟨r', hr', hkind, hhash⟩
      obtain ⟨r₀, hr₀, -, hkind', hhash', -⟩ := hback id r' hr'
      exact ⟨r₀, hr₀, hkind'.symm.trans hkind, hhash'.symm.trans hhash⟩
  · intro host
    rw [hosted_joined hr]
    exact hs.counts host
  · exact hs.heap
  · exact hs.expiry
  · intro id
    rw [← mem_keys (s := (s.joined r controller).byID), keys_joined hr, mem_keys]
    exact hs.entry id
  · intro ref r' hin hr'
    obtain ⟨r₀, hr₀, -, -, -, htime⟩ := hback _ r' hr'
    rw [htime]
    exact hs.expiresAt ref r₀ hin hr₀
  · exact hs.allocated
  · change ((s.joined r controller).byID.keys.card : Int) ≤ s.maxTotal
    rw [keys_joined hr]
    exact hs.total
  · intro host
    rw [hosted_joined hr]
    exact hs.perHost host

theorem MembersIndexed.joined (hm : s.MembersIndexed) (hr : s.byID.lookup r.id = some r)
    (hcontroller : r.controller = none) : (s.joined r controller).MembersIndexed := by
  refine ⟨?_, hm.noEmpty.indexMemberLocked⟩
  intro d id
  change id ∈ (s.memberIndex.indexMemberLocked controller r.id).memberIDs d ↔ _
  rw [mem_indexMemberLocked, lookup_joined, hm.members]
  by_cases hid : id = r.id
  · subst hid
    simp only [hr, Rendezvous.Member, hcontroller, if_true, some.injEq, exists_eq_left',
      reduceCtorEq, or_false, and_true]
    rw [or_comm, eq_comm (a := d)]
  · simp [hid]

theorem Sound.joined (hs : s.Indexed) (hr : s.byID.lookup r.id = some r)
    (hcontroller : r.controller = none) : Sound s (s.joined r controller) :=
  ⟨hs.joined hr, fun hm => hm.joined hr hcontroller, rfl, rfl⟩

/-! ## Create -/

/-- The arguments that `Create` accepts. -/
def CreateValid (r : Rendezvous) (pairingCode : String) (now : Time) : Prop :=
  ((r.kind = .qr ∧ pairingCode = "") ∨ (r.kind = .desktopCode ∧ pairingCode ≠ "")) ∧
    now < r.expiresAt

instance (r : Rendezvous) (pairingCode : String) (now : Time) :
    Decidable (CreateValid r pairingCode now) :=
  inferInstanceAs (Decidable (_ ∧ _))

/-- Two values of one rendezvous: a join and the digest of the code are the only changes. -/
structure SameRendezvous (r r' : Rendezvous) : Prop where
  id : r'.id = r.id
  kind : r'.kind = r.kind
  host : r'.host = r.host
  expiresAt : r'.expiresAt = r.expiresAt

variable (text : CodeText)

theorem checkedKind_cases (r : Rendezvous) (pairingCode : String) :
    (checkedKind text r pairingCode = none ∧
      ¬ ((r.kind = .qr ∧ pairingCode = "") ∨ (r.kind = .desktopCode ∧ pairingCode ≠ ""))) ∨
    (∃ stored, checkedKind text r pairingCode = some stored ∧
      ((r.kind = .qr ∧ pairingCode = "") ∨ (r.kind = .desktopCode ∧ pairingCode ≠ "")) ∧
      SameRendezvous r stored ∧ stored.controller = r.controller) := by
  unfold checkedKind
  cases hkind : r.kind with
  | qr =>
    by_cases hcode : pairingCode = ""
    · exact .inr ⟨r, by simp [hcode], .inl ⟨rfl, hcode⟩, ⟨rfl, rfl, rfl, rfl⟩, rfl⟩
    · exact .inl ⟨by simp [hcode], by simp [hcode]⟩
  | desktopCode =>
    by_cases hcode : pairingCode = ""
    · exact .inl ⟨by simp [hcode], by simp [hcode]⟩
    · exact .inr ⟨_, if_neg hcode, .inr ⟨rfl, hcode⟩, ⟨rfl, hkind.symm, rfl, rfl⟩, rfl⟩
  | other value => exact .inl ⟨rfl, by simp⟩

/-- The outcomes of `Create`: arguments it refuses at once, or a sweep followed by a refusal or
by the addition of the rendezvous. -/
theorem create_cases {s : RendezvousStore} (hs : s.Indexed) (r : Rendezvous)
    (pairingCode : String) (now : Time) :
    (¬ CreateValid r pairingCode now ∧
      create text s r pairingCode now = some (⟨[], some .rendezvousInvalid⟩, s)) ∨
    (CreateValid r pairingCode now ∧
      ∃ stored removed s₁, SameRendezvous r stored ∧ stored.controller = r.controller ∧
        Sweeps s now removed s₁ ∧
        ((∃ err, create text s r pairingCode now = some (⟨removed, some err⟩, s₁)) ∨
          (s₁.refusal stored = none ∧
            create text s r pairingCode now = some (⟨removed, none⟩, s₁.add stored)))) := by
  unfold create
  rcases checkedKind_cases text r pairingCode with ⟨hnone, hkind⟩
    | ⟨stored, hsome, hkind, hsame, hc⟩
  · rw [hnone]
    exact .inl ⟨fun h => hkind h.1, rfl⟩
  · rw [hsome]
    simp only [createChecked, hsame.expiresAt]
    by_cases htime : now < r.expiresAt
    · rw [if_neg (not_not.mpr htime)]
      obtain ⟨removed, s₁, hsweep, hsweeps⟩ := sweepLocked_spec hs now
      refine .inr ⟨⟨hkind, htime⟩, stored, removed, s₁, hsame, hc, hsweeps, ?_⟩
      rw [hsweep]
      cases hrefusal : s₁.refusal stored with
      | some err => exact .inl ⟨err, by simp only [hrefusal]⟩
      | none => exact .inr ⟨rfl, by simp only [hrefusal]⟩
    · rw [if_pos htime]
      exact .inl ⟨fun h => htime h.2, rfl⟩

/-- A join by code is a join by an identifier, or fails. -/
theorem joinByCode_cases (s : RendezvousStore) (pairingCode : String)
    (controller : DeviceID) (now : Time) :
    (joinByCode text s pairingCode controller now = (.error .rendezvousNotFound, s)) ∨
    ∃ id, joinByCode text s pairingCode controller now = s.joinLocked id controller now := by
  unfold joinByCode
  cases s.codeIndex.lookup (text.pairingCodeHash pairingCode) with
  | none => exact .inl rfl
  | some id => exact .inr ⟨id, rfl⟩

/-! ## Runs -/

/-- A rendezvous is created without a controller. -/
def Call.Fresh : Call → Prop
  | .create r _ _ => r.controller = none
  | _ => True

/-- The device that a call makes a controller, and the time of the call. -/
def Call.joins : Call → Option (DeviceID × Time)
  | .joinByID _ controller now => some (controller, now)
  | .joinByCode _ controller now => some (controller, now)
  | _ => none

/-- Everything that a call can do. -/
inductive Effect (s : RendezvousStore) : Call → RendezvousStore → Reply → Prop
  | createInvalid {r pairingCode now} (invalid : ¬ CreateValid r pairingCode now) :
      Effect s (.create r pairingCode now) s (.created ⟨[], some .rendezvousInvalid⟩)
  | createRefused {r pairingCode now removed s' err} (valid : CreateValid r pairingCode now)
      (sweeps : Sweeps s now removed s') :
      Effect s (.create r pairingCode now) s' (.created ⟨removed, some err⟩)
  | created {r pairingCode now stored removed s'} (valid : CreateValid r pairingCode now)
      (sweeps : Sweeps s now removed s') (same : SameRendezvous r stored)
      (controller : stored.controller = r.controller) (free : s'.refusal stored = none) :
      Effect s (.create r pairingCode now) (s'.add stored) (.created ⟨removed, none⟩)
  | joinFailed {call controller now err} (joins : call.joins = some (controller, now)) :
      Effect s call s (.joined (.error err))
  | joinRepeated {call controller now r} (joins : call.joins = some (controller, now))
      (stored : s.byID.lookup r.id = some r) (live : now < r.expiresAt)
      (notHost : r.host ≠ controller) (already : r.controller = some controller) :
      Effect s call s (.joined (.ok r))
  | joined {call controller now r} (joins : call.joins = some (controller, now))
      (stored : s.byID.lookup r.id = some r) (live : now < r.expiresAt)
      (notHost : r.host ≠ controller) (open_ : r.controller = none) :
      Effect s call (s.joined r controller) (.joined (.ok { r with controller := some controller }))
  | peer {id sender now} :
      Effect s (.peer id sender now) s (.peer (s.peer id sender now))
  | completeFailed {id host now err} : Effect s (.complete id host now) s (.completed (.error err))
  | completed {host now r s'} (stored : s.byID.lookup r.id = some r) (isHost : r.host = host)
      (live : now < r.expiresAt) (sound : Sound s s') (removes : Removes s [r] s') :
      Effect s (.complete r.id host now) s' (.completed (.ok r))
  | removed {deviceID order removed s'} (sound : Sound s s') (removes : Removes s removed s')
      (mem_iff : ∀ r, r ∈ removed ↔
        s.byID.lookup r.id = some r ∧ r.id ∈ s.memberIndex.memberIDs deviceID) :
      Effect s (.removeForDevice deviceID order) s' (.removed removed)
  | swept {now removed s'} (sweeps : Sweeps s now removed s') :
      Effect s (.sweep now) s' (.removed removed)

theorem joinLocked_effect {s : RendezvousStore} (hs : s.Indexed) {call : Call}
    {controller : DeviceID} {now : Time} (hcall : call.joins = some (controller, now))
    (id : RendezvousID) :
    Effect s call (s.joinLocked id controller now).2
      (.joined (s.joinLocked id controller now).1) := by
  rcases joinLocked_cases hs id controller now with
    ⟨err, h⟩ | ⟨r, h, hr, rfl, hlive, hhost, hc⟩ | ⟨r, h, hr, rfl, hlive, hhost, hc⟩
  · rw [h]
    exact .joinFailed hcall
  · rw [h]
    exact .joinRepeated hcall hr hlive hhost hc
  · rw [h]
    exact .joined hcall hr hlive hhost hc

/-- Every call ends, with one of these effects. -/
theorem step_effect {s : RendezvousStore} (hs : s.Indexed) (call : Call) :
    Effect s call (step text s call).1 (step text s call).2 := by
  cases call with
  | create r pairingCode now =>
    simp only [step]
    rcases create_cases text hs r pairingCode now with
      ⟨hinvalid, h⟩ | ⟨hvalid, stored, removed, s₁, hsame, hc, hsweeps, ⟨err, h⟩ | ⟨hfree, h⟩⟩
    · rw [h]
      exact .createInvalid hinvalid
    · rw [h]
      exact .createRefused hvalid hsweeps
    · rw [h]
      exact .created hvalid hsweeps hsame hc hfree
  | joinByID id controller now => exact joinLocked_effect hs rfl id
  | joinByCode pairingCode controller now =>
    simp only [step]
    rcases joinByCode_cases text s pairingCode controller now with h | ⟨id, h⟩
    · rw [h]
      exact .joinFailed rfl
    · rw [h]
      exact joinLocked_effect hs rfl id
  | peer id sender now => exact .peer
  | complete id host now =>
    simp only [step]
    rcases complete_spec hs id host now with
      ⟨err, h⟩ | ⟨r, s', h, hr, rfl, hhost, hlive, hsound, hremoves⟩
    · rw [h]
      exact .completeFailed
    · rw [h]
      exact .completed hr hhost hlive hsound hremoves
  | removeForDevice deviceID order =>
    simp only [step]
    obtain ⟨removed, s', h, hsound, hremoves, hmem⟩ := removeForDevice_spec hs deviceID order
    rw [h]
    exact .removed hsound hremoves hmem
  | sweep now =>
    simp only [step, sweep]
    obtain ⟨removed, s', h, hsweeps⟩ := sweepLocked_spec hs now
    rw [h]
    exact .swept hsweeps

/-- A call keeps the agreement of all structures but the member index, and that of the member
index if it creates no rendezvous with a controller. -/
theorem Effect.keeps {s s' : RendezvousStore} {call : Call} {reply : Reply} (hs : s.Indexed)
    (h : Effect s call s' reply) :
    s'.Indexed ∧ SameLimits s s' ∧ (call.Fresh → s.MembersIndexed → s'.MembersIndexed) := by
  have hsound : ∀ {s'}, Sound s s' →
      s'.Indexed ∧ SameLimits s s' ∧ (call.Fresh → s.MembersIndexed → s'.MembersIndexed) :=
    fun h => ⟨h.indexed, h.limits, fun _ => h.members⟩
  cases h with
  | createInvalid | joinFailed | joinRepeated | peer | completeFailed =>
    exact hsound (Sound.refl hs)
  | createRefused _ hsweeps => exact hsound hsweeps.sound
  | created _ hsweeps _ hc hfree =>
    refine ⟨hsweeps.sound.indexed.add hfree, hsweeps.sound.limits, fun hfresh hm => ?_⟩
    exact (hsweeps.sound.members hm).add (refusal_eq_none hfree).1 (hc.trans hfresh)
  | joined _ hr _ _ hopen => exact hsound (Sound.joined hs hr hopen)
  | completed _ _ _ hs' _ => exact hsound hs'
  | removed hs' _ _ => exact hsound hs'
  | swept hsweeps => exact hsound hsweeps.sound

theorem Effect.not_stuck {s s' : RendezvousStore} {call : Call} {reply : Reply}
    (h : Effect s call s' reply) : reply ≠ .stuck := by
  cases h <;> exact nofun

theorem newRendezvousStore_indexed {maxPerHost maxTotal : Int} {s : RendezvousStore}
    (h : newRendezvousStore maxPerHost maxTotal = some s) :
    s.Indexed ∧ s.MembersIndexed ∧ s.maxPerHost = maxPerHost ∧ s.maxTotal = maxTotal ∧
      s.byID = ∅ := by
  unfold newRendezvousStore at h
  split at h
  · cases h
  · rename_i hlimits
    push Not at hlimits
    rw [← some.inj h]
    refine ⟨?_, ⟨?_, ?_⟩, rfl, rfl, rfl⟩
    · constructor
      · simp
      · simp
      · intro host
        rfl
      · exact ⟨List.nodup_nil, by intro k r hk; simp at hk, by intro j hj hjn; simp at hjn⟩
      · simp
      · exact fun _ => Iff.rfl
      · simp
      · simp
      · exact le_of_lt hlimits.2
      · intro host
        exact le_of_lt hlimits.1
    · simp [memberIDs]
    · simp [NoEmpty]

/-- The structures of a store agree after every sequence of calls that creates rendezvous
without a controller, and no call gets stuck. -/
theorem store_representation {maxPerHost maxTotal : Int} {s₀ : RendezvousStore}
    (hnew : newRendezvousStore maxPerHost maxTotal = some s₀) (calls : List Call)
    (hfresh : ∀ call ∈ calls, call.Fresh) :
    ((machine text).run s₀ calls).Indexed ∧ ((machine text).run s₀ calls).MembersIndexed ∧
      ((machine text).run s₀ calls).maxPerHost = maxPerHost ∧
      ((machine text).run s₀ calls).maxTotal = maxTotal ∧
      ∀ o ∈ (machine text).trace s₀ calls, o.output ≠ .stuck := by
  have hstart := newRendezvousStore_indexed hnew
  have hguard : (machine text).Guarded (fun _ call => call.Fresh) s₀ calls :=
    Machine.guarded_of_mem (fun call hcall _ => hfresh call hcall) s₀
  let Inv := fun s : RendezvousStore => s.Indexed ∧ s.MembersIndexed ∧
    s.maxPerHost = maxPerHost ∧ s.maxTotal = maxTotal
  have hinit : Inv s₀ := ⟨hstart.1, hstart.2.1, hstart.2.2.1, hstart.2.2.2.1⟩
  have hstep : ∀ s call, Inv s → call.Fresh → Inv ((machine text).step s call).1 := by
    rintro s call ⟨hs, hm, hhost, htotal⟩ hcall
    obtain ⟨hs', hlimits, hm'⟩ := (step_effect text hs call).keeps hs
    exact ⟨hs', hm' hcall hm, hlimits.1.trans hhost, hlimits.2.trans htotal⟩
  obtain ⟨hs, hm, hhost, htotal⟩ := Machine.run_invariant Inv hstep hinit hguard
  refine ⟨hs, hm, hhost, htotal, ?_⟩
  intro o ho
  obtain ⟨hbefore, -, -, ho⟩ := Machine.trace_invariant Inv hstep hinit hguard ho
  rw [ho]
  exact (step_effect text hbefore.1 o.input).not_stuck

section samples

/-- Text operations that agree with the source's on the pairing code `ABCDEFGH`. -/
def sampleText : CodeText where
  toUpper := id
  trimSpace := id
  sum256 _ := ⟨[255, 164, 134, 51, 27, 111, 14, 149, 15, 50, 108, 249, 225, 2, 33, 86, 169, 24, 9,
    71, 0, 26, 101, 171, 45, 253, 177, 208, 112, 64, 249, 153], rfl⟩

/-- A device. -/
def sampleDevice (n : UInt8) : DeviceID := ⟨List.replicate deviceIdBytes n, List.length_replicate⟩

/-- A rendezvous of device 1. -/
def sampleRendezvous (n : UInt8) (kind : PairingKind) (expiresAt : Time) : Rendezvous :=
  { Rendezvous.zero with
    id := ⟨List.replicate rendezvousIdBytes n, List.length_replicate⟩
    kind
    host := sampleDevice 1
    expiresAt }

/-- An empty store for two rendezvous of a Host and three in all. -/
def sampleStore : RendezvousStore :=
  { byID := ∅
    codeIndex := ∅
    memberIndex := ∅
    hostCounts := ∅
    expirations := { entries := [], cells := fun _ => ⟨Rendezvous.zero.id, 0, 0⟩ }
    expiryIndex := ∅
    maxPerHost := 2
    maxTotal := 3
    allocated := 0 }

/-- A code rendezvous is created and joined, a second one is created, the first one completed. -/
def sampleCalls : List Call :=
  [.create (sampleRendezvous 1 .desktopCode 100) "ABCDEFGH" 0,
    .joinByCode "ABCDEFGH" (sampleDevice 2) 10,
    .create (sampleRendezvous 2 .qr 90) "" 20,
    .complete (sampleRendezvous 1 .desktopCode 100).id (sampleDevice 1) 30]

theorem store_representation_sample :
    newRendezvousStore 2 3 = some sampleStore ∧ (∀ call ∈ sampleCalls, call.Fresh) ∧
      ((machine sampleText).run sampleStore sampleCalls).Indexed ∧
      ((machine sampleText).run sampleStore sampleCalls).MembersIndexed ∧
      ((machine sampleText).run sampleStore sampleCalls).len = 1 := by
  have hnew : newRendezvousStore 2 3 = some sampleStore := rfl
  have hfresh : ∀ call ∈ sampleCalls, call.Fresh := by
    simp [sampleCalls, Call.Fresh, sampleRendezvous, Rendezvous.zero]
  have h := store_representation sampleText hnew sampleCalls hfresh
  exact ⟨hnew, hfresh, h.1, h.2.1, by decide +kernel⟩

/-- A rendezvous that is created with a controller in it is not indexed under it. -/
theorem preset_controller_unindexed :
    ¬ ((machine sampleText).run sampleStore
      [.create { sampleRendezvous 1 .qr 100 with controller := some (sampleDevice 2) } "" 0]
      ).MembersIndexed := by
  intro h
  have hmem := (h.members (sampleDevice 2) (sampleRendezvous 1 .qr 100).id).mpr
    ⟨{ sampleRendezvous 1 .qr 100 with controller := some (sampleDevice 2) },
      by decide +kernel, .inr rfl⟩
  revert hmem
  decide +kernel

end samples

end joining

end RendezvousStore

end Server

end Roammand
