import Roammand.Server.RendezvousStore

/-!
# The expiry heap

The heap that the store keeps is in order, holds no reference twice, and every entry knows its
own position.  Both heap operations keep this, and each changes the set of references by
exactly one.

Main results:

- Definition `RendezvousExpiryHeap.WellFormed`.
- Theorem `RendezvousExpiryHeap.push_spec`: a push adds its reference.
- Theorem `RendezvousExpiryHeap.remove_spec`: a removal by the recorded position takes that
  reference out.
-/

namespace Roammand

namespace Server

open Library List

namespace RendezvousExpiryHeap

/-- Two heaps whose entries say the same, positions apart. -/
def SameContents (h h' : RendezvousExpiryHeap) : Prop :=
  ∀ r, (h'.cells r).id = (h.cells r).id ∧ (h'.cells r).expiresAt = (h.cells r).expiresAt

/-- Every entry knows its position. -/
def Positioned (h : RendezvousExpiryHeap) : Prop :=
  ∀ (k : Nat) (r : ExpiryRef), h.entries[k]? = some r → (h.cells r).index = k

/-- The heap is in order, without duplicates, and its entries know their positions. -/
structure WellFormed (h : RendezvousExpiryHeap) : Prop where
  nodup : h.entries.Nodup
  positioned : h.Positioned
  ordered : HeapOrdered h.expiryAt h.entries.length

/-! ## Single updates -/

theorem SameContents.refl (h : RendezvousExpiryHeap) : SameContents h h := fun _ => ⟨rfl, rfl⟩

theorem SameContents.trans {h h' h'' : RendezvousExpiryHeap} (h₁ : SameContents h h')
    (h₂ : SameContents h' h'') : SameContents h h'' :=
  fun r => ⟨(h₂ r).1.trans (h₁ r).1, (h₂ r).2.trans (h₁ r).2⟩

theorem setIndex_index_self (h : RendezvousExpiryHeap) (r : ExpiryRef) (index : Int) :
    ((h.setIndex r index).cells r).index = index := by
  simp [setIndex]

theorem setIndex_index_of_ne (h : RendezvousExpiryHeap) {r r' : ExpiryRef} (index : Int)
    (hne : r' ≠ r) : ((h.setIndex r index).cells r').index = (h.cells r').index := by
  simp [setIndex, hne]

theorem sameContents_setIndex (h : RendezvousExpiryHeap) (r : ExpiryRef) (index : Int) :
    SameContents h (h.setIndex r index) := by
  intro r'
  by_cases heq : r' = r
  · subst heq
    simp [setIndex]
  · simp [setIndex, heq]

theorem ref_eq {h : RendezvousExpiryHeap} {k : Nat} {r : ExpiryRef}
    (hk : h.entries[k]? = some r) : h.ref k = r := by
  simp [ref, getD_eq_getElem?_getD, hk]

theorem getElem?_ref {h : RendezvousExpiryHeap} {k : Nat} (hk : k < h.entries.length) :
    h.entries[k]? = some (h.ref k) := by
  simp [ref, getD_eq_getElem?_getD, hk]

/-! ## Swaps -/

section swap

variable {h : RendezvousExpiryHeap} {i j : Nat}

@[simp]
theorem swap_entries (h : RendezvousExpiryHeap) (i j : Nat) :
    (h.swap i j).entries = (h.entries.set i (h.ref j)).set j (h.ref i) := rfl

theorem swap_length (h : RendezvousExpiryHeap) (i j : Nat) :
    (h.swap i j).entries.length = h.entries.length := by
  simp

theorem sameContents_swap (h : RendezvousExpiryHeap) (i j : Nat) :
    SameContents h (h.swap i j) := by
  intro r
  have hleft := sameContents_setIndex h (h.ref j) i r
  have hright := sameContents_setIndex (h.setIndex (h.ref j) i) (h.ref i) j r
  exact ⟨hright.1.trans hleft.1, hright.2.trans hleft.2⟩

/-- A swap of two positions permutes what the positions hold. -/
theorem getElem?_swap (hi : i < h.entries.length) (hj : j < h.entries.length) (k : Nat) :
    (h.swap i j).entries[k]? = h.entries[Equiv.swap i j k]? := by
  rw [swap_entries, getElem?_set, getElem?_set, Equiv.swap_apply_def]
  by_cases hkj : k = j
  · subst hkj
    by_cases hki : k = i
    · subst hki
      rw [if_pos rfl, if_pos (by simpa using hj), if_pos rfl, getElem?_ref hj]
    · simp [hki, hj, getElem?_ref hi]
  · by_cases hki : k = i
    · subst hki
      simp [Ne.symm hkj, hi, getElem?_ref hj]
    · simp [hki, hkj, Ne.symm hkj, Ne.symm hki]

theorem ref_swap (hi : i < h.entries.length) (hj : j < h.entries.length) (k : Nat) :
    (h.swap i j).ref k = h.ref (Equiv.swap i j k) := by
  rw [ref, ref, getD_eq_getElem?_getD, getD_eq_getElem?_getD, getElem?_swap hi hj]

theorem expiryAt_swap (hi : i < h.entries.length) (hj : j < h.entries.length) (k : Nat) :
    (h.swap i j).expiryAt k = h.expiryAt (Equiv.swap i j k) := by
  rw [expiryAt, expiryAt, ref_swap hi hj, (sameContents_swap h i j _).2]

theorem mem_swap (hi : i < h.entries.length) (hj : j < h.entries.length) (r : ExpiryRef) :
    r ∈ (h.swap i j).entries ↔ r ∈ h.entries := by
  rw [mem_iff_getElem?, mem_iff_getElem?]
  constructor
  · rintro ⟨k, hk⟩
    exact ⟨Equiv.swap i j k, by rw [← getElem?_swap hi hj, hk]⟩
  · rintro ⟨k, hk⟩
    exact ⟨Equiv.swap i j k, by rw [getElem?_swap hi hj, Equiv.swap_apply_self, hk]⟩

theorem nodup_swap (hi : i < h.entries.length) (hj : j < h.entries.length)
    (hnodup : h.entries.Nodup) : (h.swap i j).entries.Nodup := by
  rw [nodup_iff_getElem?_ne_getElem?] at hnodup ⊢
  intro k l hkl hl heq
  rw [getElem?_swap hi hj, getElem?_swap hi hj] at heq
  rw [swap_length] at hl
  have hne : Equiv.swap i j k ≠ Equiv.swap i j l := (Equiv.swap i j).injective.ne (by omega)
  have hk : Equiv.swap i j k < h.entries.length := by
    rw [Equiv.swap_apply_def]
    split <;> [exact hj; (split <;> omega)]
  have hl' : Equiv.swap i j l < h.entries.length := by
    rw [Equiv.swap_apply_def]
    split <;> [exact hj; (split <;> omega)]
  rcases Nat.lt_or_gt_of_ne hne with hlt | hlt
  · exact hnodup _ _ hlt hl' heq
  · exact hnodup _ _ hlt hk heq.symm

theorem Positioned.swap (hpos : h.Positioned) (hnodup : h.entries.Nodup)
    (hi : i < h.entries.length) (hj : j < h.entries.length) : (h.swap i j).Positioned := by
  intro k r hk
  rw [getElem?_swap hi hj] at hk
  have hpos' := hpos _ r hk
  have href : h.ref (Equiv.swap i j k) = r := ref_eq hk
  unfold RendezvousExpiryHeap.swap
  by_cases hkj : k = j
  · subst hkj
    rw [Equiv.swap_apply_right] at href
    rw [href]
    exact setIndex_index_self _ _ _
  · have hne : ∀ l, l < h.entries.length → Equiv.swap i j k ≠ l → r ≠ h.ref l := by
      intro l hl hne heq
      have hl' := getElem?_ref hl
      rw [← heq] at hl'
      exact hne ((List.getElem?_inj (List.getElem?_eq_some_iff.mp hk).1 hnodup).mp
        (hk.trans hl'.symm))
    by_cases hki : k = i
    · subst hki
      have hri : r ≠ h.ref k := hne k hi (by rw [Equiv.swap_apply_left]; exact Ne.symm hkj)
      rw [Equiv.swap_apply_left] at href
      rw [setIndex_index_of_ne _ _ hri, href]
      exact setIndex_index_self _ _ _
    · have hfix : Equiv.swap i j k = k := Equiv.swap_apply_of_ne_of_ne hki hkj
      rw [hfix] at hne hpos'
      rw [setIndex_index_of_ne _ _ (hne i hi hki), setIndex_index_of_ne _ _ (hne j hj hkj)]
      exact hpos'

end swap

/-- The heap compares expiries and swaps entries. -/
theorem container_lawful : container.Lawful expiryAt where
  less_iff h i j _ _ := by simp [container, less]
  len_swap h i j := swap_length h i j
  key_swap h i j hi hj := expiryAt_swap hi hj

/-! ## Sifts -/

/-- What swaps within the first `n` positions leave alone: the references, what the entries
say, and every position from `n` on. -/
structure Shuffled (h : RendezvousExpiryHeap) (n : Nat) (h' : RendezvousExpiryHeap) : Prop where
  length : h'.entries.length = h.entries.length
  nodup : h'.entries.Nodup
  positioned : h'.Positioned
  mem_iff : ∀ r, r ∈ h'.entries ↔ r ∈ h.entries
  contents : SameContents h h'
  rest : ∀ k, n ≤ k → h'.entries[k]? = h.entries[k]?

theorem Shuffled.refl {h : RendezvousExpiryHeap} (hnodup : h.entries.Nodup)
    (hpos : h.Positioned) (n : Nat) : Shuffled h n h :=
  ⟨rfl, hnodup, hpos, fun _ => Iff.rfl, SameContents.refl h, fun _ _ => rfl⟩

theorem Shuffled.swap {h h' : RendezvousExpiryHeap} {n i j : Nat} (hs : Shuffled h n h')
    (hn : n ≤ h.entries.length) (hi : i < n) (hj : j < n) : Shuffled h n (h'.swap i j) := by
  have hi' : i < h'.entries.length := by rw [hs.length]; omega
  have hj' : j < h'.entries.length := by rw [hs.length]; omega
  constructor
  · rw [swap_length, hs.length]
  · exact nodup_swap hi' hj' hs.nodup
  · exact hs.positioned.swap hs.nodup hi' hj'
  · intro r
    rw [mem_swap hi' hj', hs.mem_iff]
  · exact hs.contents.trans (sameContents_swap h' i j)
  · intro k hk
    rw [getElem?_swap hi' hj', Equiv.swap_apply_of_ne_of_ne (by omega) (by omega), hs.rest k hk]

/-! ## Push -/

theorem append_entries (h : RendezvousExpiryHeap) (r : ExpiryRef) :
    (h.append r).entries = h.entries ++ [r] := rfl

theorem sameContents_append (h : RendezvousExpiryHeap) (r : ExpiryRef) :
    SameContents h (h.append r) :=
  sameContents_setIndex h r _

theorem Positioned.append {h : RendezvousExpiryHeap} {r : ExpiryRef} (hpos : h.Positioned)
    (hnew : r ∉ h.entries) : (h.append r).Positioned := by
  intro k r' hk
  rw [append_entries] at hk
  change ((h.setIndex r h.entries.length).cells r').index = k
  by_cases hlast : k < h.entries.length
  · rw [getElem?_append_left hlast] at hk
    have hne : r' ≠ r := by
      rintro rfl
      exact hnew (mem_of_getElem? hk)
    rw [setIndex_index_of_ne _ _ hne]
    exact hpos k r' hk
  · rw [getElem?_append_right (by omega)] at hk
    obtain ⟨hsub, hr⟩ := List.getElem?_eq_some_iff.mp hk
    simp only [length_singleton] at hsub
    have hk' : k = h.entries.length := by omega
    subst hk'
    simp only [Nat.sub_self, getElem_cons_zero] at hr
    subst hr
    exact setIndex_index_self _ _ _

theorem expiryAt_append {h : RendezvousExpiryHeap} {r : ExpiryRef} {k : Nat}
    (hk : k < h.entries.length) : (h.append r).expiryAt k = h.expiryAt k := by
  have href : (h.append r).ref k = h.ref k := by
    apply ref_eq
    rw [append_entries, getElem?_append_left hk]
    exact getElem?_ref hk
  rw [expiryAt, expiryAt, href, (sameContents_append h r _).2]

/-- A push adds its reference to a well-formed heap. -/
theorem push_spec {h : RendezvousExpiryHeap} (hwf : h.WellFormed) {r : ExpiryRef}
    (hnew : r ∉ h.entries) :
    (h.push r).WellFormed ∧ SameContents h (h.push r) ∧
      (∀ r', r' ∈ (h.push r).entries ↔ r' ∈ h.entries ∨ r' = r) := by
  have hlen : (h.append r).entries.length = h.entries.length + 1 := by
    rw [append_entries, length_append, length_singleton]
  have hlast : (h.append r).entries.length - 1 < h.entries.length + 1 := by omega
  have hnodup : (h.append r).entries.Nodup := by
    rw [append_entries, nodup_append]
    refine ⟨hwf.nodup, nodup_singleton r, ?_⟩
    intro a ha b hb heq
    rw [mem_singleton] at hb
    exact hnew (by rw [← hb, ← heq]; exact ha)
  have hstart := Shuffled.refl hnodup (hwf.positioned.append hnew) (h.entries.length + 1)
  have hs : Shuffled (h.append r) (h.entries.length + 1) (h.push r) :=
    HeapInterface.up_keeps (P := Shuffled (h.append r) (h.entries.length + 1))
      (fun h' i j hi hj hs => hs.swap (by omega) hi hj) hlast hstart
  have hexcept : HeapOrderedExcept (h.append r).expiryAt (h.entries.length + 1)
      h.entries.length := by
    constructor
    · intro j hj hjn hne _
      have := heapParent_lt hj
      rw [expiryAt_append (by omega), expiryAt_append (by omega)]
      exact hwf.ordered j hj (by omega)
    · intro _ j hj hjn hp
      have := heapParent_lt hj
      omega
  have hord : HeapOrdered (h.push r).expiryAt (h.entries.length + 1) := by
    have hpush : h.push r = container.up (h.append r) h.entries.length := by
      rw [push, hlen, Nat.add_sub_cancel]
    rw [hpush]
    apply container_lawful.ordered_up (by omega) (le_of_eq hlen.symm) hexcept
    intro j hj hjn hp
    have := heapParent_lt hj
    omega
  refine ⟨⟨hs.nodup, hs.positioned, ?_⟩, (sameContents_append h r).trans hs.contents, ?_⟩
  · rw [hs.length, hlen]
    exact hord
  · intro r'
    rw [hs.mem_iff, append_entries, mem_append, mem_singleton]

/-! ## Remove -/

theorem pop_entries (h : RendezvousExpiryHeap) : h.pop.entries = h.entries.dropLast := rfl

theorem sameContents_pop (h : RendezvousExpiryHeap) : SameContents h h.pop :=
  sameContents_setIndex h _ _

/-- Taking the last reference off a heap that is in order up to it. -/
theorem pop_spec {h : RendezvousExpiryHeap} {n : Nat} {r : ExpiryRef}
    (hlen : h.entries.length = n + 1) (hr : h.entries[n]? = some r) (hnodup : h.entries.Nodup)
    (hpos : h.Positioned) (hord : HeapOrdered h.expiryAt n) :
    h.pop.WellFormed ∧ ∀ r', r' ∈ h.pop.entries ↔ r' ∈ h.entries ∧ r' ≠ r := by
  have hsplit : h.entries = h.entries.dropLast ++ [r] := by
    have hne : h.entries ≠ [] := ne_nil_of_length_eq_add_one hlen
    have hlast : h.entries.getLast hne = r := by
      rw [getLast_eq_getElem]
      have := (List.getElem?_eq_some_iff.mp hr).2
      simpa [hlen] using this
    rw [← hlast, dropLast_concat_getLast]
  have hn : h.entries.dropLast.length = n := by simp [hlen]
  have hextends : ∀ k, k < n → h.entries.dropLast[k]? = h.entries[k]? := by
    intro k hk
    conv_rhs => rw [hsplit]
    rw [getElem?_append_left (by omega)]
  have hnot : r ∉ h.entries.dropLast := by
    rw [hsplit] at hnodup
    intro hmem
    exact (nodup_append.mp hnodup).2.2 r hmem r (mem_singleton_self r) rfl
  have href : h.ref (h.entries.length - 1) = r := ref_eq (by simpa [hlen] using hr)
  refine ⟨⟨?_, ?_, ?_⟩, ?_⟩
  · rw [pop_entries]
    exact hnodup.sublist (dropLast_sublist _)
  · intro k r' hk
    rw [pop_entries] at hk
    have hne : r' ≠ r := by
      rintro rfl
      exact hnot (mem_of_getElem? hk)
    have hkn : k < n := by
      have := (List.getElem?_eq_some_iff.mp hk).1
      omega
    change ((h.setIndex _ (-1)).cells r').index = k
    rw [href, setIndex_index_of_ne _ _ hne]
    exact hpos k r' (by rw [← hextends k hkn]; exact hk)
  · have hexp : ∀ k, k < n → h.pop.expiryAt k = h.expiryAt k := by
      intro k hk
      have : h.pop.ref k = h.ref k := by
        rw [ref, ref, getD_eq_getElem?_getD, getD_eq_getElem?_getD, pop_entries, hextends k hk]
      rw [expiryAt, expiryAt, this, (sameContents_pop h _).2]
    intro j hj hjn
    rw [pop_entries, hn] at hjn
    have := heapParent_lt hj
    rw [hexp _ (by omega), hexp _ hjn]
    exact hord j hj hjn
  · intro r'
    rw [pop_entries]
    constructor
    · intro hmem
      refine ⟨dropLast_subset _ hmem, ?_⟩
      rintro rfl
      exact hnot hmem
    · rintro ⟨hmem, hne⟩
      rw [hsplit, mem_append, mem_singleton] at hmem
      exact hmem.resolve_right hne

/-- A removal at the position an entry records takes that entry out. -/
theorem remove_spec {h : RendezvousExpiryHeap} (hwf : h.WellFormed) {r : ExpiryRef}
    (hr : r ∈ h.entries) :
    ∃ h', h.remove (h.cells r).index = some h' ∧ h'.WellFormed ∧ SameContents h h' ∧
      (∀ r', r' ∈ h'.entries ↔ r' ∈ h.entries ∧ r' ≠ r) := by
  obtain ⟨i, hi⟩ := mem_iff_getElem?.mp hr
  have hil : i < h.entries.length := (List.getElem?_eq_some_iff.mp hi).1
  obtain ⟨n, hn⟩ : ∃ n, h.entries.length = n + 1 := ⟨h.entries.length - 1, by omega⟩
  have hidx := hwf.positioned i r hi
  unfold remove
  rw [hidx, if_pos ⟨by omega, by omega⟩]
  simp only [Int.toNat_natCast, hn, Nat.add_sub_cancel, Option.some.injEq, exists_eq_left']
  have hordn : HeapOrdered h.expiryAt n := fun j hj hjn => hwf.ordered j hj (by omega)
  by_cases hlast : n = i
  · subst hlast
    rw [if_pos rfl]
    obtain ⟨hwf', hmem⟩ := pop_spec hn hi hwf.nodup hwf.positioned hordn
    exact ⟨hwf', sameContents_pop h, hmem⟩
  · rw [if_neg hlast]
    have hin : i < n := by omega
    have hnl : n < h.entries.length := by omega
    have hnodup := nodup_swap hil hnl hwf.nodup
    have hpos := hwf.positioned.swap hwf.nodup hil hnl
    have hs : Shuffled (h.swap i n) n (container.repair (h.swap i n) i n) :=
      HeapInterface.repair_keeps (P := Shuffled (h.swap i n) n)
        (fun h' j k hj hk hs => hs.swap (by rw [swap_length]; omega) hj hk) hin
        (Shuffled.refl hnodup hpos n)
    have hkeep : ∀ k, k < n → k ≠ i → (h.swap i n).expiryAt k = h.expiryAt k := by
      intro k hk hki
      rw [expiryAt_swap hil hnl, Equiv.swap_apply_of_ne_of_ne hki (by omega)]
    have hexcept : HeapOrderedExcept (h.swap i n).expiryAt n i := by
      constructor
      · intro j hj hjn hji hpi
        have := heapParent_lt hj
        rw [hkeep j hjn hji, hkeep _ (by omega) hpi]
        exact hordn j hj hjn
      · intro hi0 j hj hjn hp
        have h₁ := heapParent_lt hi0
        have h₂ := heapParent_lt hj
        rw [hkeep j hjn (by omega), hkeep _ (by omega) (by omega)]
        have := hordn j hj hjn
        rw [hp] at this
        exact le_trans (hordn i hi0 hin) this
    have hord : HeapOrdered (container.repair (h.swap i n) i n).expiryAt n :=
      container_lawful.ordered_repair hin (by simp [container]; omega) hexcept
    have hat : (container.repair (h.swap i n) i n).entries[n]? = some r := by
      rw [hs.rest n (le_refl n), getElem?_swap hil hnl, Equiv.swap_apply_right, hi]
    obtain ⟨hwf', hmem⟩ := pop_spec (by rw [hs.length, swap_length, hn]) hat hs.nodup
      hs.positioned hord
    refine ⟨hwf', ((sameContents_swap h i n).trans hs.contents).trans (sameContents_pop _), ?_⟩
    intro r'
    rw [hmem, hs.mem_iff, mem_swap hil hnl]

end RendezvousExpiryHeap

end Server

end Roammand
