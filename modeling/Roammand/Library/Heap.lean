import Mathlib.Logic.Equiv.Basic
import Mathlib.Order.Lattice
import Mathlib.Tactic.Common

/-!
# Binary heaps through an interface

The sifts of a binary heap that is kept in a container and changed only through
a comparison and a swap of two positions.  The container may do more than move its
elements when it swaps (record their positions, for example), so that the sifts
are functions on the container's own states.

Main results:

- Definitions `HeapInterface.up` and `HeapInterface.down`: the sifts.
- Theorems `HeapInterface.up_keeps` and `HeapInterface.down_keeps`: what every swap
  keeps is kept by a sift.
- Theorem `HeapOrdered.root_le`: the root of an ordered heap is a least element.
- Theorem `Lawful.ordered_up`: an element put at the end is sifted to its place.
- Theorem `Lawful.ordered_repair`: an arbitrary element put at any position is.
-/

namespace Library

universe u v

/-- What the sifts need of a container. -/
structure HeapInterface (σ : Type u) where
  len : σ → Nat
  less : σ → Nat → Nat → Bool
  swap : σ → Nat → Nat → σ

/-- The position of the parent of a position. -/
def heapParent (j : Nat) : Nat := (j - 1) / 2

namespace HeapInterface

variable {σ : Type u}

/-- The loop of `up`. -/
def upLoop (H : HeapInterface σ) : Nat → σ → Nat → σ
  | 0, s, _ => s
  | fuel + 1, s, j =>
    if heapParent j = j ∨ H.less s j (heapParent j) = false then s
    else H.upLoop fuel (H.swap s (heapParent j) j) (heapParent j)

/-- Move the element at `j` towards the root while it is less than its parent. -/
def up (H : HeapInterface σ) (s : σ) (j : Nat) : σ :=
  H.upLoop j s j

/-- The child that `down` compares with the element at `i`. -/
def smallerChild (H : HeapInterface σ) (s : σ) (i n : Nat) : Nat :=
  if 2 * i + 2 < n ∧ H.less s (2 * i + 2) (2 * i + 1) = true then 2 * i + 2 else 2 * i + 1

/-- The loop of `down`, with the position it ends at. -/
def downLoop (H : HeapInterface σ) : Nat → σ → Nat → Nat → σ × Nat
  | 0, s, i, _ => (s, i)
  | fuel + 1, s, i, n =>
    if n ≤ 2 * i + 1 ∨ H.less s (H.smallerChild s i n) i = false then (s, i)
    else H.downLoop fuel (H.swap s i (H.smallerChild s i n)) (H.smallerChild s i n) n

/-- Move the element at `i` away from the root, among the first `n` positions, while
a child is less; also tells whether it moved. -/
def down (H : HeapInterface σ) (s : σ) (i n : Nat) : σ × Bool :=
  let r := H.downLoop n s i n
  (r.1, decide (i < r.2))

/-- Put the element at `i` in its place among the first `n` positions. -/
def repair (H : HeapInterface σ) (s : σ) (i n : Nat) : σ :=
  let r := H.down s i n
  if r.2 then r.1 else H.up r.1 i

end HeapInterface

/-! ## Positions -/

theorem heapParent_le (j : Nat) : heapParent j ≤ j := by
  unfold heapParent
  omega

theorem heapParent_lt {j : Nat} (h : 0 < j) : heapParent j < j := by
  unfold heapParent
  omega

theorem heapParent_eq_self {j : Nat} (h : heapParent j = j) : j = 0 := by
  unfold heapParent at h
  omega

theorem heapParent_eq {j i : Nat} (h : 0 < j) :
    heapParent j = i ↔ j = 2 * i + 1 ∨ j = 2 * i + 2 := by
  unfold heapParent
  omega

namespace HeapInterface

variable {σ : Type u} {H : HeapInterface σ}

variable (s : σ)

theorem smallerChild_cases (i n : Nat) :
    (H.smallerChild s i n = 2 * i + 2 ∧ 2 * i + 2 < n ∧
      H.less s (2 * i + 2) (2 * i + 1) = true) ∨
    (H.smallerChild s i n = 2 * i + 1 ∧
      (2 * i + 2 < n → H.less s (2 * i + 2) (2 * i + 1) = false)) := by
  unfold smallerChild
  split
  case isTrue h => exact .inl ⟨rfl, h.1, h.2⟩
  case isFalse h =>
    refine .inr ⟨rfl, fun hn => ?_⟩
    rw [not_and] at h
    simpa using h hn

theorem lt_smallerChild (i n : Nat) : i < H.smallerChild s i n := by
  rcases smallerChild_cases (H := H) s i n with ⟨h, -⟩ | ⟨h, -⟩ <;> omega

theorem smallerChild_lt {s : σ} {i n : Nat} (h : 2 * i + 1 < n) :
    H.smallerChild s i n < n := by
  rcases smallerChild_cases (H := H) s i n with ⟨heq, hlt, -⟩ | ⟨heq, -⟩ <;> omega

theorem heapParent_smallerChild (i n : Nat) :
    heapParent (H.smallerChild s i n) = i := by
  have hpos := lt_smallerChild (H := H) s i n
  rw [heapParent_eq (by omega)]
  rcases smallerChild_cases (H := H) s i n with ⟨h, -⟩ | ⟨h, -⟩ <;> omega

/-! ## What every swap keeps -/

section keeps

variable {P : σ → Prop} {n : Nat}

theorem upLoop_keeps (hswap : ∀ s i j, i < n → j < n → P s → P (H.swap s i j)) :
    ∀ (fuel : Nat) (s : σ) (j : Nat), j < n → P s → P (H.upLoop fuel s j) := by
  intro fuel
  induction fuel with
  | zero => exact fun s j _ h => h
  | succ fuel ih =>
    intro s j hj h
    unfold upLoop
    by_cases hstop : heapParent j = j ∨ H.less s j (heapParent j) = false
    · rw [if_pos hstop]
      exact h
    · rw [if_neg hstop]
      have hparent : heapParent j < n := lt_of_le_of_lt (heapParent_le j) hj
      exact ih _ _ hparent (hswap s _ j hparent hj h)

/-- What every swap of two of the first `n` positions keeps is kept by `up`. -/
theorem up_keeps (hswap : ∀ s i j, i < n → j < n → P s → P (H.swap s i j))
    {s : σ} {j : Nat} (hj : j < n) (h : P s) : P (H.up s j) :=
  upLoop_keeps hswap j s j hj h

theorem downLoop_keeps (hswap : ∀ s i j, i < n → j < n → P s → P (H.swap s i j)) :
    ∀ (fuel : Nat) (s : σ) (i : Nat), i < n → P s → P (H.downLoop fuel s i n).1 := by
  intro fuel
  induction fuel with
  | zero => exact fun s i _ h => h
  | succ fuel ih =>
    intro s i hi h
    unfold downLoop
    by_cases hstop : n ≤ 2 * i + 1 ∨ H.less s (H.smallerChild s i n) i = false
    · rw [if_pos hstop]
      exact h
    · rw [if_neg hstop]
      have hchild : H.smallerChild s i n < n := smallerChild_lt (by omega)
      exact ih _ _ hchild (hswap s i _ hi hchild h)

/-- What every swap of two of the first `n` positions keeps is kept by `down`. -/
theorem down_keeps (hswap : ∀ s i j, i < n → j < n → P s → P (H.swap s i j))
    {s : σ} {i : Nat} (hi : i < n) (h : P s) : P (H.down s i n).1 :=
  downLoop_keeps hswap n s i hi h

theorem repair_keeps (hswap : ∀ s i j, i < n → j < n → P s → P (H.swap s i j))
    {s : σ} {i : Nat} (hi : i < n) (h : P s) : P (H.repair s i n) := by
  unfold repair
  have hdown := down_keeps hswap hi h
  by_cases hmoved : (H.down s i n).2 = true
  · rw [if_pos hmoved]
    exact hdown
  · rw [if_neg hmoved]
    exact up_keeps hswap hi hdown

end keeps

end HeapInterface

/-! ## Order -/

/-- Among the first `n` positions no element is less than its parent. -/
def HeapOrdered {κ : Type v} [LE κ] (K : Nat → κ) (n : Nat) : Prop :=
  ∀ j, 0 < j → j < n → K (heapParent j) ≤ K j

/-- The element at the root of an ordered heap is a least one. -/
theorem HeapOrdered.root_le {κ : Type v} [Preorder κ] {K : Nat → κ} {n : Nat}
    (h : HeapOrdered K n) : ∀ j, j < n → K 0 ≤ K j := by
  intro j
  induction j using Nat.strong_induction_on with
  | _ j ih =>
    intro hj
    by_cases hzero : j = 0
    · rw [hzero]
    · have hpos : 0 < j := Nat.pos_of_ne_zero hzero
      have hlt := heapParent_lt hpos
      exact le_trans (ih _ hlt (lt_trans hlt hj)) (h j hpos hj)

/-- The order apart from the edges of position `hole`, whose parent is still in order with
its children. -/
structure HeapOrderedExcept {κ : Type v} [LE κ] (K : Nat → κ) (n hole : Nat) : Prop where
  edges : ∀ j, 0 < j → j < n → j ≠ hole → heapParent j ≠ hole → K (heapParent j) ≤ K j
  grand : 0 < hole → ∀ j, 0 < j → j < n → heapParent j = hole → K (heapParent hole) ≤ K j

namespace HeapOrderedExcept

variable {κ : Type v} [LinearOrder κ] {K : Nat → κ} {n hole : Nat}

/-- The hole is in order with its children. -/
def Below (K : Nat → κ) (n hole : Nat) : Prop :=
  ∀ j, 0 < j → j < n → heapParent j = hole → K hole ≤ K j

/-- The hole is in order with its parent. -/
def Above (K : Nat → κ) (hole : Nat) : Prop :=
  0 < hole → K (heapParent hole) ≤ K hole

theorem ordered (h : HeapOrderedExcept K n hole) (hbelow : Below K n hole)
    (habove : Above K hole) : HeapOrdered K n := by
  intro j hj hlt
  by_cases hself : j = hole
  · subst hself
    exact habove hj
  · by_cases hparent : heapParent j = hole
    · rw [hparent]
      exact hbelow j hj hlt hparent
    · exact h.edges j hj hlt hself hparent

/-- Swapping the hole with its greater parent moves the hole to the parent. -/
theorem swap_parent (h : HeapOrderedExcept K n hole) (hbelow : Below K n hole)
    (hpos : 0 < hole) (hhole : hole < n) (hless : K hole < K (heapParent hole))
    {K' : Nat → κ} (hK' : ∀ k, K' k = K (Equiv.swap (heapParent hole) hole k)) :
    HeapOrderedExcept K' n (heapParent hole) ∧ Below K' n (heapParent hole) := by
  have hlt : heapParent hole < hole := heapParent_lt hpos
  have hhere : K' hole = K (heapParent hole) := by rw [hK', Equiv.swap_apply_right]
  have hthere : K' (heapParent hole) = K hole := by rw [hK', Equiv.swap_apply_left]
  have hother : ∀ k, k ≠ heapParent hole → k ≠ hole → K' k = K k := by
    intro k h₁ h₂
    rw [hK', Equiv.swap_apply_of_ne_of_ne h₁ h₂]
  have hgrand : 0 < heapParent hole → K (heapParent (heapParent hole)) ≤ K (heapParent hole) := by
    intro hp
    have := heapParent_lt hp
    exact h.edges _ hp (by omega) (by omega) (by omega)
  have hsibling : ∀ j, 0 < j → j < n → j ≠ hole → heapParent j = heapParent hole →
      K (heapParent hole) ≤ K j := by
    intro j hj hjn hne hp
    have := h.edges j hj hjn hne (by omega)
    rwa [hp] at this
  refine ⟨⟨?_, ?_⟩, ?_⟩
  · intro j hj hjn hne hp
    have hjhole : j ≠ hole := by
      rintro rfl
      exact hp rfl
    rw [hother j hne hjhole]
    by_cases hchild : heapParent j = hole
    · rw [hchild, hhere]
      exact h.grand hpos j hj hjn hchild
    · rw [hother _ hp hchild]
      exact h.edges j hj hjn hjhole hchild
  · intro hp j hj hjn hchild
    have hup := heapParent_lt hp
    rw [hother (heapParent (heapParent hole)) (by omega) (by omega)]
    by_cases hjhole : j = hole
    · rw [hjhole, hhere]
      exact hgrand hp
    · have hjne : j ≠ heapParent hole := by
        have := heapParent_lt hj
        omega
      rw [hother j hjne hjhole]
      exact le_trans (hgrand hp) (hsibling j hj hjn hjhole hchild)
  · intro j hj hjn hchild
    rw [hthere]
    by_cases hjhole : j = hole
    · rw [hjhole, hhere]
      exact le_of_lt hless
    · have hjne : j ≠ heapParent hole := by
        have := heapParent_lt hj
        omega
      rw [hother j hjne hjhole]
      exact le_trans (le_of_lt hless) (hsibling j hj hjn hjhole hchild)

/-- Swapping the hole with its least child moves the hole to that child. -/
theorem swap_child (h : HeapOrderedExcept K n hole) {c : Nat} (hc : 0 < c) (hcn : c < n)
    (hparent : heapParent c = hole) (hless : K c < K hole)
    (hleast : ∀ j, 0 < j → j < n → heapParent j = hole → K c ≤ K j)
    {K' : Nat → κ} (hK' : ∀ k, K' k = K (Equiv.swap hole c k)) :
    HeapOrderedExcept K' n c ∧ Above K' c := by
  have hlt : hole < c := by
    rw [← hparent]
    exact heapParent_lt hc
  have hhere : K' hole = K c := by rw [hK', Equiv.swap_apply_left]
  have hthere : K' c = K hole := by rw [hK', Equiv.swap_apply_right]
  have hother : ∀ k, k ≠ hole → k ≠ c → K' k = K k := by
    intro k h₁ h₂
    rw [hK', Equiv.swap_apply_of_ne_of_ne h₁ h₂]
  refine ⟨⟨?_, ?_⟩, ?_⟩
  · intro j hj hjn hne hp
    by_cases hjhole : j = hole
    · subst hjhole
      have := heapParent_lt hj
      rw [hhere, hother _ (by omega) hp]
      exact h.grand hj c hc hcn hparent
    · rw [hother j hjhole hne]
      by_cases hchild : heapParent j = hole
      · rw [hchild, hhere]
        exact hleast j hj hjn hchild
      · rw [hother _ hchild hp]
        exact h.edges j hj hjn hjhole hchild
  · intro _ j hj hjn hchild
    have hcj : c < j := by
      rw [← hchild]
      exact heapParent_lt hj
    rw [hparent, hhere, hother j (by omega) (by omega), ← hchild]
    exact h.edges j hj hjn (by omega) (by omega)
  · intro _
    rw [hparent, hhere, hthere]
    exact le_of_lt hless

end HeapOrderedExcept

namespace HeapInterface

open HeapOrderedExcept

variable {σ : Type u} {κ : Type v} [LinearOrder κ]

/-- The container compares the keys of its elements and swaps them. -/
structure Lawful (H : HeapInterface σ) (key : σ → Nat → κ) : Prop where
  less_iff : ∀ s i j, i < H.len s → j < H.len s → (H.less s i j = true ↔ key s i < key s j)
  len_swap : ∀ s i j, H.len (H.swap s i j) = H.len s
  key_swap : ∀ s i j, i < H.len s → j < H.len s →
    ∀ k, key (H.swap s i j) k = key s (Equiv.swap i j k)

namespace Lawful

variable {H : HeapInterface σ} {key : σ → Nat → κ}

theorem less_eq_false (L : Lawful H key) {s : σ} {i j : Nat} (hi : i < H.len s)
    (hj : j < H.len s) : H.less s i j = false ↔ key s j ≤ key s i := by
  rw [← Bool.not_eq_true, L.less_iff s i j hi hj, not_lt]

theorem smallerChild_least (L : Lawful H key) {s : σ} {i n : Nat} (hn : n ≤ H.len s)
    {j : Nat} (hj : 0 < j) (hjn : j < n) (hparent : heapParent j = i) :
    key s (H.smallerChild s i n) ≤ key s j := by
  have hchildren := (heapParent_eq hj).mp hparent
  rcases smallerChild_cases (H := H) s i n with ⟨heq, hlt, hless⟩ | ⟨heq, hnot⟩
  · have hkey := (L.less_iff s _ _ (by omega) (by omega)).mp hless
    rw [heq]
    rcases hchildren with rfl | rfl
    · exact le_of_lt hkey
    · exact le_refl _
  · rw [heq]
    rcases hchildren with rfl | rfl
    · exact le_refl _
    · exact (L.less_eq_false (by omega) (by omega)).mp (hnot hjn)

theorem upLoop_ordered (L : Lawful H key) {n : Nat} :
    ∀ (fuel : Nat) (s : σ) (j : Nat), j ≤ fuel → j < n → n ≤ H.len s →
      HeapOrderedExcept (key s) n j → Below (key s) n j →
      HeapOrdered (key (H.upLoop fuel s j)) n := by
  intro fuel
  induction fuel with
  | zero =>
    intro s j hfuel hj hn h hbelow
    exact h.ordered hbelow fun hpos => absurd hpos (by omega)
  | succ fuel ih =>
    intro s j hfuel hj hn h hbelow
    unfold upLoop
    by_cases hroot : heapParent j = j
    · rw [if_pos (.inl hroot)]
      have := heapParent_eq_self hroot
      exact h.ordered hbelow fun hpos => absurd hpos (by omega)
    · have hpos : 0 < j := by
        by_contra hzero
        exact hroot (by unfold heapParent; omega)
      have hlt := heapParent_lt hpos
      by_cases hless : H.less s j (heapParent j) = false
      · rw [if_pos (.inr hless)]
        exact h.ordered hbelow fun _ => (L.less_eq_false (by omega) (by omega)).mp hless
      · rw [if_neg (by rintro (h₁ | h₂) <;> contradiction)]
        have hkey : key s j < key s (heapParent j) :=
          (L.less_iff s _ _ (by omega) (by omega)).mp (by simpa using hless)
        have hmoved := h.swap_parent hbelow hpos hj hkey
          (L.key_swap s (heapParent j) j (by omega) (by omega))
        exact ih _ _ (by omega) (by omega) (by rw [L.len_swap]; exact hn) hmoved.1 hmoved.2

/-- Sifting up restores the order when the element is in order with its children. -/
theorem ordered_up (L : Lawful H key) {s : σ} {j n : Nat} (hj : j < n) (hn : n ≤ H.len s)
    (h : HeapOrderedExcept (key s) n j) (hbelow : Below (key s) n j) :
    HeapOrdered (key (H.up s j)) n :=
  L.upLoop_ordered j s j (le_refl j) hj hn h hbelow

/-- The loop of `down` ends at a position that is in order with its children and, if the
element moved, with its parent. -/
theorem downLoop_ordered (L : Lawful H key) {n : Nat} :
    ∀ (fuel : Nat) (s : σ) (i : Nat), n ≤ fuel + i → i < n → n ≤ H.len s →
      HeapOrderedExcept (key s) n i →
      ∃ i', (H.downLoop fuel s i n).2 = i' ∧ i ≤ i' ∧ i' < n ∧
        HeapOrderedExcept (key (H.downLoop fuel s i n).1) n i' ∧
        Below (key (H.downLoop fuel s i n).1) n i' ∧
        (i < i' ∨ Above (key s) i → Above (key (H.downLoop fuel s i n).1) i') ∧
        H.len (H.downLoop fuel s i n).1 = H.len s := by
  intro fuel
  induction fuel with
  | zero =>
    intro s i hfuel hi hn h
    omega
  | succ fuel ih =>
    intro s i hfuel hi hn h
    unfold downLoop
    by_cases hleaf : n ≤ 2 * i + 1
    · rw [if_pos (.inl hleaf)]
      refine ⟨i, rfl, le_refl i, hi, h, ?_, ?_, rfl⟩
      · intro j hj hjn hp
        have := (heapParent_eq hj).mp hp
        omega
      · rintro (hlt | habove)
        · omega
        · exact habove
    · have hchild : H.smallerChild s i n < n := smallerChild_lt (by omega)
      have hgt := lt_smallerChild (H := H) s i n
      have hleast := fun j hj hjn hp =>
        L.smallerChild_least (s := s) (i := i) hn (j := j) hj hjn hp
      by_cases hless : H.less s (H.smallerChild s i n) i = false
      · have hkey : key s i ≤ key s (H.smallerChild s i n) :=
          (L.less_eq_false (by omega) (by omega)).mp hless
        rw [if_pos (.inr hless)]
        refine ⟨i, rfl, le_refl i, hi, h, ?_, ?_, rfl⟩
        · intro j hj hjn hp
          exact le_trans hkey (hleast j hj hjn hp)
        · rintro (hlt | habove)
          · omega
          · exact habove
      · rw [if_neg (by rintro (h₁ | h₂) <;> contradiction)]
        have hkey : key s (H.smallerChild s i n) < key s i :=
          (L.less_iff s _ _ (by omega) (by omega)).mp (by simpa using hless)
        obtain ⟨hmoved, habove⟩ := h.swap_child (by omega) hchild
          (heapParent_smallerChild s i n) hkey hleast
          (L.key_swap s i _ (by omega) (by omega))
        obtain ⟨i', heq, hle, hlt, hexcept, hbelow, hup, hlen⟩ :=
          ih (H.swap s i (H.smallerChild s i n)) (H.smallerChild s i n) (by omega) hchild
            (by rw [L.len_swap]; exact hn) hmoved
        exact ⟨i', heq, by omega, hlt, hexcept, hbelow, fun _ => hup (.inr habove),
          by rw [hlen, L.len_swap]⟩

/-- Sifting down and, if the element did not move, up restores the order whatever the
element at the position is. -/
theorem ordered_repair (L : Lawful H key) {s : σ} {i n : Nat} (hi : i < n)
    (hn : n ≤ H.len s) (h : HeapOrderedExcept (key s) n i) :
    HeapOrdered (key (H.repair s i n)) n := by
  obtain ⟨i', heq, hle, hlt, hexcept, hbelow, hup, hlen⟩ :=
    L.downLoop_ordered n s i (by omega) hi hn h
  unfold repair down
  by_cases hmoved : i < i'
  · rw [if_pos (by simp [heq, hmoved])]
    exact hexcept.ordered hbelow (hup (.inl hmoved))
  · have hstay : i' = i := by omega
    subst hstay
    rw [if_neg (by simp [heq])]
    exact L.ordered_up hi (by rw [hlen]; exact hn) hexcept hbelow

end Lawful

end HeapInterface

end Library
