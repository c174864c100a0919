import Mathlib.Data.Finset.Order
import Roammand.Library.Windows
import Roammand.Server.RendezvousStore

/-!
# The rate limiter of the pairing requests

The limiter counts the pairing attempts of each source address and of each lookup key in windows
of a fixed length.  An attempt that names both is checked against both counters and charged to
both or to none.  The two tables have caps of their own: a new key is refused when its table is
full, and a sweep takes out the windows that are over.

Main results:

- Definitions `FixedWindowLimiter.allow`, `allowIP` and `sweep`.
- Theorem `FixedWindowLimiter.limiter_correct`: the windows, the denials, the retries, the sweeps
  and the caps over every run.
-/

namespace Roammand

namespace Server

open Library List Machine Option

/-! ## Tables -/

section tables

variable {κ α : Type} [DecidableEq κ]

/-- `delete` for every key of a loop whose value satisfies `p`. -/
def Table.deleteWhere (t : Table κ α) (order : RangeOrder κ) (p : α → Bool) : Table κ α :=
  (order.enumerate t.keys).foldl (fun t' key => if (t.lookup key).any p then t'.erase key else t') t

theorem Table.lookup_foldl_erase (p : κ → Bool) (keys : List κ) (t : Table κ α) (k : κ) :
    (keys.foldl (fun t' key => if p key then t'.erase key else t') t).lookup k =
      if k ∈ keys ∧ p k then none else t.lookup k := by
  induction keys generalizing t with
  | nil => simp
  | cons key keys ih =>
    rw [foldl_cons, ih]
    by_cases hp : p key
    · rw [if_pos hp, Table.lookup_erase]
      by_cases heq : k = key
      · subst heq
        simp [hp]
      · simp [heq]
    · rw [if_neg hp]
      by_cases heq : k = key
      · subst heq
        simp [hp]
      · simp [heq]

theorem Table.lookup_deleteWhere (t : Table κ α) (order : RangeOrder κ) (p : α → Bool) (k : κ) :
    (t.deleteWhere order p).lookup k = (t.lookup k).filter fun a => !p a := by
  rw [Table.deleteWhere, Table.lookup_foldl_erase]
  cases hk : t.lookup k with
  | none => simp
  | some a =>
    have hmem : k ∈ order.enumerate t.keys := by
      rw [order.mem_iff, Finmap.mem_keys, ← Finmap.lookup_isSome, hk]
      rfl
    cases hp : p a with
    | true => simp [hmem, hp, Option.filter]
    | false => simp [hp, Option.filter]

theorem Table.mem_keys_iff (t : Table κ α) (k : κ) : k ∈ t.keys ↔ (t.lookup k).isSome := by
  rw [Finmap.mem_keys, Finmap.lookup_isSome]

/-- Nothing new is in a table: it is not larger, and smaller if something is missing. -/
theorem Table.card_le {t t' : Table κ α}
    (h : ∀ k, (t'.lookup k).isSome → (t.lookup k).isSome) : t'.keys.card ≤ t.keys.card := by
  apply Finset.card_le_card
  intro k hk
  rw [Table.mem_keys_iff] at hk ⊢
  exact h k hk

theorem Table.card_lt {t t' : Table κ α}
    (h : ∀ k, (t'.lookup k).isSome → (t.lookup k).isSome) {k : κ} (hk : (t.lookup k).isSome)
    (hk' : t'.lookup k = none) : t'.keys.card < t.keys.card := by
  apply Finset.card_lt_card
  rw [Finset.ssubset_iff_of_subset]
  · refine ⟨k, (Table.mem_keys_iff t k).mpr hk, ?_⟩
    rw [Table.mem_keys_iff, hk']
    exact Bool.false_ne_true
  · intro k hk
    rw [Table.mem_keys_iff] at hk ⊢
    exact h k hk

theorem Table.card_insert (t : Table κ α) (k : κ) (a : α) :
    (t.insert k a).keys.card = if (t.lookup k).isSome then t.keys.card else t.keys.card + 1 := by
  have hkeys : (t.insert k a).keys = insert k t.keys := by
    ext k'
    rw [Table.mem_keys_iff, Table.lookup_insert, Finset.mem_insert, Table.mem_keys_iff]
    by_cases heq : k' = k
    · simp [heq]
    · simp [heq]
  rw [hkeys]
  by_cases hk : (t.lookup k).isSome
  · rw [if_pos hk, Finset.insert_eq_of_mem ((Table.mem_keys_iff t k).mpr hk)]
  · rw [if_neg hk, Finset.card_insert_of_notMem]
    rw [Table.mem_keys_iff]
    exact hk

/-- There is no room for a key. -/
def Table.full (t : Table κ α) (cap : Nat) (key : κ) : Bool :=
  (t.lookup key).isNone && decide (cap ≤ t.keys.card)

/-- An entry before and after a sweep of what satisfies `p`. -/
def SweptEntry (p : α → Bool) (entry entry' : Option α) : Prop :=
  entry' = entry ∨ entry' = none ∧ ∃ a, entry = some a ∧ p a = true

/-- A table before and after a sweep of what satisfies `p`. -/
def Table.Swept (p : α → Bool) (t t' : Table κ α) : Prop :=
  ∀ key, SweptEntry p (t.lookup key) (t'.lookup key)

section swept

variable {p q : α → Bool} {entry entry' entry'' : Option α} {t t' : Table κ α}

theorem SweptEntry.mono (h : SweptEntry p entry entry') (hpq : ∀ a, p a = true → q a = true) :
    SweptEntry q entry entry' := by
  rcases h with h | ⟨hnone, a, ha, hp⟩
  · exact .inl h
  · exact .inr ⟨hnone, a, ha, hpq a hp⟩

theorem SweptEntry.trans (h : SweptEntry p entry entry') (h' : SweptEntry p entry' entry'') :
    SweptEntry p entry entry'' := by
  rcases h with rfl | ⟨rfl, hp⟩
  · exact h'
  · rcases h' with rfl | ⟨-, a, ha, -⟩
    · exact .inr ⟨rfl, hp⟩
    · cases ha

theorem SweptEntry.isSome (h : SweptEntry p entry entry') (hsome : entry'.isSome = true) :
    entry.isSome = true := by
  rcases h with rfl | ⟨rfl, -⟩
  · exact hsome
  · cases hsome

theorem sweptEntry_filter (entry : Option α) :
    SweptEntry p entry (entry.filter fun a => !p a) := by
  cases entry with
  | none => exact .inl rfl
  | some a =>
    cases hp : p a with
    | true =>
      rw [filter_some_neg (by simp [hp])]
      exact .inr ⟨rfl, a, rfl, hp⟩
    | false =>
      rw [filter_some_pos (by simp [hp])]
      exact .inl rfl

theorem SweptEntry.filter (h : SweptEntry p entry entry') :
    SweptEntry p (entry.filter fun a => !p a) (entry'.filter fun a => !p a) := by
  rcases h with rfl | ⟨rfl, a, rfl, hp⟩
  · exact .inl rfl
  · rw [filter_some_neg (by simp [hp])]
    exact .inl rfl

theorem Table.swept_deleteWhere (t : Table κ α) (order : RangeOrder κ) :
    Table.Swept p t (t.deleteWhere order p) := by
  intro key
  rw [Table.lookup_deleteWhere]
  exact sweptEntry_filter _

theorem Table.Swept.deleteWhere (h : Table.Swept p t t') (order : RangeOrder κ) :
    Table.Swept p (t.deleteWhere order p) (t'.deleteWhere order p) := by
  intro key
  rw [Table.lookup_deleteWhere, Table.lookup_deleteWhere]
  exact (h key).filter

theorem Table.Swept.insert (h : Table.Swept p t t') (key : κ) (a : α) :
    Table.Swept p (t.insert key a) (t'.insert key a) := by
  intro key'
  rw [Table.lookup_insert, Table.lookup_insert]
  by_cases heq : key' = key
  · rw [if_pos heq, if_pos heq]
    exact .inl rfl
  · rw [if_neg heq, if_neg heq]
    exact h key'

/-- A table that was swept is full only if it was full before: a key that is missing has left
room. -/
theorem Table.Swept.full (h : Table.Swept p t t') {size : Nat} (hsize : t.keys.card ≤ size)
    {key : κ} (hfull : t'.full size key = true) : t.full size key = true := by
  rw [Table.full, Bool.and_eq_true, decide_eq_true_eq, isNone_iff_eq_none] at hfull ⊢
  have hle : ∀ key, (t'.lookup key).isSome → (t.lookup key).isSome := fun key => (h key).isSome
  cases hkey : t.lookup key with
  | none => exact ⟨rfl, hfull.2.trans (Table.card_le hle)⟩
  | some a =>
    have hlt := Table.card_lt hle (hkey ▸ rfl) hfull.1
    omega

/-- An entry that there is room for keeps the cap. -/
theorem Table.card_insert_le {size : Nat} (hsize : t.keys.card ≤ size) {key : κ}
    (hfull : t.full size key = false) (a : α) : (t.insert key a).keys.card ≤ size := by
  rw [Table.card_insert]
  by_cases hsome : (t.lookup key).isSome = true
  · rw [if_pos hsome]
    exact hsize
  · rw [if_neg hsome]
    have hnone : (t.lookup key).isNone = true := by simpa using hsome
    rw [Table.full, hnone, Bool.true_and, decide_eq_false_iff_not] at hfull
    omega

theorem Table.card_deleteWhere_le (t : Table κ α) (order : RangeOrder κ) (p : α → Bool) :
    (t.deleteWhere order p).keys.card ≤ t.keys.card :=
  Table.card_le fun key => (Table.swept_deleteWhere t order key).isSome

end swept

end tables

/-! ## The limiter -/

/-- The values that a limiter is made with. -/
structure LimiterConfig where
  window : Int
  maxPerIP : Nat
  maxPerLookup : Nat
  maxIPWindows : Nat
  maxLookups : Nat
  window_pos : 0 < window
  maxPerIP_pos : 0 < maxPerIP
  maxPerLookup_pos : 0 < maxPerLookup
  maxIPWindows_pos : 0 < maxIPWindows
  maxLookups_pos : 0 < maxLookups

/-- The verdict on an attempt. -/
structure LimitDecision where
  allowed : Bool
  retryAfter : Int
deriving DecidableEq

/-- When a window began and what was counted in it. -/
structure WindowCounter where
  startedAt : Time
  count : Nat

/-- A table of windows. -/
abbrev Windows (κ : Type) := Table κ WindowCounter

/-- The windows of the source addresses and of the lookup keys. -/
structure FixedWindowLimiter where
  ipWindows : Windows String
  lookupWindows : Windows CodeHash

/-- The counter that a map returns for a missing key. -/
def WindowCounter.zero : WindowCounter := ⟨0, 0⟩

/-- The window of a counter is over. -/
def WindowCounter.over (window : Int) (counter : WindowCounter) (now : Time) : Bool :=
  decide (¬ now < counter.startedAt + window)

/-- The counter, or a fresh one if its window is over. -/
def currentCounter (window : Int) (counter : WindowCounter) (now : Time) : WindowCounter :=
  if counter.startedAt = 0 ∨ counter.over window now then ⟨now, 0⟩ else counter

namespace Windows

variable {κ : Type} [DecidableEq κ]

/-- The counter of a key at a time. -/
def current (t : Windows κ) (window : Int) (key : κ) (now : Time) : WindowCounter :=
  currentCounter window ((t.lookup key).getD .zero) now

/-- Charge one attempt to a counter of the table. -/
def charge (t : Windows κ) (key : κ) (counter : WindowCounter) : Windows κ :=
  t.insert key { counter with count := counter.count + 1 }

/-- Take out the windows that are over. -/
def sweep (t : Windows κ) (order : RangeOrder κ) (window : Int) (now : Time) : Windows κ :=
  t.deleteWhere order fun counter => counter.over window now

end Windows

namespace FixedWindowLimiter

/-- An empty limiter. -/
def new : FixedWindowLimiter := ⟨∅, ∅⟩

/-- An attempt of a source address on a lookup key. -/
def allow (c : LimiterConfig) (l : FixedWindowLimiter) (ip : String) (lookupKey : CodeHash)
    (now : Time) : FixedWindowLimiter × LimitDecision :=
  if l.ipWindows.full c.maxIPWindows ip ∨ l.lookupWindows.full c.maxLookups lookupKey then
    (l, { allowed := false, retryAfter := c.window })
  else
    let ipCounter := l.ipWindows.current c.window ip now
    let lookupCounter := l.lookupWindows.current c.window lookupKey now
    let retryAfter : Int := 0
    let retryAfter :=
      if c.maxPerIP ≤ ipCounter.count then
        max retryAfter (ipCounter.startedAt + c.window - now)
      else retryAfter
    let retryAfter :=
      if c.maxPerLookup ≤ lookupCounter.count then
        max retryAfter (lookupCounter.startedAt + c.window - now)
      else retryAfter
    if 0 < retryAfter then
      (l, { allowed := false, retryAfter })
    else
      ({ ipWindows := l.ipWindows.charge ip ipCounter
         lookupWindows := l.lookupWindows.charge lookupKey lookupCounter },
        { allowed := true, retryAfter := 0 })

/-- An attempt of a source address that names no lookup key. -/
def allowIP (c : LimiterConfig) (l : FixedWindowLimiter) (ip : String) (now : Time) :
    FixedWindowLimiter × LimitDecision :=
  if l.ipWindows.full c.maxIPWindows ip then
    (l, { allowed := false, retryAfter := c.window })
  else
    let counter := l.ipWindows.current c.window ip now
    if c.maxPerIP ≤ counter.count then
      (l, { allowed := false, retryAfter := counter.startedAt + c.window - now })
    else
      ({ l with ipWindows := l.ipWindows.charge ip counter }, { allowed := true, retryAfter := 0 })

/-- Take out the windows that are over. -/
def sweep (c : LimiterConfig) (l : FixedWindowLimiter) (ipOrder : RangeOrder String)
    (lookupOrder : RangeOrder CodeHash) (now : Time) : FixedWindowLimiter where
  ipWindows := l.ipWindows.sweep ipOrder c.window now
  lookupWindows := l.lookupWindows.sweep lookupOrder c.window now

/-- A call of the limiter. -/
inductive Call where
  | allow (ip : String) (lookupKey : CodeHash) (now : Time)
  | allowIP (ip : String) (now : Time)
  | sweep (ipOrder : RangeOrder String) (lookupOrder : RangeOrder CodeHash) (now : Time)

namespace Call

/-- The time of a call. -/
def now : Call → Time
  | .allow _ _ now => now
  | .allowIP _ now => now
  | .sweep _ _ now => now

/-- The address that a call is about. -/
def ip? : Call → Option String
  | .allow ip _ _ => some ip
  | .allowIP ip _ => some ip
  | .sweep .. => none

/-- The lookup key that a call is about. -/
def lookupKey? : Call → Option CodeHash
  | .allow _ lookupKey _ => some lookupKey
  | _ => none

/-- The same call at another time. -/
def at' (now : Time) : Call → Call
  | .allow ip lookupKey _ => .allow ip lookupKey now
  | .allowIP ip _ => .allowIP ip now
  | .sweep ipOrder lookupOrder _ => .sweep ipOrder lookupOrder now

end Call

/-- One call, with the verdict on an attempt. -/
def step (c : LimiterConfig) (l : FixedWindowLimiter) :
    Call → FixedWindowLimiter × Option LimitDecision
  | .allow ip lookupKey now =>
    let (l, decision) := l.allow c ip lookupKey now
    (l, some decision)
  | .allowIP ip now =>
    let (l, decision) := l.allowIP c ip now
    (l, some decision)
  | .sweep ipOrder lookupOrder now => (l.sweep c ipOrder lookupOrder now, none)

/-- The limiter as a machine over its calls. -/
def machine (c : LimiterConfig) : Machine FixedWindowLimiter Call (Option LimitDecision) where
  step := step c

/-! ## What a call does -/

section calls

variable {c : LimiterConfig} {l : FixedWindowLimiter}

/-- There is no room for a key of the call. -/
def atCapacity (c : LimiterConfig) (l : FixedWindowLimiter) (call : Call) : Bool :=
  call.ip?.any (l.ipWindows.full c.maxIPWindows) ||
    call.lookupKey?.any (l.lookupWindows.full c.maxLookups)

/-- The windows of the call's keys have counters below their limits. -/
def BelowLimits (c : LimiterConfig) (l : FixedWindowLimiter) (call : Call) : Prop :=
  (∀ ip, call.ip? = some ip → (l.ipWindows.current c.window ip call.now).count < c.maxPerIP) ∧
    ∀ lookupKey, call.lookupKey? = some lookupKey →
      (l.lookupWindows.current c.window lookupKey call.now).count < c.maxPerLookup

/-- Charge one attempt to the counter of a key, if there is one. -/
def chargeKey {κ : Type} [DecidableEq κ] (t : Windows κ) (window : Int) (now : Time) :
    Option κ → Windows κ
  | some key => t.charge key (t.current window key now)
  | none => t

/-- The limiter after an attempt that is allowed. -/
def charged (c : LimiterConfig) (l : FixedWindowLimiter) (call : Call) : FixedWindowLimiter where
  ipWindows := chargeKey l.ipWindows c.window call.now call.ip?
  lookupWindows := chargeKey l.lookupWindows c.window call.now call.lookupKey?

/-- How long the call has to wait until its counters that have reached their limits are over. -/
def Awaits (c : LimiterConfig) (l : FixedWindowLimiter) (call : Call) (retryAfter : Int) : Prop :=
  (∀ ip, call.ip? = some ip →
      c.maxPerIP ≤ (l.ipWindows.current c.window ip call.now).count →
      (l.ipWindows.current c.window ip call.now).startedAt + c.window ≤ call.now + retryAfter) ∧
    ∀ lookupKey, call.lookupKey? = some lookupKey →
      c.maxPerLookup ≤ (l.lookupWindows.current c.window lookupKey call.now).count →
      (l.lookupWindows.current c.window lookupKey call.now).startedAt + c.window ≤
        call.now + retryAfter

/-- The windows of the call's keys began by a time. -/
def StartedBy (c : LimiterConfig) (l : FixedWindowLimiter) (call : Call) (latest : Time) : Prop :=
  (∀ ip, call.ip? = some ip → (l.ipWindows.current c.window ip call.now).startedAt ≤ latest) ∧
    ∀ lookupKey, call.lookupKey? = some lookupKey →
      (l.lookupWindows.current c.window lookupKey call.now).startedAt ≤ latest

theorem current_lt {κ : Type} [DecidableEq κ] (t : Windows κ) {window : Int} (hwindow : 0 < window)
    (key : κ) (now : Time) : now < (t.current window key now).startedAt + window := by
  unfold Windows.current currentCounter
  split_ifs with h
  · exact lt_add_of_pos_right now hwindow
  · rw [not_or, WindowCounter.over, decide_eq_true_eq, not_not] at h
    exact h.2

/-- Everything that a call of the limiter can do. -/
inductive Decided (c : LimiterConfig) (l : FixedWindowLimiter) (call : Call) :
    FixedWindowLimiter × Option LimitDecision → Prop
  | refused (hcapacity : atCapacity c l call = true) :
      Decided c l call (l, some { allowed := false, retryAfter := c.window })
  | denied (hcapacity : atCapacity c l call = false) (retryAfter : Int)
      (hlimits : ¬ BelowLimits c l call) (hpos : 0 < retryAfter)
      (hbound : ∀ latest, StartedBy c l call latest → retryAfter ≤ latest + c.window - call.now)
      (hawaits : Awaits c l call retryAfter) :
      Decided c l call (l, some { allowed := false, retryAfter })
  | allowed (hcapacity : atCapacity c l call = false) (hlimits : BelowLimits c l call) :
      Decided c l call (charged c l call, some { allowed := true, retryAfter := 0 })
  | swept (ipOrder : RangeOrder String) (lookupOrder : RangeOrder CodeHash) (now : Time)
      (hcall : call = .sweep ipOrder lookupOrder now) :
      Decided c l call (l.sweep c ipOrder lookupOrder now, none)

theorem allowIP_decided (ip : String) (now : Time) :
    Decided c l (.allowIP ip now) (step c l (.allowIP ip now)) := by
  simp only [step, allowIP]
  by_cases hfull : l.ipWindows.full c.maxIPWindows ip = true
  · rw [if_pos hfull]
    exact .refused (by simpa [atCapacity, Call.ip?, Call.lookupKey?] using hfull)
  · rw [if_neg hfull]
    have hcapacity : atCapacity c l (.allowIP ip now) = false := by
      simpa [atCapacity, Call.ip?, Call.lookupKey?] using hfull
    by_cases hcount : c.maxPerIP ≤ (l.ipWindows.current c.window ip now).count
    · rw [if_pos hcount]
      refine .denied hcapacity _ ?_ ?_ ?_ ⟨?_, nofun⟩
      · rintro ⟨hbelow, -⟩
        exact absurd hcount (not_le.mpr (hbelow ip rfl))
      · have hlt := current_lt l.ipWindows c.window_pos ip now
        exact Int.sub_pos_of_lt hlt
      · rintro latest ⟨hip, -⟩
        have hstart := hip ip rfl
        change _ + _ - now ≤ latest + c.window - now
        exact Int.sub_le_sub_right (Int.add_le_add_right hstart _) _
      · rintro ip' hip' -
        cases hip'
        change _ ≤ now + (_ - now)
        rw [add_sub_cancel]
        exact le_rfl
    · rw [if_neg hcount]
      refine .allowed hcapacity ⟨?_, nofun⟩
      rintro ip' hip'
      cases hip'
      exact not_le.mp hcount

theorem allow_decided (ip : String) (lookupKey : CodeHash) (now : Time) :
    Decided c l (.allow ip lookupKey now) (step c l (.allow ip lookupKey now)) := by
  simp only [step, allow]
  by_cases hfull : l.ipWindows.full c.maxIPWindows ip = true ∨
      l.lookupWindows.full c.maxLookups lookupKey = true
  · rw [if_pos hfull]
    exact .refused (by simpa [atCapacity, Call.ip?, Call.lookupKey?] using hfull)
  · rw [if_neg hfull]
    have hcapacity : atCapacity c l (.allow ip lookupKey now) = false := by
      rw [not_or] at hfull
      simpa [atCapacity, Call.ip?, Call.lookupKey?] using hfull
    have hipWait := Int.sub_pos_of_lt (current_lt l.ipWindows c.window_pos ip now)
    have hlookupWait := Int.sub_pos_of_lt (current_lt l.lookupWindows c.window_pos lookupKey now)
    have hdenied : ∀ retryAfter : Int, 0 < retryAfter →
        (c.maxPerIP ≤ (l.ipWindows.current c.window ip now).count ∨
          c.maxPerLookup ≤ (l.lookupWindows.current c.window lookupKey now).count) →
        (retryAfter ≤ (l.ipWindows.current c.window ip now).startedAt + c.window - now ∨
          retryAfter ≤
            (l.lookupWindows.current c.window lookupKey now).startedAt + c.window - now) →
        (c.maxPerIP ≤ (l.ipWindows.current c.window ip now).count →
          (l.ipWindows.current c.window ip now).startedAt + c.window - now ≤ retryAfter) →
        (c.maxPerLookup ≤ (l.lookupWindows.current c.window lookupKey now).count →
          (l.lookupWindows.current c.window lookupKey now).startedAt + c.window - now
            ≤ retryAfter) →
        Decided c l (.allow ip lookupKey now) (l, some { allowed := false, retryAfter }) := by
      intro retryAfter hpos hreached hbound hip hlookup
      refine .denied hcapacity retryAfter ?_ hpos ?_ ⟨?_, ?_⟩
      · rintro ⟨hipBelow, hlookupBelow⟩
        rcases hreached with h | h
        · exact absurd h (not_le.mpr (hipBelow ip rfl))
        · exact absurd h (not_le.mpr (hlookupBelow lookupKey rfl))
      · rintro latest ⟨hipStart, hlookupStart⟩
        change retryAfter ≤ latest + c.window - now
        rcases hbound with h | h
        · exact h.trans (Int.sub_le_sub_right (Int.add_le_add_right (hipStart ip rfl) _) _)
        · exact h.trans
            (Int.sub_le_sub_right (Int.add_le_add_right (hlookupStart lookupKey rfl) _) _)
      · rintro ip' hip' hcount
        cases hip'
        exact sub_le_iff_le_add'.mp (hip hcount)
      · rintro lookupKey' hlookup' hcount
        cases hlookup'
        exact sub_le_iff_le_add'.mp (hlookup hcount)
    by_cases hip : c.maxPerIP ≤ (l.ipWindows.current c.window ip now).count
    · rw [if_pos hip, max_eq_right hipWait.le]
      by_cases hlookup : c.maxPerLookup ≤ (l.lookupWindows.current c.window lookupKey now).count
      · rw [if_pos hlookup, if_pos (lt_max_of_lt_left hipWait)]
        exact hdenied _ (lt_max_of_lt_left hipWait) (.inl hip) (le_max_iff.mp le_rfl)
          (fun _ => le_max_left _ _) (fun _ => le_max_right _ _)
      · rw [if_neg hlookup, if_pos hipWait]
        exact hdenied _ hipWait (.inl hip) (.inl le_rfl) (fun _ => le_rfl)
          (fun h => absurd h hlookup)
    · rw [if_neg hip]
      by_cases hlookup : c.maxPerLookup ≤ (l.lookupWindows.current c.window lookupKey now).count
      · rw [if_pos hlookup, max_eq_right hlookupWait.le, if_pos hlookupWait]
        exact hdenied _ hlookupWait (.inr hlookup) (.inr le_rfl) (fun h => absurd h hip)
          (fun _ => le_rfl)
      · rw [if_neg hlookup, if_neg (lt_irrefl 0)]
        refine .allowed hcapacity ⟨?_, ?_⟩
        · rintro ip' hip'
          cases hip'
          exact not_le.mp hip
        · rintro lookupKey' hlookup'
          cases hlookup'
          exact not_le.mp hlookup

theorem step_decided (call : Call) : Decided c l call (step c l call) := by
  cases call with
  | allow ip lookupKey now => exact allow_decided ip lookupKey now
  | allowIP ip now => exact allowIP_decided ip now
  | sweep ipOrder lookupOrder now => exact .swept ipOrder lookupOrder now rfl

end calls

/-! ## One counter -/

section counters

variable {window : Int} {cap : Nat} {admitted : List Time} {counter : Option WindowCounter}
variable {now : Time}

/-- The counter of a key agrees with the attempts that were admitted for it. -/
structure Counted (window : Int) (cap : Nat) (admitted : List Time)
    (counter : Option WindowCounter) (now : Time) : Prop where
  filling : Filling id window (fun entries => entries.length ≤ cap) admitted
    (counter.map (·.startedAt)) now
  count : ∀ w, counter = some w →
    w.count = (windowEntries id window w.startedAt admitted).length
  nonzero : ∀ w, counter = some w → w.startedAt ≠ 0

theorem counted_nil (now : Time) : Counted window cap [] none now :=
  ⟨filling_nil now, nofun, nofun⟩

theorem Counted.later (h : Counted window cap admitted counter now) {now' : Time}
    (hnow : now ≤ now') : Counted window cap admitted counter now' :=
  ⟨h.filling.later hnow, h.count, h.nonzero⟩

variable {w : WindowCounter}

theorem Counted.started (h : Counted window cap admitted (some w) now) :
    w.startedAt ≤ now :=
  h.filling.begun

theorem over_iff :
    w.over window now = true ↔ w.startedAt + window ≤ now := by
  rw [WindowCounter.over, decide_eq_true_eq, not_lt]

/-- A window that is over can be taken out. -/
theorem Counted.close {w : WindowCounter} (h : Counted window cap admitted (some w) now)
    (hover : w.over window now = true) : Counted window cap admitted none now :=
  ⟨h.filling.close (over_iff.mp hover), nofun, nofun⟩

/-- A sweep keeps the agreement. -/
theorem Counted.sweep (h : Counted window cap admitted counter now) :
    Counted window cap admitted (counter.filter fun w => !w.over window now) now := by
  cases counter with
  | none => exact h
  | some w =>
    cases hover : w.over window now with
    | true =>
      rw [filter_some_neg (by simp [hover])]
      exact h.close hover
    | false =>
      rw [filter_some_pos (by simp [hover])]
      exact h

/-- The counter that an attempt is checked against agrees as well. -/
theorem Counted.current (h : Counted window cap admitted counter now) (hnow : now ≠ 0) :
    Counted window cap admitted (some (currentCounter window (counter.getD .zero) now)) now := by
  have hfresh : Counted window cap admitted none now →
      Counted window cap admitted (some ⟨now, 0⟩) now := by
    intro h
    obtain ⟨hopen, hnone⟩ := h.filling.open_window (Nat.zero_le cap)
    refine ⟨hopen, ?_, ?_⟩
    · rintro w hw
      cases hw
      rw [hnone]
      rfl
    · rintro w hw
      cases hw
      exact hnow
  cases counter with
  | none => exact hfresh h
  | some w =>
    unfold currentCounter
    by_cases hover : w.over window now = true
    · rw [getD_some, if_pos (.inr hover)]
      exact hfresh (h.close hover)
    · rw [getD_some, if_neg (not_or.mpr ⟨h.nonzero w rfl, hover⟩)]
      exact h

/-- An attempt is admitted and charged. -/
theorem Counted.charge (h : Counted window cap admitted (some w) now)
    (hopen : now < w.startedAt + window) (hcap : w.count < cap) :
    Counted window cap (admitted ++ [now]) (some { w with count := w.count + 1 }) now := by
  have hcount := h.count w rfl
  have hroom : (windowEntries id window w.startedAt admitted ++ [now]).length ≤ cap := by
    rw [length_append, length_singleton, ← hcount]
    exact hcap
  obtain ⟨hfilling, hentries⟩ := h.filling.admit hopen rfl hroom
  refine ⟨hfilling, ?_, ?_⟩
  · rintro w' hw'
    cases hw'
    change w.count + 1 = (windowEntries id window w.startedAt (admitted ++ [now])).length
    rw [hentries, length_append, length_singleton, hcount]
  · rintro w' hw'
    cases hw'
    exact h.nonzero w rfl

end counters

/-! ## One table -/

section windows

variable {κ : Type} [DecidableEq κ] {window : Int} {cap size : Nat} {admitted : κ → List Time}
variable {t : Windows κ} {now : Time}

/-- Every counter of a table agrees with what was admitted for its key, and the table is not
larger than its cap. -/
structure TableAgrees (window : Int) (cap size : Nat) (admitted : κ → List Time)
    (t : Windows κ) (now : Time) : Prop where
  counted : ∀ key, Counted window cap (admitted key) (t.lookup key) now
  size_le : t.keys.card ≤ size

theorem tableAgrees_empty (now : Time) :
    TableAgrees window cap size (fun _ => []) (∅ : Windows κ) now := by
  refine ⟨fun key => ?_, ?_⟩
  · rw [Finmap.lookup_empty]
    exact counted_nil now
  · rw [Finmap.keys_empty, Finset.card_empty]
    exact Nat.zero_le size

theorem TableAgrees.later (h : TableAgrees window cap size admitted t now) {now' : Time}
    (hnow : now ≤ now') : TableAgrees window cap size admitted t now' :=
  ⟨fun key => (h.counted key).later hnow, h.size_le⟩

theorem lookup_sweep (order : RangeOrder κ) (key : κ) :
    (t.sweep order window now).lookup key = (t.lookup key).filter fun w => !w.over window now :=
  Table.lookup_deleteWhere ..

theorem lookup_charge (key key' : κ) (w : WindowCounter) :
    (t.charge key w).lookup key' =
      if key' = key then some { w with count := w.count + 1 } else t.lookup key' :=
  Table.lookup_insert ..

theorem TableAgrees.sweep (h : TableAgrees window cap size admitted t now) (order : RangeOrder κ) :
    TableAgrees window cap size admitted (t.sweep order window now) now := by
  refine ⟨fun key => ?_, ?_⟩
  · rw [lookup_sweep]
    exact (h.counted key).sweep
  · exact (Table.card_deleteWhere_le t order _).trans h.size_le

theorem TableAgrees.charge (h : TableAgrees window cap size admitted t now) {key : κ}
    (hwindow : 0 < window) (hnow : now ≠ 0) (hfull : t.full size key = false)
    (hcap : (t.current window key now).count < cap) {admitted' : κ → List Time}
    (hkey : admitted' key = admitted key ++ [now])
    (hothers : ∀ key', key' ≠ key → admitted' key' = admitted key') :
    TableAgrees window cap size admitted' (t.charge key (t.current window key now)) now := by
  refine ⟨fun key' => ?_, ?_⟩
  · rw [lookup_charge]
    by_cases heq : key' = key
    · rw [if_pos heq, heq, hkey]
      exact ((h.counted key).current hnow).charge (current_lt t hwindow key now) hcap
    · rw [if_neg heq, hothers key' heq]
      exact h.counted key'
  · exact Table.card_insert_le h.size_le hfull _

end windows

/-! ## The limiter along a run -/

section runs

variable {c : LimiterConfig}

/-- The limiter's history. -/
abbrev History := List (Occurrence FixedWindowLimiter Call (Option LimitDecision))

/-- An occurrence is an attempt that was allowed. -/
def Allows (o : Occurrence FixedWindowLimiter Call (Option LimitDecision)) : Bool :=
  o.output.any (·.allowed)

/-- The times of the attempts that were allowed for a key. -/
def admittedFor {κ : Type} [DecidableEq κ] (keyOf : Call → Option κ) (past : History) (key : κ) :
    List Time :=
  (past.filter fun o => keyOf o.input = some key ∧ Allows o).map fun o => o.input.now

theorem admittedFor_snoc {κ : Type} [DecidableEq κ] (keyOf : Call → Option κ) (past : History)
    (o : Occurrence FixedWindowLimiter Call (Option LimitDecision)) (key : κ) :
    admittedFor keyOf (past ++ [o]) key =
      if keyOf o.input = some key ∧ Allows o then admittedFor keyOf past key ++ [o.input.now]
      else admittedFor keyOf past key := by
  unfold admittedFor
  rw [filter_append, map_append]
  split_ifs with h
  · rw [filter_singleton, decide_eq_true h]
    rfl
  · rw [filter_singleton, decide_eq_false h]
    exact append_nil _

/-- The limiter agrees with its history. -/
structure Agrees (c : LimiterConfig) (past : History) (l : FixedWindowLimiter) (now : Time) :
    Prop where
  ip : TableAgrees c.window c.maxPerIP c.maxIPWindows (admittedFor Call.ip? past) l.ipWindows now
  lookup : TableAgrees c.window c.maxPerLookup c.maxLookups (admittedFor Call.lookupKey? past)
    l.lookupWindows now

section steps

variable {κ : Type} [DecidableEq κ] {keyOf : Call → Option κ} {past : History}
variable {o : Occurrence FixedWindowLimiter Call (Option LimitDecision)}
variable {window : Int} {cap size : Nat} {t : Windows κ} {now : Time}

theorem admittedFor_denied (h : Allows o = false) :
    admittedFor keyOf (past ++ [o]) = admittedFor keyOf past := by
  funext key
  rw [admittedFor_snoc, if_neg]
  rw [h]
  exact fun h' => Bool.false_ne_true h'.2

theorem TableAgrees.charged (h : TableAgrees window cap size (admittedFor keyOf past) t now)
    (hwindow : 0 < window) (hnow : now ≠ 0) (hinput : o.input.now = now) (hallows : Allows o = true)
    (hroom : ∀ key, keyOf o.input = some key →
      t.full size key = false ∧ (t.current window key now).count < cap) :
    TableAgrees window cap size (admittedFor keyOf (past ++ [o]))
      (chargeKey t window now (keyOf o.input)) now := by
  cases hkey : keyOf o.input with
  | none =>
    have hsame : admittedFor keyOf (past ++ [o]) = admittedFor keyOf past := by
      funext key
      rw [admittedFor_snoc, hkey, if_neg (fun h' => nomatch h'.1)]
    rw [hsame]
    exact h
  | some key =>
    obtain ⟨hfull, hcap⟩ := hroom key hkey
    apply h.charge hwindow hnow hfull hcap
    · rw [admittedFor_snoc, if_pos ⟨hkey, hallows⟩, hinput]
    · intro key' hne
      rw [admittedFor_snoc, if_neg]
      rintro ⟨hkey', -⟩
      rw [hkey] at hkey'
      exact hne (some.inj hkey').symm

end steps

theorem Agrees.step {past : History} {l : FixedWindowLimiter} {call : Call}
    (hnow : call.now ≠ 0) (h : Agrees c past l call.now) :
    Agrees c (past ++ [(machine c).occurrence l call]) ((machine c).step l call).1 call.now := by
  have hdecided : Decided c l call ((machine c).step l call) := step_decided call
  have houtput : (machine c).occurrence l call =
    ⟨l, call, ((machine c).step l call).2, ((machine c).step l call).1⟩ := rfl
  rw [houtput]
  generalize (machine c).step l call = result at hdecided
  cases hdecided with
  | refused hcapacity =>
    refine ⟨?_, ?_⟩ <;> rw [admittedFor_denied rfl]
    · exact h.ip
    · exact h.lookup
  | denied hcapacity retryAfter =>
    refine ⟨?_, ?_⟩ <;> rw [admittedFor_denied rfl]
    · exact h.ip
    · exact h.lookup
  | allowed hcapacity hlimits =>
    rw [atCapacity, Bool.or_eq_false_iff] at hcapacity
    have hip : ∀ ip, call.ip? = some ip → l.ipWindows.full c.maxIPWindows ip = false ∧
        (l.ipWindows.current c.window ip call.now).count < c.maxPerIP := by
      intro ip hip
      have hfull := hcapacity.1
      rw [hip] at hfull
      exact ⟨hfull, hlimits.1 ip hip⟩
    have hlookup : ∀ lookupKey, call.lookupKey? = some lookupKey →
        l.lookupWindows.full c.maxLookups lookupKey = false ∧
        (l.lookupWindows.current c.window lookupKey call.now).count < c.maxPerLookup := by
      intro lookupKey hlookup
      have hfull := hcapacity.2
      rw [hlookup] at hfull
      exact ⟨hfull, hlimits.2 lookupKey hlookup⟩
    let o : Occurrence FixedWindowLimiter Call (Option LimitDecision) :=
      ⟨l, call, some { allowed := true, retryAfter := 0 }, charged c l call⟩
    have hallows : Allows o = true := rfl
    exact ⟨h.ip.charged c.window_pos hnow rfl hallows hip,
      h.lookup.charged c.window_pos hnow rfl hallows hlookup⟩
  | swept ipOrder lookupOrder now hcall =>
    subst hcall
    refine ⟨?_, ?_⟩ <;> rw [admittedFor_denied rfl]
    · exact h.ip.sweep ipOrder
    · exact h.lookup.sweep lookupOrder

/-- The limiter agrees with its history after every run. -/
theorem run_agrees {calls : List Call} (hnonzero : ∀ call ∈ calls, call.now ≠ 0)
    (hordered : (calls.map Call.now).Pairwise (· ≤ ·)) {now : Time}
    (hnow : ∀ call ∈ calls, call.now ≤ now) :
    Agrees c ((machine c).trace new calls) ((machine c).run new calls) now := by
  apply ordered_invariant Call.now (fun call => call.now ≠ 0) (Agrees c)
  · intro past l t t' hle h
    exact ⟨h.ip.later hle, h.lookup.later hle⟩
  · intro past l call hcall h
    exact h.step hcall
  · intro t
    exact ⟨tableAgrees_empty t, tableAgrees_empty t⟩
  · exact hnonzero
  · exact hordered
  · exact hnow

end runs

/-! ## Sweeps -/

section sweeps

/-- The window of a counter is over at a time. -/
abbrev OverAt (window : Int) (now : Time) (w : WindowCounter) : Bool := w.over window now

variable {window : Int} {now : Time}

theorem over_later {w : WindowCounter} (h : w.over window now = true) {now' : Time}
    (hnow : now ≤ now') : w.over window now' = true :=
  over_iff.mpr ((over_iff.mp h).trans hnow)

/-- A window that is over counts like one that is missing. -/
theorem sweptEntry_current {counter counter' : Option WindowCounter}
    (h : SweptEntry (OverAt window now) counter counter') :
    currentCounter window (counter'.getD .zero) now =
      currentCounter window (counter.getD .zero) now := by
  rcases h with rfl | ⟨rfl, w, rfl, hover⟩
  · rfl
  · unfold currentCounter
    rw [getD_none, getD_some, if_pos (.inl rfl), if_pos (.inr hover)]

/-- A limiter before and after windows were taken out that are over. -/
structure Swept (c : LimiterConfig) (now : Time) (l l' : FixedWindowLimiter) : Prop where
  ip : Table.Swept (OverAt c.window now) l.ipWindows l'.ipWindows
  lookup : Table.Swept (OverAt c.window now) l.lookupWindows l'.lookupWindows

variable {c : LimiterConfig} {l l' : FixedWindowLimiter}

theorem Swept.later (h : Swept c now l l') {now' : Time} (hnow : now ≤ now') :
    Swept c now' l l' :=
  ⟨fun key => (h.ip key).mono fun _ hover => over_later hover hnow,
    fun key => (h.lookup key).mono fun _ hover => over_later hover hnow⟩

theorem swept_sweep (ipOrder : RangeOrder String) (lookupOrder : RangeOrder CodeHash) :
    Swept c now l (l.sweep c ipOrder lookupOrder now) :=
  ⟨Table.swept_deleteWhere _ ipOrder, Table.swept_deleteWhere _ lookupOrder⟩

/-- A verdict that does not depend on capacity is the same after a sweep. -/
theorem Swept.step {call : Call} (h : Swept c call.now l l')
    (hsame : atCapacity c l' call = atCapacity c l call) :
    (step c l' call).2 = (step c l call).2 ∧
      Swept c call.now (step c l call).1 (step c l' call).1 := by
  cases call with
  | allow ip lookupKey now =>
    have hfull : (l'.ipWindows.full c.maxIPWindows ip = true ∨
          l'.lookupWindows.full c.maxLookups lookupKey = true) ↔
        (l.ipWindows.full c.maxIPWindows ip = true ∨
          l.lookupWindows.full c.maxLookups lookupKey = true) := by
      rw [← Bool.or_eq_true, ← Bool.or_eq_true]
      exact Bool.eq_iff_iff.mp hsame
    have hip : l'.ipWindows.current c.window ip now = l.ipWindows.current c.window ip now :=
      sweptEntry_current (h.ip ip)
    have hlookup : l'.lookupWindows.current c.window lookupKey now =
        l.lookupWindows.current c.window lookupKey now :=
      sweptEntry_current (h.lookup lookupKey)
    simp only [FixedWindowLimiter.step, allow, hfull, hip, hlookup]
    by_cases hcapacity : l.ipWindows.full c.maxIPWindows ip = true ∨
        l.lookupWindows.full c.maxLookups lookupKey = true
    · rw [if_pos hcapacity, if_pos hcapacity]
      exact ⟨rfl, h⟩
    · rw [if_neg hcapacity, if_neg hcapacity]
      split_ifs
      all_goals first
        | exact ⟨rfl, h⟩
        | exact ⟨rfl, h.ip.insert ip _, h.lookup.insert lookupKey _⟩
  | allowIP ip now =>
    have hfull : l'.ipWindows.full c.maxIPWindows ip = l.ipWindows.full c.maxIPWindows ip := by
      simpa [atCapacity, Call.ip?, Call.lookupKey?] using hsame
    have hip : l'.ipWindows.current c.window ip now = l.ipWindows.current c.window ip now :=
      sweptEntry_current (h.ip ip)
    simp only [FixedWindowLimiter.step, allowIP, hfull, hip]
    by_cases hcapacity : l.ipWindows.full c.maxIPWindows ip = true
    · rw [if_pos hcapacity, if_pos hcapacity]
      exact ⟨rfl, h⟩
    · rw [if_neg hcapacity, if_neg hcapacity]
      by_cases hcount : c.maxPerIP ≤ (l.ipWindows.current c.window ip now).count
      · rw [if_pos hcount, if_pos hcount]
        exact ⟨rfl, h⟩
      · rw [if_neg hcount, if_neg hcount]
        exact ⟨rfl, h.ip.insert ip _, h.lookup⟩
  | sweep ipOrder lookupOrder now =>
    exact ⟨rfl, h.ip.deleteWhere ipOrder, h.lookup.deleteWhere lookupOrder⟩

/-- A sweep can only make room. -/
theorem Swept.atCapacity {call : Call} (h : Swept c now l l')
    (hip : l.ipWindows.keys.card ≤ c.maxIPWindows)
    (hlookup : l.lookupWindows.keys.card ≤ c.maxLookups)
    (hcapacity : atCapacity c l' call = true) : atCapacity c l call = true := by
  rw [FixedWindowLimiter.atCapacity, Bool.or_eq_true] at hcapacity ⊢
  rcases hcapacity with hfull | hfull
  · left
    rw [Option.any_eq_true] at hfull ⊢
    obtain ⟨ip, hcall, hfull⟩ := hfull
    exact ⟨ip, hcall, h.ip.full hip hfull⟩
  · right
    rw [Option.any_eq_true] at hfull ⊢
    obtain ⟨lookupKey, hcall, hfull⟩ := hfull
    exact ⟨lookupKey, hcall, h.lookup.full hlookup hfull⟩

/-- A call finds room in one limiter that it does not find in the other. -/
def Freed (c : LimiterConfig) (l l' : FixedWindowLimiter) (call : Call) : Prop :=
  atCapacity c l call = true ∧ atCapacity c l' call = false

/-- Unless a call finds room in the swept limiter only, both have room for it or none has. -/
theorem Swept.atCapacity_eq {past : History} {call : Call} (hagrees : Agrees c past l now)
    (h : Swept c now l l') (hnot : ¬ Freed c l l' call) :
    FixedWindowLimiter.atCapacity c l' call = FixedWindowLimiter.atCapacity c l call := by
  cases hcapacity : FixedWindowLimiter.atCapacity c l' call with
  | true => exact (h.atCapacity hagrees.ip.size_le hagrees.lookup.size_le hcapacity).symm
  | false =>
    cases hcapacity' : FixedWindowLimiter.atCapacity c l call with
    | true => exact absurd ⟨hcapacity', hcapacity⟩ hnot
    | false => rfl

/-- Two limiters, one of which was swept, agree on every verdict until a call finds room in the
swept one only. -/
theorem Swept.run {past : History} {calls : List Call} (hagrees : Agrees c past l now)
    (h : Swept c now l l') (hnonzero : ∀ call ∈ calls, call.now ≠ 0)
    (hordered : (calls.map Call.now).Pairwise (· ≤ ·)) (hnow : ∀ call ∈ calls, now ≤ call.now)
    {first rest : List Call} {call : Call} (hsplit : calls = first ++ call :: rest)
    (hfreed : ∀ pre other post, first ++ [call] = pre ++ other :: post →
      ¬ Freed c ((machine c).run l pre) ((machine c).run l' pre) other) :
    ((machine c).step ((machine c).run l' first) call).2 =
      ((machine c).step ((machine c).run l first) call).2 := by
  subst hsplit
  apply ordered_lockstep Call.now (fun call => call.now ≠ 0)
    (fun l l' now => (∃ past, Agrees c past l now) ∧ Swept c now l l') (Freed c)
  · rintro l l' now now' hle ⟨⟨past, hagrees⟩, h⟩
    exact ⟨⟨past, hagrees.ip.later hle, hagrees.lookup.later hle⟩, h.later hle⟩
  · rintro l l' call hcall ⟨⟨past, hagrees⟩, h⟩ hnot
    obtain ⟨houtput, hnext⟩ := h.step (h.atCapacity_eq hagrees hnot)
    exact ⟨houtput, ⟨_, hagrees.step hcall⟩, hnext⟩
  · exact ⟨⟨past, hagrees⟩, h⟩
  · exact hnonzero
  · exact hordered
  · exact hnow
  · exact hfreed

end sweeps

/-! ## Retries -/

section retries

variable {c : LimiterConfig} {l : FixedWindowLimiter}

/-- A counter below its limit at a later time: it is the same counter, or its window is over. -/
theorem count_lt_of_later {window : Int} {cap : Nat} {counter : WindowCounter} {now now' : Time}
    (hcap : 0 < cap) (hnow : now ≤ now')
    (hawaits : cap ≤ (currentCounter window counter now).count →
      (currentCounter window counter now).startedAt + window ≤ now') :
    (currentCounter window counter now').count < cap := by
  by_cases hfresh : counter.startedAt = 0 ∨ counter.over window now' = true
  · rw [currentCounter, if_pos hfresh]
    exact hcap
  · have hnot : ¬ (counter.startedAt = 0 ∨ counter.over window now = true) := by
      rintro (h | h)
      · exact hfresh (.inl h)
      · exact hfresh (.inr (over_later h hnow))
    rw [currentCounter, if_neg hfresh]
    rw [currentCounter, if_neg hnot] at hawaits
    by_contra hcount
    exact hfresh (.inr (over_iff.mpr (hawaits (not_lt.mp hcount))))

theorem lookup_chargeKey {κ : Type} [DecidableEq κ] {t : Windows κ} {window : Int} {now : Time}
    {key? : Option κ} {key : κ} (h : key? ≠ some key) :
    (chargeKey t window now key?).lookup key = t.lookup key := by
  cases key? with
  | none => rfl
  | some key' =>
    rw [chargeKey, lookup_charge, if_neg]
    rintro rfl
    exact h rfl

/-- A call about other keys takes out the window of a key at most when it is over. -/
theorem step_sweptEntry (call : Call) :
    (∀ ip, call.ip? ≠ some ip → SweptEntry (OverAt c.window call.now) (l.ipWindows.lookup ip)
      (((machine c).step l call).1.ipWindows.lookup ip)) ∧
    ∀ lookupKey, call.lookupKey? ≠ some lookupKey →
      SweptEntry (OverAt c.window call.now) (l.lookupWindows.lookup lookupKey)
        (((machine c).step l call).1.lookupWindows.lookup lookupKey) := by
  have hdecided : Decided c l call ((machine c).step l call) := step_decided call
  generalize (machine c).step l call = result at hdecided
  cases hdecided with
  | refused | denied => exact ⟨fun _ _ => .inl rfl, fun _ _ => .inl rfl⟩
  | allowed =>
    exact ⟨fun _ hip => .inl (lookup_chargeKey hip),
      fun _ hlookup => .inl (lookup_chargeKey hlookup)⟩
  | swept ipOrder lookupOrder now hcall =>
    subst hcall
    have h : Swept c now l _ := swept_sweep ipOrder lookupOrder
    exact ⟨fun ip _ => h.ip ip, fun lookupKey _ => h.lookup lookupKey⟩

theorem run_sweptEntry {calls : List Call} {now : Time} (hnow : ∀ call ∈ calls, call.now ≤ now) :
    (∀ ip, (∀ call ∈ calls, call.ip? ≠ some ip) →
      SweptEntry (OverAt c.window now) (l.ipWindows.lookup ip)
        (((machine c).run l calls).ipWindows.lookup ip)) ∧
    ∀ lookupKey, (∀ call ∈ calls, call.lookupKey? ≠ some lookupKey) →
      SweptEntry (OverAt c.window now) (l.lookupWindows.lookup lookupKey)
        (((machine c).run l calls).lookupWindows.lookup lookupKey) := by
  induction calls generalizing l with
  | nil => exact ⟨fun _ _ => .inl rfl, fun _ _ => .inl rfl⟩
  | cons call calls ih =>
    obtain ⟨hip, hlookup⟩ := step_sweptEntry (c := c) (l := l) call
    obtain ⟨hips, hlookups⟩ := ih (l := ((machine c).step l call).1)
      fun other hother => hnow other (mem_cons_of_mem _ hother)
    have hcall := hnow call (mem_cons_self ..)
    refine ⟨fun ip hothers => ?_, fun lookupKey hothers => ?_⟩
    · have hentry := hip ip (hothers call (mem_cons_self ..))
      exact (hentry.mono fun _ hover => over_later hover hcall).trans
        (hips ip fun other hother => hothers other (mem_cons_of_mem _ hother))
    · have hentry := hlookup lookupKey (hothers call (mem_cons_self ..))
      exact (hentry.mono fun _ hover => over_later hover hcall).trans
        (hlookups lookupKey fun other hother => hothers other (mem_cons_of_mem _ hother))

/-- A denial says how long to wait, whatever it was for. -/
theorem denied_awaits {past : History} {call : Call} {decision : LimitDecision}
    (hagrees : Agrees c past l call.now) (hnonzero : call.now ≠ 0)
    (houtput : ((machine c).step l call).2 = some decision) (hdenied : decision.allowed = false) :
    ((machine c).step l call).1 = l ∧ 0 < decision.retryAfter ∧
      decision.retryAfter ≤ c.window ∧ Awaits c l call decision.retryAfter := by
  have hstarted : StartedBy c l call call.now :=
    ⟨fun ip _ => ((hagrees.ip.counted ip).current hnonzero).started,
      fun lookupKey _ => ((hagrees.lookup.counted lookupKey).current hnonzero).started⟩
  have hdecided : Decided c l call ((machine c).step l call) := step_decided call
  generalize (machine c).step l call = result at hdecided houtput
  cases hdecided with
  | refused hcapacity =>
    cases houtput
    refine ⟨rfl, c.window_pos, le_rfl, ?_, ?_⟩
    · intro ip hip _
      exact Int.add_le_add_right (hstarted.1 ip hip) _
    · intro lookupKey hlookup _
      exact Int.add_le_add_right (hstarted.2 lookupKey hlookup) _
  | denied hcapacity retryAfter hlimits hpos hbound hawaits =>
    cases houtput
    refine ⟨rfl, hpos, ?_, hawaits⟩
    have h := hbound call.now hstarted
    rwa [add_sub_cancel_left] at h
  | allowed =>
    cases houtput
    cases hdenied
  | swept => cases houtput

end retries

/-! ## Every run -/

/-- What the limiter promises about a run. -/
structure LimiterCorrect (c : LimiterConfig) (calls : List Call) : Prop where
  /-- The attempts allowed for an address fall into disjoint windows, not too many in each. -/
  ip_windows : ∀ ip, FallIntoWindows id c.window (fun entries => entries.length ≤ c.maxPerIP)
    (admittedFor Call.ip? ((machine c).trace new calls) ip)
  /-- So do the attempts allowed for a lookup key. -/
  lookup_windows : ∀ lookupKey,
    FallIntoWindows id c.window (fun entries => entries.length ≤ c.maxPerLookup)
      (admittedFor Call.lookupKey? ((machine c).trace new calls) lookupKey)
  /-- A denial charges nothing and names a time to wait. -/
  denied : ∀ o ∈ (machine c).trace new calls, ∀ decision, o.output = some decision →
    decision.allowed = false →
    o.after = o.before ∧ 0 < decision.retryAfter ∧ decision.retryAfter ≤ c.window
  /-- The same attempt after that time is allowed, unless a table has no room for its key. -/
  retried : ∀ before call between decision,
    calls = before ++ call :: between ++ [call.at' (call.now + decision.retryAfter)] →
    ((machine c).step ((machine c).run new before) call).2 = some decision →
    decision.allowed = false →
    (∀ other ∈ between, ∀ ip, call.ip? = some ip → other.ip? ≠ some ip) →
    (∀ other ∈ between, ∀ lookupKey, call.lookupKey? = some lookupKey →
      other.lookupKey? ≠ some lookupKey) →
    ((machine c).step ((machine c).run new (before ++ call :: between))
        (call.at' (call.now + decision.retryAfter))).2 =
        some { allowed := true, retryAfter := 0 } ∨
      atCapacity c ((machine c).run new (before ++ call :: between))
        (call.at' (call.now + decision.retryAfter)) = true
  /-- A sweep changes no later verdict, until a call finds room that it would not have found. -/
  swept : ∀ before ipOrder lookupOrder now first call rest,
    calls = before ++ .sweep ipOrder lookupOrder now :: (first ++ call :: rest) →
    ((machine c).step ((machine c).run new
        (before ++ .sweep ipOrder lookupOrder now :: first)) call).2 =
        ((machine c).step ((machine c).run new (before ++ first)) call).2 ∨
      ∃ pre other post, first ++ [call] = pre ++ other :: post ∧
        Freed c ((machine c).run new (before ++ pre))
          ((machine c).run new (before ++ .sweep ipOrder lookupOrder now :: pre)) other
  /-- The tables stay within their caps. -/
  capacity : ∀ o ∈ (machine c).trace new calls,
    o.after.ipWindows.keys.card ≤ c.maxIPWindows ∧
      o.after.lookupWindows.keys.card ≤ c.maxLookups

section correct

variable {c : LimiterConfig} {calls : List Call}

/-- The limiter agrees with its history at each step of a run. -/
theorem agrees_at (hnonzero : ∀ call ∈ calls, call.now ≠ 0)
    (hordered : (calls.map Call.now).Pairwise (· ≤ ·)) {before rest : List Call} {call : Call}
    (hsplit : calls = before ++ call :: rest) :
    Agrees c ((machine c).trace new before) ((machine c).run new before) call.now := by
  subst hsplit
  rw [map_append, pairwise_append] at hordered
  apply run_agrees (fun other hother => hnonzero other (mem_append_left _ hother)) hordered.1
  intro other hother
  exact hordered.2.2 _ (mem_map_of_mem hother) _ (mem_cons_self ..)

variable (call : Call)

theorem call_ip_at (now : Time) : (call.at' now).ip? = call.ip? := by
  cases call <;> rfl

theorem call_lookupKey_at (now : Time) :
    (call.at' now).lookupKey? = call.lookupKey? := by
  cases call <;> rfl

theorem call_now_at (now : Time) : (call.at' now).now = now := by
  cases call <;> rfl

theorem retried_allowed (hnonzero : ∀ call ∈ calls, call.now ≠ 0)
    (hordered : (calls.map Call.now).Pairwise (· ≤ ·)) {before between : List Call} {call : Call}
    {decision : LimitDecision}
    (hsplit : calls = before ++ call :: between ++ [call.at' (call.now + decision.retryAfter)])
    (houtput : ((machine c).step ((machine c).run new before) call).2 = some decision)
    (hdenied : decision.allowed = false)
    (hips : ∀ other ∈ between, ∀ ip, call.ip? = some ip → other.ip? ≠ some ip)
    (hlookups : ∀ other ∈ between, ∀ lookupKey, call.lookupKey? = some lookupKey →
      other.lookupKey? ≠ some lookupKey) :
    ((machine c).step ((machine c).run new (before ++ call :: between))
        (call.at' (call.now + decision.retryAfter))).2 =
        some { allowed := true, retryAfter := 0 } ∨
      atCapacity c ((machine c).run new (before ++ call :: between))
        (call.at' (call.now + decision.retryAfter)) = true := by
  set retry := call.at' (call.now + decision.retryAfter) with hretry
  have hcall : calls = before ++ call :: (between ++ [retry]) := by
    rw [hsplit, append_assoc, cons_append]
  have hagrees := agrees_at (c := c) hnonzero hordered hcall
  have hmem : call ∈ calls := by
    rw [hcall]
    simp
  obtain ⟨hsame, hpos, -, hawaits⟩ :=
    denied_awaits hagrees (hnonzero call hmem) houtput hdenied
  have hnow : retry.now = call.now + decision.retryAfter := call_now_at _ _
  have hbetween : ∀ other ∈ between, other.now ≤ retry.now := by
    rw [hsplit, map_append, pairwise_append] at hordered
    intro other hother
    apply hordered.2.2 _ _ _ (by simp)
    exact mem_map_of_mem (mem_append_right _ (mem_cons_of_mem _ hother))
  have hrun : (machine c).run new (before ++ call :: between) =
      (machine c).run ((machine c).run new before) between := by
    rw [run_append, run_cons, hsame]
  rw [hrun]
  set l := (machine c).run new before
  obtain ⟨hipEntry, hlookupEntry⟩ := run_sweptEntry (c := c) (l := l) hbetween
  have hlater : call.now ≤ retry.now := by
    rw [hnow]
    exact le_add_of_nonneg_right hpos.le
  have hlimits : BelowLimits c ((machine c).run l between) retry := by
    refine ⟨fun ip hip => ?_, fun lookupKey hlookup => ?_⟩
    · rw [hretry, call_ip_at] at hip
      have hentry := hipEntry ip fun other hother => hips other hother ip hip
      rw [Windows.current, sweptEntry_current hentry]
      apply count_lt_of_later c.maxPerIP_pos hlater
      rw [hnow]
      exact hawaits.1 ip hip
    · rw [hretry, call_lookupKey_at] at hlookup
      have hentry := hlookupEntry lookupKey fun other hother =>
        hlookups other hother lookupKey hlookup
      rw [Windows.current, sweptEntry_current hentry]
      apply count_lt_of_later c.maxPerLookup_pos hlater
      rw [hnow]
      exact hawaits.2 lookupKey hlookup
  have hdecided : Decided c ((machine c).run l between) retry
      ((machine c).step ((machine c).run l between) retry) := step_decided retry
  generalize (machine c).step ((machine c).run l between) retry = result at hdecided
  cases hdecided with
  | refused hcapacity => exact .inr hcapacity
  | denied _ _ hlimits' => exact absurd hlimits hlimits'
  | allowed => exact .inl rfl
  | swept ipOrder lookupOrder now hsweep =>
    rw [hretry] at hsweep
    cases call with
    | sweep => cases houtput
    | allow | allowIP => cases hsweep

/-- Over every sequence of calls at nondecreasing nonzero times. -/
theorem limiter_correct (c : LimiterConfig) (calls : List Call)
    (hnonzero : ∀ call ∈ calls, call.now ≠ 0)
    (hordered : (calls.map Call.now).Pairwise (· ≤ ·)) : LimiterCorrect c calls := by
  obtain ⟨now, hnow⟩ : ∃ now, ∀ call ∈ calls, call.now ≤ now := by
    obtain ⟨now, hnow⟩ := (calls.map Call.now).toFinset.exists_le
    exact ⟨now, fun call hcall => hnow _ (mem_toFinset.mpr (mem_map_of_mem hcall))⟩
  have hagrees := run_agrees (c := c) hnonzero hordered hnow
  refine ⟨fun ip => (hagrees.ip.counted ip).filling.fallIntoWindows,
    fun lookupKey => (hagrees.lookup.counted lookupKey).filling.fallIntoWindows, ?_, ?_, ?_, ?_⟩
  · intro o ho decision houtput hdenied
    obtain ⟨past, later, hsplit⟩ := append_of_mem ho
    obtain ⟨before, call, rest, hcalls, -, rfl, -⟩ := trace_split hsplit
    have hmem : call ∈ calls := by
      rw [hcalls]
      simp
    obtain ⟨hsame, hpos, hle, -⟩ := denied_awaits (agrees_at hnonzero hordered hcalls)
      (hnonzero call hmem) houtput hdenied
    exact ⟨hsame, hpos, hle⟩
  · intro before call between decision hsplit houtput hdenied hips hlookups
    exact retried_allowed hnonzero hordered hsplit houtput hdenied hips hlookups
  · intro before ipOrder lookupOrder now first call rest hsplit
    by_cases hfreed : ∃ pre other post, first ++ [call] = pre ++ other :: post ∧
        Freed c ((machine c).run new (before ++ pre))
          ((machine c).run new (before ++ .sweep ipOrder lookupOrder now :: pre)) other
    · exact .inr hfreed
    · left
      have hagrees := agrees_at (c := c) hnonzero hordered hsplit
      rw [hsplit, map_append, pairwise_append, map_cons, pairwise_cons] at hordered
      rw [run_append, run_append, run_cons]
      refine Swept.run hagrees (swept_sweep ipOrder lookupOrder) ?_ hordered.2.1.2 ?_ rfl ?_
      · intro other hother
        apply hnonzero other
        rw [hsplit]
        exact mem_append_right _ (mem_cons_of_mem _ hother)
      · intro other hother
        exact hordered.2.1.1 _ (mem_map_of_mem hother)
      · intro pre other post heq hfreed'
        refine hfreed ⟨pre, other, post, heq, ?_⟩
        rw [run_append, run_append, run_cons]
        exact hfreed'
  · intro o ho
    obtain ⟨past, later, hsplit⟩ := append_of_mem ho
    obtain ⟨before, call, rest, hcalls, -, rfl, -⟩ := trace_split hsplit
    have hmem : call ∈ calls := by
      rw [hcalls]
      simp
    have h := (agrees_at (c := c) hnonzero hordered hcalls).step (hnonzero call hmem)
    exact ⟨h.ip.size_le, h.lookup.size_le⟩

/-- Limits that are soon reached. -/
def sampleConfig : LimiterConfig where
  window := 60
  maxPerIP := 2
  maxPerLookup := 1
  maxIPWindows := 1
  maxLookups := 2
  window_pos := by decide
  maxPerIP_pos := by decide
  maxPerLookup_pos := by decide
  maxIPWindows_pos := by decide
  maxLookups_pos := by decide

/-- A lookup key. -/
def sampleKey : CodeHash := ⟨replicate 32 7, rfl⟩

/-- The second attempt on a lookup key is denied; at the end of its wait it is allowed. -/
theorem limiter_correct_sample :
    let calls : List Call := [.allow "a" sampleKey 100, .allow "a" sampleKey 110,
      .allowIP "b" 120, .allow "a" sampleKey 160]
    LimiterCorrect sampleConfig calls ∧
      ((machine sampleConfig).trace new calls).map (·.output) =
        [some ⟨true, 0⟩, some ⟨false, 50⟩, some ⟨false, 60⟩, some ⟨true, 0⟩] :=
  ⟨limiter_correct sampleConfig _ (by decide) (by decide), by decide +kernel⟩

end correct

end FixedWindowLimiter

end Server

end Roammand
