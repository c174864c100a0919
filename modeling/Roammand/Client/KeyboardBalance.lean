import Roammand.Client.KeyboardShape
import Roammand.Client.SenderEffects
import Roammand.Host.PlatformInput

/-!
# The balance of the mobile keyboard

The calls that the controller has still to make continue the events that its sender has
queued.  Together they press a key only when it is up, and they leave down what the
controller takes for its active modifiers.  A call moves from the one list to the other.

A release of others empties the queue of the sender.  The controller learns of it only
if one of its own events was in that queue.  Otherwise it goes on with the modifiers that
it remembers, although the Host has released them.

Main results:

- Definition `KeyInv`: the invariant of the controller with its sender.
- Theorem `perform_keyInv`: every input keeps it.
- Theorem `keyboard_balance`: what holds in every run.
- Theorem `modifiers_forgotten`: a run in which the Host holds other modifiers.
-/

namespace Roammand

namespace Client

open Library Host RemoteInputSender PlatformInputSink List KeyboardCall

/-! ## Keys that are down -/

/-- The keys that are down after an event, as the one who sends them counts them. -/
def pressKeys (keys : Finset Nat) : ReliableInputEvent → Finset Nat
  | .keyboard action usage _ =>
    if action = 1 then insert usage.toNat keys
    else if action = 2 then keys.erase usage.toNat
    else keys
  | .releaseAllInput => ∅
  | _ => keys

/-- The keys that are down after a stream of events. -/
def downKeys (events : List ReliableInputEvent) : Finset Nat := events.foldl pressKeys ∅

/-- The events press a key only when it is up. -/
def Safe : Finset Nat → List ReliableInputEvent → Prop
  | _, [] => True
  | keys, event :: events =>
    (∀ usage bits, event = .keyboard 1 usage bits → usage.toNat ∉ keys) ∧
      Safe (pressKeys keys event) events

/-- A stream is safe if its parts are, one after the other. -/
theorem safe_append {keys : Finset Nat} {events more : List ReliableInputEvent} :
    Safe keys (events ++ more) ↔ Safe keys events ∧ Safe (events.foldl pressKeys keys) more := by
  induction events generalizing keys with
  | nil => simp [Safe]
  | cons event events ih => simp [Safe, ih, and_assoc]

variable {events : List ReliableInputEvent} {keys keys' : Finset Nat}

theorem pressKeys_mono (h : keys ⊆ keys') (event : ReliableInputEvent) :
    pressKeys keys event ⊆ pressKeys keys' event := by
  cases event with
  | keyboard action usage bits =>
    unfold pressKeys
    dsimp only
    split_ifs
    · exact Finset.insert_subset_insert _ h
    · exact Finset.erase_subset_erase _ h
    · exact h
  | releaseAllInput => exact Finset.Subset.refl _
  | _ => exact h

theorem foldl_pressKeys_mono (h : keys ⊆ keys') (events : List ReliableInputEvent) :
    events.foldl pressKeys keys ⊆ events.foldl pressKeys keys' := by
  induction events generalizing keys keys' with
  | nil => exact h
  | cons event events ih => exact ih (pressKeys_mono h event)

/-- The fewer keys are down, the more may be pressed. -/
theorem Safe.mono (h : keys ⊆ keys') {events : List ReliableInputEvent}
    (hsafe : Safe keys' events) : Safe keys events := by
  induction events generalizing keys keys' with
  | nil => trivial
  | cons event events ih =>
    refine ⟨fun usage bits hevent hmem => ?_, ih (pressKeys_mono h event) hsafe.2⟩
    exact hsafe.1 usage bits hevent (h hmem)

/-- A key stays down until it is released. -/
theorem mem_foldl_pressKeys {keys : Finset Nat} {key : Nat} {events : List ReliableInputEvent}
    (hkey : key ∈ keys) (hrelease : .releaseAllInput ∉ events)
    (hup : ∀ usage bits, .keyboard 2 usage bits ∈ events → usage.toNat ≠ key) :
    key ∈ events.foldl pressKeys keys := by
  induction events generalizing keys with
  | nil => exact hkey
  | cons event events ih =>
    refine ih ?_ (fun h => hrelease (mem_cons_of_mem _ h))
      fun usage bits h => hup usage bits (mem_cons_of_mem _ h)
    cases event with
    | keyboard action usage bits =>
      unfold pressKeys
      dsimp only
      split_ifs with hdown hreleased
      · exact Finset.mem_insert_of_mem hkey
      · subst hreleased
        exact Finset.mem_erase.mpr ⟨(hup usage bits (by simp)).symm, hkey⟩
      · exact hkey
    | releaseAllInput => exact absurd (by simp) hrelease
    | _ => exact hkey

/-- Between two presses of a key there is a release of it, or of everything. -/
theorem Safe.between {keys : Finset Nat} {before middle after : List ReliableInputEvent}
    {usage bits bits' : UInt32}
    (h : Safe keys (before ++ .keyboard 1 usage bits :: (middle ++
      .keyboard 1 usage bits' :: after))) :
    .releaseAllInput ∈ middle ∨ ∃ bits'', .keyboard 2 usage bits'' ∈ middle := by
  rw [safe_append, Safe, safe_append] at h
  obtain ⟨_, _, _, hsecond, _⟩ := h
  by_contra hnone
  rw [not_or, not_exists] at hnone
  refine hsecond usage bits' rfl (mem_foldl_pressKeys ?_ hnone.1 fun usage' bits'' hmem hsame => ?_)
  · unfold pressKeys
    dsimp only
    rw [if_pos rfl]
    exact Finset.mem_insert_self _ _
  · rw [UInt32.toNat_inj.mp hsame] at hmem
    exact hnone.2 bits'' hmem

/-! ## Calls and their events -/

/-- The event that a call queues. -/
def KeyboardCall.event : KeyboardCall → ReliableInputEvent
  | .key down usage bits =>
    .keyboard (if down then KeyboardAction.down else .up).toInt32 (.ofNat usage) (.ofNat bits)
  | .text value => .text value
  | .release => .releaseAllInput

/-- The action of the sender behind a call. -/
def KeyboardCall.action : KeyboardCall → SenderAction
  | .key down usage bits => .keyboard (if down then .down else .up) usage bits
  | .text value => .text value
  | .release => .releaseAll

theorem KeyboardCall.perform_action (channels : InputDataChannels) (call : KeyboardCall)
    (sender : RemoteInputSender) :
    call.perform channels sender = call.action.perform channels sender := by
  cases call <;> rfl

/-- The calls of an operation. -/
def KeyboardTask.calls (task : KeyboardTask) : List KeyboardCall :=
  task.first :: task.second.toList.map (·.2)

/-- The usages of modifiers. -/
def modifierUsages (modifiers : List MobileModifierKey) : Finset Nat :=
  (modifiers.map (·.usage)).toFinset

/-- The bits of modifiers. -/
def modifierBits (modifiers : List MobileModifierKey) : Nat :=
  modifiers.foldl (fun bits modifier => bits ||| modifier.bits) 0

theorem testBit_foldl_bits (modifiers : List MobileModifierKey) (bits bit : Nat) :
    (modifiers.foldl (fun bits modifier => bits ||| modifier.bits) bits).testBit bit =
      (bits.testBit bit || modifiers.any fun modifier => modifier.bits.testBit bit) := by
  induction modifiers generalizing bits with
  | nil => simp
  | cons modifier modifiers ih => simp [ih, Nat.testBit_or, Bool.or_assoc]

variable {f : Finset Nat → ReliableInputEvent → Finset Nat} (modifier : MobileModifierKey)

/-- Usages and bits number the modifiers in the same way. -/
theorem MobileModifierKey.index :
    ∃ k < 4, modifier.bits = 2 ^ k ∧
      modifier.usage = firstModifierUsage + k := by
  cases modifier
  · exact ⟨0, by decide, rfl, rfl⟩
  · exact ⟨1, by decide, rfl, rfl⟩
  · exact ⟨2, by decide, rfl, rfl⟩
  · exact ⟨3, by decide, rfl, rfl⟩

theorem MobileModifierKey.testBit_bits (bit : Nat) :
    modifier.bits.testBit bit = true ↔
      firstModifierUsage + bit = modifier.usage := by
  obtain ⟨k, _, hbits, husage⟩ := modifier.index
  rw [hbits, husage, Nat.testBit_two_pow]
  simp only [decide_eq_true_eq]
  omega

/-- The bits of modifiers are those of their usages. -/
theorem testBit_modifierBits (modifiers : List MobileModifierKey) (bit : Nat) :
    (modifierBits modifiers).testBit bit = true ↔
      firstModifierUsage + bit ∈ modifierUsages modifiers := by
  simp only [modifierBits, testBit_foldl_bits, Nat.zero_testBit, Bool.false_or, any_eq_true,
    MobileModifierKey.testBit_bits, modifierUsages, mem_toFinset, mem_map]
  exact ⟨fun ⟨m, hm, h⟩ => ⟨m, hm, h.symm⟩, fun ⟨m, hm, h⟩ => ⟨m, hm, h.symm⟩⟩

theorem MobileModifierKey.usage_injective {modifier other : MobileModifierKey}
    (h : modifier.usage = other.usage) : modifier = other := by
  cases modifier <;> cases other <;> first | rfl | cases h

theorem mem_modifierUsages {modifier : MobileModifierKey} {modifiers : List MobileModifierKey} :
    modifier.usage ∈ modifierUsages modifiers ↔ modifier ∈ modifiers := by
  simp only [modifierUsages, mem_toFinset, mem_map]
  exact ⟨fun ⟨m, hm, h⟩ => MobileModifierKey.usage_injective h ▸ hm, fun h => ⟨_, h, rfl⟩⟩

theorem modifierBits_lt (modifiers : List MobileModifierKey) : modifierBits modifiers < 2 ^ 32 := by
  have hfold : ∀ bits < 2 ^ 32,
      modifiers.foldl (fun bits modifier => bits ||| modifier.bits) bits < 2 ^ 32 := by
    induction modifiers with
    | nil => exact fun bits hbits => hbits
    | cons modifier modifiers ih =>
      refine fun bits hbits => ih _ (Nat.or_lt_two_pow hbits ?_)
      cases modifier <;> decide
  exact hfold 0 (by decide)

/-! ## What the Host holds -/

open PlatformInputSink in
/-- A key event that carries the bits of some modifiers, and agrees with them about its own
key, leaves the Host with just these modifiers. -/
theorem askedModifiers_modifierBits {down : Bool} {usage : Nat} {modifiers : List MobileModifierKey}
    (hagrees : ∀ m : MobileModifierKey, m.usage = usage → (down = true ↔ m ∈ modifiers))
    (husage : usage < firstModifierUsage ∨ ∃ m : MobileModifierKey, m.usage = usage) :
    askedModifiers down usage (modifierBits modifiers) = modifierUsages modifiers := by
  ext key
  simp only [askedModifiers, Finset.mem_filter, mem_toFinset, mem_map, mem_range]
  constructor
  · rintro ⟨⟨bit, hbit, rfl⟩, hasked⟩
    by_cases hsame : firstModifierUsage + bit = usage
    · rw [if_pos hsame] at hasked
      obtain ⟨m, hm⟩ : ∃ m : MobileModifierKey, m.usage = usage :=
        husage.resolve_left (by omega)
      rw [hsame, ← hm]
      exact mem_modifierUsages.mpr ((hagrees m hm).mp hasked)
    · rw [if_neg hsame, Nat.add_sub_cancel_left] at hasked
      exact (testBit_modifierBits modifiers bit).mp hasked
  · intro hkey
    obtain ⟨m, hm, rfl⟩ := mem_map.mp (mem_toFinset.mp hkey)
    obtain ⟨bit, hbit, _, hindex⟩ := m.index
    refine ⟨⟨bit, by simp only [modifierCount]; omega, hindex.symm⟩, ?_⟩
    by_cases hsame : m.usage = usage
    · rw [if_pos hsame]
      exact (hagrees m hsame).mpr hm
    · rw [if_neg hsame, hindex, Nat.add_sub_cancel_left, testBit_modifierBits, ← hindex]
      exact hkey

open PlatformInputSink in
/-- The modifiers that the Host holds after a key event depend on the event alone. -/
theorem modifiers_apply_key (keys : Finset Nat) (down : Bool) (usage bits : Nat) :
    modifiers (apply keys (key down usage bits).event) =
      askedModifiers down (UInt32.ofNat usage).toNat (UInt32.ofNat bits).toNat := by
  have haction : KeyboardAction.ofInt32? (if down then KeyboardAction.down else .up).toInt32 =
      some (if down then KeyboardAction.down else .up) := by
    cases down <;> decide
  unfold event apply
  dsimp only
  rw [haction]
  dsimp only
  rw [modifiers_keyboard]

/-- The call sends a key. -/
def KeyboardCall.isKey : KeyboardCall → Bool
  | .key .. => true
  | _ => false

open PlatformInputSink in
/-- The last key says which modifiers are held. -/
theorem heldModifiers_concat_key (events : List ReliableInputEvent) (down : Bool)
    (usage bits : Nat) :
    heldModifiers (events ++ [(key down usage bits).event]) =
      askedModifiers down (UInt32.ofNat usage).toNat (UInt32.ofNat bits).toNat := by
  rw [heldModifiers, pressedKeys_append]
  exact modifiers_apply_key _ down usage bits

open PlatformInputSink in
/-- Calls leave the same modifiers down if the same were down before, or if one of them
sends a key. -/
theorem modifiers_foldl_calls {calls : List KeyboardCall} {keys keys' : Finset Nat}
    (h : modifiers keys = modifiers keys' ∨ ∃ call ∈ calls, call.isKey = true) :
    modifiers ((calls.map (·.event)).foldl apply keys) =
      modifiers ((calls.map (·.event)).foldl apply keys') := by
  induction calls generalizing keys keys' with
  | nil => exact h.resolve_right (by simp)
  | cons call calls ih =>
    rw [map_cons, foldl_cons, foldl_cons]
    apply ih
    cases call with
    | key down usage bits => exact .inl (by rw [modifiers_apply_key, modifiers_apply_key])
    | text value =>
      refine h.imp id ?_
      rintro ⟨other, hother, hkey⟩
      rcases mem_cons.mp hother with rfl | hother
      · cases hkey
      · exact ⟨other, hother, hkey⟩
    | release => exact .inl rfl

open PlatformInputSink in
/-- Calls that send no key press no modifier. -/
theorem modifiers_foldl_none {calls : List KeyboardCall}
    (hnone : ¬ ∃ call ∈ calls, call.isKey = true) :
    modifiers ((calls.map (·.event)).foldl apply ∅) = ∅ := by
  induction calls with
  | nil => rfl
  | cons call calls ih =>
    have hrest : ¬ ∃ call ∈ calls, call.isKey = true := fun ⟨call, hcall, hkey⟩ =>
      hnone ⟨call, mem_cons_of_mem _ hcall, hkey⟩
    cases call with
    | key down usage bits => exact absurd ⟨_, mem_cons_self, rfl⟩ hnone
    | text value => exact ih hrest
    | release => exact ih hrest

/-- An event of others moves no key. -/
theorem Plain.apply {event : ReliableInputEvent} (h : Plain event)
    (keys : Finset Nat) : apply keys event = keys := by
  cases event <;> first | rfl | cases h

theorem Plain.pressKeys {event : ReliableInputEvent} (h : Plain event)
    (keys : Finset Nat) : pressKeys keys event = keys := by
  cases event <;> first | rfl | cases h

theorem foldl_plain (hf : ∀ event, Plain event → ∀ keys, f keys event = keys)
    {events : List ReliableInputEvent} (h : ∀ e ∈ events, Plain e)
    (keys : Finset Nat) : events.foldl f keys = keys := by
  induction events generalizing keys with
  | nil => rfl
  | cons event events ih =>
    rw [foldl_cons, hf event (h event (by simp))]
    exact ih (fun e he => h e (mem_cons_of_mem _ he)) keys

theorem safe_plain
    (h : ∀ e ∈ events, Plain e) (keys : Finset Nat) : Safe keys events := by
  induction events generalizing keys with
  | nil => trivial
  | cons event events ih =>
    refine ⟨fun usage bits hevent => ?_, ih (fun e he => h e (mem_cons_of_mem _ he)) _⟩
    have hplain := h event (by simp)
    rw [hevent] at hplain
    exact hplain.elim

/-- Nothing is down after events that end with a release. -/
theorem foldl_endsReleased (hrelease : ∀ keys, f keys .releaseAllInput = ∅)
    (hclose : ∀ keys, f keys closeEvent = keys)
    {events : List ReliableInputEvent} (h : EndsReleased events)
    (keys : Finset Nat) : events.foldl f keys = ∅ := by
  obtain ⟨before, after, rfl, hafter⟩ := h
  rw [foldl_append, foldl_cons, hrelease]
  induction after with
  | nil => rfl
  | cons event after ih =>
    rw [foldl_cons, hafter event (by simp), hclose]
    exact ih fun e he => hafter e (mem_cons_of_mem _ he)

/-- After a release no key is down. -/
theorem downKeys_endsReleased (h : EndsReleased events) : downKeys events = ∅ :=
  foldl_endsReleased (fun _ => rfl) (fun _ => rfl) h ∅

/-- After a release no modifier is held. -/
theorem heldModifiers_endsReleased (h : EndsReleased events) :
    heldModifiers events = ∅ := by
  have hkeys : pressedKeys events = ∅ :=
    foldl_endsReleased (fun _ => rfl) (fun _ => rfl) h ∅
  rw [heldModifiers, hkeys]
  rfl

/-! ## One call -/

namespace RemoteInputSender

variable (channels : InputDataChannels)

/-- What a call of the keyboard does: it is refused, or its event is queued under the next
number. -/
def Queues (event : ReliableInputEvent) (s : RemoteInputSender)
    (result : RemoteInputSender × SenderFuture) : Prop :=
  (∃ code, code ≠ .cancelled ∧ result.2 = .failed code ∧ Adds [] s result.1) ∨
    (result.2 = .task s.accepted.length ∧ s.reliableFailed = false ∧ Adds [event] s result.1)

/-- An event is refused or queued. -/
theorem sendReliable_queues (event : ReliableInputEvent) {s s' : RemoteInputSender}
    (h : s'.feed = s.feed) : Queues event s (s'.sendReliable channels event) := by
  have hparts := h
  simp only [feed, Prod.mk.injEq] at hparts
  rcases sendReliable_spec channels event s' with ⟨hrefused, _, hadds⟩ | ⟨htask, hopen, hadds⟩
  · exact .inl ⟨.channel, by decide, hrefused, (Adds.of_eq h).trans hadds⟩
  · refine .inr ⟨?_, hparts.2.1 ▸ hopen, (Adds.of_eq h).trans hadds⟩
    rw [htask, hparts.1]

theorem ensureOpen_error {s : RemoteInputSender} {code : InputSenderErrorCode}
    (h : s.ensureOpen = .error code) : code ≠ .cancelled := by
  rintro rfl
  revert h
  unfold ensureOpen ensure
  split_ifs <;> exact nofun

theorem sendKeyboard_queues (action : KeyboardAction) (usage bits : Nat) (s : RemoteInputSender) :
    Queues (.keyboard action.toInt32 (.ofNat usage) (.ofNat bits)) s
      (s.sendKeyboard channels action usage bits) := by
  unfold sendKeyboard
  split
  · rename_i code hcode
    exact .inl ⟨code, ensureOpen_error hcode, rfl, .refl s⟩
  · dsimp only
    split_ifs
    · exact .inl ⟨.invalidEnum, nofun, rfl, .of_eq rfl⟩
    · exact .inl ⟨.invalidUsage, nofun, rfl, .of_eq rfl⟩
    · exact sendReliable_queues channels _ rfl

theorem sendText_queues (text : String) (s : RemoteInputSender) :
    Queues (.text text) s (s.sendText channels text) := by
  unfold sendText
  split
  · rename_i code hcode
    exact .inl ⟨code, ensureOpen_error hcode, rfl, .refl s⟩
  · split_ifs
    · exact .inl ⟨.invalidText, nofun, rfl, .refl s⟩
    · exact sendReliable_queues channels _ rfl

/-- The next task has not been cancelled. -/
theorem QueueSound.next_open {s : RemoteInputSender} (h : QueueSound s) :
    ¬ s.IsCancelled s.accepted.length := by
  intro hcancelled
  have hmem : s.accepted.length ∈ s.completions.map (·.1) :=
    mem_map_of_mem (f := (·.1)) hcancelled
  have hlt := mem_range.mp (h.futures.subset (mem_append_left _ hmem))
  exact Nat.lt_irrefl _ hlt

end RemoteInputSender

/-- What the queued events and the calls that are still to be made amount to. -/
structure Pending (agreed : Prop) (sender : RemoteInputSender) (calls : List KeyboardCall)
    (modifiers : List MobileModifierKey) : Prop where
  safe : Safe ∅ (sender.accepted ++ calls.map (·.event))
  down : downKeys (sender.accepted ++ calls.map (·.event)) ⊆ modifierUsages modifiers
  agree : agreed → heldModifiers (sender.stream ++ calls.map (·.event)) =
    modifierUsages modifiers

namespace Pending

variable {agreed : Prop} {sender sender' : RemoteInputSender} {call : KeyboardCall}
  {calls : List KeyboardCall} {modifiers : List MobileModifierKey}

/-- The event of a call moves to the end of the queue. -/
theorem of_adds (h : Pending agreed sender (call :: calls) modifiers)
    (hadds : Adds [call.event] sender sender')
    (hrunning : sender'.reliableFailed = false) : Pending agreed sender' calls modifiers := by
  have haccepted : sender'.accepted ++ calls.map (·.event) =
      sender.accepted ++ (call :: calls).map (·.event) := by
    simp [hadds.accepted]
  have hstream : sender'.stream ++ calls.map (·.event) =
      sender.stream ++ (call :: calls).map (·.event) := by
    simp [hadds.stream hrunning]
  exact ⟨haccepted ▸ h.safe, haccepted ▸ h.down, hstream ▸ h.agree⟩

/-- A release makes what came before it irrelevant. -/
theorem of_released (h : Pending agreed sender (.release :: calls) modifiers)
    (hsafe : Safe ∅ sender'.accepted) (hdown : downKeys sender'.accepted = ∅)
    (hheld : pressedKeys sender'.stream = ∅) :
    Pending agreed sender' calls modifiers := by
  have hbefore := h.safe
  have hdown' := h.down
  simp only [map_cons, event] at hbefore hdown'
  rw [safe_append] at hbefore
  refine ⟨safe_append.mpr ⟨hsafe, ?_⟩, ?_, fun hagreed => ?_⟩
  · change Safe (downKeys sender'.accepted) _
    rw [hdown]
    exact hbefore.2.2
  · rw [downKeys, foldl_append, ← downKeys, hdown]
    rw [downKeys, foldl_append, foldl_cons] at hdown'
    exact hdown'
  · have hagree := h.agree hagreed
    simp only [map_cons, event] at hagree
    rw [heldModifiers, pressedKeys_append] at hagree ⊢
    rw [hheld]
    exact hagree

/-- Plain events of others stand before the calls. -/
theorem of_plain (h : Pending agreed sender calls modifiers) {events : List ReliableInputEvent}
    (hadds : Adds events sender sender')
    (hplain : ∀ e ∈ events, Plain e)
    (hrunning : sender'.reliableFailed = false) : Pending agreed sender' calls modifiers := by
  have hkeys := foldl_plain (f := pressKeys) (fun _ => Plain.pressKeys) hplain
  have hsafe := h.safe
  have hdown := h.down
  rw [safe_append] at hsafe
  rw [downKeys, foldl_append] at hdown
  refine ⟨?_, ?_, fun hagreed => ?_⟩
  · rw [hadds.accepted, safe_append, safe_append, foldl_append, hkeys]
    exact ⟨⟨hsafe.1, safe_plain hplain _⟩, hsafe.2⟩
  · rw [hadds.accepted, downKeys, foldl_append, foldl_append, hkeys]
    exact hdown
  · have hagree := h.agree hagreed
    rw [heldModifiers, pressedKeys_append] at hagree ⊢
    rw [hadds.stream hrunning, pressedKeys_append, foldl_plain (fun _ => Plain.apply) hplain]
    exact hagree

/-- A release of others stands before the calls.  What is active agrees with what the
Host will hold if a key is still to be sent, or if nothing is active. -/
theorem of_release (h : Pending agreed sender calls modifiers)
    (hsafe : Safe ∅ sender'.accepted) (hdown : downKeys sender'.accepted = ∅)
    (hheld : heldModifiers sender'.stream = ∅)
    (hnoticed : agreed → modifiers = [] ∨ ∃ call ∈ calls, call.isKey = true) :
    Pending agreed sender' calls modifiers := by
  have hbefore := h.safe
  have hafter := h.down
  rw [safe_append] at hbefore
  rw [downKeys, foldl_append] at hafter
  have hless := foldl_pressKeys_mono (Finset.empty_subset (downKeys sender.accepted))
    (calls.map (·.event))
  refine ⟨safe_append.mpr ⟨hsafe, ?_⟩, ?_, fun hagreed => ?_⟩
  · refine hbefore.2.mono ?_
    change downKeys sender'.accepted ⊆ _
    rw [hdown]
    exact Finset.empty_subset _
  · rw [downKeys, foldl_append, ← downKeys, hdown]
    exact hless.trans hafter
  · have hagree := h.agree hagreed
    rw [heldModifiers] at hheld
    rw [heldModifiers, pressedKeys_append] at hagree ⊢
    by_cases hkey : ∃ call ∈ calls, call.isKey = true
    · rw [modifiers_foldl_calls (.inr hkey), hagree]
    · have hnone : modifiers = [] := (hnoticed hagreed).resolve_right hkey
      have hempty : PlatformInputSink.modifiers (PlatformInputSink.pressedKeys sender'.stream) =
          PlatformInputSink.modifiers ∅ := hheld
      rw [modifiers_foldl_calls (.inl hempty), modifiers_foldl_none hkey, hnone]
      rfl

/-- An operation that is queued last. -/
theorem of_append (h : Pending agreed sender calls modifiers) {more : List KeyboardCall}
    {modifiers' : List MobileModifierKey}
    (hsafe : Safe (modifierUsages modifiers) (more.map (·.event)))
    (hdown : (more.map (·.event)).foldl pressKeys (modifierUsages modifiers) ⊆
      modifierUsages modifiers')
    (hheld : heldModifiers (sender.stream ++ calls.map (·.event)) =
        modifierUsages modifiers →
      heldModifiers (sender.stream ++ (calls ++ more).map (·.event)) =
        modifierUsages modifiers') :
    Pending agreed sender (calls ++ more) modifiers' := by
  refine ⟨?_, ?_, fun hagreed => hheld (h.agree hagreed)⟩
  · rw [map_append, ← append_assoc, safe_append]
    exact ⟨h.safe, hsafe.mono h.down⟩
  · rw [map_append, ← append_assoc, downKeys, foldl_append]
    exact (foldl_pressKeys_mono h.down _).trans hdown

/-- The change of a modifier is queued. -/
theorem of_modifier (h : Pending agreed sender calls modifiers) (hnodup : modifiers.Nodup)
    {modifier : MobileModifierKey} {active : Bool} {modifiers' : List MobileModifierKey}
    (hchange : decide (modifier ∈ modifiers) ≠ active)
    (hmodifiers : modifiers' =
      if active then modifiers ++ [modifier] else modifiers.erase modifier) :
    Pending agreed sender
      (calls ++ [.key active modifier.usage (modifierBits modifiers')]) modifiers' := by
  have husage : (UInt32.ofNat modifier.usage).toNat = modifier.usage := by
    cases modifier <;> rfl
  have hbits := UInt32.toNat_ofNat_of_lt' (modifierBits_lt modifiers')
  have hmem : active = true ↔ modifier ∈ modifiers' := by
    rw [hmodifiers]
    cases active
    · simp [hnodup.not_mem_erase]
    · simp
  refine h.of_append ?_ ?_ fun _ => ?_
  · refine ⟨fun usage bits hevent => ?_, trivial⟩
    cases active
    · exact absurd (ReliableInputEvent.keyboard.inj hevent).1 (by decide)
    · rw [← (ReliableInputEvent.keyboard.inj hevent).2.1, husage, mem_modifierUsages]
      simpa using hchange
  · intro key hkey
    cases active
    · have herased : key ∈ (modifierUsages modifiers).erase modifier.usage := husage ▸ hkey
      obtain ⟨hne, hmem'⟩ := Finset.mem_erase.mp herased
      obtain ⟨other, hother, rfl⟩ := mem_map.mp (mem_toFinset.mp hmem')
      rw [hmodifiers, mem_modifierUsages]
      refine (mem_erase_of_ne ?_).mpr hother
      exact fun heq => hne (congrArg MobileModifierKey.usage heq)
    · have hinserted : key ∈ insert modifier.usage (modifierUsages modifiers) := husage ▸ hkey
      rw [hmodifiers]
      rcases Finset.mem_insert.mp hinserted with rfl | hmem'
      · simp [mem_modifierUsages]
      · obtain ⟨other, hother, rfl⟩ := mem_map.mp (mem_toFinset.mp hmem')
        simp [mem_modifierUsages, hother]
  · rw [map_append, ← append_assoc, map_singleton, heldModifiers_concat_key, husage, hbits]
    refine askedModifiers_modifierBits (fun other hother => ?_) (.inr ⟨modifier, rfl⟩)
    rw [MobileModifierKey.usage_injective hother]
    exact hmem

/-- The press and the release of a special key are queued. -/
theorem of_special (h : Pending agreed sender calls modifiers) (key : MobileSpecialKey) :
    Pending agreed sender (calls ++ [.key true key.usage (modifierBits modifiers),
      .key false key.usage (modifierBits modifiers)]) modifiers := by
  have husage : (UInt32.ofNat key.usage).toNat = key.usage := by cases key <;> rfl
  have hbits := UInt32.toNat_ofNat_of_lt' (modifierBits_lt modifiers)
  have hlow : key.usage < firstModifierUsage := by cases key <;> decide
  have hother : ∀ m : MobileModifierKey, m.usage ≠ key.usage := fun m heq => by
    obtain ⟨k, _, _, hindex⟩ := m.index
    omega
  have hup : key.usage ∉ modifierUsages modifiers := fun hmem => by
    obtain ⟨m, _, hm⟩ := mem_map.mp (mem_toFinset.mp hmem)
    exact hother m hm
  refine h.of_append ⟨?_, ?_, trivial⟩ ?_ fun _ => ?_
  · intro usage bits hevent
    rw [← (ReliableInputEvent.keyboard.inj hevent).2.1, husage]
    exact hup
  · intro usage bits hevent
    exact absurd (ReliableInputEvent.keyboard.inj hevent).1 (by decide)
  · intro other hmem
    have hmoved : other ∈ (insert key.usage (modifierUsages modifiers)).erase key.usage :=
      husage ▸ hmem
    rwa [Finset.erase_insert hup] at hmoved
  · have hsplit : sender.stream ++ (calls ++ [KeyboardCall.key true key.usage
          (modifierBits modifiers), .key false key.usage (modifierBits modifiers)]).map (·.event) =
        (sender.stream ++ (calls ++ [KeyboardCall.key true key.usage
          (modifierBits modifiers)]).map (·.event)) ++
          [(KeyboardCall.key false key.usage (modifierBits modifiers)).event] := by
      simp
    rw [hsplit, heldModifiers_concat_key, husage, hbits]
    exact askedModifiers_modifierBits (fun m hm => absurd hm (hother m)) (.inl hlow)

/-- A text is queued. -/
theorem of_text (h : Pending agreed sender calls modifiers) (text : String) :
    Pending agreed sender (calls ++ [.text text]) modifiers := by
  refine h.of_append ⟨nofun, trivial⟩ (Finset.Subset.refl _) fun hheld => ?_
  rw [map_append, ← append_assoc, heldModifiers, pressedKeys_append]
  exact hheld

/-- A release is all that is still to be done. -/
theorem released (agreed : Prop) (hsafe : Safe ∅ sender.accepted) :
    Pending agreed sender [.release] [] := by
  refine ⟨safe_append.mpr ⟨hsafe, nofun, trivial⟩, ?_, fun _ => ?_⟩
  · rw [map_singleton, downKeys, foldl_append]
    exact Finset.empty_subset _
  · rw [map_singleton, heldModifiers, pressedKeys_append]
    rfl

/-- Nothing is left to be done after a release. -/
theorem nothing (agreed : Prop) (hsafe : Safe ∅ sender.accepted)
    (hdown : downKeys sender.accepted = ∅)
    (hheld : heldModifiers sender.stream = ∅) :
    Pending agreed sender [] [] := by
  refine ⟨?_, ?_, fun _ => ?_⟩
  · rw [map_nil, append_nil]
    exact hsafe
  · rw [map_nil, append_nil, hdown]
    exact Finset.empty_subset _
  · rw [map_nil, append_nil]
    exact hheld

end Pending

/-! ## Making a call -/

namespace RemoteInputSender

variable (channels : InputDataChannels)

/-- A sender that has failed stays so. -/
theorem perform_running {s : RemoteInputSender} (h : SenderSound s) {action : SenderAction}
    (hrunning : (action.perform channels s).1.reliableFailed = false) :
    s.reliableFailed = false := by
  refine Bool.eq_false_iff.mpr fun hfailed => ?_
  have hended := (perform_frame channels action s).ended hfailed (h.queue.ended hfailed).2.1
  exact absurd (hended.1.symm.trans hrunning) nofun

/-- A release is left out when one comes last, and else queued behind nothing. -/
theorem releaseAll_queues (s : RemoteInputSender) :
    ((s.closed ∨ s.releaseSent) ∧ s.releaseAll channels = (s, .done)) ∨
      ∃ cancelled : RemoteInputSender, cancelled.accepted = s.accepted ∧
        cancelled.reliableFailed = s.reliableFailed ∧
        (QueueSound s → QueueSound cancelled) ∧
        Queues .releaseAllInput cancelled (s.releaseAll channels) := by
  unfold releaseAll
  split_ifs with hdone
  · exact .inl ⟨hdone, rfl⟩
  · refine .inr ⟨{ s.dropPendingMove.cancelQueuedReliable with releaseSent := true }, rfl, rfl,
      fun h => ?_, sendReliable_queues channels _ rfl⟩
    exact h.dropPendingMove_sound.cancelQueuedReliable_sound.withReleaseSent true

end RemoteInputSender

namespace KeyboardCall

open RemoteInputSender

variable (channels : InputDataChannels) {sender : RemoteInputSender}

theorem perform_sound (call : KeyboardCall) (hsound : SenderSound sender)
    (hrelease : ReleaseSound sender) :
    SenderSound (call.perform channels sender).1 ∧
      ReleaseSound (call.perform channels sender).1 := by
  rw [perform_action]
  exact ⟨step_senderSound hsound (channels, call.action),
    perform_releaseSound channels call.action hrelease hsound.closing⟩

/-- A key or a text is refused, or queued. -/
theorem perform_queues {call : KeyboardCall} (sender : RemoteInputSender)
    (hcall : call ≠ .release) :
    Queues call.event sender (call.perform channels sender) := by
  cases call with
  | key down usage bits => exact sendKeyboard_queues channels _ usage bits sender
  | text value => exact sendText_queues channels value sender
  | release => exact absurd rfl hcall

/-- A call queues its event, or nothing. -/
theorem perform_accepted (call : KeyboardCall) (sender : RemoteInputSender) :
    (call.perform channels sender).1.accepted = sender.accepted ∨
      sender.reliableFailed = false ∧
        (call.perform channels sender).1.accepted = sender.accepted ++ [call.event] := by
  have hqueues : ∀ {event : ReliableInputEvent} {s : RemoteInputSender}
      {result : RemoteInputSender × SenderFuture}, Queues event s result →
      result.1.accepted = s.accepted ∨
        s.reliableFailed = false ∧ result.1.accepted = s.accepted ++ [event] := by
    rintro event s result (⟨_, _, _, hadds⟩ | ⟨_, hopen, hadds⟩)
    · exact .inl (hadds.accepted.trans (append_nil _))
    · exact .inr ⟨hopen, hadds.accepted⟩
  by_cases hcall : call = .release
  · subst hcall
    change (sender.releaseAll channels).1.accepted = _ ∨
      _ ∧ (sender.releaseAll channels).1.accepted = _
    rcases releaseAll_queues channels sender with ⟨_, hsame⟩ | ⟨cancelled, hsame, hopen, _, hq⟩
    · exact .inl (by rw [hsame])
    · rw [← hsame, ← hopen]
      exact hqueues hq
  · exact hqueues (perform_queues channels sender hcall)

end KeyboardCall

open RemoteInputSender in
/-- A call is refused, or its event moves from the calls to the queue and its future is
not one that was cancelled. -/
theorem Pending.perform {agreed : Prop} {sender : RemoteInputSender} {call : KeyboardCall}
    {calls : List KeyboardCall} {modifiers : List MobileModifierKey}
    (h : Pending agreed sender (call :: calls) modifiers) (hsound : SenderSound sender)
    (hrelease : ReleaseSound sender) (channels : InputDataChannels)
    (hrunning : (call.perform channels sender).1.reliableFailed = false) :
    (∃ code, code ≠ .cancelled ∧ (call.perform channels sender).2 = .failed code) ∨
      Pending agreed (call.perform channels sender).1 calls modifiers ∧
        ((call.perform channels sender).2 = .done ∨
          ∃ id, (call.perform channels sender).2 = .task id ∧
            ¬ (call.perform channels sender).1.IsCancelled id) := by
  by_cases hcall : call = .release
  · subst hcall
    change (sender.releaseAll channels).1.reliableFailed = false at hrunning
    change (∃ code, _ ∧ (sender.releaseAll channels).2 = _) ∨
      Pending agreed (sender.releaseAll channels).1 calls modifiers ∧
        ((sender.releaseAll channels).2 = .done ∨ ∃ id, (sender.releaseAll channels).2 = _ ∧ _)
    have hsafe : Safe ∅ sender.accepted := (safe_append.mp h.safe).1
    rcases releaseAll_queues channels sender with ⟨hdone, hsame⟩ | ⟨cancelled, hsame, _, hq, hcase⟩
    · rw [hsame] at hrunning ⊢
      have hsent : sender.releaseSent = true :=
        hdone.elim (fun hclosed => hrelease.blocked hrunning (.inr hclosed)) id
      have hquieted := hrelease.released hrunning hsent
      refine .inr ⟨h.of_released hsafe (downKeys_endsReleased hquieted.accepted) ?_, .inl rfl⟩
      exact foldl_endsReleased (fun _ => rfl) (fun _ => rfl) hquieted.ends ∅
    · rcases hcase with ⟨code, hcode, hrefused, _⟩ | ⟨htask, _, hadds⟩
      · exact .inl ⟨code, hcode, hrefused⟩
      · have haccepted := hadds.accepted.trans (congrArg (· ++ [_]) hsame)
        refine .inr ⟨h.of_released ?_ ?_ ?_, .inr ⟨_, htask, fun hid => ?_⟩⟩
        · rw [haccepted]
          exact safe_append.mpr ⟨hsafe, nofun, trivial⟩
        · rw [haccepted, downKeys, foldl_append]
          rfl
        · rw [hadds.stream hrunning, pressedKeys_append]
          rfl
        · exact (hq hsound.queue).next_open (hadds.cancelled hrunning _ hid)
  · rcases perform_queues channels sender hcall with
      ⟨code, hcode, hrefused, _⟩ | ⟨htask, _, hadds⟩
    · exact .inl ⟨code, hcode, hrefused⟩
    · refine .inr ⟨h.of_adds hadds hrunning, .inr ⟨_, htask, fun hid => ?_⟩⟩
      exact hsound.queue.next_open (hadds.cancelled hrunning _ hid)

namespace MobileKeyboardController

open RemoteInputSender

/-! ## Outcomes -/

theorem lookup_cancelled {sender : RemoteInputSender} {id : Nat}
    (h : sender.completions.lookup id = some (some .cancelled)) : sender.IsCancelled id := by
  obtain ⟨before, after, heq, _⟩ := lookup_eq_some_iff.mp h
  rw [IsCancelled, heq]
  simp

/-- A future that has been cancelled has completed in no other way. -/
theorem cancelled_lookup {sender : RemoteInputSender} (h : QueueSound sender) {id : Nat}
    (hid : sender.IsCancelled id) : sender.completions.lookup id = some (some .cancelled) := by
  obtain ⟨before, after, heq⟩ := append_of_mem hid
  refine lookup_eq_some_iff.mpr ⟨before, after, heq, fun p hp => ?_⟩
  have hnodup := (nodup_append.mp h.nodup).1
  rw [heq, map_append, map_cons] at hnodup
  have hne := (nodup_append.mp hnodup).2.2 p.1 (mem_map_of_mem hp) id (by simp)
  simpa using hne.symm

/-- How a future has completed does not change. -/
theorem outcome_mono {sender sender' : RemoteInputSender}
    (hextends : sender.completions <+: sender'.completions) {future : SenderFuture}
    {result : Option InputSenderErrorCode} (h : outcome sender future = some result) :
    outcome sender' future = some result := by
  cases future with
  | task id => exact hextends.lookup_eq_some h
  | _ => exact h

/-- A step that cancels nothing shows no new cancellation. -/
theorem outcome_cancelled {sender sender' : RemoteInputSender}
    (hextends : sender.completions <+: sender'.completions)
    (hcancelled : ∀ id, sender'.IsCancelled id → sender.IsCancelled id) {future : SenderFuture}
    (h : outcome sender' future = some (some .cancelled)) :
    outcome sender future = some (some .cancelled) := by
  cases future with
  | task id =>
    have hid : sender.IsCancelled id := hcancelled id (lookup_cancelled h)
    obtain ⟨result, hresult⟩ : ∃ result, sender.completions.lookup id = some result := by
      by_contra hnone
      rw [← Option.isSome_iff_exists, Option.not_isSome_iff_eq_none] at hnone
      exact absurd (lookup_eq_none_iff.mp hnone _ hid) (by simp)
    have hlater : outcome sender' (.task id) = some result := hextends.lookup_eq_some hresult
    exact hresult.trans (hlater.symm.trans h)
  | _ => exact h

/-! ## The invariant -/

/-- The active operation as it has been started. -/
def activeInvocation (s : MobileKeyboardController) : Option KeyboardInvocation :=
  s.active.bind fun operation => s.invocations.find? (·.id = operation.id)

/-- How the future that the active operation awaits has completed. -/
def activeOutcome (s : MobileKeyboardController) : Option (Option InputSenderErrorCode) :=
  s.activeInvocation.bind fun invocation => outcome s.sender invocation.awaited

/-- The calls that are still to be made. -/
def remaining (s : MobileKeyboardController) : List KeyboardCall :=
  (s.activeInvocation.bind (·.next)).toList.map (·.2) ++ s.pending.flatMap (·.task.calls)

/-- What is queued in the sender and still to be done in the controller fits together,
unless the failure of an operation is still to be noticed. -/
structure KeySound (agreed : Prop) (s : MobileKeyboardController) : Prop where
  cancelled : s.activeOutcome = some (some .cancelled) →
    downKeys s.sender.accepted = ∅ ∧ heldModifiers s.sender.stream = ∅
  pending : (∀ code, s.activeOutcome ≠ some (some code)) →
    Pending agreed s.sender s.remaining s.activeModifiers

/-- What holds of the controller and its sender even when they have ended. -/
structure KeyBase (s : MobileKeyboardController) : Prop where
  shape : KeyboardShape s
  senderSound : SenderSound s.sender
  release : ReleaseSound s.sender
  nodup : s.activeModifiers.Nodup
  balanced : Safe ∅ s.sender.accepted

/-- The invariant of the controller with its sender. -/
structure KeyInv (agreed : Prop) (s : MobileKeyboardController) : Prop extends KeyBase s where
  sound : s.closed = false → s.sender.reliableFailed = false → KeySound agreed s

/-- A new controller keeps the balance. -/
theorem new_keyInv (agreed : Prop) (encoder : InputEncoder) (sessionId : Bytes) :
    KeyInv agreed (new (initial encoder sessionId)) where
  shape := new_shape _
  senderSound := initial_senderSound encoder sessionId
  release := initial_releaseSound encoder sessionId
  nodup := nodup_nil
  balanced := trivial
  sound := fun _ _ => ⟨nofun, fun _ => .nothing agreed trivial rfl rfl⟩

variable {agreed : Prop} {s : MobileKeyboardController} (channels : InputDataChannels)

namespace KeyBase

/-- Nothing more has to be shown about a closed controller. -/
theorem keyInv (h : KeyBase s) (hclosed : s.closed = true) : KeyInv agreed s :=
  { h with sound := fun hopen => absurd (hclosed.symm.trans hopen) nofun }

theorem clearModifiers (h : KeyBase s) : KeyBase s.clearModifiers :=
  { h with shape := h.shape.clearModifiers_shape, nodup := nodup_nil }

theorem cancelOperations (h : KeyBase s) (code : InputSenderErrorCode) :
    KeyBase (s.cancelOperations code) :=
  { h with shape := h.shape.cancelOperations_shape code }

/-- An aborted controller keeps the balance. -/
theorem abort (h : KeyBase s) : KeyInv agreed s.abort := by
  have hshape := h.shape.abort_shape
  unfold MobileKeyboardController.abort at hshape ⊢
  by_cases hclosed : s.closed = true
  · rw [if_pos hclosed]
    exact h.keyInv hclosed
  · rw [if_neg hclosed] at hshape ⊢
    refine KeyBase.keyInv ⟨hshape,
      step_senderSound h.senderSound (⟨false, none, false, none⟩, .abort),
      abort_releaseSound s.sender, nodup_nil, ?_⟩ rfl
    change Safe ∅ s.sender.abort.accepted
    rw [abort_accepted]
    exact h.balanced

end KeyBase

/-! ## Calls and operations -/

/-- An operation makes a call that is the next one to be made. -/
theorem call_keyInv {id : Nat} {call : KeyboardCall} {next : Option (Nat × KeyboardCall)}
    {operation : KeyboardOperation} (hshape : KeyboardShape (s.call channels id call next))
    (hsender : SenderSound s.sender) (hrelease : ReleaseSound s.sender)
    (hnodup : s.activeModifiers.Nodup) (hbalanced : Safe ∅ s.sender.accepted)
    (hactive : s.active = some operation) (hid : operation.id = id)
    (hgone : ∀ i ∈ s.invocations, i.id ≠ id)
    (hpending : s.sender.reliableFailed = false → Pending agreed s.sender
      (call :: (next.toList.map (·.2) ++ s.pending.flatMap (·.task.calls))) s.activeModifiers) :
    KeyInv agreed (s.call channels id call next) := by
  have hsound := call.perform_sound channels hsender hrelease
  have hfound : (s.call channels id call next).activeInvocation =
      some ⟨id, next, (call.perform channels s.sender).2⟩ := by
    have hnone : s.invocations.find? (fun i => decide (i.id = id)) = none :=
      find?_eq_none.mpr fun i hi => by simpa using hgone i hi
    simp [activeInvocation, MobileKeyboardController.call, hactive, hid, find?_append, hnone]
  have houtcome : (s.call channels id call next).activeOutcome =
      outcome (call.perform channels s.sender).1 (call.perform channels s.sender).2 := by
    rw [activeOutcome, hfound]
    rfl
  refine ⟨⟨hshape, hsound.1, hsound.2, hnodup, ?_⟩, fun _ hrunning => ?_⟩
  · change Safe ∅ (call.perform channels s.sender).1.accepted
    rcases call.perform_accepted channels s.sender with hsame | ⟨hopen, hmore⟩
    · rw [hsame]
      exact hbalanced
    · have hsafe := (hpending hopen).safe
      rw [map_cons, ← singleton_append, ← append_assoc] at hsafe
      rw [hmore]
      exact (safe_append.mp hsafe).1
  · change (call.perform channels s.sender).1.reliableFailed = false at hrunning
    have hopen : s.sender.reliableFailed = false :=
      perform_running channels hsender (call.perform_action channels s.sender ▸ hrunning)
    rcases (hpending hopen).perform hsender hrelease channels hrunning with
      ⟨code, hcode, hrefused⟩ | ⟨hmoved, hfuture⟩
    · have hfailed : (s.call channels id call next).activeOutcome = some (some code) := by
        rw [houtcome, hrefused]
        rfl
      refine ⟨fun hcancelled => ?_, fun hnone => absurd hfailed (hnone code)⟩
      exact absurd (Option.some.inj (Option.some.inj (hfailed.symm.trans hcancelled))) hcode
    · refine ⟨fun hcancelled => ?_, fun _ => ?_⟩
      · rw [houtcome] at hcancelled
        rcases hfuture with hdone | ⟨id, htask, hid⟩
        · rw [hdone] at hcancelled
          cases hcancelled
        · rw [htask] at hcancelled
          exact absurd (lookup_cancelled hcancelled) hid
      · rw [remaining, hfound]
        exact hmoved

/-- Starting the next operation. -/
theorem pump_keyInv (h : KeyInv agreed s) : KeyInv agreed (s.pump channels) := by
  have hshape := h.shape.pump_shape channels
  cases hpending : s.pending with
  | nil =>
    have hsame : s.pump channels = s := by
      unfold pump
      rw [hpending]
    rw [hsame]
    exact h
  | cons operation pending =>
    by_cases hstop : s.closed = true ∨ s.active.isSome = true
    · have hsame : s.pump channels = s := by
        unfold pump
        rw [hpending]
        exact if_pos hstop
      rw [hsame]
      exact h
    · have hstart : s.pump channels = { s with pending, active := some operation }.call channels
          operation.id operation.task.first operation.task.second := by
        unfold pump
        rw [hpending]
        exact if_neg hstop
      rw [hstart] at hshape ⊢
      rw [not_or, Bool.not_eq_true, Option.not_isSome_iff_eq_none] at hstop
      refine call_keyInv channels hshape h.senderSound h.release h.nodup h.balanced rfl rfl
        (fun i hi => ((h.shape.started i hi).2 operation (by simp [hpending])).ne) fun hopen => ?_
      have hnone : s.activeInvocation = none := by rw [activeInvocation, hstop.2]; rfl
      have hidle := (h.sound hstop.1 hopen).pending fun code => by simp [activeOutcome, hnone]
      rw [remaining, hnone, hpending] at hidle
      exact hidle

/-- Queuing an operation that fits to what is still to be done. -/
theorem enqueue_keyInv (h : KeyBase s) (hopen : s.closed = false) {task : KeyboardTask}
    {textBytes : Nat}
    (htask : task.second = none ∨ ∃ call, task.second = some (s.generation, call))
    (hsound : s.sender.reliableFailed = false → KeySound agreed (s.append task textBytes)) :
    KeyInv agreed (s.enqueue channels task textBytes).1 := by
  unfold enqueue
  split_ifs with hfull
  · exact h.abort
  · apply pump_keyInv
    refine ⟨⟨h.shape.append_shape hopen hfull fun next hnext => ?_, h.senderSound, h.release,
      h.nodup, h.balanced⟩, fun _ => hsound⟩
    rcases htask with hnone | ⟨call, hsome⟩
    · exact absurd (hnone.symm.trans hnext) nofun
    · rw [← Option.some.inj (hsome.symm.trans hnext)]

/-- An operation that is queued adds its calls to those that are still to be made. -/
theorem KeySound.append (h : KeySound agreed s) {s' : MobileKeyboardController}
    (hsame : (s'.sender, s'.active, s'.invocations, s'.pending) =
      (s.sender, s.active, s.invocations, s.pending))
    {task : KeyboardTask} {textBytes : Nat}
    (hpending : Pending agreed s.sender s.remaining s.activeModifiers →
      Pending agreed s.sender (s.remaining ++ task.calls) s'.activeModifiers) :
    KeySound agreed (s'.append task textBytes) := by
  simp only [Prod.mk.injEq] at hsame
  obtain ⟨hsender, hactive, hinvocations, hqueue⟩ := hsame
  have hinvocation : (s'.append task textBytes).activeInvocation = s.activeInvocation := by
    simp only [activeInvocation, MobileKeyboardController.append, hactive, hinvocations]
  have houtcome : (s'.append task textBytes).activeOutcome = s.activeOutcome := by
    rw [activeOutcome, hinvocation, activeOutcome]
    simp only [MobileKeyboardController.append, hsender]
  have hremaining : (s'.append task textBytes).remaining = s.remaining ++ task.calls := by
    rw [remaining, hinvocation, remaining]
    simp [MobileKeyboardController.append, hqueue]
  refine ⟨fun hcancelled => ?_, fun hnone => ?_⟩
  · change downKeys s'.sender.accepted = ∅ ∧ heldModifiers s'.sender.stream = ∅
    rw [hsender]
    exact h.cancelled (houtcome ▸ hcancelled)
  · rw [hremaining]
    change Pending agreed s'.sender _ s'.activeModifiers
    rw [hsender]
    exact hpending (h.pending (houtcome ▸ hnone))

/-- Changing a modifier keeps the balance. -/
theorem setModifier_keyInv (h : KeyInv agreed s) (modifier : MobileModifierKey) (active : Bool) :
    KeyInv agreed (s.setModifier channels modifier active).1 := by
  unfold setModifier
  split_ifs with hclosed hsame
  · exact h
  · exact h
  · rw [Bool.not_eq_true] at hclosed
    have hmarked : KeyBase (s.markModifier modifier active) := by
      refine ⟨h.shape.markModifier_shape hclosed _ _, h.senderSound, h.release, ?_, h.balanced⟩
      unfold markModifier
      dsimp only
      split_ifs with hactive
      · rw [hactive] at hsame
        exact nodup_append.mpr ⟨h.nodup, nodup_singleton _, by
          rintro a ha b hb rfl
          rw [mem_singleton.mp hb] at ha
          exact hsame (by simpa using ha)⟩
      · exact h.nodup.erase _
    refine enqueue_keyInv channels hmarked hclosed (.inl rfl) fun hopen => ?_
    refine (h.sound hclosed hopen).append ?_ fun hpending => ?_
    · rfl
    · exact hpending.of_modifier h.nodup hsame rfl

/-- So does a special key. -/
theorem sendSpecial_keyInv (h : KeyInv agreed s) (key : MobileSpecialKey) :
    KeyInv agreed (s.sendSpecial channels key).1 := by
  unfold sendSpecial
  split_ifs with hclosed
  · exact h
  · rw [Bool.not_eq_true] at hclosed
    refine enqueue_keyInv channels h.toKeyBase hclosed (.inr ⟨_, rfl⟩) fun hopen => ?_
    exact (h.sound hclosed hopen).append rfl fun hpending => hpending.of_special key

/-- So does a text. -/
theorem sendText_keyInv (h : KeyInv agreed s) (text : String) :
    KeyInv agreed (s.sendText channels text).1 := by
  unfold sendText
  split_ifs with hclosed
  · exact h
  · exact h
  · rw [Bool.not_eq_true] at hclosed
    refine enqueue_keyInv channels h.toKeyBase hclosed (.inl rfl) fun hopen => ?_
    exact (h.sound hclosed hopen).append rfl fun hpending => hpending.of_text text

/-- So does a release. -/
theorem releaseAll_keyInv (h : KeyInv agreed s) : KeyInv agreed (s.releaseAll channels).1 := by
  unfold releaseAll
  split_ifs with hclosed
  · exact h
  · rw [Bool.not_eq_true] at hclosed
    refine enqueue_keyInv channels (h.cancelOperations .cancelled).clearModifiers hclosed (.inl rfl)
      fun _ => ⟨nofun, fun _ => .released agreed h.balanced⟩

/-- So does closing. -/
theorem close_keyInv (h : KeyInv agreed s) : KeyInv agreed (s.close channels).1 := by
  have hshape := h.shape.perform_shape channels .close
  change KeyboardShape (s.close channels).1 at hshape
  unfold close at hshape ⊢
  cases hclose : s.closeFuture with
  | some future => exact h
  | none =>
    rw [hclose] at hshape
    have hsound := release.perform_sound channels h.senderSound h.release
    refine KeyBase.keyInv ⟨hshape, hsound.1, hsound.2, nodup_nil, ?_⟩ rfl
    change Safe ∅ (release.perform channels s.sender).1.accepted
    rcases release.perform_accepted channels s.sender with
      hsame | ⟨_, hmore⟩
    · rw [hsame]
      exact h.balanced
    · rw [hmore]
      exact safe_append.mpr ⟨h.balanced, nofun, trivial⟩

/-- So does a timeout. -/
theorem operationTimeout_keyInv (h : KeyInv agreed s) (id : Nat) :
    KeyInv agreed (s.operationTimeout id) := by
  unfold operationTimeout
  split_ifs
  · exact KeyBase.abort ⟨{ h.shape with futures := h.shape.futures }, h.senderSound, h.release,
      h.nodup, h.balanced⟩
  · exact h

/-! ## Going on -/

/-- Forgetting an operation that is not active changes nothing. -/
theorem forget_keyInv (h : KeyInv agreed s) {id : Nat} (hid : s.active.map (·.id) ≠ some id) :
    KeyInv agreed { s with invocations := s.invocations.filter (·.id ≠ id) } := by
  have hsame : activeInvocation { s with invocations := s.invocations.filter (·.id ≠ id) } =
      s.activeInvocation := by
    unfold activeInvocation
    cases hactive : s.active with
    | none => rfl
    | some operation =>
      have hne : operation.id ≠ id := fun heq => hid (by rw [hactive, ← heq]; rfl)
      simp only [Option.bind_some, find?_filter]
      congr 1
      funext i
      by_cases hi : i.id = operation.id <;> simp [hi, hne]
  refine ⟨⟨h.shape.withInvocations fun i hi => (mem_filter.mp hi).1, h.senderSound,
    h.release, h.nodup, h.balanced⟩, fun hopen hrunning => ?_⟩
  have hsound := h.sound hopen hrunning
  refine ⟨fun hcancelled => hsound.cancelled ?_, fun hnone => ?_⟩
  · rw [activeOutcome, hsame] at hcancelled
    exact hcancelled
  · rw [activeOutcome, hsame] at hnone
    rw [remaining, hsame]
    exact hsound.pending hnone

/-- The end of an operation that is not active is ignored. -/
theorem finish_inactive {id : Nat} (hid : s.active.map (·.id) ≠ some id)
    (error : Option InputSenderErrorCode) : s.finish channels id error = s := by
  unfold finish
  split
  · rfl
  · rename_i operation hactive
    refine if_pos fun heq => hid ?_
    rw [hactive, ← heq]
    rfl

/-- The end of the active operation. -/
theorem finish_keyInv (h : KeyBase s) {operation : KeyboardOperation}
    (hactive : s.active = some operation) (hgone : ∀ i ∈ s.invocations, i.id ≠ operation.id)
    {error : Option InputSenderErrorCode}
    (hcancelled : error = some .cancelled → s.closed = false → s.sender.reliableFailed = false →
      downKeys s.sender.accepted = ∅ ∧ heldModifiers s.sender.stream = ∅)
    (hpending : error = none → s.closed = false → s.sender.reliableFailed = false →
      Pending agreed s.sender (s.pending.flatMap (·.task.calls)) s.activeModifiers) :
    KeyInv agreed (s.finish channels operation.id error) := by
  have hsettled := h.shape.settled_shape hactive hgone error
  unfold finish
  rw [hactive]
  dsimp only
  rw [if_neg (not_not_intro rfl)]
  split
  · refine pump_keyInv channels ⟨⟨hsettled, h.senderSound, h.release, h.nodup, h.balanced⟩, ?_⟩
    exact fun hopen hrunning => ⟨nofun, fun _ => hpending rfl hopen hrunning⟩
  · refine ⟨h.clearModifiers.cancelOperations .cancelled,
      fun hopen hrunning => ⟨nofun, fun _ => ?_⟩⟩
    obtain ⟨hdown, hheld⟩ := hcancelled rfl hopen hrunning
    exact .nothing agreed h.balanced hdown hheld
  · exact KeyBase.abort ⟨hsettled, h.senderSound, h.release, h.nodup, h.balanced⟩

/-- An active operation goes on. -/
theorem resumeActive_keyInv (h : KeyInv agreed s) {invocation : KeyboardInvocation}
    {operation : KeyboardOperation} (hactive : s.active = some operation)
    (hfound : s.activeInvocation = some invocation) {error : Option InputSenderErrorCode}
    (houtcome : s.activeOutcome = some error) :
    (invocation.next = none ∨ error ≠ none →
      KeyInv agreed (finish channels operation.id error
        { s with invocations := s.invocations.filter (·.id ≠ operation.id) })) ∧
    ∀ next, error = none → invocation.next = some next →
      KeyInv agreed (call channels operation.id next.2 none
        { s with invocations := s.invocations.filter (·.id ≠ operation.id) }) := by
  have hgone := KeyboardShape.answered_gone s operation.id
  have hrest : KeyBase { s with
      invocations := s.invocations.filter (·.id ≠ operation.id) } :=
    ⟨h.shape.answered_shape operation.id, h.senderSound, h.release, h.nodup, h.balanced⟩
  have hpending : error = none → s.closed = false → s.sender.reliableFailed = false →
      Pending agreed s.sender s.remaining s.activeModifiers := by
    rintro rfl hopen hrunning
    exact (h.sound hopen hrunning).pending fun code => by simp [houtcome]
  rw [remaining, hfound, Option.bind_some] at hpending
  refine ⟨fun hlast => ?_, fun next hdone hnext => ?_⟩
  · refine finish_keyInv channels hrest hactive hgone (fun hcancelled hopen hrunning => ?_)
      fun hdone hopen hrunning => ?_
    · exact (h.sound hopen hrunning).cancelled (hcancelled ▸ houtcome)
    · have hnone : invocation.next = none := hlast.resolve_right (absurd hdone)
      have hmoved := hpending hdone hopen hrunning
      rw [hnone] at hmoved
      exact hmoved
  · have hopen : s.closed = false := by
      refine Bool.eq_false_iff.mpr fun hclosed => ?_
      have hended := (h.shape.ended hclosed).1
      rw [waiting, hactive] at hended
      cases hended
    refine call_keyInv channels (hrest.shape.call_shape channels hactive next.2 (by simp))
      h.senderSound h.release h.nodup h.balanced hactive rfl hgone fun hrunning => ?_
    have hmoved := hpending hdone hopen hrunning
    rw [hnext] at hmoved
    exact hmoved

/-- So does an operation that goes on. -/
theorem resumeOperation_keyInv (h : KeyInv agreed s) (id : Nat) :
    KeyInv agreed (s.resumeOperation channels id) := by
  unfold resumeOperation
  cases hinvocation : s.invocations.find? (·.id = id) with
  | none => exact h
  | some invocation =>
    have hmem := mem_of_find?_eq_some hinvocation
    have hid : invocation.id = id := by simpa using find?_some hinvocation
    dsimp only
    cases houtcome : outcome s.sender invocation.awaited with
    | none => exact h
    | some error =>
      dsimp only
      by_cases hactive : s.active.map (·.id) = some id
      · obtain ⟨operation, hoperation, hsame⟩ := Option.map_eq_some_iff.mp hactive
        have hfound : s.activeInvocation = some invocation := by
          rw [activeInvocation, hoperation, Option.bind_some, hsame, hinvocation]
        have hended : s.activeOutcome = some error := by
          rw [activeOutcome, hfound, Option.bind_some, houtcome]
        subst hsame
        have hresume := resumeActive_keyInv channels h hoperation hfound hended
        cases error with
        | some code => exact hresume.1 (.inr nofun)
        | none =>
          cases hnext : invocation.next with
          | none => exact hresume.1 (.inl hnext)
          | some next =>
            have hgen : s.generation = next.1 :=
              ((h.shape.generation invocation hmem next hnext).2.mpr (by rw [hactive, hid])).symm
            dsimp only
            rw [if_neg (not_not_intro hgen)]
            exact hresume.2 next rfl hnext
      · have hfinish : ∀ error, KeyInv agreed (finish channels id error
            { s with invocations := s.invocations.filter (·.id ≠ id) }) := fun error => by
          have hsame : finish channels id error
              { s with invocations := s.invocations.filter (·.id ≠ id) } =
              { s with invocations := s.invocations.filter (·.id ≠ id) } := by
            apply finish_inactive
            exact hactive
          rw [hsame]
          exact forget_keyInv h hactive
        split
        · rename_i generation next hnext
          split_ifs with hgen
          · exact hfinish _
          · rw [not_not] at hgen
            have hcurrent := (h.shape.generation invocation hmem _ hnext).2.mp hgen.symm
            rw [hid] at hcurrent
            exact absurd hcurrent hactive
        · exact hfinish _

/-! ## What others do with the sender -/

/-- The outcome of the active operation after a step of the sender. -/
theorem activeOutcome_mono {sender : RemoteInputSender}
    (hextends : s.sender.completions <+: sender.completions)
    {result : Option InputSenderErrorCode} (h : s.activeOutcome = some result) :
    activeOutcome { s with sender } = some result := by
  obtain ⟨invocation, hfound, houtcome⟩ := Option.bind_eq_some_iff.mp h
  exact Option.bind_eq_some_iff.mpr ⟨invocation, hfound, outcome_mono hextends houtcome⟩

/-- Others queue events that are not about keys. -/
theorem plain_keyInv (h : KeyInv agreed s) {sender : RemoteInputSender}
    (hsender : SenderSound sender) (hrelease : ReleaseSound sender)
    (hextends : s.sender.completions <+: sender.completions)
    (hadds : AddsPlain s.sender sender) : KeyInv agreed { s with sender } := by
  obtain ⟨events, hadds, hplain⟩ := hadds
  refine ⟨⟨h.shape.withSender sender, hsender, hrelease, h.nodup, ?_⟩, fun hopen hrunning => ?_⟩
  · change Safe ∅ sender.accepted
    rw [hadds.accepted]
    exact safe_append.mpr ⟨h.balanced, safe_plain hplain _⟩
  · have hbefore : s.sender.reliableFailed = false := Bool.eq_false_iff.mpr fun hfailed =>
      absurd ((hadds.failed hfailed).symm.trans hrunning) nofun
    have hsound := h.sound hopen hbefore
    refine ⟨fun hcancelled => ?_, fun hnone => ?_⟩
    · obtain ⟨invocation, hfound, houtcome⟩ := Option.bind_eq_some_iff.mp hcancelled
      have hsame : s.activeOutcome = some (some .cancelled) := Option.bind_eq_some_iff.mpr
        ⟨invocation, hfound, outcome_cancelled hextends (hadds.cancelled hrunning) houtcome⟩
      obtain ⟨hdown, hheld⟩ := hsound.cancelled hsame
      change downKeys sender.accepted = ∅ ∧ heldModifiers sender.stream = ∅
      rw [hadds.accepted, hadds.stream hrunning, downKeys, foldl_append,
        foldl_plain (fun _ => Plain.pressKeys) hplain, heldModifiers,
        pressedKeys_append, foldl_plain (fun _ => Plain.apply) hplain]
      exact ⟨hdown, hheld⟩
    · exact (hsound.pending fun code hcode =>
        hnone code (activeOutcome_mono hextends hcode)).of_plain
        hadds hplain hrunning

/-- A release of others is noticed, or there is nothing that it could change: no modifier
is active, a key is still to be handed over, or an operation has failed. -/
def ReleaseNoticed (s : MobileKeyboardController) : Prop :=
  s.activeModifiers = [] ∨ (∃ call ∈ s.remaining, call.isKey = true) ∨
    (∃ invocation, s.activeInvocation = some invocation ∧
      ∃ task ∈ s.sender.reliableQueue, invocation.awaited = .task task.id) ∨
    ∃ code, s.activeOutcome = some (some code)

/-- Others release what is pressed. -/
theorem released_keyInv (h : KeyInv agreed s) {sender : RemoteInputSender}
    (hsender : SenderSound sender) (hrelease : ReleaseSound sender)
    (hextends : s.sender.completions <+: sender.completions)
    (hreleases : Releases s.sender sender)
    (hquieted : sender.reliableFailed = false → Quieted sender)
    (hnoticed : agreed → s.ReleaseNoticed) : KeyInv agreed { s with sender } := by
  by_cases hsame : sender.feed = s.sender.feed
  · exact plain_keyInv h hsender hrelease hextends (.of_eq hsame)
  have hbalanced : Safe ∅ sender.accepted := by
    rcases hreleases.accepted with hsame | hmore | hmore
    · rw [hsame]
      exact h.balanced
    · rw [hmore]
      exact safe_append.mpr ⟨h.balanced, nofun, trivial⟩
    · rw [hmore]
      exact safe_append.mpr ⟨h.balanced, nofun, trivial⟩
  refine ⟨⟨h.shape.withSender sender, hsender, hrelease, h.nodup, hbalanced⟩,
    fun hopen hrunning => ?_⟩
  have hquiet := hquieted hrunning
  have hdown := downKeys_endsReleased hquiet.accepted
  have hheld := heldModifiers_endsReleased hquiet.ends
  have hbefore : s.sender.reliableFailed = false := Bool.eq_false_iff.mpr fun hfailed =>
    absurd ((hreleases.failed hfailed).symm.trans hrunning) nofun
  refine ⟨fun _ => ⟨hdown, hheld⟩, fun hnone => ?_⟩
  refine ((h.sound hopen hbefore).pending fun code hcode => hnone code
    (activeOutcome_mono hextends hcode)).of_release hbalanced hdown hheld fun hagreed => ?_
  rcases hnoticed hagreed with hnothing | hkey | ⟨invocation, hfound, task, htask, hawaited⟩ |
    ⟨code, hcode⟩
  · exact .inl hnothing
  · exact .inr hkey
  · have hcancelled := (hreleases.queued hrunning).resolve_left hsame task htask
    refine absurd (Option.bind_eq_some_iff.mpr ⟨invocation, hfound, ?_⟩) (hnone .cancelled)
    rw [hawaited]
    exact cancelled_lookup hsender.queue hcancelled
  · exact absurd (activeOutcome_mono hextends hcode) (hnone code)

/-- The releases of others are noticed. -/
def Noticed (s : MobileKeyboardController) (input : InputDataChannels × KeyboardInput) : Prop :=
  match input.2 with
  | .shared action => action.val.releases = true → s.ReleaseNoticed
  | _ => True

theorem shared_keyInv (h : KeyInv agreed s) (action : SharedAction)
    (hnoticed : agreed → action.val.releases = true → s.ReleaseNoticed) :
    KeyInv agreed { s with sender := (action.val.perform channels s.sender).1 } := by
  have hsender := step_senderSound h.senderSound (channels, action.val)
  have hrelease :=
    perform_releaseSound channels action.val h.release h.senderSound.closing
  have hextends := (perform_frame channels action.val s.sender).completions
  by_cases hreleases : action.val.releases = true
  · refine released_keyInv h hsender hrelease hextends
      (perform_cancels channels hreleases h.senderSound.queue) (fun hrunning => ?_)
      fun hagreed => hnoticed hagreed hreleases
    refine perform_releases channels h.senderSound h.release ?_ hrunning
    revert hreleases
    cases action.val <;> simp [SenderAction.releases]
  · rw [Bool.not_eq_true] at hreleases
    exact plain_keyInv h hsender hrelease hextends
      (perform_adds channels action.val action.property hreleases s.sender)

/-- Every input keeps the invariant.  What is active agrees with what the Host will hold
as long as the releases of others are noticed. -/
theorem perform_keyInv (h : KeyInv agreed s) (input : KeyboardInput)
    (hnoticed : agreed → s.Noticed (channels, input)) :
    KeyInv agreed (input.perform channels s).1 := by
  cases input with
  | setModifier modifier active => exact setModifier_keyInv channels h modifier active
  | sendSpecial key => exact sendSpecial_keyInv channels h key
  | sendText text => exact sendText_keyInv channels h text
  | releaseAll => exact releaseAll_keyInv channels h
  | close => exact close_keyInv channels h
  | resumeOperation id => exact resumeOperation_keyInv channels h id
  | operationTimeout id => exact operationTimeout_keyInv h id
  | shared action => exact shared_keyInv channels h action hnoticed

/-! ## Runs -/

theorem KeyInv.mono {agreed' : Prop} (h : KeyInv agreed s) (hagreed : agreed' → agreed) :
    KeyInv agreed' s := by
  refine ⟨h.toKeyBase, fun hopen hrunning => ?_⟩
  have hsound := h.sound hopen hrunning
  refine ⟨hsound.cancelled, fun hnone => ?_⟩
  obtain ⟨hsafe, hdown, hagree⟩ := hsound.pending hnone
  exact ⟨hsafe, hdown, fun h => hagree (hagreed h)⟩

/-- Every run keeps the balance. -/
theorem run_keyInv (encoder : InputEncoder) (sessionId : Bytes)
    (inputs : List (InputDataChannels × KeyboardInput)) :
    KeyInv (keyboardMachine.Guarded Noticed (new (initial encoder sessionId)) inputs)
      (keyboardMachine.run (new (initial encoder sessionId)) inputs) := by
  induction inputs using reverseRecOn with
  | nil => exact new_keyInv _ encoder sessionId
  | append_singleton inputs input ih =>
    rw [keyboardMachine.run_snoc, keyboardMachine.guarded_append]
    refine perform_keyInv input.1 (ih.mono fun hguarded => hguarded.1) input.2 fun hguarded => ?_
    exact hguarded.2.1

theorem run_calls {s : MobileKeyboardController} (h : KeyboardShape s)
    (later : List (InputDataChannels × KeyboardInput)) :
    KeyboardShape (keyboardMachine.run s later) ∧ Calls s (keyboardMachine.run s later) :=
  keyboardMachine.run_invariant (fun s' => KeyboardShape s' ∧ Calls s s')
    (fun _ input h _ => ⟨h.1.perform_shape input.1 input.2,
      h.2.trans (perform_calls input.1 h.1 input.2)⟩) ⟨h, .refl s⟩
    (keyboardMachine.guarded_true s later)

/-- Between two calls of one operation no other operation makes a call. -/
theorem KeyboardShape.calls_together (h : KeyboardShape s) {id : Nat} {call call' : KeyboardCall}
    {before middle after : List (Nat × KeyboardCall)}
    (hcalls : s.calls = before ++ (id, call) :: (middle ++ (id, call') :: after)) :
    ∀ c ∈ middle, c.1 = id := by
  intro c hc
  have hordered := h.calls
  rw [hcalls, map_append, pairwise_append, map_cons, pairwise_cons,
    map_append, pairwise_append] at hordered
  obtain ⟨_, ⟨hfirst, _, _, hlast⟩, _⟩ := hordered
  have hmem : c.1 ∈ middle.map (·.1) := mem_map_of_mem hc
  exact Nat.le_antisymm (hlast _ hmem _ (by simp)) (hfirst _ (mem_append_left _ hmem))

/-- **The balance of the keyboard.**  In every run, between two presses of a key there is
its release or a release of everything, the calls of one operation stand together, an
operation that has completed makes no further call, and what is counted agrees with what
is queued.  As long as the releases of others are noticed, the active modifiers of an open
controller that has nothing to do are the ones that the Host holds down. -/
theorem keyboard_balance (encoder : InputEncoder) (sessionId : Bytes)
    (inputs : List (InputDataChannels × KeyboardInput)) :
    let s := keyboardMachine.run (new (initial encoder sessionId)) inputs
    (∀ before middle after usage bits bits',
      s.sender.accepted =
        before ++ .keyboard 1 usage bits :: (middle ++ .keyboard 1 usage bits' :: after) →
      .releaseAllInput ∈ middle ∨ ∃ bits'', .keyboard 2 usage bits'' ∈ middle) ∧
      (∀ id call call' before middle after,
        s.calls = before ++ (id, call) :: (middle ++ (id, call') :: after) →
        ∀ c ∈ middle, c.1 = id) ∧
      (∀ later, ∀ id ∈ s.completions.map (·.1),
        (keyboardMachine.run s later).calls.filter (·.1 = id) = s.calls.filter (·.1 = id)) ∧
      (s.pendingTextBytes = ((s.waiting.map (·.textBytes)).sum : Nat) ∧
        s.pendingTextBytes ≤ maxPendingMobileKeyboardTextBytes ∧
        s.waiting.length ≤ maxPendingMobileKeyboardOperations) ∧
      (keyboardMachine.Guarded Noticed (new (initial encoder sessionId)) inputs →
        s.closed = false → s.waiting = [] → s.sender.reliableFailed = false →
        heldModifiers s.sender.stream = modifierUsages s.activeModifiers) := by
  intro s
  have hinv : KeyInv _ s := run_keyInv encoder sessionId inputs
  refine ⟨fun before middle after usage bits bits' heq => Safe.between (heq ▸ hinv.balanced),
    fun id call call' before middle after heq => hinv.shape.calls_together heq,
    fun later id hid => ?_,
    ⟨hinv.shape.bytes, hinv.shape.withinBytes, hinv.shape.withinCount⟩,
    fun hguarded hopen hidle hrunning => ?_⟩
  · obtain ⟨_, new, hcalls, hnew⟩ := (run_calls hinv.shape later).2
    have hnone : new.filter (·.1 = id) = [] := filter_eq_nil_iff.mpr fun c hc heq => by
      rw [decide_eq_true_eq] at heq
      exact hnew c hc (heq ▸ hid)
    rw [hcalls, filter_append, hnone, append_nil]
  · have hparts := append_eq_nil_iff.mp hidle
    have hnone : s.activeInvocation = none := by
      rw [activeInvocation, Option.toList_eq_nil_iff.mp hparts.1]
      rfl
    have hagree := ((hinv.sound hopen hrunning).pending fun code => by
      simp [activeOutcome, hnone]).agree hguarded
    rw [remaining, hnone, hparts.2] at hagree
    simpa using hagree

/-- The encoder on keys and releases: a field that is assigned is written, whatever its value. -/
def sampleEncoder : InputEncoder where
  reliableBytes m := (Protobuf.encodeFields
    (Protobuf.messageField 1 [⟨1, .varint 1⟩, ⟨2, .varint 0⟩] ++
      Protobuf.bytesField 2 m.sessionId ++ [⟨3, .varint m.sequence⟩] ++
      match m.event with
      | some (.keyboard action usbHidUsage modifierBits) => Protobuf.messageField 11
          [⟨1, .varint (.ofInt action.toInt)⟩, ⟨2, .varint usbHidUsage.toUInt64⟩,
            ⟨3, .varint modifierBits.toUInt64⟩]
      | _ => Protobuf.messageField 14 [])).length
  fastBytes _ := 0

/-- Channels that take everything. -/
def willing : InputDataChannels := ⟨false, some 0, true, some 0⟩

/-- The reliable channel has no room. -/
def full : InputDataChannels := { willing with bufferedAmount := some maxReliableBufferedAmount }

/-- A modifier has been pressed, and a special key waits for the channel. -/
def sampleKeys : List (InputDataChannels × KeyboardInput) :=
  [(willing, .setModifier .shift true), (willing, .shared ⟨.sendCompleted 0, rfl⟩),
    (willing, .resumeOperation 0), (full, .sendSpecial .tab)]

/-- A gesture releases everything while the special key waits: its operation ends with a
cancellation, and the controller forgets the modifier. -/
theorem keyboard_balance_sample :
    let inputs := sampleKeys ++ [(willing, .shared ⟨.releaseAll, rfl⟩),
      (willing, .resumeOperation 1), (willing, .shared ⟨.sendCompleted 2, rfl⟩)]
    let s := keyboardMachine.run (new (initial sampleEncoder (replicate 16 1))) inputs
    (keyboardMachine.run (new (initial sampleEncoder (replicate 16 1)))
        sampleKeys).activeModifiers = [.shift] ∧ s.activeModifiers = [] ∧
      heldModifiers s.sender.stream = modifierUsages s.activeModifiers := by
  intro inputs s
  have hnoticed : keyboardMachine.Guarded Noticed
      (new (initial sampleEncoder (replicate 16 1))) inputs := by
    refine (Machine.guarded_append _ sampleKeys _).mpr ⟨?_, ?_⟩
    · exact ⟨trivial, nofun, trivial, trivial, trivial⟩
    · exact ⟨fun _ => .inr (.inl (by decide +kernel)), trivial, nofun, trivial⟩
  exact ⟨by decide +kernel, by decide +kernel,
    (keyboard_balance sampleEncoder (replicate 16 1) inputs).2.2.2.2 hnoticed
      (by decide +kernel) (by decide +kernel) (by decide +kernel)⟩

/-- A modifier is pressed.  When the controller has nothing to do any more, a gesture
releases everything: the Host holds nothing, but the controller remembers the modifier. -/
theorem modifiers_forgotten :
    let s := keyboardMachine.run (new (initial sampleEncoder (replicate 16 1)))
      ([.setModifier .shift true, .shared ⟨.sendCompleted 0, rfl⟩, .resumeOperation 0,
        .shared ⟨.releaseAll, rfl⟩, .shared ⟨.sendCompleted 1, rfl⟩].map fun input =>
          (willing, input))
    (s.closed = false ∧ s.waiting = [] ∧ s.sender.reliableFailed = false) ∧
      s.sender.reliableQueue = [] ∧ s.activeModifiers = [.shift] ∧
      heldModifiers s.sender.stream = ∅ := by
  decide +kernel

end MobileKeyboardController

end Client

end Roammand
