import Roammand.Client.PairingEngine
import Roammand.Host.Pairing

/-!
# Cancelling a pairing

A pairing that has been cancelled, rejected or has failed should leave the trusted Hosts alone.
The engine looks at its cancellation when it takes up the next event, but no more after it has
taken up the Host's decision: a call of `cancel` that comes while the decision is being
decrypted, or while the Host is being saved, is reported as a cancellation, and the Host is
saved all the same.

Main results:

- Definition `ControllerPairingEngine.accepting`: the run has taken up an acceptance.
- Definition `ControllerPairingEngine.Continued` with theorem `continueAt_continued`: everything
  that a section of the run can do.
- Theorem `ControllerPairingEngine.cancellation_saves_nothing`: runs in which no acceptance is
  cancelled save nothing after a cancellation, and nothing unless they report acceptance.
- Theorem `ControllerPairingEngine.saved_after_cancel`: a run that saves a Host after `cancel`
  has returned.
-/

namespace Roammand

namespace Client

open Library Protocol Fallible Host Machine

namespace ControllerPairingEngine

/-- The run has taken up a decision that accepts the controller, and has not yet reported it. -/
def accepting (setting : PairingSetting) (e : ControllerPairingEngine) : Bool :=
  match e.point with
  | .openingDecision ciphertext =>
    match decide? setting ciphertext e with
    | .ok (some _) => true
    | _ => false
  | .saving _ | .persisting _ _ | .saveReturned true => true
  | _ => false

/-- The input cancels a run that has taken up an acceptance. -/
def cancelsAcceptance (setting : PairingSetting) (e : ControllerPairingEngine) : Input → Bool
  | .cancel | .close => !e.snapshot.isTerminal && e.accepting setting
  | _ => false

/-! ## Sections -/

/-- A point before the decision has been taken up. -/
def early : Point → Bool
  | .openingDecision _ | .saving _ | .persisting _ _ | .saveReturned _ => false
  | .finishing | .closingSignaling | .done => false
  | _ => true

/-- The run has come to its end. -/
def ended : Point → Bool
  | .finishing | .closingSignaling | .done => true
  | _ => false

/-- Nothing is saved, and a pairing that has not ended goes on. -/
structure Unsaved (e e' : ControllerPairingEngine) : Prop where
  cancelled : e'.cancelled = e.cancelled
  started : e'.started = e.started
  repository : e'.repository = e.repository
  saves : e'.saves = e.saves
  goesOn : e.snapshot.isTerminal = false → e'.snapshot.isTerminal = false

instance : IsPreorder ControllerPairingEngine Unsaved where
  refl _ := ⟨rfl, rfl, rfl, rfl, id⟩
  trans _ _ _ h h' :=
    ⟨h'.cancelled.trans h.cancelled, h'.started.trans h.started,
      h'.repository.trans h.repository, h'.saves.trans h.saves, h'.goesOn ∘ h.goesOn⟩

theorem unsaved_refl (e : ControllerPairingEngine) : Unsaved e e := Std.Refl.refl e

section sections

variable {setting : PairingSetting} {resumption : Resumption}

theorem publish_unsaved {state : ControllerPairingState} (sasWords : List String)
    (expiresAtUnixMs : Int)
    (h : ∀ e : ControllerPairingEngine,
      (publish state sasWords expiresAtUnixMs e).snapshot.isTerminal = false) :
    Keeps Unsaved (modify (publish state sasWords expiresAtUnixMs) : Operation PUnit) :=
  .modify fun e => ⟨rfl, rfl, rfl, rfl, fun _ => h e⟩

theorem currentInvitation_unsaved : Keeps Unsaved currentInvitation :=
  .bind .get fun _ => .orThrow

theorem startNextEvent_unsaved (expiresAtUnixMs now : Int) :
    Keeps Unsaved (startNextEvent expiresAtUnixMs now) :=
  .bind .require fun _ => .bind .get fun _ => .require

theorem endNextEvent_unsaved (expiresAtUnixMs : Int) :
    Keeps Unsaved (endNextEvent expiresAtUnixMs resumption) := by
  unfold endNextEvent
  cases resumption.event with
  | timeout => exact .throw _
  | error => exact .throw _
  | none =>
    exact .bind .get fun _ => .bind .require fun _ => .bind .require fun _ => .throw _
  | event event =>
    exact .bind .get fun _ => .bind .require fun _ => .bind .require fun _ => .pure _

theorem endNextRouted_unsaved (expiresAtUnixMs : Int) :
    Keeps Unsaved (endNextRouted expiresAtUnixMs resumption) := by
  refine .bind (endNextEvent_unsaved _) fun event => ?_
  cases event with
  | routed => exact .pure _
  | closed => exact .throw _
  | remoteError => exact .throw _

theorem decodeMessage_unsaved (crypto : PairingCrypto) (encoded : Bytes) :
    Keeps Unsaved (decodeMessage crypto encoded) :=
  .bind .require fun _ => .ofResult

theorem checkHostEnvelope_unsaved (sequence : UInt64) (routed : Bytes × Bytes × Bytes) :
    Keeps Unsaved (checkHostEnvelope setting sequence routed) :=
  .bind .get fun _ => .bind currentInvitation_unsaved fun _ => .bind .require fun _ =>
    .bind (decodeMessage_unsaved _ _) fun _ => .bind .orThrow fun _ => .bind .require fun _ =>
    .bind .require fun _ => .pure _

theorem beginAuthenticatedPairing_unsaved :
    Keeps Unsaved (beginAuthenticatedPairing resumption) :=
  .bind currentInvitation_unsaved fun _ => .bind .require fun _ => .bind .orThrow fun _ =>
    .bind (.modify fun _ => ⟨rfl, rfl, rfl, rfl, id⟩) fun _ => .pure _

theorem beginAuthenticatedPairing_early :
    Returns (fun p => early p = true) (beginAuthenticatedPairing resumption) :=
  .bind fun _ => .bind fun _ => .bind fun _ => .bind fun _ => .pure rfl

/-- The sections before the decision is awaited save nothing. -/
theorem continueAt_unsaved {p : Point} (hp : early p = true) :
    Keeps Unsaved (continueAt setting resumption p) := by
  cases p with
  | connecting request => exact .bind .require fun _ => .pure _
  | joining request =>
    cases request with
    | qr =>
      exact .bind .orThrow fun _ => .bind currentInvitation_unsaved fun _ => .bind .require
        fun _ => .bind (.modify fun _ => ⟨rfl, rfl, rfl, rfl, id⟩) fun _ => .bind .require
        fun _ => beginAuthenticatedPairing_unsaved
    | desktopCode code endpoint =>
      exact .bind .orThrow fun _ => .bind .require fun _ =>
        .bind (publish_unsaved [] _ fun _ => rfl) fun _ => .bind (startNextEvent_unsaved _ _)
        fun _ => .pure _
  | awaitingInvitation code endpoint joined =>
    exact .bind (endNextRouted_unsaved _) fun _ => .bind (decodeMessage_unsaved _ _) fun _ =>
      .bind .orThrow fun _ => .bind .require fun _ => .bind .require fun _ =>
      .bind (.modify fun _ => ⟨rfl, rfl, rfl, rfl, id⟩) fun _ =>
      beginAuthenticatedPairing_unsaved
  | derivingPublicKey =>
    exact .bind .get fun _ => .bind currentInvitation_unsaved fun _ => .bind .orThrow fun _ =>
      .bind .ofResult fun _ => .bind .ofResult fun _ =>
      .bind (.modify fun _ => ⟨rfl, rfl, rfl, rfl, id⟩) fun _ => .pure _
  | derivingSecret publicKey =>
    exact .bind .get fun _ => .bind currentInvitation_unsaved fun _ => .bind .orThrow fun _ =>
      .bind .ofResult fun _ => .pure _
  | derivingKeys publicKey secret =>
    exact .bind .get fun _ => .bind .orThrow fun _ => .bind .ofResult fun _ =>
      .bind (.modify fun _ => ⟨rfl, rfl, rfl, rfl, id⟩) fun _ => .pure _
  | signing publicKey =>
    exact .bind .get fun _ => .bind currentInvitation_unsaved fun _ => .bind .orThrow fun _ =>
      .bind .orThrow fun _ => .bind (publish_unsaved [] _ fun _ => rfl) fun _ =>
      .bind (.modify fun _ => ⟨rfl, rfl, rfl, rfl, id⟩) fun _ => .pure _
  | relayingHello =>
    exact .bind .require fun _ => .bind currentInvitation_unsaved fun _ =>
      .bind (startNextEvent_unsaved _ _) fun _ => .pure _
  | awaitingProof =>
    exact .bind currentInvitation_unsaved fun _ => .bind (endNextRouted_unsaved _) fun _ =>
      .bind (checkHostEnvelope_unsaved _ _) fun _ => .pure _
  | openingProof ciphertext =>
    exact .bind .get fun _ => .bind .ofResult fun _ => .bind .orThrow fun _ =>
      .bind currentInvitation_unsaved fun _ => .bind .require fun _ => .bind .orThrow fun _ =>
      .bind .require fun _ => .bind .orThrow fun _ => .bind .orThrow fun _ => .bind .orThrow
      fun _ => .bind .require fun _ => .pure _
  | verifyingProof proof =>
    exact .bind .get fun _ => .bind currentInvitation_unsaved fun _ => .bind .orThrow fun _ =>
      .bind .require fun _ => .pure _
  | sealingReady =>
    exact .bind .get fun _ => .bind .ofResult fun _ =>
      .bind (.modify fun _ => ⟨rfl, rfl, rfl, rfl, id⟩) fun _ => .pure _
  | relayingReady =>
    exact .bind .require fun _ => .bind .get fun _ => .bind currentInvitation_unsaved fun _ =>
      .bind .orThrow fun _ => .bind .ofResult fun _ =>
      .bind (publish_unsaved _ _ fun _ => rfl) fun _ => .bind (startNextEvent_unsaved _ _)
      fun _ => .pure _
  | awaitingDecision =>
    exact .bind currentInvitation_unsaved fun _ => .bind (endNextRouted_unsaved _) fun _ =>
      .bind (checkHostEnvelope_unsaved _ _) fun _ => .pure _
  | idle => exact .pure _
  | openingDecision | saving | persisting | saveReturned => cases hp
  | finishing | closingSignaling | done => cases hp

/-- The sections before the decision is awaited lead to points before it. -/
theorem continueAt_early {p : Point} (hp : early p = true) (hdecision : p ≠ .awaitingDecision) :
    Returns (fun q => early q = true) (continueAt setting resumption p) := by
  cases p with
  | connecting request => exact .bind fun _ => .pure rfl
  | joining request =>
    cases request with
    | qr =>
      exact .bind fun _ => .bind fun _ => .bind fun _ => .bind fun _ => .bind fun _ =>
        beginAuthenticatedPairing_early
    | desktopCode code endpoint =>
      exact .bind fun _ => .bind fun _ => .bind fun _ => .bind fun _ => .pure rfl
  | awaitingInvitation code endpoint joined =>
    exact .bind fun _ => .bind fun _ => .bind fun _ => .bind fun _ => .bind fun _ =>
      .bind fun _ => beginAuthenticatedPairing_early
  | derivingPublicKey =>
    exact .bind fun _ => .bind fun _ => .bind fun _ => .bind fun _ => .bind fun _ =>
      .bind fun _ => .pure rfl
  | derivingSecret publicKey =>
    exact .bind fun _ => .bind fun _ => .bind fun _ => .bind fun _ => .pure rfl
  | derivingKeys publicKey secret =>
    exact .bind fun _ => .bind fun _ => .bind fun _ => .bind fun _ => .pure rfl
  | signing publicKey =>
    exact .bind fun _ => .bind fun _ => .bind fun _ => .bind fun _ => .bind fun _ =>
      .bind fun _ => .pure rfl
  | relayingHello => exact .bind fun _ => .bind fun _ => .bind fun _ => .pure rfl
  | awaitingProof => exact .bind fun _ => .bind fun _ => .bind fun _ => .pure rfl
  | openingProof ciphertext =>
    exact .bind fun _ => .bind fun _ => .bind fun _ => .bind fun _ => .bind fun _ =>
      .bind fun _ => .bind fun _ => .bind fun _ => .bind fun _ => .bind fun _ => .bind fun _ =>
      .pure rfl
  | verifyingProof proof =>
    exact .bind fun _ => .bind fun _ => .bind fun _ => .bind fun _ => .pure rfl
  | sealingReady => exact .bind fun _ => .bind fun _ => .bind fun _ => .pure rfl
  | relayingReady =>
    exact .bind fun _ => .bind fun _ => .bind fun _ => .bind fun _ => .bind fun _ =>
      .bind fun _ => .bind fun _ => .pure rfl
  | awaitingDecision => exact absurd rfl hdecision
  | idle => exact .pure rfl
  | openingDecision | saving | persisting | saveReturned => cases hp
  | finishing | closingSignaling | done => cases hp

/-- An event is not taken up after a cancellation. -/
theorem endNextRouted_not_cancelled (expiresAtUnixMs : Int) (e : ControllerPairingEngine) :
    wp (endNextRouted expiresAtUnixMs resumption)
      (fun r _ => ∀ routed, r = .ok routed → e.cancelled = false) e := by
  unfold endNextRouted endNextEvent ensureNotExpired
  cases resumption.event with
  | timeout =>
    rintro routed ⟨⟩
  | error =>
    rintro routed ⟨⟩
  | none =>
    simp only [wp_bind, wp_get, andThen_ok, wp_require, andThen_error, wp_throw]
    refine ⟨fun _ => ⟨fun _ => ?_, fun _ => ?_⟩, fun _ => ?_⟩ <;> rintro routed ⟨⟩
  | event event =>
    simp only [wp_bind, wp_get, andThen_ok, wp_require, andThen_error, wp_pure]
    refine ⟨fun h => ⟨fun _ => ?_, fun _ => ?_⟩, fun _ => ?_⟩
    · cases event with
      | routed => exact fun _ _ => h
      | closed =>
        rintro routed ⟨⟩
      | remoteError =>
        rintro routed ⟨⟩
    · rintro routed ⟨⟩
    · rintro routed ⟨⟩

/-- The decision is taken up only by a run that has not been cancelled. -/
theorem receivedDecision_point (e : ControllerPairingEngine) :
    wp (receivedDecision setting resumption)
      (fun r _ => ∀ q, r = .ok q → (∃ ciphertext, q = .openingDecision ciphertext) ∧
        e.cancelled = false) e := by
  unfold receivedDecision currentInvitation
  simp only [wp_bind, wp_get, andThen_ok, wp_orThrow]
  refine ⟨fun invitation _ => ?_, fun _ => ?_⟩
  · refine wp_mono (endNextRouted_not_cancelled _ e) ?_
    rintro (failure | routed) e' h
    · rintro q ⟨⟩
    · simp only [andThen_ok, wp_bind]
      refine wp_mono (m := checkHostEnvelope setting 2 routed) (Q := fun _ _ => True) trivial ?_
      rintro (failure | ciphertext) e'' -
      · rintro q ⟨⟩
      · rintro q ⟨⟩
        exact ⟨⟨ciphertext, rfl⟩, h routed rfl⟩
  · rintro q ⟨⟩

/-- Everything that a section of the run can do. -/
inductive Continued (setting : PairingSetting) (e : ControllerPairingEngine) :
    Point → Except PairingFailure Point → ControllerPairingEngine → Prop
  | unsaved {p result e'} (same : Unsaved e e') (notReturned : p ≠ .saveReturned true)
      (point : ∀ q, result = .ok q → early q = true) : Continued setting e p result e'
  | taken {p ciphertext e'} (same : Unsaved e e') (notReturned : p ≠ .saveReturned true)
      (notCancelled : e.cancelled = false) :
      Continued setting e p (.ok (.openingDecision ciphertext)) e'
  | accepted {ciphertext binding} (isAccepted : decide? setting ciphertext e = .ok (some binding)) :
      Continued setting e (.openingDecision ciphertext) (.ok (.saving binding)) e
  | rejected {ciphertext} :
      Continued setting e (.openingDecision ciphertext) (.ok .finishing)
        (e.publishTerminal .rejected none)
  | started {binding next} :
      Continued setting e (.saving binding) (.ok (.persisting binding next)) e
  | saved {binding next} :
      Continued setting e (.persisting binding next) (.ok (.saveReturned true))
        { e with repository := e.repository.commit next, saves := e.saves ++ [binding] }
  | notSaved {p} (notReturned : p ≠ .saveReturned true) :
      Continued setting e p (.ok (.saveReturned false)) e
  | reported : Continued setting e (.saveReturned true) (.ok .finishing)
      (e.publishTerminal .accepted none)

theorem Continued.failed {e : ControllerPairingEngine} {p : Point} (hp : p ≠ .saveReturned true)
    (failure : PairingFailure) : Continued setting e p (.error failure) e :=
  .unsaved (unsaved_refl e) hp nofun

theorem continueAt_continued (e : ControllerPairingEngine) {p : Point} (hp : ended p = false) :
    Continued setting e p (continueAt setting resumption p e).1
      (continueAt setting resumption p e).2 := by
  by_cases hearly : early p = true
  · have hsame : Unsaved e (continueAt setting resumption p e).2 := continueAt_unsaved hearly e
    have hnot : p ≠ .saveReturned true := by
      rintro rfl
      cases hearly
    by_cases hdecision : p = .awaitingDecision
    · subst hdecision
      have hpoint : ∀ q, (continueAt setting resumption .awaitingDecision e).1 = .ok q →
          (∃ ciphertext, q = .openingDecision ciphertext) ∧ e.cancelled = false :=
        receivedDecision_point e
      cases hresult : (continueAt setting resumption .awaitingDecision e).1 with
      | error failure => exact .unsaved hsame hnot nofun
      | ok q =>
        obtain ⟨⟨ciphertext, rfl⟩, hcancelled⟩ := hpoint q hresult
        exact .taken hsame hnot hcancelled
    · exact .unsaved hsame hnot (continueAt_early hearly hdecision e)
  · cases p with
    | openingDecision ciphertext =>
      simp only [continueAt, openedDecision, get_bind]
      cases hdecision : decide? setting ciphertext e with
      | error failure => exact Continued.failed (p := .openingDecision ciphertext) nofun failure
      | ok decision =>
        cases decision with
        | none => exact .rejected
        | some binding => exact .accepted hdecision
    | saving binding =>
      simp only [continueAt, startedSaving, get_bind]
      cases e.repository.savePairing setting binding with
      | none => exact .notSaved nofun
      | some next => exact .started
    | persisting binding next =>
      simp only [continueAt, persisted]
      by_cases hok : resumption.ok = true
      · rw [if_pos hok]
        exact .saved
      · rw [if_neg hok]
        exact .notSaved nofun
    | saveReturned ok =>
      cases ok with
      | false => exact Continued.failed (p := .saveReturned false) nofun _
      | true => exact .reported
    | finishing | closingSignaling | done => cases hp
    | _ => exact absurd rfl hearly

/-! ## The invariant -/

/-- What is saved is reported as an acceptance, and a cancelled run saves nothing. -/
structure Consistent (setting : PairingSetting) (e : ControllerPairingEngine) : Prop where
  idle : e.started = false → e.point = .idle
  cancelled_saves : e.cancelled = true → e.saves = []
  cancelled_accepting : e.cancelled = true → e.accepting setting = false
  running : e.cancelled = false → ended e.point = false → e.snapshot.isTerminal = false
  saves : e.saves ≠ [] →
    e.point = .saveReturned true ∨ (ended e.point = true ∧ e.snapshot.state = .accepted)

section consistent

variable {setting : PairingSetting} {e e' : ControllerPairingEngine}

theorem accepting_iff :
    e.accepting setting = true ↔
      (∃ ciphertext binding, e.point = .openingDecision ciphertext ∧
        decide? setting ciphertext e = .ok (some binding)) ∨
      (∃ binding, e.point = .saving binding) ∨
      (∃ binding next, e.point = .persisting binding next) ∨ e.point = .saveReturned true := by
  unfold accepting
  cases e.point with
  | openingDecision ciphertext =>
    simp only [Point.openingDecision.injEq, reduceCtorEq, exists_false, or_false]
    cases hdecide : decide? setting ciphertext e with
    | error failure => simp [hdecide]
    | ok decision => cases decision <;> simp [hdecide]
  | saveReturned ok => cases ok <;> simp
  | _ => simp

theorem accepting_of_early (h : early e.point = true) : e.accepting setting = false := by
  rw [Bool.eq_false_iff, Ne, accepting_iff]
  rintro (⟨_, _, hp, -⟩ | ⟨_, hp⟩ | ⟨_, _, hp⟩ | hp) <;> rw [hp] at h <;> cases h

theorem accepting_of_ended (h : ended e.point = true) : e.accepting setting = false := by
  rw [Bool.eq_false_iff, Ne, accepting_iff]
  rintro (⟨_, _, hp, -⟩ | ⟨_, hp⟩ | ⟨_, _, hp⟩ | hp) <;> rw [hp] at h <;> cases h

/-- Without its keys the run cannot open the decision. -/
theorem decide?_clearSecrets (ciphertext : Bytes) (decision : Option TrustedHostBinding) :
    decide? setting ciphertext e.clearSecrets ≠ .ok decision := by
  intro h
  simp only [decide?, openHostPlaintext, bind_eq_ok, okOr_eq_ok] at h
  obtain ⟨plaintext, ⟨invitation, -, keys, hkeys, -⟩, -⟩ := h
  cases hkeys

theorem accepting_clearSecrets (h : e.accepting setting = false) :
    e.clearSecrets.accepting setting = false := by
  rw [Bool.eq_false_iff, Ne, accepting_iff] at h ⊢
  rintro (⟨ciphertext, binding, -, hdecide⟩ | hp)
  · exact decide?_clearSecrets ciphertext _ hdecide
  · exact h (.inr hp)

/-- A run that has not taken up an acceptance has saved nothing, unless it has ended. -/
theorem Consistent.saves_nil (he : Consistent setting e) (hover : ended e.point = false)
    (hpoint : e.point ≠ .saveReturned true) : e.saves = [] := by
  by_contra hsaves
  rcases he.saves hsaves with h | h
  · exact hpoint h
  · rw [hover] at h
    exact absurd h.1 Bool.false_ne_true

theorem publishTerminal_state {state : ControllerPairingState}
    {error : Option ControllerPairingError} (h : e.snapshot.isTerminal = false) :
    (e.publishTerminal state error).snapshot.state = state := by
  unfold publishTerminal
  rw [if_neg (Bool.eq_false_iff.mp h)]

/-- Publishing changes the snapshot only. -/
theorem publishTerminal_eq (state : ControllerPairingState)
    (error : Option ControllerPairingError) (e : ControllerPairingEngine) :
    ∃ snapshot, e.publishTerminal state error = { e with snapshot } := by
  unfold publishTerminal
  by_cases h : e.snapshot.isTerminal = true
  · rw [if_pos h]
    exact ⟨e.snapshot, rfl⟩
  · rw [if_neg h]
    exact ⟨_, rfl⟩

/-- The end of a run that has saved nothing. -/
theorem consistent_startFinish (hstarted : e.started = true) (hsaves : e.saves = []) :
    Consistent setting e.startFinish := by
  refine ⟨fun h => ?_, fun _ => hsaves, fun _ => rfl, nofun, fun h => absurd hsaves h⟩
  cases hstarted.symm.trans h

/-- What a section does to the invariant. -/
theorem Consistent.settle (he : Consistent setting e) (hstarted : e.started = true)
    (hover : ended e.point = false) {result : Except PairingFailure Point}
    (h : Continued setting e e.point result e') :
    Consistent setting (ControllerPairingEngine.settle (result, e')) := by
  have hnotCancelled : e.accepting setting = true → e.cancelled = false := by
    intro haccepting
    by_contra hcancelled
    rw [he.cancelled_accepting (Bool.not_eq_false _ ▸ hcancelled)] at haccepting
    cases haccepting
  have hstart : ∀ {p : Prop}, e.started = false → p := fun h => by
    rw [hstarted] at h
    cases h
  generalize hp : e.point = p at h
  cases h with
  | @unsaved _ _ _ same hnot hpoint =>
    have hsaves : e'.saves = [] := by
      rw [same.saves]
      exact he.saves_nil hover (hp ▸ hnot)
    have hstarted' : e'.started = true := same.started.trans hstarted
    cases result with
    | error failure =>
      simp only [ControllerPairingEngine.settle]
      by_cases hcancelled : e'.cancelled = true
      · rw [if_pos hcancelled]
        exact consistent_startFinish hstarted' hsaves
      · rw [if_neg hcancelled]
        obtain ⟨snapshot, heq⟩ := publishTerminal_eq failure.state failure.error e'
        rw [heq]
        exact consistent_startFinish hstarted' hsaves
    | ok q =>
      have hearly := hpoint q rfl
      have hsettle : ControllerPairingEngine.settle (.ok q, e') = { e' with point := q } := by
        cases q <;> first | rfl | cases hearly
      rw [hsettle]
      refine ⟨fun h => ?_, fun _ => hsaves, fun _ => accepting_of_early hearly, ?_,
        fun h => absurd hsaves h⟩
      · cases hstarted'.symm.trans h
      · intro hcancelled _
        rw [same.cancelled] at hcancelled
        exact same.goesOn (he.running hcancelled hover)
  | @taken _ ciphertext _ same hnot hcancelled =>
    have hsaves : e'.saves = [] := by
      rw [same.saves]
      exact he.saves_nil hover (hp ▸ hnot)
    have hcancelled' : e'.cancelled = false := same.cancelled.trans hcancelled
    refine ⟨fun h => ?_, fun _ => hsaves, fun h => ?_, fun _ _ => ?_, fun h => absurd hsaves h⟩
    · cases (same.started.trans hstarted).symm.trans h
    · cases hcancelled'.symm.trans h
    · exact same.goesOn (he.running hcancelled hover)
  | accepted hdecide =>
    have hcancelled := hnotCancelled (accepting_iff.mpr (.inl ⟨_, _, hp, hdecide⟩))
    have hsaves : e.saves = [] := he.saves_nil hover (hp ▸ nofun)
    refine ⟨hstart, fun _ => hsaves, fun h => ?_, fun _ _ => he.running hcancelled hover,
      fun h => absurd hsaves h⟩
    cases hcancelled.symm.trans h
  | rejected =>
    have hsaves : e.saves = [] := he.saves_nil hover (hp ▸ nofun)
    obtain ⟨snapshot, heq⟩ := publishTerminal_eq .rejected none e
    simp only [ControllerPairingEngine.settle]
    rw [heq]
    exact consistent_startFinish hstarted hsaves
  | started =>
    have hcancelled := hnotCancelled (accepting_iff.mpr (.inr (.inl ⟨_, hp⟩)))
    have hsaves : e.saves = [] := he.saves_nil hover (hp ▸ nofun)
    refine ⟨hstart, fun _ => hsaves, fun h => ?_, fun _ _ => he.running hcancelled hover,
      fun h => absurd hsaves h⟩
    cases hcancelled.symm.trans h
  | saved =>
    have hcancelled := hnotCancelled (accepting_iff.mpr (.inr (.inr (.inl ⟨_, _, hp⟩))))
    refine ⟨hstart, fun h => ?_, fun h => ?_, fun _ _ => he.running hcancelled hover,
      fun _ => .inl rfl⟩
    · cases hcancelled.symm.trans h
    · cases hcancelled.symm.trans h
  | notSaved hnot =>
    have hsaves : e.saves = [] := he.saves_nil hover (hp ▸ hnot)
    exact ⟨hstart, fun _ => hsaves, fun _ => rfl, fun h _ => he.running h hover,
      fun h => absurd hsaves h⟩
  | reported =>
    have hcancelled := hnotCancelled (accepting_iff.mpr (.inr (.inr (.inr hp))))
    have hstate : (e.publishTerminal .accepted none).snapshot.state = .accepted :=
      publishTerminal_state (he.running hcancelled hover)
    obtain ⟨snapshot, heq⟩ := publishTerminal_eq .accepted none e
    rw [heq] at hstate
    simp only [ControllerPairingEngine.settle]
    rw [heq]
    refine ⟨hstart, fun h => ?_, fun _ => rfl, nofun, fun _ => .inr ⟨rfl, hstate⟩⟩
    cases hcancelled.symm.trans h

/-! ## Steps -/

section steps

variable {setting : PairingSetting} {e : ControllerPairingEngine}

variable (invitation : HostPairingInvitation)

theorem pairQr_unsaved (now : Int) :
    Keeps Unsaved (pairQr setting invitation now) :=
  .bind .require fun _ => .bind (.modify fun _ => ⟨rfl, rfl, rfl, rfl, id⟩) fun _ =>
    .bind (publish_unsaved [] _ fun _ => rfl) fun _ =>
    .bind (.modify fun _ => ⟨rfl, rfl, rfl, rfl, id⟩) fun _ => .pure _

theorem pairQr_early (now : Int) :
    Returns (fun p => early p = true) (pairQr setting invitation now) :=
  .bind fun _ => .bind fun _ => .bind fun _ => .bind fun _ => .pure rfl

theorem pairDesktopCode_unsaved (code endpoint : String) :
    Keeps Unsaved (pairDesktopCode setting code endpoint) :=
  .bind .orThrow fun _ => .bind .require fun _ => .bind (publish_unsaved [] _ fun _ => rfl)
    fun _ => .bind (.modify fun _ => ⟨rfl, rfl, rfl, rfl, id⟩) fun _ => .pure _

theorem pairDesktopCode_early (code endpoint : String) :
    Returns (fun p => early p = true) (pairDesktopCode setting code endpoint) :=
  .bind fun _ => .bind fun _ => .bind fun _ => .bind fun _ => .pure rfl

/-- Starting a run. -/
theorem Consistent.start (he : Consistent setting e) {operation : Operation Point}
    (hkeeps : Keeps Unsaved operation)
    (hreturns : Returns (fun p => early p = true) operation) :
    Consistent setting (e.start operation) := by
  unfold ControllerPairingEngine.start
  by_cases hused : e.started = true ∨ e.closing = .closed
  · rw [if_pos hused]
    exact he
  · rw [if_neg hused]
    have hidle := he.idle (Bool.eq_false_iff.mpr fun h => hused (.inl h))
    have he' : Consistent setting { e with started := true } :=
      ⟨nofun, he.cancelled_saves, he.cancelled_accepting, he.running, he.saves⟩
    have hover : ended e.point = false := by rw [hidle]; rfl
    exact he'.settle rfl hover
      (.unsaved (hkeeps _) (show e.point ≠ _ by rw [hidle]; exact nofun) (hreturns _))

theorem Consistent.resume (he : Consistent setting e) (resumption : Resumption) :
    Consistent setting (e.resume setting resumption) := by
  have hend : ∀ (e' : ControllerPairingEngine), ended e.point = true → ended e'.point = true →
      e'.started = e.started → e'.cancelled = e.cancelled → e'.saves = e.saves →
      e'.snapshot = e.snapshot → Consistent setting e' := by
    intro e' hover hover' hstarted hcancelled hsaves hsnapshot
    refine ⟨fun h => ?_, ?_, fun _ => accepting_of_ended hover', fun _ h => ?_, fun h => ?_⟩
    · rw [hstarted] at h
      rw [he.idle h] at hover
      cases hover
    · rw [hcancelled, hsaves]
      exact he.cancelled_saves
    · rw [hover'] at h
      cases h
    · rw [hsaves] at h
      rw [hsnapshot]
      rcases he.saves h with hp | hp
      · rw [hp] at hover
        cases hover
      · exact .inr ⟨hover', hp.2⟩
  unfold ControllerPairingEngine.resume
  cases hp : e.point with
  | idle => exact he
  | finishing =>
    have hover : ended e.point = true := by rw [hp]; rfl
    dsimp only
    by_cases hclosed : e.signalingClosed = true
    · rw [if_pos hclosed]
      exact hend _ hover rfl rfl rfl rfl rfl
    · rw [if_neg hclosed]
      exact hend _ hover rfl rfl rfl rfl rfl
  | closingSignaling => exact hend _ (by rw [hp]; rfl) rfl rfl rfl rfl rfl
  | done => exact he
  | _ =>
    have hover : ended e.point = false := by rw [hp]; rfl
    have hstarted : e.started = true := by
      by_contra h
      rw [he.idle (Bool.eq_false_iff.mpr h)] at hp
      cases hp
    have hcontinued : Continued setting e e.point (continueAt setting resumption e.point e).1
        (continueAt setting resumption e.point e).2 := continueAt_continued e hover
    have h := he.settle hstarted hover hcontinued
    rw [hp] at h
    exact h

/-- A cancellation of a run that has not taken up an acceptance. -/
theorem Consistent.cancel (he : Consistent setting e)
    (hguard : (!e.snapshot.isTerminal && e.accepting setting) = false) :
    Consistent setting e.cancel := by
  unfold ControllerPairingEngine.cancel
  by_cases hended : e.closing = .closed ∨ e.snapshot.isTerminal = true
  · rw [if_pos hended]
    exact he
  · rw [if_neg hended]
    have hopen : e.snapshot.isTerminal = false := Bool.eq_false_iff.mpr fun h => hended (.inr h)
    rw [hopen] at hguard
    have haccepting : e.accepting setting = false := hguard
    have hsaves : e.saves = [] := by
      by_contra hsaves
      rcases he.saves hsaves with hp | ⟨-, hstate⟩
      · rw [accepting_iff.mpr (.inr (.inr (.inr hp)))] at haccepting
        cases haccepting
      · unfold ControllerPairingSnapshot.isTerminal at hopen
        rw [hstate] at hopen
        cases hopen
    obtain ⟨snapshot, heq⟩ :=
      publishTerminal_eq .cancelled (some .cancelled) { e with cancelled := true }
    rw [heq]
    exact ⟨he.idle, fun _ => hsaves, fun _ => haccepting, nofun, fun h => absurd hsaves h⟩

/-- A step keeps the invariant, unless it cancels an acceptance. -/
theorem step_consistent (he : Consistent setting e) {input : Input}
    (hguard : e.cancelsAcceptance setting input = false) :
    Consistent setting (step setting e input) := by
  cases input with
  | pairQr invitation now => exact he.start (pairQr_unsaved _ _) (pairQr_early _ _)
  | pairDesktopCode code endpoint =>
    exact he.start (pairDesktopCode_unsaved _ _) (pairDesktopCode_early _ _)
  | resume resumption => exact he.resume resumption
  | cancel => exact he.cancel hguard
  | cancelReturn =>
    simp only [step, cancelReturn]
    by_cases hcancels : e.cancels = 0
    · rw [if_pos hcancels]
      exact he
    · rw [if_neg hcancels]
      exact ⟨he.idle, he.cancelled_saves, he.cancelled_accepting, he.running, he.saves⟩
  | close =>
    simp only [step, close]
    by_cases hclosing : e.closing ≠ .open
    · rw [if_pos hclosing]
      exact he
    · rw [if_neg hclosing]
      by_cases hstarted : e.started = true ∧ e.snapshot.isTerminal = false
      · rw [if_pos hstarted]
        have h := he.cancel hguard
        exact ⟨h.idle, h.cancelled_saves, h.cancelled_accepting, h.running, h.saves⟩
      · rw [if_neg hstarted]
        exact ⟨he.idle, he.cancelled_saves, he.cancelled_accepting, he.running, he.saves⟩
  | closeReturn =>
    simp only [step, closeReturn]
    by_cases hready : (e.closing = .awaitingRun ∧ e.point = .done) ∨ e.closing = .closingSignaling
    · rw [if_pos hready]
      have haccepting : e.cancelled = true → e.clearSecrets.accepting setting = false :=
        fun h => accepting_clearSecrets (he.cancelled_accepting h)
      exact ⟨he.idle, he.cancelled_saves, haccepting, he.running, he.saves⟩
    · rw [if_neg hready]
      exact he
  | repository repository =>
    simp only [step]
    by_cases hpersisting : Persisting e.point
    · rw [if_pos hpersisting]
      exact he
    · rw [if_neg hpersisting]
      exact ⟨he.idle, he.cancelled_saves, he.cancelled_accepting, he.running, he.saves⟩

/-- A cancellation stays, and what saves nothing leaves the repository as it is. -/
structure Framed (e e' : ControllerPairingEngine) : Prop where
  cancelled : e.cancelled = true → e'.cancelled = true
  repository : e'.saves = e.saves → e'.repository = e.repository

theorem settle_framed {e' : ControllerPairingEngine} (h : Framed e e')
    (result : Except PairingFailure Point) : Framed e (settle (result, e')) := by
  have hend : Framed e e'.startFinish := ⟨h.cancelled, h.repository⟩
  cases result with
  | error failure =>
    simp only [settle]
    by_cases hc : e'.cancelled = true
    · rw [if_pos hc]
      exact hend
    · rw [if_neg hc]
      obtain ⟨snapshot, heq⟩ := publishTerminal_eq failure.state failure.error e'
      rw [heq]
      exact ⟨hend.cancelled, hend.repository⟩
  | ok q =>
    cases q with
    | finishing => exact hend
    | _ => exact ⟨h.cancelled, h.repository⟩

theorem Unsaved.framed {e' : ControllerPairingEngine} (h : Unsaved e e') : Framed e e' :=
  ⟨fun hc => h.cancelled.trans hc, fun _ => h.repository⟩

theorem Continued.framed {p : Point} {result : Except PairingFailure Point}
    {e' : ControllerPairingEngine} (h : Continued setting e p result e') : Framed e e' := by
  have hsame : ∀ {state error}, Framed e (e.publishTerminal state error) := by
    intro state error
    obtain ⟨snapshot, heq⟩ := publishTerminal_eq state error e
    rw [heq]
    exact ⟨id, fun _ => rfl⟩
  cases h with
  | unsaved same => exact same.framed
  | taken same => exact same.framed
  | saved =>
    refine ⟨id, fun heq => ?_⟩
    have hlength := congrArg List.length heq
    rw [List.length_append, List.length_singleton] at hlength
    omega
  | rejected => exact hsame
  | reported => exact hsame
  | accepted | started | notSaved => exact ⟨id, fun _ => rfl⟩

theorem step_framed {input : Input} (hinput : ∀ repository, input ≠ .repository repository) :
    Framed e (step setting e input) := by
  have hrefl : Framed e e := ⟨id, fun _ => rfl⟩
  have hstart : ∀ {operation : Operation Point}, Keeps Unsaved operation →
      Framed e (e.start operation) := by
    intro operation hkeeps
    unfold start
    by_cases hused : e.started = true ∨ e.closing = .closed
    · rw [if_pos hused]
      exact hrefl
    · rw [if_neg hused]
      have h := (hkeeps { e with started := true }).framed
      have h' : Framed e (operation { e with started := true }).2 := ⟨h.cancelled, h.repository⟩
      exact settle_framed h' _
  have hcancel : Framed e e.cancel := by
    unfold cancel
    by_cases hended : e.closing = .closed ∨ e.snapshot.isTerminal = true
    · rw [if_pos hended]
      exact hrefl
    · rw [if_neg hended]
      obtain ⟨snapshot, heq⟩ :=
        publishTerminal_eq .cancelled (some .cancelled) { e with cancelled := true }
      rw [heq]
      exact ⟨fun _ => rfl, fun _ => rfl⟩
  cases input with
  | pairQr invitation now => exact hstart (pairQr_unsaved _ _)
  | pairDesktopCode code endpoint => exact hstart (pairDesktopCode_unsaved _ _)
  | resume resumption =>
    simp only [step, resume]
    cases hp : e.point with
    | idle | done => exact hrefl
    | closingSignaling => exact ⟨id, fun _ => rfl⟩
    | finishing =>
      dsimp only
      by_cases hclosed : e.signalingClosed = true
      · rw [if_pos hclosed]
        exact ⟨id, fun _ => rfl⟩
      · rw [if_neg hclosed]
        exact ⟨id, fun _ => rfl⟩
    | _ =>
      have hcontinued : Continued setting e e.point (continueAt setting resumption e.point e).1
          (continueAt setting resumption e.point e).2 :=
        continueAt_continued e (by rw [hp]; rfl)
      rw [hp] at hcontinued
      exact settle_framed hcontinued.framed _
  | cancel => exact hcancel
  | cancelReturn =>
    simp only [step, cancelReturn]
    by_cases hcancels : e.cancels = 0
    · rw [if_pos hcancels]
      exact hrefl
    · rw [if_neg hcancels]
      exact ⟨id, fun _ => rfl⟩
  | close =>
    simp only [step, close]
    by_cases hclosing : e.closing ≠ .open
    · rw [if_pos hclosing]
      exact hrefl
    · rw [if_neg hclosing]
      by_cases hstarted : e.started = true ∧ e.snapshot.isTerminal = false
      · rw [if_pos hstarted]
        exact ⟨hcancel.cancelled, hcancel.repository⟩
      · rw [if_neg hstarted]
        exact ⟨id, fun _ => rfl⟩
  | closeReturn =>
    simp only [step, closeReturn]
    by_cases hready : (e.closing = .awaitingRun ∧ e.point = .done) ∨ e.closing = .closingSignaling
    · rw [if_pos hready]
      exact ⟨id, fun _ => rfl⟩
    · rw [if_neg hready]
      exact hrefl
  | repository repository => exact absurd rfl (hinput repository)

/-- A cancellation stays. -/
theorem step_cancelled (input : Input) (h : e.cancelled = true) :
    (step setting e input).cancelled = true := by
  cases input with
  | repository repository =>
    simp only [step]
    by_cases hpersisting : Persisting e.point
    · rw [if_pos hpersisting]
      exact h
    · rw [if_neg hpersisting]
      exact h
  | pairQr | pairDesktopCode | resume | cancel | cancelReturn | close | closeReturn =>
    apply Framed.cancelled _ h
    apply step_framed
    exact nofun

theorem cancel_cancelled (hopen : e.snapshot.isTerminal = false) (hclosed : e.closing ≠ .closed) :
    e.cancel.cancelled = true := by
  have hended : ¬ (e.closing = .closed ∨ e.snapshot.isTerminal = true) := by
    rintro (h | h)
    · exact hclosed h
    · rw [hopen] at h
      cases h
  unfold cancel
  rw [if_neg hended]
  obtain ⟨snapshot, heq⟩ :=
    publishTerminal_eq .cancelled (some .cancelled) { e with cancelled := true }
  rw [heq]

/-- An engine that is closed before it has been used is never used. -/
theorem step_unused (input : Input) (hclosed : e.closing = .closed)
    (hunused : e.started = false ∧ e.point = .idle) :
    (step setting e input).closing = .closed ∧ (step setting e input).started = false ∧
      (step setting e input).point = .idle := by
  have hsame : e.closing = .closed ∧ e.started = false ∧ e.point = .idle := ⟨hclosed, hunused⟩
  cases input with
  | pairQr | pairDesktopCode =>
    simp only [step, start]
    rw [if_pos (.inr hclosed)]
    exact hsame
  | resume resumption =>
    simp only [step, resume, hunused.2]
    exact ⟨hclosed, hunused.1, trivial⟩
  | cancel =>
    simp only [step, cancel]
    rw [if_pos (.inl hclosed)]
    exact hsame
  | cancelReturn =>
    simp only [step, cancelReturn]
    split_ifs <;> exact hsame
  | close =>
    simp only [step, close]
    rw [if_pos (by rw [hclosed]; exact nofun)]
    exact hsame
  | closeReturn =>
    simp only [step, closeReturn]
    rw [if_neg (by rw [hclosed]; exact nofun)]
    exact hsame
  | repository repository =>
    simp only [step]
    split_ifs <;> exact hsame

end steps

end consistent

end sections

/-! ## Runs -/

theorem new_consistent (setting : PairingSetting) (repository : TrustedHostRepository) :
    Consistent setting (new repository) :=
  ⟨fun _ => rfl, fun _ => rfl, nofun, fun _ _ => rfl, fun h => absurd rfl h⟩

/-- In every run in which no acceptance that has been taken up is cancelled: after a cancellation
of a pairing that has not ended nothing is saved, unless it was started while the unused engine
was being closed; a pairing that is cancelled, rejected, expired or failed has saved nothing, and
the engine changes the repository only by what it saves. -/
theorem cancellation_saves_nothing (setting : PairingSetting)
    (repository : TrustedHostRepository) (inputs : List Input)
    (hguard : (machine setting).Guarded
      (fun e input => e.cancelsAcceptance setting input = false) (new repository) inputs) :
    (∀ before after, inputs = before ++ .cancel :: after →
      ((machine setting).run (new repository) before).snapshot.isTerminal = false →
      (((machine setting).run (new repository) before).closing = .closed →
        ((machine setting).run (new repository) before).started = false) →
      ((machine setting).run (new repository) inputs).saves = []) ∧
    (((machine setting).run (new repository) inputs).snapshot.state ∈
        ([.cancelled, .rejected, .expired, .failed] : List ControllerPairingState) →
      ((machine setting).run (new repository) inputs).saves = []) ∧
    ∀ o ∈ (machine setting).trace (new repository) inputs,
      (∀ repository, o.input ≠ .repository repository) → o.after.saves = o.before.saves →
      o.after.repository = o.before.repository := by
  have hstep : ∀ e input, Consistent setting e → e.cancelsAcceptance setting input = false →
      Consistent setting ((machine setting).step e input).1 :=
    fun e input he hinput => step_consistent he hinput
  have hrun := run_invariant (Consistent setting) hstep (new_consistent setting repository) hguard
  refine ⟨?_, ?_, ?_⟩
  · rintro before after rfl hopen hunused
    by_cases hclosed : ((machine setting).run (new repository) before).closing = .closed
    · have hbefore := ((guarded_append _ before _).mp hguard).1
      have hidle := (run_invariant (Consistent setting) hstep
        (new_consistent setting repository) hbefore).idle (hunused hclosed)
      have hstays := run_invariant
        (fun e : ControllerPairingEngine =>
          e.closing = .closed ∧ e.started = false ∧ e.point = .idle)
        (fun e input he _ => step_unused input he.1 he.2) ⟨hclosed, hunused hclosed, hidle⟩
        (guarded_true (M := machine setting) _ (.cancel :: after))
      rw [← run_append] at hstays
      by_contra hsaves
      rcases hrun.saves hsaves with hpoint | ⟨hended, -⟩
      · cases hpoint.symm.trans hstays.2.2
      · rw [hstays.2.2] at hended
        cases hended
    apply hrun.cancelled_saves
    rw [run_append, run_cons]
    exact run_invariant (fun e : ControllerPairingEngine => e.cancelled = true)
      (fun e input he _ => step_cancelled input he) (cancel_cancelled hopen hclosed)
      (guarded_true _ after)
  · intro hstate
    by_contra hsaves
    rcases hrun.saves hsaves with hp | ⟨-, haccepted⟩
    · have hcancelled := mt hrun.cancelled_saves hsaves
      have hopen := hrun.running (Bool.eq_false_iff.mpr hcancelled) (by rw [hp]; rfl)
      unfold ControllerPairingSnapshot.isTerminal at hopen
      simp only [List.mem_cons, List.not_mem_nil, or_false] at hstate
      rcases hstate with h | h | h | h <;> rw [h] at hopen <;> cases hopen
    · rw [haccepted] at hstate
      revert hstate
      decide
  · intro o ho hinput
    obtain ⟨-, -, -, ho⟩ := trace_invariant (Consistent setting) hstep
      (new_consistent setting repository) hguard ho
    rw [ho]
    exact (step_framed hinput).repository

section samples

open SampleExchange

/-- The setting of the sample exchange, on the controller's side. -/
def sampleSetting : PairingSetting where
  crypto := SampleExchange.crypto
  publicIdentity := controller
  validEndpoint endpoint := endpoint = "wss://signal.example/v1"
  toUpperCase := String.toUpper
  normalizeDisplayName := some

/-- The invitation of the sample exchange. -/
def sampleInvitation : HostPairingInvitation where
  protocolVersion := some { major := protocolMajorVersion, minor := 0 }
  kind := .qr
  rendezvousId := rendezvousId.toList
  hostIdentity := some sampleHostIdentity
  hostPublicKeyFingerprintSha256 := (SampleExchange.sha256 sampleHostIdentity.publicKey).toList
  hostEphemeralPublicKey := hostEphemeral.toList
  signalingEndpoint := "wss://signal.example/v1"
  pairingCode := ""
  issuedAtUnixMs := 1700000000000
  expiresAtUnixMs := 1700000120000

/-- An empty repository. -/
def sampleRepository : TrustedHostRepository where
  hosts := []
  stored := []
  initialized := true
  closed := false

/-- What the surroundings return, with an event. -/
def sampleResumption (event : EventOutcome) : Resumption where
  now := 1700000000000
  ok := true
  join := some ⟨rendezvousId.toList, sampleHostIdentity.deviceId, 1700000120000⟩
  event := event
  random := some controllerPrivateKey
  signature := some controllerSignature.toList

/-- The awaited call returns. -/
def sampleNext : Input := .resume (sampleResumption .none)

/-- An envelope of the Host comes. -/
def sampleEnvelope (message : PairingMessage) : Input :=
  .resume (sampleResumption (.event
    (.routed rendezvousId.toList sampleHostIdentity.deviceId message.encode)))

/-- The exchange up to the envelope with the decision. -/
def sampleExchange : List Input :=
  [.pairQr sampleInvitation 1700000000000] ++ List.replicate 7 sampleNext ++
    [sampleEnvelope (envelope 2 1 proofCiphertext)] ++ List.replicate 4 sampleNext ++
    [sampleEnvelope (envelope 2 2 acceptedCiphertext)]

/-- A pairing that is cancelled while it waits for the decision. -/
theorem cancellation_saves_nothing_sample :
    let before := sampleExchange.dropLast
    let inputs := before ++ .cancel :: .cancelReturn ::
      sampleEnvelope (envelope 2 2 acceptedCiphertext) :: List.replicate 8 sampleNext
    ((machine sampleSetting).run (new sampleRepository) before).snapshot.state
        = .waitingHostDecision ∧
      ((machine sampleSetting).run (new sampleRepository) inputs).snapshot.state = .cancelled ∧
      ((machine sampleSetting).run (new sampleRepository) inputs).saves = [] := by
  refine ⟨by decide +kernel, by decide +kernel, ?_⟩
  exact (cancellation_saves_nothing sampleSetting sampleRepository _ (by decide +kernel)).1
    sampleExchange.dropLast _ rfl (by decide +kernel)
    fun hclosed => absurd hclosed (by decide +kernel)

/-- A pairing that is started while the unused engine is being closed can no longer be cancelled:
`cancel` does nothing then, and over a link that connects after its close the Host is saved. -/
theorem started_while_closing :
    let inputs := [.close] ++ sampleExchange.take 1 ++ [.closeReturn, .cancel] ++
      sampleExchange.drop 1 ++ List.replicate 5 sampleNext
    ((machine sampleSetting).run (new sampleRepository) inputs).cancelled = false ∧
      ((machine sampleSetting).run (new sampleRepository) inputs).saves.length = 1 := by
  decide +kernel

/-- The pairing is cancelled, and the cancellation has returned, while the Host's decision is being
decrypted: the Host is saved all the same, and the pairing ends as cancelled. -/
theorem saved_after_cancel :
    let before := (machine sampleSetting).run (new sampleRepository) sampleExchange
    let cancelled := (machine sampleSetting).run before [.cancel, .cancelReturn]
    let after := (machine sampleSetting).run cancelled (List.replicate 5 sampleNext)
    before.snapshot.isTerminal = false ∧ before.closing = .open ∧
      cancelled.cancelled = true ∧ cancelled.cancels = 0 ∧ cancelled.saves.length = 0 ∧
      cancelled.repository.hosts.length = 0 ∧
      after.point = .done ∧ after.snapshot.state = .cancelled ∧ after.saves.length = 1 ∧
      after.repository.hosts.length = 1 := by
  decide +kernel

end samples

end ControllerPairingEngine

end Client

end Roammand
