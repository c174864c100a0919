import Roammand.Host.ReconnectGenerations

/-!
# The generations of a session over whole runs

A session of the Host begins with an answer to a verified offer.  From then on each response that
leaves the Host for it carries the next generation, and what the controller may do stays what the
first offer asked for and the grant allowed.

Main results:

- Definition `RemoteSessionCoordinator.Session`: what the history tells of the active session.
- Theorem `RemoteSessionCoordinator.generations_count_up`: the responses of a session carry the
  generations one, two, three and so on, in every run.
-/

namespace Roammand

namespace Host

open Library Protocol

namespace RemoteSessionCoordinator

open ActiveSession

variable {crypto : Crypto} {c c' : RemoteSessionCoordinator}

/-- What happens to the coordinator in one step. -/
abbrev ServiceOccurrence :=
  Occurrence RemoteSessionCoordinator ServiceInput (Output ⊕ List SessionTerminatedEvent)

/-- The messages that a step sends in answer to an offer. -/
def emitted (step : ServiceOccurrence) : List SessionAuthentication :=
  match step.output with
  | .inl output => authentications (sent output)
  | .inr _ => []

/-- The step starts the session: an offer has been verified, and it is answered. -/
structure StartsSession (crypto : Crypto) (step : ServiceOccurrence) (a : ActiveSession) :
    Prop where
  idle : step.before.active = none
  verified : ∃ input authentication verified, step.input = .coordinator input ∧
    Admits crypto input.env input.action.time step.before.verifier step.after.verifier
      authentication verified ∧
    a.controllerDeviceId = verified.controller.deviceId ∧ a.sessionId = verified.sessionId ∧
    (a.session.inputAllowed = true ↔ .controlInput ∈ verified.permissions) ∧
    ∃ answer, emitted step = [.answer answer] ∧
      binding (.answer answer) = binding (.offer authentication)

/-- What the history tells of the active session: the step that started it, and the steps since
then, in which the session went on and its generations were counted up. -/
def Session (crypto : Crypto) (past : List ServiceOccurrence) (a : ActiveSession) : Prop :=
  ∃ before start later, past = before ++ start :: later ∧ StartsSession crypto start a ∧
    (∀ step ∈ later, ∃ b, step.before.active = some b ∧ SameSession b a) ∧
    (later.flatMap emitted).map generation? =
      (List.range' 1 a.reconnectGeneration.toNat).map some

variable {past : List ServiceOccurrence}

/-- The session goes on, and a step is added to its history. -/
theorem Session.goesOn {a a' : ActiveSession}
    (h : Session crypto past a) {step : ServiceOccurrence} (hbefore : step.before.active = some a)
    (hsame : SameSession a a') (hallowed : a'.session.inputAllowed = a.session.inputAllowed)
    (hgenerations : (emitted step).map generation? =
      (List.range' (a.reconnectGeneration.toNat + 1)
        (a'.reconnectGeneration.toNat - a.reconnectGeneration.toNat)).map some)
    (hle : a.reconnectGeneration.toNat ≤ a'.reconnectGeneration.toNat) :
    Session crypto (past ++ [step]) a' := by
  obtain ⟨before, start, later, rfl, hstarts, hpresent, hcounted⟩ := h
  refine ⟨before, start, later ++ [step], ?_, ⟨hstarts.idle, ?_⟩, ?_, ?_⟩
  · simp
  · obtain ⟨input, authentication, verified, hinput, hadmits, hcontroller, hsession, hinputAllowed,
      hanswers⟩ := hstarts.verified
    refine ⟨input, authentication, verified, hinput, hadmits, ?_, ?_, ?_, hanswers⟩
    · exact hsame.2.trans hcontroller
    · exact hsame.1.trans hsession
    · rw [hallowed]
      exact hinputAllowed
  · intro e he
    rcases List.mem_append.mp he with hold | hnew
    · obtain ⟨b, hb, hsame'⟩ := hpresent e hold
      exact ⟨b, hb, Trans.trans hsame' hsame⟩
    · rw [List.mem_singleton.mp hnew]
      exact ⟨a, hbefore, hsame⟩
  · rw [List.flatMap_append, List.map_append, hcounted]
    simp only [List.flatMap_cons, List.flatMap_nil, List.append_nil]
    rw [hgenerations, ← List.map_append]
    congr 1
    rw [← Nat.add_comm 1, List.range'_append_1]
    congr 1
    omega

/-- The history tells of the session that is active, if there is one. -/
def Told (crypto : Crypto) (past : List ServiceOccurrence) (c : RemoteSessionCoordinator) : Prop :=
  ∀ a, c.active = some a → Session crypto past a

/-- A step in which the session goes on with its generation. -/
theorem Told.goes (h : Told crypto past c)
    {step : ServiceOccurrence} (hbefore : step.before = c) (hgoes : Goes c c')
    (hsilent : emitted step = []) : Told crypto (past ++ [step]) c' := by
  intro a' ha'
  rcases hgoes with ⟨-, hnone⟩ | ⟨a, b, ha, hb, hholds⟩
  · rw [hnone] at ha'
    cases ha'
  · rw [hb] at ha'
    cases ha'
    refine (h a ha).goesOn (hbefore ▸ ha) hholds.same hholds.inputAllowed ?_ ?_
    · rw [hsilent, hholds.generation, Nat.sub_self]
      rfl
    · rw [hholds.generation]

/-- Every operation is told in the history of the session that it leaves. -/
theorem Told.step (h : Told crypto past c) (input : ServiceInput)
    (hc : Coherent c) (hb : Buffers c) :
    Told crypto (past ++ [(serviceMachine crypto).occurrence c input])
      ((serviceMachine crypto).step c input).1 := by
  cases input with
  | terminateController controllerDeviceId =>
    exact h.goes rfl (.of_active (c := c) rfl) rfl
  | terminateAll reason => exact h.goes rfl (.of_active (c := c) rfl) rfl
  | coordinator input =>
    have hstep : SessionStep crypto input.env input.action.time c (perform crypto input c).2
        (sent (perform crypto input c).1) := perform_step input hc hb
    have hemitted : emitted ((serviceMachine crypto).occurrence c (.coordinator input)) =
        authentications (sent (perform crypto input c).1) := rfl
    cases hstep with
    | ends hnone _ =>
      intro a ha
      cases hnone.symm.trans ha
    | goes hgoes hsilent => exact h.goes rfl hgoes (hemitted.trans hsilent)
    | starts a' hidle hafter hbegun =>
      intro a ha
      cases hafter.symm.trans ha
      obtain ⟨authentication, verified, hadmits, hcontroller, hsession, hallowed, hanswers⟩ :=
        hbegun.verified
      refine ⟨past, _, [], rfl, ⟨hidle, input, authentication, verified, rfl, hadmits,
        hcontroller, hsession, hallowed, hanswers⟩, fun _ hmem => absurd hmem List.not_mem_nil,
        ?_⟩
      rw [hbegun.generation]
      rfl
    | restarts b a' reconnect hbefore hafter hrestarts hemits hresponds =>
      intro a ha
      cases hafter.symm.trans ha
      refine (h b hbefore).goesOn hbefore hrestarts.same hrestarts.inputAllowed ?_ ?_
      · rw [hemitted, hemits, hrestarts.generation, Nat.add_sub_cancel_left]
        simp only [List.map_cons, List.map_nil, generation?, List.range'_one]
        rw [hresponds.generation, hrestarts.generation]
      · rw [hrestarts.generation]
        exact Nat.le_succ _

/-- What a step does to the generation of a session that goes on: it sends nothing and the
generation stays, or it sends one response and the generation is the next one. -/
structure Counts (step : ServiceOccurrence) : Prop where
  counted : ∀ a a', step.before.active = some a → step.after.active = some a' →
    emitted step = [] ∧ a'.reconnectGeneration = a.reconnectGeneration ∨
      ∃ reconnect, emitted step = [.reconnect reconnect] ∧
        reconnect.reconnectGeneration = a'.reconnectGeneration ∧
        a'.reconnectGeneration.toNat = a.reconnectGeneration.toNat + 1

theorem counts_of_reached (crypto : Crypto) (hc : Coherent c) (hb : Buffers c)
    (input : ServiceInput) : Counts ((serviceMachine crypto).occurrence c input) := by
  refine ⟨fun a a' ha ha' => ?_⟩
  have hgoes : ∀ {c' : RemoteSessionCoordinator}, Goes c c' → c'.active = some a' →
      a'.reconnectGeneration = a.reconnectGeneration := by
    intro c' hgoes hactive
    rcases hgoes with ⟨hnone, -⟩ | ⟨b, b', hb, hb', hholds⟩
    · cases hnone.symm.trans ha
    · cases hb.symm.trans ha
      cases hb'.symm.trans hactive
      exact hholds.generation
  cases input with
  | terminateController controllerDeviceId =>
    exact .inl ⟨rfl, hgoes (.of_active (c := c) rfl) ha'⟩
  | terminateAll reason => exact .inl ⟨rfl, hgoes (.of_active (c := c) rfl) ha'⟩
  | coordinator input =>
    have hstep : SessionStep crypto input.env input.action.time c (perform crypto input c).2
        (sent (perform crypto input c).1) := perform_step input hc hb
    cases hstep with
    | ends hnone _ => cases hnone.symm.trans ha'
    | goes h hsilent => exact .inl ⟨hsilent, hgoes h ha'⟩
    | starts _ hidle _ _ => cases hidle.symm.trans ha
    | restarts b b' reconnect hbefore hafter hrestarts hemits hresponds =>
      cases hbefore.symm.trans ha
      cases hafter.symm.trans ha'
      exact .inr ⟨reconnect, hemits, hresponds.generation, hrestarts.generation⟩

/-- In every run of the Host: the active session was started by the answer to a verified offer,
has had the input permission of that offer ever since, and the responses sent for it carry the
generations one, two, three and so on up to its own.  A step that sends no response leaves the
generation as it is. -/
theorem generations_count_up (crypto : Crypto) {hostDeviceId : Bytes}
    (hnew : withConfig hostDeviceId = .ok c) (inputs : List ServiceInput) :
    (∀ a, ((serviceMachine crypto).run c inputs).active = some a →
      Session crypto ((serviceMachine crypto).trace c inputs) a) ∧
    ∀ step ∈ (serviceMachine crypto).trace c inputs, Counts step := by
  have hinitial : c.active = none ∧ Buffers c := by
    unfold withConfig at hnew
    obtain ⟨verifier, _, hc⟩ := bind_eq_ok.mp hnew
    cases hc
    exact ⟨rfl, fun a ha => by cases ha⟩
  have hreached : ∀ c input, Coherent c ∧ Buffers c → True →
      Coherent ((serviceMachine crypto).step c input).1 ∧
        Buffers ((serviceMachine crypto).step c input).1 :=
    fun c input h _ => ⟨(serviceMachine_settles crypto input h.1).coherent,
      serviceMachine_buffers input h.1 h.2⟩
  refine ⟨?_, fun step hstep => ?_⟩
  · have htold : Told crypto [] c := fun a ha => by cases hinitial.1.symm.trans ha
    exact (Machine.history_invariant (M := serviceMachine crypto) (G := fun _ _ => True)
      (fun past c => (Coherent c ∧ Buffers c) ∧ Told crypto past c)
      (fun past c input h _ => ⟨hreached c input h.1 trivial, h.2.step input h.1.1 h.1.2⟩) []
      ⟨⟨withConfig_coherent hnew, hinitial.2⟩, htold⟩ (Machine.guarded_true c inputs)).2
  · obtain ⟨hbefore, -, -, hoccurrence⟩ := Machine.trace_invariant (M := serviceMachine crypto)
      (G := fun _ _ => True) (fun c => Coherent c ∧ Buffers c) hreached
      ⟨withConfig_coherent hnew, hinitial.2⟩ (Machine.guarded_true c inputs) hstep
    rw [hoccurrence]
    exact counts_of_reached crypto hbefore.1 hbefore.2 step.input

/-- The offer of a new negotiation for the sample session, signed by its controller. -/
def renewedOffer : SessionOfferAuthentication :=
  { OfferVerifier.sampleOffer with
    nonce := List.replicate 32 10
    issuedAtUnixMs := 1700000000600
    signature :=
      bigEndian 32 0x02dcf5d241e63d4664c7cabc0269d8ca46ca97f28e318967dbc92de7acf799b2 ++
      bigEndian 32 0x1547a7e7967f6ca62c54a95db1d2d33dd84fe5f306988636b0727762a81cf502 }

/-- The primitives on both offers. -/
def renewedCrypto : Crypto :=
  { OfferVerifier.sampleOfferCrypto with
    verifies := fun key message signature =>
      key.toList = AuthorizationRegistry.sampleController.publicKey ∧
        ∃ offer ∈ [OfferVerifier.sampleOffer, renewedOffer],
          signature.toList = offer.signature ∧ encodeSessionOfferTranscript offer = .ok message }

/-- The Host signs its response to the new offer. -/
def renewedEnvironment : Environment :=
  { unclosableEnvironment with
    sign := fun _ => toArray? 64 (
      bigEndian 32 0xe8b46d07b927ae0dabe7f1673a806a61aa223581c28a474ffc6fccf667bc7a26 ++
      bigEndian 32 0x641351bb2ecb8e4e6bab050f19991d19721aa7128467d00e45d6354918adec09) }

/-- The lost session is negotiated again. -/
def renewedSession : List ServiceInput :=
  lostSession ++ [.sessionAuthentication (some (.offer renewedOffer)), .webrtcNegotiation
    { sessionId := renewedOffer.sessionId
      payload := some (.description ⟨1, "v=0\r\n", List.replicate 32 7⟩) }].map fun payload =>
    .coordinator ⟨renewedEnvironment, .routed renewedOffer.controllerDeviceId
      (some (sampleEnvelope payload)) 1700000000800⟩

/-- The lost session has been answered and responded to, and its history tells so. -/
theorem generations_count_up_sample :
    ((serviceMachine renewedCrypto).trace sampleCoordinator renewedSession).map
      (fun step => (emitted step).map generation?) = [[], [none], [], [], [], [some 1]] ∧
    ∃ a, ((serviceMachine renewedCrypto).run sampleCoordinator renewedSession).active = some a ∧
      a.reconnectGeneration = 1 ∧ Session renewedCrypto
        ((serviceMachine renewedCrypto).trace sampleCoordinator renewedSession) a := by
  have hemitted : ((serviceMachine renewedCrypto).trace sampleCoordinator renewedSession).map
      (fun step => (emitted step).map generation?) = [[], [none], [], [], [], [some 1]] := by
    decide +kernel
  have hgeneration : ((serviceMachine renewedCrypto).run sampleCoordinator
      renewedSession).active.map (·.reconnectGeneration) = some 1 := by decide +kernel
  obtain ⟨a, ha, hone⟩ := Option.map_eq_some_iff.mp hgeneration
  exact ⟨hemitted, a, ha, hone, (generations_count_up renewedCrypto
    (rfl : withConfig AuthorizationRegistry.sampleHostId = .ok sampleCoordinator) _).1 a ha⟩

end RemoteSessionCoordinator

end Host

end Roammand
