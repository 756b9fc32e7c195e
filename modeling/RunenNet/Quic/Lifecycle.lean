import RunenNet.Quic.ExchangeAnswers
import RunenNet.Quic.HostConnection
import RunenNet.Quic.HonestExchange
import RunenNet.Quic.FinishRun

/-!
# The lifecycle of a connection

From its activation to its teardown, over any answers of the transport, any commands of the host
and any work of its other connections: what the connection tells its host, what it holds of the
negotiation manager, and what is left when it is torn down.
-/

namespace RunenNet

open Foundation

/-! ### States in step -/

/-- The states of the exchange in a state of the connection. -/
def HostState.exchangeStates : HostState → List NegotiationState
  | .sending _ _ .goOn => [.awaitingPeerOffer, .awaitingValidated, .awaitingEstablished]
  | .sending _ _ .establish => [.established]
  | .sending _ _ (.terminalLocalFailure _) => [.failed]
  | .receiving _ => [.awaitingPeerOffer, .awaitingProposal, .awaitingValidated, .awaitingEstablished]
  | .authoritySelection _ => [.awaitingAuthoritySelection]
  | .negotiatedEstablished _ | .established _ _ | .establishedActivationFailed _ => [.established]
  | .failed _ => [.failed]

/-- The connection and its exchange are in step, and the report of a failure is one. -/
structure HostState.InStep (state : HostState) : Prop where
  exchange : state.core.exchange.state ∈ state.exchangeStates
  report : ∀ core frame outcome, state = .sending core frame (.terminalLocalFailure outcome) →
    frame.frameType = .negotiationFailed

theorem HostState.InStep.of_state {state : HostState} {current : NegotiationState}
    (hstate : state.core.exchange.state = current) (hmem : current ∈ state.exchangeStates)
    (hne : ∀ core frame outcome, state ≠ .sending core frame (.terminalLocalFailure outcome)) :
    state.InStep :=
  ⟨hstate ▸ hmem, fun core frame outcome heq => absurd heq (hne core frame outcome)⟩

/-- A failure that is reported. -/
theorem HostState.InStep.ending {core : NegotiationCore} {frame : ControlFrame}
    {outcome : NegotiationOutcome} (hfailed : core.exchange.state = .failed)
    (hframe : frame.frameType = .negotiationFailed) :
    HostState.InStep (.sending core frame (.terminalLocalFailure outcome)) := by
  refine ⟨?_, fun _ _ _ heq => ?_⟩
  · rw [show (HostState.sending core frame (.terminalLocalFailure outcome)).core.exchange.state =
      .failed from hfailed]
    exact List.mem_singleton_self _
  · cases heq
    exact hframe

theorem HostState.InStep.failed {core : NegotiationCore}
    (hfailed : core.exchange.state = .failed) : HostState.InStep (.failed core) :=
  .of_state hfailed List.mem_cons_self fun _ _ _ heq => by cases heq

open NegotiationExchange (Calls Answers Reports)

variable {core : NegotiationCore}

/-- What the host called leads to a state in step. -/
theorem transitionFromLocalOperation_inStep {next : NegotiationState}
    {r : Except NegotiationControlError ControlFrame} (h : Calls next core.exchange r)
    (hnext : next ∈ [NegotiationState.awaitingPeerOffer, .awaitingValidated,
      .awaitingEstablished]) : (transitionFromLocalOperation core r).2.InStep := by
  cases r with
  | ok frame => exact .of_state h hnext fun _ _ _ heq => by cases heq
  | error e =>
    obtain ⟨hfailed, hreports⟩ := h
    cases e with
    | localFailure outcome report =>
      cases report with
      | none => exact .failed hfailed
      | some frame => exact .ending hfailed (hreports outcome frame rfl)
    | _ => exact .failed hfailed

/-- What was received leads to a state in step. -/
theorem transitionFromController_inStep {r : Except NegotiationControlError NegotiationProgress}
    (h : Answers core.exchange r) : (transitionFromController core r).2.InStep := by
  cases h with
  | waiting hstate =>
    exact .of_state hstate (by simp [HostState.exchangeStates, transitionFromController])
      fun _ _ _ heq => by cases heq
  | selection hstate => exact .of_state hstate List.mem_cons_self fun _ _ _ heq => by cases heq
  | @validated frame htype hstate =>
    have hgo : transitionFromController core (.ok (.send frame)) =
        (.again, .sending core frame .goOn) := by
      simp [transitionFromController, controllerSendDisposition, htype]
    rw [hgo]
    exact .of_state hstate (by simp [HostState.exchangeStates]) fun _ _ _ heq => by cases heq
  | @establishing frame htype hstate =>
    have hgo : transitionFromController core (.ok (.send frame)) =
        (.again, .sending core frame .establish) := by
      simp [transitionFromController, controllerSendDisposition, htype]
    rw [hgo]
    exact .of_state hstate List.mem_cons_self fun _ _ _ heq => by cases heq
  | established hstate => exact .of_state hstate List.mem_cons_self fun _ _ _ heq => by cases heq
  | remoteFailed hfailed => exact .failed hfailed
  | @failed e hfailed hreports =>
    cases e with
    | localFailure outcome report =>
      cases report with
      | none => exact .failed hfailed
      | some frame => exact .ending hfailed (hreports outcome frame rfl)
    | _ => exact .failed hfailed

/-! ### Lives -/

/-- What a poll answers to the host. -/
abbrev HostAnswer := Except HostErrorKind HostEvent

/-- The host's commands on flows. -/
inductive FlowCommand where
  | openOutboundFlow (t : Connection.CommandTransport) (config : OutboundFlowConfig)
  | acceptIncomingFlow (t : Connection.CommandTransport) (request : IncomingFlowRequest)
      (config : InboundFlowConfig)
  | rejectIncomingFlow (t : Connection.CommandTransport) (request : IncomingFlowRequest)
      (reason : FlowRejectReason)
  | submit (t : Connection.CommandTransport) (key : DeliveryFlowKey) (payload : List UInt8)
  | finishOutboundFlowNormal (t : Connection.CommandTransport) (key : DeliveryFlowKey)

def FlowCommand.run (c : Connection) (e : DeliveryEndpoint) :
    FlowCommand → Checked (Unit × Connection × DeliveryEndpoint)
  | .openOutboundFlow t config => do
    let (_, c) ← c.openOutboundFlow t e config
    return ((), c, e)
  | .acceptIncomingFlow t request config => do
    let (_, c, e) ← c.acceptIncomingFlow t e request config
    return ((), c, e)
  | .rejectIncomingFlow t request reason => do
    let (_, c, e) ← c.rejectIncomingFlow t e request reason
    return ((), c, e)
  | .submit t key payload => do
    let (_, c, e) ← c.submit t e key payload
    return ((), c, e)
  | .finishOutboundFlowNormal t key => do
    let (_, c, e) ← c.finishOutboundFlowNormal t e key
    return ((), c, e)

/-- A connection among the others of its host; `before` is the manager it was activated on, and
`told` what its polls answered. -/
structure LifecycleRun where
  host : HostConnection
  manager : NegotiationManager
  delivery : DeliveryEndpoint
  before : NegotiationManager
  told : List HostAnswer

inductive LifecycleOp where
  | poll (t : Nat → HostConnection.Transport)
  | selectAuthority (alloc : NegotiationAllocator)
      (order : ∀ c : NegotiatedContract, ContractOrder c) (contract : NegotiatedContract)
  | command (command : FlowCommand)
  /-- Another user of the manager. -/
  | manager (op : NegotiationOp)
  /-- The host, or another connection, works on the endpoint. -/
  | delivery (op : DeliveryOp)

namespace LifecycleRun

def exec (r : LifecycleRun) : LifecycleOp → Checked LifecycleRun
  | .poll t => do
    let (answer, host, manager, delivery) ← r.host.poll t r.manager r.delivery
    return { r with
      host := host
      manager := manager
      delivery := delivery
      told := r.told ++ answer.toList }
  | .selectAuthority alloc order contract => do
    let (_, host, manager) ← r.host.selectAuthority alloc order r.manager contract
    return { r with host := host, manager := manager }
  | .command command => do
    let (_, host, delivery) ← r.host.command r.delivery fun c e => command.run c e
    return { r with host := host, delivery := delivery }
  | .manager op => do
    let (_, manager) ← r.manager.exec op
    return { r with manager := manager }
  | .delivery op => do
    let (_, delivery) ← r.delivery.exec op
    return { r with delivery := delivery }

/-- The other users of the manager keep to their own connections. -/
def Apart (r : LifecycleRun) : LifecycleOp → Prop
  | .manager op => op.connection ≠ r.host.connection
  | _ => True

def Step (r r' : LifecycleRun) : Prop := ∃ op, r.Apart op ∧ r.exec op = .ok r'

/-- A connection that was just activated, on a manager and an endpoint in any state they reach. -/
structure Starts (r : LifecycleRun) : Prop where
  activated : ∃ connection side localSettings peerSettings maxStagingBytes alloc offer requirements,
    HostConnection.activate connection side localSettings peerSettings maxStagingBytes alloc offer
      requirements r.before = .ok (.ok r.host, r.manager)
  manager : ∃ logs, Reachable NegotiationRun.Starts NegotiationRun.Step ⟨r.before, logs⟩
  delivery : ∃ (L : DeliveryScopeLimits) (ops : List DeliveryOp),
    ops.foldlM DeliveryEndpoint.step (.new L) = .ok r.delivery
  told : r.told = []

/-! ### What the host is told -/

/-- The authority is told of the peer's offer, for its selection. -/
def asked (x : NegotiationExchange) (done : List HandshakeStep) : List HostAnswer :=
  if x.role = .authority ∧ .received .negotiationOffer ∈ done
  then [.ok (.authoritySelectionRequired x.connection)] else []

def OfFlows (answer : HostAnswer) : Prop := ∀ event, answer = .ok event → ∃ e, event = .flow e

def IsError (answer : HostAnswer) : Prop := ∃ kind, answer = .error kind

/-- What the host was told when the connection came to a state. -/
def Tells (done : List HandshakeStep) (told : List HostAnswer) : HostState → Prop
  | .established core _ => ∃ later, told = asked core.exchange done ++
      .ok (.established core.connection) :: later ∧ ∀ a ∈ later, OfFlows a
  | .establishedActivationFailed core | .failed core => ∃ errors,
      told = asked core.exchange done ++ errors ∧ ∀ a ∈ errors, IsError a
  | .sending core _ _ | .receiving core | .authoritySelection core
  | .negotiatedEstablished core => told = asked core.exchange done

/-! ### The invariant -/

structure Inv (L : DeliveryScopeLimits) (r : LifecycleRun) : Prop where
  exchange : ∃ done, ExchangeRun.Inv ⟨r.host.state.core.exchange, r.manager, r.before, done⟩ ∧
    Tells done r.told r.host.state
  connection : r.host.state.core.connection = r.host.connection ∧
    r.host.state.core.exchange.connection = r.host.connection
  inStep : r.host.state.InStep
  delivery : r.delivery.Inv L
  sound : ∀ core c, r.host.state = .established core c → (c.parts r.delivery).Sound L

/-- An operation of the exchange keeps what it is about, and touches the entry of its connection
only. -/
structure Moves (before : NegotiationManager) (x : NegotiationExchange) (m : NegotiationManager)
    (x' : NegotiationExchange) (m' : NegotiationManager) (done : List HandshakeStep) : Prop where
  inv : ExchangeRun.Inv ⟨x', m', before, done⟩
  connection : x'.connection = x.connection
  role : x'.role = x.role
  others : NegotiationManager.OnlyAt x.connection m m'

section

variable {before m m' : NegotiationManager} {x x' : NegotiationExchange}
  {alloc : NegotiationAllocator} {done : List HandshakeStep}

open NegotiationExchange (Closed Proceeds)

theorem Moves.closed {α : Type} {r : Except NegotiationControlError α}
    (done : List HandshakeStep) (h : Closed before x m r x' m') : Moves before x m x' m' done :=
  ⟨⟨h.owns, .inl h.failed⟩, h.connection, h.role, h.others⟩

theorem Moves.proceeds {steps : List HandshakeStep} (hi : ExchangeRun.Inv ⟨x, m, before, done⟩)
    (h : Proceeds before x m x' m' steps) : Moves before x m x' m' (done ++ steps) := by
  refine ⟨⟨h.owns, .inr ?_⟩, h.connection, h.role, h.others⟩
  obtain ⟨done', hdone', hnext⟩ := h.advances
  rcases hi.done with hfailed | hdone
  · rw [show x.state = .failed from hfailed] at hdone'
    cases hrole : x.role <;> rw [hrole] at hdone' <;> cases hdone'
  · rw [show handshake x.role x.state = some done from hdone] at hdone'
    cases hdone'
    rw [h.role]
    exact hnext

theorem Moves.asked_eq {done' : List HandshakeStep} (h : Moves before x m x' m' done)
    (hmem : x.role = .authority → (.received .negotiationOffer ∈ done ↔ .received .negotiationOffer ∈ done')) :
    asked x' done = asked x done' := by
  unfold asked
  rw [h.role, h.connection]
  by_cases hrole : x.role = .authority
  · simp only [hrole, true_and, hmem hrole]
  · simp only [hrole, false_and]

/-- The selection of the authority is a step of the handshake after the offers, or fails. -/
theorem proposeAuthority_moves {order : ∀ c : NegotiatedContract, ContractOrder c}
    {contract : NegotiatedContract} {requirements : NegotiationRequirements}
    {r : Except NegotiationControlError ControlFrame}
    (hi : ExchangeRun.Inv ⟨x, m, before, done⟩)
    (h : x.proposeAuthority alloc order m contract requirements = .ok (r, x', m')) :
    ∃ done', Moves before x m x' m' done' ∧ asked x' done' = asked x done := by
  rcases NegotiationExchange.proposeAuthority_spec hi.owns h with hc | ⟨frame, -, hp⟩
  · exact ⟨done, .closed _ hc, (Moves.closed done hc).asked_eq fun _ => .rfl⟩
  · have hm := Moves.proceeds hi hp
    refine ⟨_, hm, hm.asked_eq fun _ => ?_⟩
    simp

theorem abort_moves {r : Except NegotiationControlError Unit}
    (hi : ExchangeRun.Inv ⟨x, m, before, done⟩) (h : x.abort m = .ok (r, x', m')) :
    Moves before x m x' m' done ∧ asked x' done = asked x done ∧ x'.state = .failed := by
  have hc := NegotiationExchange.abort_spec hi.owns h
  exact ⟨.closed _ hc, (Moves.closed done hc).asked_eq fun _ => .rfl, hc.failed⟩

end

/-- What the host is told of a received frame while its exchange goes on. -/
def asks (connection : ConnectionHandle) :
    Except NegotiationControlError NegotiationProgress → List HostAnswer
  | .ok .authoritySelectionRequired => [.ok (.authoritySelectionRequired connection)]
  | _ => []

/-- The peer's offer is received in the last step before the selection, and in no later one. -/
theorem receive_moves {before m m' : NegotiationManager} {x x' : NegotiationExchange}
    {alloc : NegotiationAllocator} {done : List HandshakeStep}
    {requirements : NegotiationRequirements} {frame : ControlFrame}
    {r : Except NegotiationControlError NegotiationProgress}
    (hi : ExchangeRun.Inv ⟨x, m, before, done⟩)
    (h : x.receive alloc m requirements frame = .ok (r, x', m')) :
    ∃ done', Moves before x m x' m' done' ∧
      asked x' done' = asked x done ++ asks x.connection r := by
  have hanswers := NegotiationExchange.receive_answers h
  rcases NegotiationExchange.receive_spec hi.owns (hi.done.imp_right fun hdone => ⟨_, hdone⟩) h
    with hc | ⟨progress, rfl, hp⟩
  · have hm : Moves before x m x' m' done := .closed _ hc
    refine ⟨done, hm, ?_⟩
    rw [hm.asked_eq fun _ => .rfl]
    cases hanswers with
    | selection hstate _ =>
      rw [hc.failed] at hstate
      cases hstate
    | _ => exact (List.append_nil _).symm
  · have hm := Moves.proceeds hi hp
    have hdone : x'.state = .failed ∨ handshake x'.role x'.state =
        some (done ++ .received frame.frameType :: progress.sent) := hm.inv.done
    rw [hm.role] at hdone
    have hkept : ∀ {rest : List HostAnswer}, rest = [] → (x.role = .authority →
        (.received .negotiationOffer ∈ done ↔
          .received .negotiationOffer ∈ done ++ .received frame.frameType :: progress.sent)) →
        asked x' (done ++ .received frame.frameType :: progress.sent) = asked x done ++ rest := by
      rintro rest rfl hmem
      rw [hm.asked_eq fun hrole => (hmem hrole).symm, List.append_nil]
    cases hanswers with
    | waiting hstate =>
      rw [hstate] at hdone
      refine ⟨_, hm, hkept rfl fun hrole => ?_⟩
      rw [hrole] at hdone
      rcases hdone with hdone | hdone <;> cases hdone
    | selection hstate _ =>
      rw [hstate] at hdone
      have hrole : x.role = .authority := by rw [← hm.role]; assumption
      rw [hrole] at hdone
      have hlist : [HandshakeStep.sent .negotiationOffer] ++ [.received .negotiationOffer] =
          done ++ [.received frame.frameType] := by
        rcases hdone with hdone | hdone
        · cases hdone
        · exact Option.some.inj hdone
      obtain ⟨rfl, hlast⟩ := List.append_inj' hlist rfl
      refine ⟨_, hm, ?_⟩
      rw [List.cons.injEq, HandshakeStep.received.injEq] at hlast
      simp [asked, asks, hm.role, hm.connection, hrole, ← hlast.1]
    | @validated sent htype hstate =>
      rw [hstate] at hdone
      refine ⟨_, hm, hkept rfl fun hrole => ?_⟩
      rw [hrole] at hdone
      rcases hdone with hdone | hdone <;> cases hdone
    | @establishing sent htype hstate =>
      rw [hstate] at hdone
      refine ⟨_, hm, hkept rfl fun hrole => ?_⟩
      rw [hrole] at hdone
      have hlist : [HandshakeStep.sent .negotiationOffer, .received .negotiationOffer,
          .sent .negotiationProposal] ++ [.received .negotiationValidated,
            .sent .negotiationEstablished] =
          done ++ [.received frame.frameType, .sent sent.frameType] := by
        rcases hdone with hdone | hdone
        · cases hdone
        · exact Option.some.inj hdone
      obtain ⟨rfl, -⟩ := List.append_inj' hlist rfl
      simp
    | established hstate =>
      rw [hstate] at hdone
      refine ⟨_, hm, hkept rfl fun hrole => ?_⟩
      rw [hrole] at hdone
      have hlist : [HandshakeStep.sent .negotiationOffer, .received .negotiationOffer,
          .sent .negotiationProposal, .received .negotiationValidated] ++
            [.sent .negotiationEstablished] = done ++ [.received frame.frameType] := by
        rcases hdone with hdone | hdone
        · cases hdone
        · exact Option.some.inj hdone
      obtain ⟨-, hlast⟩ := List.append_inj' hlist rfl
      cases hlast
    | remoteFailed hfailed =>
      obtain ⟨_, -, hnext⟩ := hp.advances
      rw [hfailed] at hnext
      cases hrole : x.role <;> rw [hrole] at hnext <;> cases hnext

/-! ### One transition -/

/-- What a transition answers to the poll it is part of. -/
def answers : HostRound → List HostAnswer
  | .ready answer => [answer]
  | .again | .pending => []

variable {L : DeliveryScopeLimits} {r r' : LifecycleRun}

/-- The run after a transition that answers so. -/
def turned (r : LifecycleRun) (round : HostRound) (host : HostConnection) (m : NegotiationManager)
    (delivery : DeliveryEndpoint) : LifecycleRun :=
  ⟨host, m, delivery, r.before, r.told ++ answers round⟩

/-- A connection that is not established came to another such state. -/
theorem Inv.moved {m' : NegotiationManager} {state' : HostState} {told' : List HostAnswer}
    (x' : NegotiationExchange) (done' : List HandshakeStep) (hi : Inv L r)
    (hm : Moves r.before r.host.state.core.exchange r.manager x' m' done')
    (hcore : state'.core = { r.host.state.core with exchange := x' })
    (htells : Tells done' told' state') (hstep : state'.InStep)
    (hnot : ∀ core c, state' ≠ .established core c) :
    Inv L ⟨{ r.host with state := state' }, m', r.delivery, r.before, told'⟩ where
  exchange := ⟨done', by rw [hcore]; exact hm.inv, htells⟩
  connection := by
    rw [hcore]
    exact ⟨hi.connection.1, hm.connection.trans hi.connection.2⟩
  inStep := hstep
  delivery := hi.delivery
  sound := fun core c heq => absurd heq (hnot core c)

/-- The exchange as it is. -/
theorem Moves.refl {before m : NegotiationManager} {x : NegotiationExchange}
    {done : List HandshakeStep} (hi : ExchangeRun.Inv ⟨x, m, before, done⟩) :
    Moves before x m x m done := ⟨hi, rfl, rfl, .refl⟩

/-- A transition that changed nothing and answers nothing. -/
theorem Inv.stays (hi : Inv L r) :
    Inv L (r.turned .pending r.host r.manager r.delivery) := by
  have hsame : r.turned .pending r.host r.manager r.delivery = r := by
    simp [turned, answers]
  rw [hsame]
  exact hi

/-- The connection failed, and its host is told so. -/
theorem Inv.fails {core : NegotiationCore} {x' : NegotiationExchange} {m' : NegotiationManager}
    {done : List HandshakeStep} {kind : HostErrorKind} (hi : Inv L r)
    (hcore : r.host.state.core = core) (htold : r.told = asked core.exchange done)
    (hm : Moves r.before core.exchange r.manager x' m' done)
    (hasked : asked x' done = asked core.exchange done) (hfailed : x'.state = .failed) :
    Inv L (r.turned (.ready (.error kind))
      { r.host with state := .failed { core with exchange := x' } } m' r.delivery) := by
  subst hcore
  refine hi.moved _ _ hm rfl ⟨[.error kind], ?_, fun a ha => ?_⟩ (.failed hfailed) fun _ _ heq => by cases heq
  · rw [htold]
    exact congrArg (· ++ _) hasked.symm
  · rw [List.mem_singleton.mp ha]
    exact ⟨kind, rfl⟩

theorem failControl_inv {core : NegotiationCore} {error : ProfileBootstrapError}
    {done : List HandshakeStep} {round : HostRound} {h' : HostConnection} {m' : NegotiationManager}
    {d' : DeliveryEndpoint} (hi : Inv L r) (hcore : r.host.state.core = core)
    (hinv : ExchangeRun.Inv ⟨core.exchange, r.manager, r.before, done⟩)
    (htold : r.told = asked core.exchange done)
    (h : r.host.failControl core r.manager r.delivery error = .ok (round, h', m', d')) :
    Inv L (r.turned round h' m' d') := by
  simp only [HostConnection.failControl, Checked.bind_eq_ok] at h
  obtain ⟨⟨res, x', m₁⟩, habort, h⟩ := h
  cases h
  obtain ⟨hm, hasked, hfailed⟩ := abort_moves hinv habort
  exact hi.fails hcore htold hm hasked hfailed

theorem pollSending_inv {t : HostConnection.Transport} {core : NegotiationCore}
    {frame : ControlFrame} {disposition : PendingSendDisposition} {round : HostRound}
    {h' : HostConnection} {m' : NegotiationManager} {d' : DeliveryEndpoint} (hi : Inv L r)
    (hstate : r.host.state = .sending core frame disposition)
    (h : r.host.pollSending t core frame disposition r.manager r.delivery =
      .ok (round, h', m', d')) : Inv L (r.turned round h' m' d') := by
  obtain ⟨done, hinv, htells⟩ := hi.exchange
  have hexchange := hi.inStep.exchange
  rw [hstate] at hinv htells hexchange
  have hcore : r.host.state.core = core := by rw [hstate]; rfl
  have hnext : ∀ state' : HostState, state'.core = core → Tells done (r.told ++ []) state' →
      state'.InStep → (∀ core c, state' ≠ .established core c) →
      Inv L (r.turned .again { r.host with state := state' } r.manager r.delivery) :=
    fun state' hcore' htells' hstep hnot => by
      refine hi.moved core.exchange done ?_ ?_ htells' hstep hnot
      · rw [hcore]
        exact .refl hinv
      · rw [hcore', hcore]
  unfold HostConnection.pollSending at h
  split at h
  · simp only [Checked.bind_eq_ok] at h
    obtain ⟨_, -, h⟩ := h
    have hfailed : core.exchange.state = .failed := List.mem_singleton.mp hexchange
    split at h
    · cases h
      exact hi.stays
    · cases h
      exact hi.fails hcore htells (.refl hinv) rfl hfailed
    · cases h
      exact hi.fails hcore htells (.refl hinv) rfl hfailed
  · split at h
    · cases h
      exact hi.stays
    · cases h
      refine hnext _ rfl ?_ ?_ fun _ _ heq => by cases heq
      · rw [List.append_nil]
        exact htells
      · refine .of_state (show core.exchange.state = core.exchange.state from rfl) ?_ fun _ _ _ heq => by cases heq
        rcases List.mem_cons.mp hexchange with heq | hmem
        · exact List.mem_cons.mpr (.inl heq)
        · exact List.mem_cons.mpr (.inr (List.mem_cons_of_mem _ hmem))
    · exact failControl_inv hi hcore hinv htells h
  · split at h
    · cases h
      exact hi.stays
    · cases h
      refine hnext _ rfl ?_ ?_ fun _ _ heq => by cases heq
      · rw [List.append_nil]
        exact htells
      · exact .of_state (show _ = core.exchange.state from rfl) hexchange fun _ _ _ heq => by cases heq
    · exact failControl_inv hi hcore hinv htells h

theorem transitionFromController_core (core : NegotiationCore)
    (res : Except NegotiationControlError NegotiationProgress) :
    (transitionFromController core res).2.core = core ∧
      ∀ core' c, (transitionFromController core res).2 ≠ .established core' c := by
  cases res with
  | ok progress => cases progress <;> exact ⟨rfl, fun _ _ heq => by cases heq⟩
  | error e =>
    cases e with
    | localFailure outcome report => cases report <;> exact ⟨rfl, fun _ _ heq => by cases heq⟩
    | _ => exact ⟨rfl, fun _ _ heq => by cases heq⟩

/-- What the host is told with the transition of a received frame. -/
theorem tells_of_controller {core : NegotiationCore} {asked₀ : List HostAnswer}
    {done' : List HandshakeStep} {res : Except NegotiationControlError NegotiationProgress}
    (hasked : asked core.exchange done' = asked₀ ++ asks core.connection res) :
    Tells done' (asked₀ ++ answers (transitionFromController core res).1)
      (transitionFromController core res).2 := by
  have hfailed : ∀ kind, asks core.connection res = [] →
      Tells done' (asked₀ ++ [.error kind]) (.failed core) := by
    intro kind hnone
    rw [hnone, List.append_nil] at hasked
    refine ⟨[.error kind], by rw [hasked], fun a ha => ?_⟩
    rw [List.mem_singleton.mp ha]
    exact ⟨kind, rfl⟩
  cases res with
  | ok progress =>
    cases progress with
    | remoteFailed outcome => exact hfailed _ rfl
    | _ => exact hasked.symm
  | error e =>
    cases e with
    | localFailure outcome report =>
      cases report with
      | none => exact hfailed _ rfl
      | some frame => exact hasked.symm
    | _ => exact hfailed _ rfl

theorem pollReceiving_inv {t : HostConnection.Transport} {core : NegotiationCore}
    {round : HostRound} {h' : HostConnection} {m' : NegotiationManager} {d' : DeliveryEndpoint}
    (hi : Inv L r) (hstate : r.host.state = .receiving core)
    (h : r.host.pollReceiving t core r.manager r.delivery = .ok (round, h', m', d')) :
    Inv L (r.turned round h' m' d') := by
  obtain ⟨done, hinv, htells⟩ := hi.exchange
  rw [hstate] at hinv htells
  have hcore : r.host.state.core = core := by rw [hstate]; rfl
  unfold HostConnection.pollReceiving at h
  split at h
  · cases h
    exact hi.stays
  · exact failControl_inv hi hcore hinv htells h
  · simp only [Checked.bind_eq_ok] at h
    obtain ⟨⟨res, x', m₁⟩, hreceive, h⟩ := h
    cases h
    obtain ⟨done', hm, hasked⟩ := receive_moves hinv hreceive
    have hconnection : core.connection = core.exchange.connection := by
      rw [← hcore, hi.connection.1, hi.connection.2]
    obtain ⟨hsame, hnot⟩ :=
      transitionFromController_core { core with exchange := x' } res
    refine hi.moved x' done' ?_ ?_ ?_ ?_ hnot
    · rw [hcore]
      exact hm
    · rw [hsame, hcore]
    · rw [show r.told = asked core.exchange done from htells]
      refine tells_of_controller ?_
      rw [hconnection]
      exact hasked
    · exact transitionFromController_inStep (NegotiationExchange.receive_answers hreceive)

theorem pollNegotiated_inv {core : NegotiationCore} {round : HostRound} {h' : HostConnection}
    (hi : Inv L r) (hstate : r.host.state = .negotiatedEstablished core)
    (h : r.host.pollNegotiated core = (round, h')) :
    Inv L (r.turned round h' r.manager r.delivery) := by
  obtain ⟨done, hinv, htells⟩ := hi.exchange
  have hexchange := hi.inStep.exchange
  rw [hstate] at hinv htells hexchange
  have hcore : r.host.state.core = core := by rw [hstate]; rfl
  have hconnection : core.connection = r.host.connection := by rw [← hcore, hi.connection.1]
  unfold HostConnection.pollNegotiated at h
  split at h
  · rename_i fc hfc
    cases h
    exact {
      exchange := ⟨done, hinv, [], by
        rw [hconnection, ← show r.told = asked core.exchange done from htells]
        rfl, fun _ ha => absurd ha List.not_mem_nil⟩
      connection := by
        rw [← hcore]
        exact hi.connection
      inStep := .of_state (List.mem_singleton.mp hexchange) List.mem_cons_self
        fun _ _ _ heq => by cases heq
      delivery := hi.delivery
      sound := fun core' c heq => by
        cases heq
        exact ⟨hi.delivery, .start hfc, fun _ hid => absurd hid List.not_mem_nil,
          fun _ ha => absurd ha List.not_mem_nil⟩ }
  · cases h
    refine hi.moved core.exchange done ?_ ?_ ⟨[.error .establishedActivation],
      ?_, fun a ha => ?_⟩ ?_ fun _ _ heq => by cases heq
    · rw [hcore]
      exact .refl hinv
    · rw [hcore]
      rfl
    · exact congrArg (· ++ _) htells
    · rw [List.mem_singleton.mp ha]
      exact ⟨_, rfl⟩
    · exact .of_state (List.mem_singleton.mp hexchange) List.mem_cons_self
        fun _ _ _ heq => by cases heq

/-- An established connection worked on its flows. -/
theorem Inv.established {core : NegotiationCore} {c c' : Connection} {d' : DeliveryEndpoint}
    (more : List HostAnswer) (hi : Inv L r) (hstate : r.host.state = .established core c)
    (hsound : (c'.parts d').Sound L) (hmore : ∀ a ∈ more, OfFlows a) :
    Inv L ⟨{ r.host with state := .established core c' }, r.manager, d', r.before,
      r.told ++ more⟩ := by
  obtain ⟨done, hinv, htells⟩ := hi.exchange
  have hexchange := hi.inStep.exchange
  have hconnection := hi.connection
  rw [hstate] at hinv htells hexchange hconnection
  obtain ⟨later, htold, hlater⟩ := htells
  exact {
    exchange := ⟨done, hinv, later ++ more, by rw [htold, List.append_assoc, List.cons_append],
      fun a ha => (List.mem_append.mp ha).elim (hlater a) (hmore a)⟩
    connection := hconnection
    inStep := .of_state (List.mem_singleton.mp hexchange) List.mem_cons_self
      fun _ _ _ heq => by cases heq
    delivery := hsound.endpoint
    sound := fun core' c heq => by
      cases heq
      exact hsound }

theorem answers_ofFlows (round : Connection.Round) :
    ∀ a ∈ answers (HostConnection.Round.toHost round), OfFlows a := by
  intro a ha
  cases round with
  | again => cases ha
  | pending => cases ha
  | ready answer =>
    cases answer with
    | ok event =>
      cases List.mem_singleton.mp ha
      exact fun event' heq => by cases heq; exact ⟨_, rfl⟩
    | error kind =>
      cases List.mem_singleton.mp ha
      exact fun event' heq => by cases heq

theorem pollTurn_inv {t : HostConnection.Transport} {round : HostRound} {h' : HostConnection}
    {m' : NegotiationManager} {d' : DeliveryEndpoint} (hi : Inv L r)
    (h : r.host.pollTurn t r.manager r.delivery = .ok (round, h', m', d')) :
    Inv L (r.turned round h' m' d') := by
  have hterminal : (∃ core, r.host.state = .failed core ∨
      r.host.state = .establishedActivationFailed core) →
      Inv L (r.turned (.ready (.error .terminal)) r.host r.manager r.delivery) := by
    rintro ⟨core, hstate⟩
    obtain ⟨done, hinv, htells⟩ := hi.exchange
    refine ⟨⟨done, hinv, ?_⟩, hi.connection, hi.inStep, hi.delivery, hi.sound⟩
    rcases hstate with hstate | hstate
    all_goals
      rw [hstate] at htells
      show Tells done _ r.host.state
      rw [hstate]
      obtain ⟨errors, htold, herrors⟩ := htells
      refine ⟨errors ++ [.error .terminal], ?_, fun a ha => ?_⟩
      · rw [← List.append_assoc, ← htold]
        rfl
      · rcases List.mem_append.mp ha with ha | ha
        · exact herrors a ha
        · rw [List.mem_singleton.mp ha]
          exact ⟨_, rfl⟩
  unfold HostConnection.pollTurn at h
  split at h
  · exact pollSending_inv hi ‹_› h
  · exact pollReceiving_inv hi ‹_› h
  · cases h
    exact hi.stays
  · cases h
    exact pollNegotiated_inv hi ‹_› rfl
  · rename_i core c hstate
    simp only [Checked.bind_eq_ok] at h
    obtain ⟨⟨round', c', d₁⟩, hround, h⟩ := h
    cases h
    have hsound := hi.sound core c hstate
    exact hi.established _ hstate
      (hsound.works (Connection.pollRound_works hsound.numbered hround)) (answers_ofFlows round')
  · rename_i core hstate
    cases h
    exact hterminal ⟨core, .inr hstate⟩
  · rename_i core hstate
    cases h
    exact hterminal ⟨core, .inl hstate⟩

/-! ### Polls and commands -/

theorem pollTurns_inv {turns : Nat} {t : Nat → HostConnection.Transport}
    {answer : Polled HostAnswer} {h' : HostConnection} {m' : NegotiationManager}
    {d' : DeliveryEndpoint} (hi : Inv L r)
    (h : HostConnection.pollTurns turns t r.host r.manager r.delivery = .ok (answer, h', m', d')) :
    Inv L ⟨h', m', d', r.before, r.told ++ answer.toList⟩ := by
  induction turns generalizing t r with
  | zero =>
    cases h
    simpa [turned, answers] using hi.stays
  | succ turns ih =>
    simp only [HostConnection.pollTurns, Checked.bind_eq_ok] at h
    obtain ⟨⟨round, h₁, m₁, d₁⟩, hturn, h⟩ := h
    have hturned := pollTurn_inv hi hturn
    cases round with
    | again =>
      have hnext := ih hturned h
      rw [show (r.turned .again h₁ m₁ d₁).told = r.told from List.append_nil _] at hnext
      exact hnext
    | pending =>
      cases h
      exact hturned
    | ready a =>
      cases h
      exact hturned

theorem transitionFromLocalOperation_core (core : NegotiationCore)
    (res : Except NegotiationControlError ControlFrame) :
    (transitionFromLocalOperation core res).2.core = core ∧
      ∀ core' c, (transitionFromLocalOperation core res).2 ≠ .established core' c := by
  cases res with
  | ok frame => exact ⟨rfl, fun _ _ heq => by cases heq⟩
  | error e =>
    cases e with
    | localFailure outcome report => cases report <;> exact ⟨rfl, fun _ _ heq => by cases heq⟩
    | _ => exact ⟨rfl, fun _ _ heq => by cases heq⟩

/-- A failure of a command is answered to the command. -/
theorem tells_of_local {core : NegotiationCore} {done' : List HandshakeStep}
    {told : List HostAnswer} {res : Except NegotiationControlError ControlFrame}
    (hasked : told = asked core.exchange done') :
    Tells done' told (transitionFromLocalOperation core res).2 := by
  have hfailed : Tells done' told (.failed core) :=
    ⟨[], by rw [List.append_nil, hasked], fun _ ha => absurd ha List.not_mem_nil⟩
  cases res with
  | ok frame => exact hasked
  | error e =>
    cases e with
    | localFailure outcome report =>
      cases report with
      | none => exact hfailed
      | some frame => exact hasked
    | _ => exact hfailed

theorem selectAuthority_inv {alloc : NegotiationAllocator}
    {order : ∀ c : NegotiatedContract, ContractOrder c} {contract : NegotiatedContract}
    {answer : Except HostErrorKind Unit} {h' : HostConnection} {m' : NegotiationManager}
    (hi : Inv L r)
    (h : r.host.selectAuthority alloc order r.manager contract = .ok (answer, h', m')) :
    Inv L { r with host := h', manager := m' } := by
  unfold HostConnection.selectAuthority at h
  split at h
  · rename_i core hstate
    obtain ⟨done, hinv, htells⟩ := hi.exchange
    rw [hstate] at hinv htells
    have hcore : r.host.state.core = core := by rw [hstate]; rfl
    simp only [Checked.bind_eq_ok] at h
    obtain ⟨⟨res, x', m₁⟩, hpropose, h⟩ := h
    cases h
    obtain ⟨done', hm, hasked⟩ := proposeAuthority_moves hinv hpropose
    obtain ⟨hsame, hnot⟩ :=
      transitionFromLocalOperation_core { core with exchange := x' } res
    refine hi.moved x' done' ?_ ?_ ?_ ?_ hnot
    · rw [hcore]
      exact hm
    · rw [hsame, hcore]
    · exact tells_of_local (htells.trans hasked.symm)
    · exact transitionFromLocalOperation_inStep
        (NegotiationExchange.proposeAuthority_calls hpropose) (by simp)
  · cases h
    exact hi
  · cases h
    exact hi

theorem run_sound {command : FlowCommand} {c c' : Connection}
    {e e' : DeliveryEndpoint} (hs : (c.parts e).Sound L)
    (h : command.run c e = .ok ((), c', e')) : (c'.parts e').Sound L := by
  cases command with
  | openOutboundFlow t config =>
    simp only [FlowCommand.run, Checked.bind_eq_ok] at h
    obtain ⟨⟨_, _⟩, hrun, h⟩ := h
    cases h
    exact hs.works (Connection.openOutboundFlow_works hrun)
  | acceptIncomingFlow t request config =>
    simp only [FlowCommand.run, Checked.bind_eq_ok] at h
    obtain ⟨⟨_, _, _⟩, hrun, h⟩ := h
    cases h
    exact hs.works (Connection.acceptIncomingFlow_works hrun)
  | rejectIncomingFlow t request reason =>
    simp only [FlowCommand.run, Checked.bind_eq_ok] at h
    obtain ⟨⟨_, _, _⟩, hrun, h⟩ := h
    cases h
    exact hs.works (Connection.rejectIncomingFlow_works hrun)
  | submit t key payload =>
    simp only [FlowCommand.run, Checked.bind_eq_ok] at h
    obtain ⟨⟨_, _, _⟩, hrun, h⟩ := h
    cases h
    obtain ⟨e₁, hhands, hworks⟩ := Connection.submit_hands hrun
    have hs₁ : (c.parts e₁).Sound L := ⟨hhands.inv hs.endpoint, hs.numbered, hs.spent, hs.keys⟩
    exact hs₁.works hworks
  | finishOutboundFlowNormal t key =>
    simp only [FlowCommand.run, Checked.bind_eq_ok] at h
    obtain ⟨⟨_, _, _⟩, hrun, h⟩ := h
    cases h
    exact hs.works (Connection.finishOutboundFlowNormal_works hrun)

theorem command_inv {command : FlowCommand} {answer : Option Unit} {h' : HostConnection}
    {d' : DeliveryEndpoint} (hi : Inv L r)
    (h : r.host.command r.delivery (fun c e => command.run c e) = .ok (answer, h', d')) :
    Inv L { r with host := h', delivery := d' } := by
  unfold HostConnection.command at h
  split at h
  · rename_i core c hstate
    simp only [Checked.bind_eq_ok] at h
    obtain ⟨⟨_, c', d₁⟩, hrun, h⟩ := h
    cases h
    have hnext := hi.established [] hstate
      (run_sound (hi.sound core c hstate) hrun)
      fun _ ha => absurd ha List.not_mem_nil
    rw [List.append_nil] at hnext
    exact hnext
  · cases h
    exact hi

/-- Another user of the manager. -/
theorem manager_inv {op : NegotiationOp} {reply : NegotiationReply} {m' : NegotiationManager}
    (hi : Inv L r) (hapart : op.connection ≠ r.host.connection)
    (h : r.manager.exec op = .ok (reply, m')) : Inv L { r with manager := m' } := by
  obtain ⟨done, hinv, htells⟩ := hi.exchange
  have heffect := (ExchangeRun.other_effect hinv (by rw [hi.connection.2]; exact hapart) h).inv
  rw [ExchangeRun.after, show done ++ (ExchangeReply.other reply).steps = done from
    List.append_nil _] at heffect
  exact ⟨⟨done, heffect, htells⟩, hi.connection, hi.inStep, hi.delivery, hi.sound⟩

theorem delivery_inv {op : DeliveryOp} {reply : DeliveryReply} {d' : DeliveryEndpoint}
    (hi : Inv L r) (h : r.delivery.exec op = .ok (reply, d')) :
    Inv L { r with delivery := d' } := by
  obtain ⟨_, _, h', hinv, -⟩ := DeliveryEndpoint.exec_spec hi.delivery op
  rw [h] at h'
  cases h'
  refine ⟨hi.exchange, hi.connection, hi.inStep, hinv, fun core c hstate => ?_⟩
  have hs := hi.sound core c hstate
  exact ⟨hinv, hs.numbered, hs.spent, hs.keys⟩

theorem Inv.step (hi : Inv L r) (h : Step r r') : Inv L r' := by
  obtain ⟨op, hapart, hexec⟩ := h
  cases op with
  | poll t =>
    simp only [exec, Checked.bind_eq_ok] at hexec
    obtain ⟨⟨answer, h', m', d'⟩, hpoll, hexec⟩ := hexec
    cases hexec
    exact pollTurns_inv hi hpoll
  | selectAuthority alloc order contract =>
    simp only [exec, Checked.bind_eq_ok] at hexec
    obtain ⟨⟨answer, h', m'⟩, hselect, hexec⟩ := hexec
    cases hexec
    exact selectAuthority_inv hi hselect
  | command command =>
    simp only [exec, Checked.bind_eq_ok] at hexec
    obtain ⟨⟨answer, h', d'⟩, hcommand, hexec⟩ := hexec
    cases hexec
    exact command_inv hi hcommand
  | manager op =>
    simp only [exec, Checked.bind_eq_ok] at hexec
    obtain ⟨⟨reply, m'⟩, hop, hexec⟩ := hexec
    cases hexec
    exact manager_inv hi hapart hop
  | delivery op =>
    simp only [exec, Checked.bind_eq_ok] at hexec
    obtain ⟨⟨reply, d'⟩, hop, hexec⟩ := hexec
    cases hexec
    exact delivery_inv hi hop

theorem Inv.start (h : Starts r) : ∃ L, Inv L r := by
  obtain ⟨⟨connection, side, localSettings, peerSettings, maxStagingBytes, alloc, offer,
    requirements, hactivate⟩, hmanager, ⟨L, ops, hops⟩, htold⟩ := h
  obtain ⟨e, he, hdelivery⟩ := DeliveryEndpoint.run_spec (DeliveryEndpoint.new_inv L) ops
  rw [hops, Except.ok.injEq] at he
  subst he
  simp only [HostConnection.activate, Checked.bind_eq_ok] at hactivate
  obtain ⟨⟨res, x', m'⟩, hprepare, hactivate⟩ := hactivate
  have hinv : ExchangeRun.Inv ⟨.fromProfile connection localSettings peerSettings, r.before,
      r.before, []⟩ := ExchangeRun.start_inv ⟨⟨_, _, _, rfl⟩, hmanager, rfl, rfl⟩
  have hmoves : ∃ done', Moves r.before (.fromProfile connection localSettings peerSettings)
      r.before x' m' done' ∧ .received .negotiationOffer ∉ done' := by
    rcases NegotiationExchange.prepareOffer_spec hinv.owns hprepare with hc | ⟨frame, -, hp⟩
    · exact ⟨[], .closed _ hc, List.not_mem_nil⟩
    · exact ⟨_, .proceeds hinv hp, by simp⟩
  obtain ⟨done', hm, hnone⟩ := hmoves
  have hstep : (transitionFromLocalOperation
      ⟨connection, side, localSettings, peerSettings, x', requirements⟩ res).2.InStep :=
    transitionFromLocalOperation_inStep (NegotiationExchange.prepareOffer_calls hprepare)
      List.mem_cons_self
  have htells : Tells done' [] (transitionFromLocalOperation
      ⟨connection, side, localSettings, peerSettings, x', requirements⟩ res).2 :=
    tells_of_local (by simp [asked, hnone])
  obtain ⟨hsame, hnot⟩ := transitionFromLocalOperation_core
    ⟨connection, side, localSettings, peerSettings, x', requirements⟩ res
  split at hactivate
  · rename_i state heq
    simp only [Checked.pure_eq, Except.ok.injEq, Prod.mk.injEq] at hactivate
    obtain ⟨hhost, hmanager'⟩ := hactivate
    rw [heq] at hstep hsame hnot htells
    simp only at hstep hsame hnot htells
    refine ⟨L, ⟨done', ?_, ?_⟩, ?_, ?_, hdelivery, fun core c hstate => ?_⟩
    · rw [← hhost, ← hmanager']
      simp only [hsame]
      exact hm.inv
    · rw [← hhost, htold]
      exact htells
    · rw [← hhost]
      simp only [hsame]
      exact ⟨trivial, hm.connection⟩
    · rw [← hhost]
      exact hstep
    · rw [← hhost] at hstate
      exact absurd hstate (hnot core c)
  · simp only [Checked.pure_eq, Except.ok.injEq, Prod.mk.injEq, reduceCtorEq, false_and] at hactivate

/-! ### Before the establishment nothing panics -/

open Checked (Returns)

theorem failControl_returns {core : NegotiationCore} {error : ProfileBootstrapError}
    {done : List HandshakeStep}
    (hinv : ExchangeRun.Inv ⟨core.exchange, r.manager, r.before, done⟩) :
    Returns (r.host.failControl core r.manager r.delivery error) :=
  .bind (NegotiationExchange.closeWith_returns hinv.owns.toCustody _) fun _ _ => .ok _

theorem pollTurn_returns (hi : Inv L r) (hnot : ∀ core c, r.host.state ≠ .established core c)
    (t : HostConnection.Transport) : Returns (r.host.pollTurn t r.manager r.delivery) := by
  obtain ⟨done, hinv, -⟩ := hi.exchange
  have hreport := hi.inStep.report
  unfold HostConnection.pollTurn
  split
  · rename_i core frame disposition hstate
    rw [hstate] at hinv
    unfold HostConnection.pollSending
    split
    · rename_i outcome
      have hassert : Checked.assert (frame.frameType = .negotiationFailed) = .ok () := by
        rw [hreport core frame outcome hstate]
        rfl
      refine .bind ⟨_, hassert⟩ fun _ _ => ?_
      split <;> exact .ok _
    · split
      · exact .ok _
      · exact .ok _
      · exact failControl_returns hinv
    · split
      · exact .ok _
      · exact .ok _
      · exact failControl_returns hinv
  · rename_i core hstate
    rw [hstate] at hinv
    unfold HostConnection.pollReceiving
    split
    · exact .ok _
    · exact failControl_returns hinv
    · exact .bind (NegotiationExchange.receive_returns hinv.owns _ _) fun _ _ => .ok _
  · exact .ok _
  · exact .ok _
  · exact absurd ‹_› (hnot _ _)
  · exact .ok _
  · exact .ok _

/-- The transition that establishes the connection answers so. -/
theorem pollTurn_again {t : HostConnection.Transport} {h' : HostConnection}
    {m' : NegotiationManager} {d' : DeliveryEndpoint}
    (hnot : ∀ core c, r.host.state ≠ .established core c)
    (h : r.host.pollTurn t r.manager r.delivery = .ok (.again, h', m', d')) :
    ∀ core c, h'.state ≠ .established core c := by
  have hcontrol : ∀ {core error}, r.host.failControl core r.manager r.delivery error =
      .ok (.again, h', m', d') → False := by
    intro core error hfail
    simp only [HostConnection.failControl, Checked.bind_eq_ok] at hfail
    obtain ⟨_, -, hfail⟩ := hfail
    cases hfail
  intro core c
  unfold HostConnection.pollTurn at h
  split at h
  · unfold HostConnection.pollSending at h
    split at h
    · simp only [Checked.bind_eq_ok] at h
      obtain ⟨_, -, h⟩ := h
      split at h <;> cases h
    · split at h
      · cases h
      · cases h
        exact fun heq => by cases heq
      · exact (hcontrol h).elim
    · split at h
      · cases h
      · cases h
        exact fun heq => by cases heq
      · exact (hcontrol h).elim
  · unfold HostConnection.pollReceiving at h
    split at h
    · cases h
    · exact (hcontrol h).elim
    · simp only [Checked.bind_eq_ok] at h
      obtain ⟨⟨res, x', m₁⟩, -, h⟩ := h
      simp only [Checked.pure_eq, Except.ok.injEq, Prod.mk.injEq] at h
      obtain ⟨-, rfl, -⟩ := h
      exact (transitionFromController_core _ _).2 core c
  · cases h
  · simp only [Except.ok.injEq, Prod.mk.injEq] at h
    obtain ⟨hround, -⟩ := h
    unfold HostConnection.pollNegotiated at hround
    split at hround <;> cases hround
  · exact absurd ‹_› (hnot _ _)
  · cases h
  · cases h

theorem pollTurns_returns {turns : Nat} {t : Nat → HostConnection.Transport} (hi : Inv L r)
    (hnot : ∀ core c, r.host.state ≠ .established core c) :
    Returns (HostConnection.pollTurns turns t r.host r.manager r.delivery) := by
  induction turns generalizing t r with
  | zero => exact .ok _
  | succ turns ih =>
    refine .bind (pollTurn_returns hi hnot (t 0)) fun turned hturn => ?_
    obtain ⟨round, h₁, m₁, d₁⟩ := turned
    cases round with
    | again => exact ih (pollTurn_inv hi hturn) (pollTurn_again hnot hturn)
    | pending => exact .ok _
    | ready a => exact .ok _

theorem selectAuthority_returns (hi : Inv L r) (alloc : NegotiationAllocator)
    (order : ∀ c : NegotiatedContract, ContractOrder c) (contract : NegotiatedContract) :
    Returns (r.host.selectAuthority alloc order r.manager contract) := by
  obtain ⟨done, hinv, -⟩ := hi.exchange
  unfold HostConnection.selectAuthority
  split
  · rename_i core hstate
    rw [hstate] at hinv
    exact .bind (NegotiationExchange.proposeAuthority_returns hinv.owns _ _ _) fun _ _ => .ok _
  · exact .ok _
  · exact .ok _

/-! ### Teardown -/

/-- Whatever the connection has come to, its teardown ends every flow of the connection, with one
report each, gives up what it holds of the manager, and touches nothing else. -/
structure TornDown (r : LifecycleRun) (teardown : HostConnection.Teardown)
    (m' : NegotiationManager) (d' : DeliveryEndpoint) : Prop where
  cleanup : teardown.cleanupError = none
  entry : NegotiationManager.SameAt r.before m' r.host.connection
  others : NegotiationManager.OnlyAt r.host.connection r.manager m'
  gone : ∀ key : DeliveryFlowKey, key.connection = r.host.connection → d'.flows.get? key = none
  kept : ∀ key : DeliveryFlowKey, key.connection ≠ r.host.connection →
    d'.flows.get? key = r.delivery.flows.get? key
  reports : teardown.flowTerminations =
    (r.delivery.flows.keys.filter fun key => key.connection = r.host.connection).filterMap
      fun key => (r.delivery.flows.get? key).map fun flow =>
        DeliveryEndpoint.terminationOf key flow .connectionEnded
  counted : ∃ L, d'.Inv L

theorem teardown_spec (hi : Inv L r) : ∃ teardown m' d',
    r.host.teardown r.manager r.delivery = .ok (teardown, m', d') ∧ r.TornDown teardown m' d' := by
  obtain ⟨done, hinv, -⟩ := hi.exchange
  obtain ⟨reports, d', hterminate, hremoved⟩ :=
    DeliveryEndpoint.terminateConnection_spec hi.delivery r.host.connection
  obtain ⟨⟨res, x', m'⟩, habort⟩ :=
    NegotiationExchange.closeWith_returns hinv.owns.toCustody (.ok () : Except _ Unit)
  have hc := NegotiationExchange.abort_spec hinv.owns habort
  have hres : res = .ok () := by
    simp only [NegotiationExchange.closeWith, Checked.bind_eq_ok] at habort
    obtain ⟨⟨res₁, x₁, m₁⟩, hclose, habort⟩ := habort
    obtain ⟨rfl, -⟩ := NegotiationExchange.close_spec hinv.owns.toCustody hclose
    cases habort
    rfl
  refine ⟨⟨reports, none⟩, m', d', ?_, ?_⟩
  · have haborts : r.host.state.core.exchange.abort r.manager = .ok (res, x', m') := habort
    rw [HostConnection.teardown, hi.connection.1, hterminate, Checked.ok_bind, haborts, hres]
    rfl
  · have hmem : ∀ key : DeliveryFlowKey, key ∈ r.delivery.flows.keys.filter
        (fun key => key.connection = r.host.connection) ↔
          key ∈ r.delivery.flows.keys ∧ key.connection = r.host.connection := fun key => by
      rw [List.mem_filter, decide_eq_true_eq]
    refine ⟨rfl, ?_, ?_, fun key hkey => ?_, fun key hkey => ?_, hremoved.reports, L, hremoved.inv⟩
    · have hsame := hc.owns.unowned (by rw [hc.owns.owning, hc.failed]; rfl)
      rw [hc.connection, hi.connection.2] at hsame
      exact hsame
    · have hothers := hc.others
      rw [hi.connection.2] at hothers
      exact hothers
    · by_cases hheld : key ∈ r.delivery.flows.keys
      · exact hremoved.gone key ((hmem key).mpr ⟨hheld, hkey⟩)
      · rw [hremoved.kept key fun h => hheld ((hmem key).mp h).1]
        cases hflow : r.delivery.flows.get? key with
        | none => rfl
        | some flow => exact absurd (SortedMap.mem_keys.mpr ⟨flow, hflow⟩) hheld
    · exact hremoved.kept key fun h => hkey ((hmem key).mp h).2

theorem inv_reachable (h : Reachable Starts Step r) : ∃ L, Inv L r :=
  h.invariant (fun _ => Inv.start) fun _ _ hi hstep => by
    obtain ⟨L, hi⟩ := hi
    exact ⟨L, hi.step hstep⟩

/-! ### The lifecycle -/

structure Orderly (r : LifecycleRun) : Prop where
  inStep : r.host.state.InStep
  told : ∃ done, (r.host.state.core.exchange.state = .failed ∨
    handshake r.host.state.core.exchange.role r.host.state.core.exchange.state = some done) ∧
    Tells done r.told r.host.state
  contract : r.host.state.core.exchange.state = .established →
    (r.manager.established.get? r.host.connection).isSome
  entry : r.host.state.core.exchange.state.owning = false →
    NegotiationManager.SameAt r.before r.manager r.host.connection
  polls : (∀ core c, r.host.state ≠ .established core c) → ∀ t, ∃ polled,
    r.host.poll t r.manager r.delivery = .ok polled
  selects : ∀ alloc order contract, ∃ selected,
    r.host.selectAuthority alloc order r.manager contract = .ok selected
  teardown : ∃ teardown m' d',
    r.host.teardown r.manager r.delivery = .ok (teardown, m', d') ∧ r.TornDown teardown m' d'

theorem lifecycle_orderly (h : Reachable Starts Step r) : r.Orderly := by
  obtain ⟨L, hi⟩ := inv_reachable h
  obtain ⟨done, hinv, htells⟩ := hi.exchange
  exact {
    inStep := hi.inStep
    told := ⟨done, hinv.done, htells⟩
    contract := fun hstate => by
      rw [← hi.connection.2]
      exact hinv.owns.contract hstate
    entry := fun howning => by
      rw [← hi.connection.2]
      exact hinv.owns.unowned (hinv.owns.owning.trans howning)
    polls := fun hnot t => pollTurns_returns hi hnot
    selects := fun alloc order contract => selectAuthority_returns hi alloc order contract
    teardown := teardown_spec hi }

/-! A client is established while another connection starts to negotiate. -/

def sampleManager : NegotiationManager := ExchangeRun.sampleStart.manager

/-- The peer of a client that negotiates. -/
def sampleTransport : Nat → HostConnection.Transport := fun n =>
  { controlSend := some (.ok ())
    controlReceive := match n with
      | 1 => some (.ok ⟨.negotiationOffer, NegotiationAttempt.sampleOffer.bytes⟩)
      | 2 => some (.ok ⟨.negotiationProposal,
        ProposalLists.bytes (⟨⟨1⟩, ⟨1⟩⟩, [⟨2⟩], [(⟨3⟩, ⟨⟨4⟩, ⟨6⟩⟩)])⟩)
      | 4 => some (.ok ⟨.negotiationEstablished, []⟩)
      | _ => none
    alloc := ExchangeRun.sampleAlloc
    established := Connection.sendingTransport }

def sampleHost : HostConnection where
  connection := ⟨1⟩
  maxStagingBytes := .nearest 64
  state := .sending
    ⟨⟨1⟩, .client, ⟨.nonAuthority, 1024, 1024, 4, 64⟩, ⟨.authority, 1024, 1024, 4, 64⟩,
      { NegotiationExchange.fromProfile ⟨1⟩ ⟨.nonAuthority, 1024, 1024, 4, 64⟩
          ⟨.authority, 1024, 1024, 4, 64⟩ with
        localOffer := some NegotiationAttempt.sampleOffer
        state := .awaitingPeerOffer }, ⟨[], []⟩⟩
    ⟨.negotiationOffer, NegotiationAttempt.sampleOffer.bytes⟩ .goOn

def sampleStart : LifecycleRun :=
  ⟨sampleHost, sampleManager, .new FlowRun.sampleLimits, sampleManager, []⟩

set_option maxRecDepth 4000 in
theorem sampleStart_starts : Starts sampleStart where
  activated := ⟨⟨1⟩, .client, ⟨.nonAuthority, 1024, 1024, 4, 64⟩, ⟨.authority, 1024, 1024, 4, 64⟩,
    .nearest 64, ExchangeRun.sampleAlloc, NegotiationAttempt.sampleOffer, ⟨[], []⟩, rfl⟩
  manager := ExchangeRun.sampleStart_starts.manager
  delivery := ⟨FlowRun.sampleLimits, [], rfl⟩
  told := rfl

/-- Another connection of the host begins. -/
def sampleOther : LifecycleOp :=
  .manager (.start ⟨2⟩ NegotiationAttempt.sampleOffer NegotiationAttempt.sampleOffer)

set_option maxRecDepth 4000 in
theorem lifecycle_orderly_sample : ∃ r : LifecycleRun,
    r.told = [.ok (.established ⟨1⟩)] ∧ r.Orderly := by
  have hplay : ∃ r r', sampleStart.exec sampleOther = .ok r ∧
      r.exec (.poll sampleTransport) = .ok r' ∧ r'.told = [.ok (.established ⟨1⟩)] :=
    ⟨_, _, rfl, rfl, rfl⟩
  obtain ⟨r, r', hother, hpoll, htold⟩ := hplay
  have hapart : sampleStart.Apart sampleOther := by
    show (⟨2⟩ : ConnectionHandle) ≠ ⟨1⟩
    decide
  have hr : Reachable Starts Step r := .next (.start sampleStart_starts) ⟨_, hapart, hother⟩
  exact ⟨r', htold, lifecycle_orderly (hr.next ⟨.poll sampleTransport, trivial, hpoll⟩)⟩

end LifecycleRun

end RunenNet
