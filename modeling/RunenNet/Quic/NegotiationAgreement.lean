import Mathlib.Data.Finset.Sort
import RunenNet.Quic.HonestExchange

/-!
# Two exchanges agree

An authority and its peer, each with its own manager, limits and requirements, over two channels
that keep the order of their frames. In every interleaving the peer is established only after the
authority and the authority only after the peer validated its proposal, both then have the same
contract, and neither sees the other break the protocol.
-/

namespace RunenNet

open Foundation

/-! ### The frames of the handshake -/

def HandshakeStep.sent? : HandshakeStep → Option ControlFrameType
  | .sent type => some type
  | .received _ => none

def HandshakeStep.received? : HandshakeStep → Option ControlFrameType
  | .sent _ => none
  | .received type => some type

/-- What the role has sent when its exchange is in a state. -/
def sentTypes (role : SemanticRole) (state : NegotiationState) : List ControlFrameType :=
  ((handshake role state).getD []).filterMap HandshakeStep.sent?

/-- What the role has received when its exchange is in a state. -/
def receivedTypes (role : SemanticRole) (state : NegotiationState) : List ControlFrameType :=
  ((handshake role state).getD []).filterMap HandshakeStep.received?

def SemanticRole.other : SemanticRole → SemanticRole
  | .authority => .nonAuthority
  | .nonAuthority => .authority

/-- The frame that takes the exchange on from a state. -/
def NegotiationState.awaits : NegotiationState → Option ControlFrameType
  | .awaitingPeerOffer => some .negotiationOffer
  | .awaitingProposal => some .negotiationProposal
  | .awaitingValidated => some .negotiationValidated
  | .awaitingEstablished => some .negotiationEstablished
  | .ready | .awaitingAuthoritySelection | .established | .failed => none

/-- The report that may stand behind what was sent. -/
def reportTypes (reported : Bool) : List ControlFrameType :=
  if reported then [.negotiationFailed] else []

/-- Where the offers take a role. -/
def SemanticRole.pastOffers : SemanticRole → NegotiationState
  | .authority => .awaitingAuthoritySelection
  | .nonAuthority => .awaitingProposal

/-- The next frame is the one that is awaited, or a failure that comes before the exchange is
established. -/
def NegotiationState.expects (state : NegotiationState) (type : ControlFrameType) : Bool :=
  state.awaits = some type ∨ type = .negotiationFailed ∧ state ≠ .established

/-- If each side has received what the other sent, the next frame is expected. -/
theorem next_expected {role : SemanticRole} {state state' : NegotiationState} {reported : Bool}
    (hready : state ≠ .ready) (hstate : (handshake role state).isSome)
    (hstate' : (handshake role.other state').isSome)
    (hreported : reported = true → state'.reports = true)
    (heard : receivedTypes role state <+: sentTypes role.other state' ++ reportTypes reported)
    (heard' : receivedTypes role.other state' <+: sentTypes role state) :
    ((sentTypes role.other state' ++
      reportTypes reported)[(receivedTypes role state).length]?).all state.expects = true := by
  cases role <;> cases state <;> first | exact absurd rfl hready | cases hstate
  all_goals cases state' <;> cases hstate'
  all_goals cases reported <;> revert hreported heard heard' <;> decide

/-- The peer has heard of the authority's last frame only when the authority was established. -/
theorem established_of_heard {state : NegotiationState} {reported : Bool}
    (hstate : (handshake .authority state).isSome)
    (heard : receivedTypes .nonAuthority .established <+:
      sentTypes .authority state ++ reportTypes reported) : state = .established := by
  cases state <;> cases hstate
  all_goals cases reported <;> revert heard <;> decide

/-- The authority has heard of a validation only when the peer had validated. -/
theorem validated_of_heard {state : NegotiationState} {reported : Bool}
    (hstate : (handshake .nonAuthority state).isSome)
    (heard : receivedTypes .authority .established <+:
      sentTypes .nonAuthority state ++ reportTypes reported) :
    state = .awaitingEstablished ∨ state = .established := by
  cases state <;> cases hstate
  all_goals cases reported <;> revert heard <;> decide

/-! ### What is said -/

/-- The error's report, which the connection sends. -/
def NegotiationControlError.report : NegotiationControlError → Option ControlFrame
  | .localFailure _ report => report
  | _ => none

namespace ExchangeReply

/-- The frames that an operation has the connection send. -/
def frames : ExchangeReply → List ControlFrame
  | .offered (.ok frame) | .proposed (.ok frame) | .received _ (.ok (.send frame)) => [frame]
  | reply => (reply.error.bind NegotiationControlError.report).toList

def heard : ExchangeReply → Nat
  | .received .. => 1
  | _ => 0

end ExchangeReply

/-- The frame says what a side with this offer and this proposal has to say. -/
def ControlFrame.Means (offer : Option CompatibilityOffer) (contract : Option NegotiatedContract)
    (frame : ControlFrame) : Prop :=
  match frame.frameType with
  | .negotiationOffer => ∃ o, offer = some o ∧ frame.body = o.bytes ∧ o.Fits ∧
      o.diagnosticLabel = none ∧ o.Counts wireLimits
  | .negotiationProposal => ∃ (k : NegotiatedContract) (order : ContractOrder k),
      contract = some k ∧ frame.body = order.lists.bytes ∧ k.Fits ∧
        k.capabilities.card ≤ maxVarint ∧ k.schemas.size ≤ maxVarint
  | .negotiationValidated | .negotiationEstablished => frame.body = []
  | .negotiationFailed => ∃ outcome, decodeFailure frame.body = .ok outcome
  | .settings | .openFlow | .flowAccept | .flowReject | .flowTerminate => False

theorem ControlFrame.Means.mono {offer offer' : Option CompatibilityOffer}
    {contract contract' : Option NegotiatedContract} {frame : ControlFrame}
    (h : frame.Means offer contract) (ho : ∀ o, offer = some o → offer' = some o)
    (hk : ∀ k, contract = some k → contract' = some k) : frame.Means offer' contract' := by
  obtain ⟨type, body⟩ := frame
  cases type with
  | negotiationOffer =>
    obtain ⟨o, hoffer, h⟩ := h
    exact ⟨o, ho o hoffer, h⟩
  | negotiationProposal =>
    obtain ⟨k, order, hcontract, h⟩ := h
    exact ⟨k, order, hk k hcontract, h⟩
  | _ => exact h

theorem NegotiatedContract.Agreed.fits {c : NegotiatedContract} {ao po : CompatibilityOffer}
    {r : NegotiationRequirements} (h : c.Agreed ao po r) (ha : ao.Fits) : c.Fits where
  protocol := ha.protocols _ h.protocol.1
  capabilities := fun id hid => by
    obtain ⟨⟨e, he, rfl⟩, -⟩ := h.capabilities id hid
    exact ha.capabilities e he
  schemas := fun id b hb => by
    obtain ⟨⟨s, hs, rfl, k, hk, hcontract, hcodec⟩, -⟩ := h.schemas id b hb
    obtain ⟨hid, hcontracts⟩ := ha.schemas s hs
    exact ⟨hid, hcontract ▸ (hcontracts k hk).1, (hcontracts k hk).2 _ hcodec⟩

/-! ### One side -/

/-- One side of a negotiation. `phase` is its last state before it failed, `offer` and `contract`
are what it prepared and proposed; these three and `errors` are never read. -/
structure Party where
  run : ExchangeRun
  requirements : NegotiationRequirements
  phase : NegotiationState
  offer : Option CompatibilityOffer
  contract : Option NegotiatedContract
  sent : List ControlFrame
  taken : Nat
  errors : List NegotiationControlError

namespace Party

abbrev state (p : Party) : NegotiationState := p.run.exchange.state

abbrev connection (p : Party) : ConnectionHandle := p.run.exchange.connection

abbrev limits (p : Party) : OfferLimits := p.run.manager.offerLimits

def after (p : Party) (op : ExchangeOp) (reply : ExchangeReply) (run : ExchangeRun) : Party where
  run := run
  requirements := p.requirements
  phase := if run.exchange.state = .failed then p.phase else run.exchange.state
  offer := match op, reply with
    | .prepareOffer _ offer, .offered (.ok _) => some offer
    | _, _ => p.offer
  contract := match op, reply with
    | .proposeAuthority _ _ contract _, .proposed (.ok _) => some contract
    | _, _ => p.contract
  sent := p.sent ++ reply.frames
  taken := p.taken + reply.heard
  errors := p.errors ++ reply.error.toList

/-- The offer is prepared before the peer's is received, the authority proposes when it is asked to,
and a failed exchange receives nothing. Others use the manager for other connections. -/
def Allows (p : Party) (inbox : List ControlFrame) : ExchangeOp → Prop
  | .prepareOffer _ offer => p.state = .ready ∧ offer.Fits
  | .proposeAuthority _ _ _ requirements => p.state = .awaitingAuthoritySelection ∧
      requirements = p.requirements
  | .receive _ requirements frame => (p.state ≠ .ready ∧ p.state ≠ .failed) ∧
      requirements = p.requirements ∧ inbox[p.taken]? = some frame
  | .abort => True
  | .other op => op.connection ≠ p.connection

inductive Acts (inbox : List ControlFrame) (p : Party) : Party → Prop where
  | exec {op : ExchangeOp} {reply : ExchangeReply} {run : ExchangeRun} (hallowed : p.Allows inbox op)
      (h : p.run.exec op = .ok (reply, run)) : Acts inbox p (p.after op reply run)

structure Starts (role : SemanticRole) (p : Party) : Prop where
  run : ExchangeRun.Starts p.run
  plays : p.run.exchange.role = role
  phase : p.phase = .ready
  offer : p.offer = none
  contract : p.contract = none
  sent : p.sent = []
  taken : p.taken = 0
  errors : p.errors = []

/-! ### What a side keeps -/

structure Inv (role : SemanticRole) (p : Party) : Prop where
  run : p.run.Inv
  plays : p.run.exchange.role = role
  phase : p.state = .failed ∨ p.state = p.phase
  known : (handshake role p.phase).isSome
  taken : p.state ≠ .failed → p.taken = (receivedTypes role p.phase).length
  sent : ∃ reported, p.sent.map ControlFrame.frameType =
    sentTypes role p.phase ++ reportTypes reported ∧
      (reported = true → p.phase.reports = true ∧ p.state = .failed)
  means : ∀ frame ∈ p.sent, frame.Means p.offer p.contract
  offered : p.state = .awaitingPeerOffer → p.run.exchange.localOffer = p.offer
  fits : ∀ o, p.offer = some o → o.Fits
  unoffered : .negotiationOffer ∉ sentTypes role p.phase → p.offer = none
  uncontracted : .negotiationProposal ∉ sentTypes role p.phase → p.contract = none
  blameless : ∀ e ∈ p.errors, ∃ state, e.Blameless state

/-- What `p` received before it failed is what `q` sent. -/
def Heard (role : SemanticRole) (p q : Party) : Prop :=
  receivedTypes role p.phase <+: q.sent.map ControlFrame.frameType

/-- The proposal of the two sides, of which `p` has the role. -/
def contractOf (role : SemanticRole) (p q : Party) : Option NegotiatedContract :=
  match role with
  | .authority => p.contract
  | .nonAuthority => q.contract

/-- What the manager holds of a connection whose exchange is in a state: the attempt `a`, as far as
the proposal `contract` has come. -/
def Entry (m : NegotiationManager) (c : ConnectionHandle) (a : NegotiationAttempt)
    (contract : Option NegotiatedContract) : NegotiationState → Prop
  | .awaitingAuthoritySelection | .awaitingProposal => m.attempts.get? c = some a
  | .awaitingValidated => ∃ k, contract = some k ∧
      m.attempts.get? c = some { a with proposal := some k, authorityValidated := true }
  | .awaitingEstablished => ∃ k, contract = some k ∧
      m.attempts.get? c = some { a with proposal := some k, peerValidated := true }
  | .established => ∃ k bytes, contract = some k ∧ m.established.get? c = some ⟨k, bytes⟩
  | .ready | .awaitingPeerOffer | .failed => True

theorem Entry.same {m m' : NegotiationManager} {c : ConnectionHandle} {a : NegotiationAttempt}
    {contract : Option NegotiatedContract} {state : NegotiationState}
    (h : Entry m c a contract state) (hs : NegotiationManager.SameAt m m' c) :
    Entry m' c a contract state := by
  cases state with
  | ready | awaitingPeerOffer | failed => trivial
  | _ => simpa only [Entry, hs.1, hs.2] using h

/-- What `p` knows of `q` from the offers on: both offers opened its attempt, it accepted the
proposal, and its manager says so while it has not failed. -/
def Holds (role : SemanticRole) (p q : Party) : Prop :=
  p.phase.owning = true → ∃ own other v w, p.offer = some own ∧ q.offer = some other ∧
    NegotiationExchange.attemptOf role own other p.limits = .ok (.opened v w p.limits) ∧
    (p.phase.reports = false → ∃ k, contractOf role p q = some k ∧
      (NegotiationAttempt.opened v w p.limits).Selects k p.requirements) ∧
    Entry p.run.manager p.connection (.opened v w p.limits) (contractOf role p q) p.state

/-- What a side has said stays. -/
structure Extends (p p' : Party) : Prop where
  sent : p.sent <+: p'.sent
  offer : ∀ o, p.offer = some o → p'.offer = some o
  contract : ∀ k, p.contract = some k → p'.contract = some k

variable {role : SemanticRole} {p p' q : Party}

theorem Heard.mono (h : Heard role p q) {q' : Party} (he : Extends q q') : Heard role p q' :=
  h.trans (he.sent.map _)

theorem Holds.mono (h : Holds role p q) {q' : Party} (he : Extends q q') : Holds role p q' := by
  intro hphase
  obtain ⟨own, other, v, w, hown, hother, hattempt, hselects, hentry⟩ := h hphase
  have hcontract : ∀ k, contractOf role p q = some k → contractOf role p q' = some k := by
    cases role with
    | authority => exact fun _ hk => hk
    | nonAuthority => exact he.contract
  refine ⟨own, other, v, w, hown, he.offer other hother, hattempt, fun hreports => ?_, ?_⟩
  · obtain ⟨k, hk, hsel⟩ := hselects hreports
    exact ⟨k, hcontract k hk, hsel⟩
  · generalize p.state = state at hentry ⊢
    cases state with
    | awaitingValidated | awaitingEstablished =>
      obtain ⟨k, hk, hget⟩ := hentry
      exact ⟨k, hcontract k hk, hget⟩
    | established =>
      obtain ⟨k, bytes, hk, hget⟩ := hentry
      exact ⟨k, bytes, hcontract k hk, hget⟩
    | _ => exact hentry

/-- A side that has not failed is in its phase and has reported nothing. -/
theorem Inv.live (hp : Inv role p) (hlive : p.state ≠ .failed) :
    p.state = p.phase ∧ p.sent.map ControlFrame.frameType = sentTypes role p.phase := by
  obtain ⟨reported, hsent, hreported⟩ := hp.sent
  have hnot : reported = false := by
    cases reported with
    | false => rfl
    | true => exact absurd (hreported rfl).2 hlive
  subst hnot
  exact ⟨hp.phase.resolve_left hlive, hsent.trans (List.append_nil _)⟩

/-- The next frame of an honest peer is expected, and says what the peer has to say. -/
theorem Inv.hears (hp : Inv role p) (hq : Inv role.other q) (heard : Heard role p q)
    (heard' : Heard role.other q p) (hready : p.state ≠ .ready) (hlive : p.state ≠ .failed)
    {frame : ControlFrame} (h : q.sent[p.taken]? = some frame) :
    p.state.expects frame.frameType = true ∧ frame.Means q.offer q.contract := by
  obtain ⟨hstate, hsent⟩ := hp.live hlive
  obtain ⟨reported, hqsent, hreported⟩ := hq.sent
  refine ⟨?_, hq.means frame (List.mem_of_getElem? h)⟩
  have hnext : (q.sent.map ControlFrame.frameType)[(receivedTypes role p.phase).length]? =
      some frame.frameType := by
    rw [← hp.taken hlive, List.getElem?_map, h]
    rfl
  unfold Heard at heard heard'
  rw [hsent] at heard'
  rw [hqsent] at heard hnext
  have hall := next_expected (hstate ▸ hready) hp.known hq.known (fun h => (hreported h).1) heard
    heard'
  rw [hnext] at hall
  rw [hstate]
  exact hall

/-! ### The step of one side -/

/-- What a step of `p` keeps of the two sides. -/
structure Keeps (role : SemanticRole) (p q p' : Party) : Prop where
  inv : Inv role p'
  heard : Heard role p' q
  holds : Holds role p' q
  grows : Extends p p'

variable {op : ExchangeOp} {reply : ExchangeReply} {run : ExchangeRun}

/-- An operation that closed the exchange: it reported at most a failure. -/
structure Closing (p : Party) (op : ExchangeOp) (reply : ExchangeReply) (run : ExchangeRun) : Prop where
  failed : run.exchange.state = .failed
  limits : run.manager.offerLimits = p.limits
  frames : reply.frames = [] ∨ ∃ frame, reply.frames = [frame] ∧ frame.IsFailure ∧
    p.state.reports = true
  error : ∀ e ∈ reply.error, ∃ state, e.Blameless state
  offer : (p.after op reply run).offer = p.offer
  contract : (p.after op reply run).contract = p.contract

theorem Inv.closes (hp : Inv role p) (heard : Heard role p q) (hholds : Holds role p q)
    (hrun : run.Inv) (hplays : run.exchange.role = role) (h : Closing p op reply run) :
    Keeps role p q (p.after op reply run) := by
  have hphase : (p.after op reply run).phase = p.phase := if_pos h.failed
  have hextends : Extends p (p.after op reply run) := by
    refine ⟨List.prefix_append _ _, fun o ho => ?_, fun k hk => ?_⟩
    · rw [h.offer, ho]
    · rw [h.contract, hk]
  have hmeans : ∀ frame ∈ (p.after op reply run).sent,
      frame.Means (p.after op reply run).offer (p.after op reply run).contract := by
    intro frame hframe
    rcases List.mem_append.mp hframe with hold | hnew
    · exact (hp.means frame hold).mono hextends.offer hextends.contract
    · rcases h.frames with hnil | ⟨f, hf, ⟨htype, hbody⟩, -⟩
      · rw [hnil] at hnew
        cases hnew
      · rw [hf, List.mem_singleton] at hnew
        subst hnew
        unfold ControlFrame.Means
        rw [htype]
        exact hbody
  refine ⟨?_, ?_, ?_, hextends⟩
  · exact {
      run := hrun
      plays := hplays
      phase := .inl h.failed
      known := by
        rw [hphase]
        exact hp.known
      taken := fun hne => absurd h.failed hne
      sent := by
        rw [hphase]
        rcases h.frames with hnil | ⟨f, hf, ⟨htype, -⟩, hreports⟩
        · obtain ⟨reported, hsent, hreported⟩ := hp.sent
          refine ⟨reported, ?_, fun hr => ⟨(hreported hr).1, h.failed⟩⟩
          show (p.sent ++ reply.frames).map _ = _
          rw [hnil, List.append_nil, hsent]
        · have hlive : p.state ≠ .failed := fun hfailed => by
            rw [hfailed] at hreports
            cases hreports
          obtain ⟨hstate, hsent⟩ := hp.live hlive
          refine ⟨true, ?_, fun _ => ⟨hstate ▸ hreports, h.failed⟩⟩
          show (p.sent ++ reply.frames).map _ = _
          rw [hf, List.map_append, hsent, List.map_singleton, htype]
          rfl
      means := hmeans
      offered := fun hstate => by
        have hfailed := h.failed.symm.trans hstate
        cases hfailed
      fits := fun o ho => hp.fits o (h.offer ▸ ho)
      unoffered := by
        rw [hphase, h.offer]
        exact hp.unoffered
      uncontracted := by
        rw [hphase, h.contract]
        exact hp.uncontracted
      blameless := fun e he => by
        rcases List.mem_append.mp he with hold | hnew
        · exact hp.blameless e hold
        · exact h.error e (Option.mem_toList.mp hnew) }
  · unfold Heard
    rw [hphase]
    exact heard
  · intro howning
    rw [hphase] at howning ⊢
    obtain ⟨own, other, v, w, hown, hother, hattempt, hselects, -⟩ := hholds howning
    have hcontract : contractOf role (p.after op reply run) q = contractOf role p q := by
      cases role with
      | authority => exact h.contract
      | nonAuthority => rfl
    rw [show (p.after op reply run).limits = p.limits from h.limits, hcontract, h.offer]
    refine ⟨own, other, v, w, hown, hother, hattempt, hselects, ?_⟩
    show Entry _ _ _ _ run.exchange.state
    rw [h.failed]
    trivial

/-- An operation that took the exchange on to `state`, by which it received `types`. -/
structure Proceeding (role : SemanticRole) (p : Party) (op : ExchangeOp) (reply : ExchangeReply)
    (run : ExchangeRun) (state : NegotiationState) (types : List ControlFrameType) : Prop where
  live : p.state ≠ .failed
  reaches : run.exchange.state = state ∧ state ≠ .failed
  known : (handshake role state).isSome
  sent : sentTypes role state = sentTypes role p.phase ++ reply.frames.map ControlFrame.frameType
  received : receivedTypes role state = receivedTypes role p.phase ++ types
  heard : reply.heard = types.length
  error : reply.error = none
  grows : Extends p (p.after op reply run)
  means : ∀ frame ∈ reply.frames,
    frame.Means (p.after op reply run).offer (p.after op reply run).contract
  offered : state = .awaitingPeerOffer → run.exchange.localOffer = (p.after op reply run).offer
  fits : ∀ o, (p.after op reply run).offer = some o → o.Fits
  prepared : .negotiationOffer ∈ sentTypes role state
  proposed : (p.after op reply run).contract = p.contract ∨
    .negotiationProposal ∈ sentTypes role state

theorem Proceeding.phase {state : NegotiationState} {types : List ControlFrameType}
    (h : Proceeding role p op reply run state types) : (p.after op reply run).phase = state := by
  rw [← h.reaches.1]
  exact if_neg (h.reaches.1 ▸ h.reaches.2)

theorem Inv.proceeds (hp : Inv role p) (state : NegotiationState) (heard : Heard role p q)
    (hrun : run.Inv) (hplays : run.exchange.role = role) {types : List ControlFrameType}
    (h : Proceeding role p op reply run state types)
    (hnext : types = [] ∨ ∃ frame, q.sent[p.taken]? = some frame ∧ types = [frame.frameType])
    (hholds : Holds role (p.after op reply run) q) : Keeps role p q (p.after op reply run) := by
  obtain ⟨-, hsent⟩ := hp.live h.live
  have hphase := h.phase
  refine ⟨?_, ?_, hholds, h.grows⟩
  · exact {
      run := hrun
      plays := hplays
      phase := .inr (h.reaches.1.trans hphase.symm)
      known := by
        rw [hphase]
        exact h.known
      taken := fun _ => by
        rw [hphase, h.received, List.length_append, ← hp.taken h.live, ← h.heard]
        rfl
      sent := by
        refine ⟨false, ?_, fun hr => by cases hr⟩
        rw [hphase, h.sent, ← hsent]
        show (p.sent ++ reply.frames).map _ = _
        rw [List.map_append]
        exact (List.append_nil _).symm
      means := fun frame hframe => by
        rcases List.mem_append.mp hframe with hold | hnew
        · exact (hp.means frame hold).mono h.grows.offer h.grows.contract
        · exact h.means frame hnew
      offered := fun hs => h.offered (h.reaches.1.symm.trans hs)
      fits := h.fits
      unoffered := fun hnot => by
        rw [hphase] at hnot
        exact absurd h.prepared hnot
      uncontracted := fun hnot => by
        rw [hphase] at hnot
        rcases h.proposed with heq | hmem
        · rw [heq]
          refine hp.uncontracted fun hold => hnot ?_
          rw [h.sent]
          exact List.mem_append_left _ hold
        · exact absurd hmem hnot
      blameless := fun e he => by
        rcases List.mem_append.mp he with hold | hnew
        · exact hp.blameless e hold
        · rw [h.error] at hnew
          cases hnew }
  · unfold Heard
    rw [hphase, h.received]
    rcases hnext with rfl | ⟨frame, hframe, rfl⟩
    · rw [List.append_nil]
      exact heard
    · obtain ⟨rest, hrest⟩ := heard
      rw [hp.taken h.live] at hframe
      have hget : (q.sent.map ControlFrame.frameType)[(receivedTypes role p.phase).length]? =
          some frame.frameType := by
        rw [List.getElem?_map, hframe]
        rfl
      rw [← hrest, List.getElem?_append_right le_rfl, Nat.sub_self] at hget
      cases rest with
      | nil => cases hget
      | cons type rest =>
        cases hget
        exact ⟨rest, by rw [← hrest, List.append_assoc]; rfl⟩

/-- Another user of the manager. -/
theorem Inv.idles (hp : Inv role p) (heard : Heard role p q) (hholds : Holds role p q)
    {op : NegotiationOp} {reply : NegotiationReply} (hrun : run.Inv)
    (hexchange : run.exchange = p.run.exchange)
    (hsame : NegotiationManager.SameAt p.run.manager run.manager p.connection)
    (hlimits : run.manager.offerLimits = p.limits) :
    Keeps role p q (p.after (.other op) (.other reply) run) := by
  have hphase : (p.after (.other op) (.other reply) run).phase = p.phase := by
    simp only [after, hexchange]
    split
    · rfl
    · rename_i hlive
      exact (hp.live hlive).1
  have hsent : (p.after (.other op) (.other reply) run).sent = p.sent := List.append_nil _
  have herrors : (p.after (.other op) (.other reply) run).errors = p.errors := List.append_nil _
  have hstate : (p.after (.other op) (.other reply) run).state = p.state :=
    congrArg NegotiationExchange.state hexchange
  refine ⟨?_, ?_, ?_, ⟨hsent ▸ List.prefix_rfl, fun _ h => h, fun _ h => h⟩⟩
  · exact {
      run := hrun
      plays := (congrArg NegotiationExchange.role hexchange).trans hp.plays
      phase := by
        rw [hstate, hphase]
        exact hp.phase
      known := by
        rw [hphase]
        exact hp.known
      taken := fun hlive => by
        rw [hphase]
        exact hp.taken (hstate ▸ hlive)
      sent := by
        rw [hsent, hphase, hstate]
        exact hp.sent
      means := by
        rw [hsent]
        exact hp.means
      offered := fun h => (congrArg NegotiationExchange.localOffer hexchange).trans
        (hp.offered (hstate ▸ h))
      fits := hp.fits
      unoffered := by
        rw [hphase]
        exact hp.unoffered
      uncontracted := by
        rw [hphase]
        exact hp.uncontracted
      blameless := by
        rw [herrors]
        exact hp.blameless }
  · unfold Heard
    rw [hphase]
    exact heard
  · intro howning
    rw [hphase] at howning ⊢
    obtain ⟨own, other, v, w, hown, hother, hattempt, hselects, hentry⟩ := hholds howning
    have hcontract : contractOf role (p.after (.other op) (.other reply) run) q =
        contractOf role p q := by
      cases role <;> rfl
    have hconnection : (p.after (.other op) (.other reply) run).connection = p.connection :=
      congrArg NegotiationExchange.connection hexchange
    rw [show (p.after (.other op) (.other reply) run).limits = p.limits from hlimits, hcontract,
      hstate, hconnection]
    exact ⟨own, other, v, w, hown, hother, hattempt, hselects, hentry.same hsame⟩

/-! ### Each operation -/

/-- The exchange declined: it failed with an error that may have been reported. -/
theorem Closing.declined {e : NegotiationControlError} (hfailed : run.exchange.state = .failed)
    (hlimits : run.manager.offerLimits = p.limits) (hbl : e.Blameless p.state)
    (hframes : reply.frames = e.report.toList) (herror : reply.error = some e)
    (hoffer : (p.after op reply run).offer = p.offer)
    (hcontract : (p.after op reply run).contract = p.contract) : Closing p op reply run where
  failed := hfailed
  limits := hlimits
  frames := by
    rw [hframes]
    cases hreport : e.report with
    | none => exact .inl rfl
    | some frame =>
      cases e with
      | localFailure outcome report =>
        exact .inr ⟨frame, rfl, hbl.2 frame hreport, hbl.1⟩
      | _ => cases hreport
  error := fun e' he' => by
    rw [herror] at he'
    cases he'
    exact ⟨_, hbl⟩
  offer := hoffer
  contract := hcontract

theorem keeps_prepareOffer (hp : Inv role p) (heard : Heard role p q) (hholds : Holds role p q)
    {alloc : NegotiationAllocator} {offer : CompatibilityOffer} (hstate : p.state = .ready)
    (hfits : offer.Fits) (hrun : run.Inv) (hplays : run.exchange.role = role)
    (h : p.run.exec (.prepareOffer alloc offer) = .ok (reply, run)) :
    Keeps role p q (p.after (.prepareOffer alloc offer) reply run) := by
  simp only [ExchangeRun.exec, Checked.bind_eq_ok, Checked.pure_eq, Except.ok.injEq] at h
  obtain ⟨⟨r, x, m⟩, hop, h⟩ := h
  rcases NegotiationExchange.prepareOffer_honest hp.run.owns hstate hop with
    ⟨⟨e, rfl, hbl⟩, hfailed, hlimits⟩ | ⟨hlabel, hcounts, rfl, rfl, rfl⟩
  · cases h
    exact hp.closes heard hholds hrun hplays (.declined hfailed hlimits hbl rfl rfl rfl rfl)
  · cases h
    have hlive : p.state ≠ .failed := by
      rw [hstate]
      exact NegotiationState.noConfusion
    have hphase : p.phase = .ready := (hp.live hlive).1.symm.trans hstate
    have hnone : p.offer = none := hp.unoffered (by
      rw [hphase]
      cases role <;> exact List.not_mem_nil)
    have hnew : ∀ o, p.offer = some o → some offer = some o := fun o ho => by
      rw [hnone] at ho
      cases ho
    refine hp.proceeds (q := q) .awaitingPeerOffer heard hrun hplays ?_ (.inl rfl) ?_
    · exact {
        live := hlive
        reaches := ⟨rfl, NegotiationState.noConfusion⟩
        known := by cases role <;> rfl
        sent := by
          rw [hphase]
          cases role <;> rfl
        received := by
          rw [hphase]
          cases role <;> rfl
        heard := rfl
        error := rfl
        grows := ⟨List.prefix_append _ _, hnew, fun _ hk => hk⟩
        means := fun frame hframe => by
          cases List.mem_singleton.mp hframe
          exact ⟨offer, rfl, rfl, hfits, hlabel, hcounts⟩
        offered := fun _ => rfl
        fits := fun o ho => by
          cases ho
          exact hfits
        prepared := by cases role <;> exact List.mem_singleton_self _
        proposed := .inl rfl }
    · exact fun howning => by cases howning

theorem attemptOf_opened {own other : CompatibilityOffer} {l : OfferLimits} {a : NegotiationAttempt}
    (h : NegotiationExchange.attemptOf role own other l = .ok a) :
    ∃ v w, a = .opened v w l := by
  cases role with
  | authority =>
    obtain ⟨v, w, -, -, rfl⟩ := NegotiationAttempt.new_ok h
    exact ⟨v, w, rfl⟩
  | nonAuthority =>
    obtain ⟨v, w, -, -, rfl⟩ := NegotiationAttempt.new_ok h
    exact ⟨v, w, rfl⟩

theorem keeps_proposeAuthority (hp : Inv role p) (heard : Heard role p q) (hholds : Holds role p q)
    {alloc : NegotiationAllocator} {order : ∀ c : NegotiatedContract, ContractOrder c}
    {contract : NegotiatedContract} (hstate : p.state = .awaitingAuthoritySelection)
    (hrun : run.Inv) (hplays : run.exchange.role = role)
    (h : p.run.exec (.proposeAuthority alloc order contract p.requirements) = .ok (reply, run)) :
    Keeps role p q
      (p.after (.proposeAuthority alloc order contract p.requirements) reply run) := by
  have hlive : p.state ≠ .failed := by
    rw [hstate]
    exact NegotiationState.noConfusion
  have hphase : p.phase = .awaitingAuthoritySelection := (hp.live hlive).1.symm.trans hstate
  obtain rfl : role = .authority := by
    have hknown := hp.known
    rw [hphase] at hknown
    cases role with
    | authority => rfl
    | nonAuthority => cases hknown
  obtain ⟨own, other, v, w, hown, hother, hattempt, -, hentry⟩ := hholds (by rw [hphase]; rfl)
  rw [hstate] at hentry
  simp only [ExchangeRun.exec, Checked.bind_eq_ok, Checked.pure_eq, Except.ok.injEq] at h
  obtain ⟨⟨r, x, m⟩, hop, h⟩ := h
  rcases NegotiationExchange.proposeAuthority_honest hp.run.owns hp.plays hstate hentry hop with
    ⟨⟨e, rfl, hbl⟩, hfailed, hlimits⟩ | ⟨hselects, hcounts, rfl, rfl, hlimits, hget⟩
  · cases h
    exact hp.closes heard hholds hrun hplays (.declined hfailed hlimits hbl rfl rfl rfl rfl)
  · cases h
    have hnone : p.contract = none := hp.uncontracted (by
      rw [hphase]
      decide)
    have hnew : ∀ k, p.contract = some k → some contract = some k := fun k hk => by
      rw [hnone] at hk
      cases hk
    have hfits : contract.Fits := by
      obtain ⟨v', w', hv, -, heq⟩ := NegotiationAttempt.new_ok hattempt
      cases heq
      refine hselects.agreed.fits ?_
      rw [show (NegotiationAttempt.opened v w _).authorityOffer = v from rfl,
        (CompatibilityOffer.validate_ok hv).1]
      exact hp.fits own hown
    refine hp.proceeds (q := q) .awaitingValidated heard hrun hplays ?_ (.inl rfl) ?_
    · exact {
        live := hlive
        reaches := ⟨rfl, NegotiationState.noConfusion⟩
        known := rfl
        sent := by
          rw [hphase]
          rfl
        received := by
          rw [hphase]
          rfl
        heard := rfl
        error := rfl
        grows := ⟨List.prefix_append _ _, fun _ ho => ho, hnew⟩
        means := fun frame hframe => by
          cases List.mem_singleton.mp hframe
          exact ⟨contract, order contract, rfl, rfl, hfits, hcounts⟩
        offered := NegotiationState.noConfusion
        fits := hp.fits
        prepared := by decide
        proposed := .inr (by decide) }
    · intro _
      have hlimits : m.offerLimits = p.limits := hlimits
      rw [← hlimits] at hattempt hselects hget
      exact ⟨own, other, v, w, hown, hother, hattempt, fun _ => ⟨contract, rfl, hselects⟩,
        contract, rfl, hget⟩

/-! ### Each frame -/

variable {alloc : NegotiationAllocator} {type : ControlFrameType} {body : List UInt8}
  {r : Except NegotiationControlError NegotiationProgress}

theorem keeps_failure (hp : Inv role p) (heard : Heard role p q) (hholds : Holds role p q)
    (hrun : run.Inv) (hplays : run.exchange.role = role)
    (hframe : (⟨.negotiationFailed, body⟩ : ControlFrame).IsFailure)
    (h : p.run.exchange.receiveFailure p.run.manager body = .ok (r, run.exchange, run.manager)) :
    Keeps role p q (p.after (.receive alloc p.requirements ⟨.negotiationFailed, body⟩)
      (.received .negotiationFailed r) run) := by
  obtain ⟨outcome, rfl, hfailed, hlimits⟩ :=
    NegotiationExchange.receiveFailure_honest hp.run.owns hframe h
  exact hp.closes heard hholds hrun hplays {
    failed := hfailed
    limits := hlimits
    frames := .inl rfl
    error := fun _ he => by cases he
    offer := rfl
    contract := rfl }

theorem keeps_offer (hp : Inv role p) (heard : Heard role p q) (hholds : Holds role p q)
    (hstate : p.state = .awaitingPeerOffer)
    (hframe : q.sent[p.taken]? = some ⟨.negotiationOffer, body⟩)
    (hmeans : (⟨.negotiationOffer, body⟩ : ControlFrame).Means q.offer q.contract)
    (hrun : run.Inv) (hplays : run.exchange.role = role)
    (h : p.run.exchange.receiveOffer alloc p.run.manager body =
      .ok (r, run.exchange, run.manager)) :
    Keeps role p q (p.after (.receive alloc p.requirements ⟨.negotiationOffer, body⟩)
      (.received .negotiationOffer r) run) := by
  obtain ⟨other, hother, rfl, hfits, hlabel, hcounts⟩ := hmeans
  have hlive : p.state ≠ .failed := by
    rw [hstate]
    exact NegotiationState.noConfusion
  have hphase : p.phase = .awaitingPeerOffer := (hp.live hlive).1.symm.trans hstate
  obtain ⟨own, hown⟩ := Option.isSome_iff_exists.mp (hp.run.owns.offer.mpr hstate)
  rcases NegotiationExchange.receiveOffer_honest hp.run.owns hstate hown hfits hlabel hcounts h with
    ⟨⟨e, rfl, hbl⟩, hfailed, hlimits⟩ | ⟨a, ha, hget, hlimits, hstarted⟩
  · exact hp.closes heard hholds hrun hplays (.declined hfailed hlimits hbl rfl rfl rfl rfl)
  · obtain ⟨v, w, rfl⟩ := attemptOf_opened ha
    have hplayed : p.run.exchange.role = role := hp.plays
    obtain ⟨progress, rfl, hframes, hstate', hconnection⟩ : ∃ progress, r = .ok progress ∧
        (ExchangeReply.received .negotiationOffer (.ok progress)).frames = [] ∧
        run.exchange.state = role.pastOffers ∧ run.exchange.connection = p.connection := by
      cases role with
      | authority =>
        simp only [NegotiationExchange.started, hplayed, Prod.mk.injEq] at hstarted
        obtain ⟨hr, hx, -⟩ := hstarted
        exact ⟨_, hr, rfl, by rw [hx]; rfl, by rw [hx]⟩
      | nonAuthority =>
        simp only [NegotiationExchange.started, hplayed, Prod.mk.injEq] at hstarted
        obtain ⟨hr, hx, -⟩ := hstarted
        exact ⟨_, hr, rfl, by rw [hx]; rfl, by rw [hx]⟩
    refine hp.proceeds (q := q) role.pastOffers heard hrun hplays ?_
      (.inr ⟨_, hframe, rfl⟩) ?_
    · exact {
        live := hlive
        reaches := ⟨hstate', by cases role <;> exact NegotiationState.noConfusion⟩
        known := by cases role <;> rfl
        sent := by
          rw [hphase, hframes]
          cases role <;> rfl
        received := by
          rw [hphase]
          cases role <;> rfl
        heard := rfl
        error := rfl
        grows := ⟨List.prefix_append _ _, fun _ ho => ho, fun _ hk => hk⟩
        means := fun frame hmem => by
          rw [hframes] at hmem
          cases hmem
        offered := fun heq => by cases role <;> cases heq
        fits := hp.fits
        prepared := by cases role <;> decide
        proposed := .inl rfl }
    · intro _
      have ha : NegotiationExchange.attemptOf role own other p.run.manager.offerLimits = _ :=
        hplayed ▸ ha
      rw [← hlimits] at ha hget
      refine ⟨own, other, v, w, (hp.offered hstate).symm.trans hown, hother, ha,
        fun hreports => ?_, ?_⟩
      · rw [show (p.after _ _ run).phase = _ from (if_neg (by
          rw [hstate']
          cases role <;> exact NegotiationState.noConfusion)).trans hstate'] at hreports
        cases role <;> cases hreports
      · show Entry run.manager run.exchange.connection _ _ run.exchange.state
        rw [hstate', hconnection]
        cases role <;> exact hget

theorem keeps_proposal (hp : Inv role p) (heard : Heard role p q) (hholds : Holds role p q)
    (hstate : p.state = .awaitingProposal)
    (hframe : q.sent[p.taken]? = some ⟨.negotiationProposal, body⟩)
    (hmeans : (⟨.negotiationProposal, body⟩ : ControlFrame).Means q.offer q.contract)
    (hrun : run.Inv) (hplays : run.exchange.role = role)
    (h : p.run.exchange.receiveProposal alloc p.run.manager p.requirements body =
      .ok (r, run.exchange, run.manager)) :
    Keeps role p q (p.after (.receive alloc p.requirements ⟨.negotiationProposal, body⟩)
      (.received .negotiationProposal r) run) := by
  obtain ⟨contract, order, hcontract, rfl, hfits, hcounts⟩ := hmeans
  have hlive : p.state ≠ .failed := by
    rw [hstate]
    exact NegotiationState.noConfusion
  have hphase : p.phase = .awaitingProposal := (hp.live hlive).1.symm.trans hstate
  obtain rfl : role = .nonAuthority := by
    have hknown := hp.known
    rw [hphase] at hknown
    cases role with
    | authority => cases hknown
    | nonAuthority => rfl
  obtain ⟨own, other, v, w, hown, hother, hattempt, -, hentry⟩ := hholds (by rw [hphase]; rfl)
  rw [hstate] at hentry
  rcases NegotiationExchange.receiveProposal_honest hp.run.owns hstate hentry hfits hcounts h with
    ⟨⟨e, rfl, hbl⟩, hfailed, hlimits⟩ | ⟨hselects, rfl, hx, hlimits, hget⟩
  · exact hp.closes heard hholds hrun hplays (.declined hfailed hlimits hbl rfl rfl rfl rfl)
  · have hstate' : run.exchange.state = .awaitingEstablished := congrArg NegotiationExchange.state hx
    have hconnection : run.exchange.connection = p.connection := by rw [hx]
    refine hp.proceeds (q := q) .awaitingEstablished heard hrun hplays ?_
      (.inr ⟨_, hframe, rfl⟩) ?_
    · exact {
        live := hlive
        reaches := ⟨hstate', NegotiationState.noConfusion⟩
        known := rfl
        sent := by
          rw [hphase]
          rfl
        received := by
          rw [hphase]
          rfl
        heard := rfl
        error := rfl
        grows := ⟨List.prefix_append _ _, fun _ ho => ho, fun _ hk => hk⟩
        means := fun frame hmem => by
          cases List.mem_singleton.mp hmem
          exact rfl
        offered := NegotiationState.noConfusion
        fits := hp.fits
        prepared := by decide
        proposed := .inl rfl }
    · intro _
      have hlimits : run.manager.offerLimits = p.limits := hlimits
      rw [← hlimits] at hattempt hselects hget
      refine ⟨own, other, v, w, hown, hother, hattempt, fun _ => ⟨contract, hcontract, hselects⟩, ?_⟩
      show Entry run.manager run.exchange.connection _ _ run.exchange.state
      rw [hstate', hconnection]
      exact ⟨contract, hcontract, hget⟩

/-- The last frame that each role receives, whose validation it is and what the exchange does. -/
inductive LastStep :
    SemanticRole → NegotiationState → ControlFrameType → Bool → NegotiationProgress → Prop where
  | validated : LastStep .authority .awaitingValidated .negotiationValidated false
      (.send ⟨.negotiationEstablished, []⟩)
  | established : LastStep .nonAuthority .awaitingEstablished .negotiationEstablished true
      .established

theorem keeps_acknowledgement {authority : Bool} {progress : NegotiationProgress}
    (hlast : LastStep role p.state type authority progress) (hp : Inv role p)
    (heard : Heard role p q) (hholds : Holds role p q)
    (hframe : q.sent[p.taken]? = some ⟨type, []⟩) (hrun : run.Inv)
    (hplays : run.exchange.role = role)
    (h : p.run.exchange.receiveAcknowledgement type authority progress p.run.manager [] =
      .ok (r, run.exchange, run.manager)) :
    Keeps role p q (p.after (.receive alloc p.requirements ⟨type, []⟩) (.received type r) run) := by
  generalize hstate : p.state = state at hlast
  have hlive : p.state ≠ .failed := by
    rw [hstate]
    cases hlast <;> exact NegotiationState.noConfusion
  have hphase : p.phase = state := (hp.live hlive).1.symm.trans hstate
  have howning : p.state.owning = true := by
    rw [hstate]
    cases hlast <;> rfl
  obtain ⟨own, other, v, w, hown, hother, hattempt, hselects, hentry⟩ := hholds (by
    rw [hphase, ← hstate]
    exact howning)
  obtain ⟨contract, hcontract, hsel⟩ := hselects (by
    rw [hphase]
    cases hlast <;> rfl)
  obtain ⟨a, hget, hproposal, hstatus⟩ : ∃ a, p.run.manager.attempts.get? p.connection = some a ∧
      a.proposal = some contract ∧ (a.validatedBy authority).status = .established := by
    rw [hstate] at hentry
    cases hlast with
    | validated =>
      obtain ⟨k, hk, hget⟩ := hentry
      cases hcontract.symm.trans hk
      exact ⟨_, hget, rfl, rfl⟩
    | established =>
      obtain ⟨k, hk, hget⟩ := hentry
      cases hcontract.symm.trans hk
      exact ⟨_, hget, rfl, rfl⟩
  rcases NegotiationExchange.receiveAcknowledgement_honest hp.run.owns howning hget hproposal
    hstatus h with ⟨⟨e, rfl, hbl⟩, hfailed, hlimits⟩ | ⟨rfl, hx, hlimits, bytes, hest⟩
  · exact hp.closes heard hholds hrun hplays (.declined hfailed hlimits hbl rfl rfl rfl rfl)
  · have hstate' : run.exchange.state = .established := by rw [hx]
    have hconnection : run.exchange.connection = p.connection := by rw [hx]
    refine hp.proceeds (q := q) .established heard hrun hplays ?_
      (.inr ⟨_, hframe, rfl⟩) ?_
    · exact {
        live := hlive
        reaches := ⟨hstate', NegotiationState.noConfusion⟩
        known := by cases hlast <;> rfl
        sent := by
          rw [hphase]
          cases hlast <;> rfl
        received := by
          rw [hphase]
          cases hlast <;> rfl
        heard := rfl
        error := rfl
        grows := ⟨List.prefix_append _ _, fun _ ho => ho, fun _ hk => hk⟩
        means := fun frame hmem => by
          cases hlast with
          | validated =>
            cases List.mem_singleton.mp hmem
            exact rfl
          | established => cases hmem
        offered := NegotiationState.noConfusion
        fits := hp.fits
        prepared := by cases hlast <;> decide
        proposed := .inl rfl }
    · intro _
      have hlimits : run.manager.offerLimits = p.limits := hlimits
      rw [← hlimits] at hattempt hsel
      refine ⟨own, other, v, w, hown, hother, hattempt, fun _ => ⟨contract, ?_, hsel⟩, ?_⟩
      · cases hlast <;> exact hcontract
      · show Entry run.manager run.exchange.connection _ _ run.exchange.state
        rw [hstate', hconnection]
        refine ⟨contract, bytes, ?_, hest⟩
        cases hlast <;> exact hcontract

/-- A frame of an honest peer. -/
theorem keeps_receive {frame : ControlFrame} {reply : ExchangeReply} (hp : Inv role p)
    (hq : Inv role.other q) (heard : Heard role p q) (heard' : Heard role.other q p)
    (hholds : Holds role p q) (hready : p.state ≠ .ready) (hlive : p.state ≠ .failed)
    (hframe : q.sent[p.taken]? = some frame) (hrun : run.Inv) (hplays : run.exchange.role = role)
    (h : p.run.exec (.receive alloc p.requirements frame) = .ok (reply, run)) :
    Keeps role p q (p.after (.receive alloc p.requirements frame) reply run) := by
  obtain ⟨hexpects, hmeans⟩ := hp.hears hq heard heard' hready hlive hframe
  have hphase := (hp.live hlive).1
  obtain ⟨type, body⟩ := frame
  simp only [ExchangeRun.exec, Checked.bind_eq_ok, Checked.pure_eq, Except.ok.injEq] at h
  obtain ⟨⟨r, x, m⟩, hop, h⟩ := h
  obtain ⟨rfl, hx, hm⟩ : reply = .received type r ∧ run.exchange = x ∧ run.manager = m := by
    cases h
    exact ⟨rfl, rfl, rfl⟩
  subst hx
  subst hm
  unfold NegotiationExchange.receive at hop
  rcases of_decide_eq_true hexpects with hawaits | ⟨htype, hest⟩
  · generalize hstate : p.state = state at hawaits
    cases state with
    | ready | awaitingAuthoritySelection | established | failed => cases hawaits
    | awaitingPeerOffer =>
      cases hawaits
      simp only [hstate] at hop
      exact keeps_offer hp heard hholds hstate hframe hmeans hrun hplays hop
    | awaitingProposal =>
      cases hawaits
      simp only [hstate] at hop
      exact keeps_proposal hp heard hholds hstate hframe hmeans hrun hplays hop
    | awaitingValidated =>
      cases hawaits
      obtain rfl : body = [] := hmeans
      simp only [hstate] at hop
      refine keeps_acknowledgement ?_ hp heard hholds hframe hrun hplays hop
      have hknown := hp.known
      rw [← hphase, hstate] at hknown
      rw [hstate]
      cases role with
      | authority => exact .validated
      | nonAuthority => cases hknown
    | awaitingEstablished =>
      cases hawaits
      obtain rfl : body = [] := hmeans
      simp only [hstate] at hop
      refine keeps_acknowledgement ?_ hp heard hholds hframe hrun hplays hop
      have hknown := hp.known
      rw [← hphase, hstate] at hknown
      rw [hstate]
      cases role with
      | authority => cases hknown
      | nonAuthority => exact .established
  · cases htype
    rw [if_pos ⟨rfl, hest, hlive⟩] at hop
    exact keeps_failure hp heard hholds hrun hplays ⟨rfl, hmeans⟩ hop

/-- Whatever a side does, beside an honest peer. -/
theorem Acts.keeps (hp : Inv role p) (hq : Inv role.other q) (heard : Heard role p q)
    (heard' : Heard role.other q p) (hholds : Holds role p q) (h : Acts q.sent p p') :
    Keeps role p q p' := by
  obtain ⟨hallowed, h⟩ := h
  rename_i op reply run
  have hapart : p.run.Apart op := by
    cases op with
    | other op => exact hallowed
    | _ => trivial
  have heffect := ExchangeRun.exec_effect hp.run hapart h
  have hplays : run.exchange.role = role := (ExchangeRun.exec_role hp.run h).trans hp.plays
  cases op with
  | prepareOffer alloc offer =>
    exact keeps_prepareOffer hp heard hholds hallowed.1 hallowed.2 heffect.inv hplays h
  | proposeAuthority alloc order contract requirements =>
    obtain ⟨hstate, rfl⟩ := hallowed
    exact keeps_proposeAuthority hp heard hholds hstate heffect.inv hplays h
  | receive alloc requirements frame =>
    obtain ⟨⟨hready, hlive⟩, rfl, hframe⟩ := hallowed
    exact keeps_receive hp hq heard heard' hholds hready hlive hframe heffect.inv hplays h
  | abort =>
    simp only [ExchangeRun.exec, Checked.bind_eq_ok, Checked.pure_eq, Except.ok.injEq] at h
    obtain ⟨⟨r, x, m⟩, hop, h⟩ := h
    obtain ⟨rfl, hfailed, hlimits⟩ := NegotiationExchange.closeWith_result hp.run.owns.toCustody hop
    cases h
    exact hp.closes heard hholds heffect.inv hplays {
      failed := hfailed
      limits := hlimits
      frames := .inl rfl
      error := fun _ he => by cases he
      offer := rfl
      contract := rfl }
  | other op =>
    simp only [ExchangeRun.exec, Checked.bind_eq_ok, Checked.pure_eq, Except.ok.injEq] at h
    obtain ⟨⟨reply, m⟩, hop, h⟩ := h
    obtain ⟨logs, hm⟩ := hp.run.owns.known
    cases h
    exact hp.idles heard hholds heffect.inv rfl
      (NegotiationManager.exec_onlyAt hm hop _ (Ne.symm hallowed))
      (NegotiationManager.exec_limits hm hop)

/-- A side is in the phase that it has just reached. -/
theorem Acts.reaches {inbox : List ControlFrame} (h : Acts inbox p p') (hne : p'.phase ≠ p.phase) :
    p'.state = p'.phase := by
  obtain ⟨-, -⟩ := h
  rename_i op reply run
  by_cases hfailed : run.exchange.state = .failed
  · exact absurd (if_pos hfailed) hne
  · exact (if_neg hfailed).symm

theorem Starts.inv (h : Starts role p) : Inv role p := by
  have hstate : p.state = .ready := by
    obtain ⟨connection, localSettings, peerSettings, hx⟩ := h.run.exchange
    rw [state, hx]
    rfl
  exact {
    run := ExchangeRun.start_inv h.run
    plays := h.plays
    phase := .inr (hstate.trans h.phase.symm)
    known := by
      rw [h.phase]
      cases role <;> rfl
    taken := fun _ => by
      rw [h.phase, h.taken]
      cases role <;> rfl
    sent := by
      refine ⟨false, ?_, fun hr => by cases hr⟩
      rw [h.phase, h.sent]
      cases role <;> rfl
    means := fun frame hframe => by
      rw [h.sent] at hframe
      cases hframe
    offered := fun hawaits => by
      rw [hstate] at hawaits
      cases hawaits
    fits := fun o ho => by
      rw [h.offer] at ho
      cases ho
    unoffered := fun _ => h.offer
    uncontracted := fun _ => h.contract
    blameless := fun e he => by
      rw [h.errors] at he
      cases he }

theorem Starts.heard (h : Starts role p) : Heard role p q := by
  unfold Heard
  rw [h.phase]
  cases role <;> exact List.nil_prefix

theorem Starts.holds (h : Starts role p) : Holds role p q := fun howning => by
  rw [h.phase] at howning
  cases howning

/-- The contract that the manager established for the connection, and that the two offers and the
requirements of this side admit. -/
def Accepts (p : Party) (authorityOffer peerOffer : CompatibilityOffer)
    (contract : NegotiatedContract) : Prop :=
  p.run.manager.establishedFor p.connection = .ok ⟨p.connection, contract⟩ ∧
    ∃ a, NegotiationAttempt.new authorityOffer peerOffer p.limits = .ok a ∧
      a.validateSelection contract p.requirements = .ok ()

/-- The proposal of the authority was validated for the peer. -/
def Validated (p : Party) : Prop :=
  p.state = .awaitingEstablished ∧ ∃ a, p.run.manager.attempts.get? p.connection = some a ∧
    a.proposal.isSome ∧ a.peerValidated = true

theorem Holds.accepts (h : Holds role p q) (hp : Inv role p) (hstate : p.state = .established) :
    ∃ own other contract, p.offer = some own ∧ q.offer = some other ∧
      contractOf role p q = some contract ∧ match role with
        | .authority => p.Accepts own other contract
        | .nonAuthority => p.Accepts other own contract := by
  have hphase : p.phase = .established := by
    rw [← hstate]
    exact (hp.live (by rw [hstate]; exact NegotiationState.noConfusion)).1.symm
  obtain ⟨own, other, v, w, hown, hother, hattempt, hselects, hentry⟩ := h (by rw [hphase]; rfl)
  obtain ⟨k, hk, hsel⟩ := hselects (by rw [hphase]; rfl)
  rw [hstate] at hentry
  obtain ⟨k', bytes, hk', hest⟩ := hentry
  cases hk.symm.trans hk'
  have hestablished : p.run.manager.establishedFor p.connection = .ok ⟨p.connection, k⟩ := by
    rw [NegotiationManager.establishedFor, hest]
  refine ⟨own, other, k, hown, hother, hk, ?_⟩
  cases role with
  | authority =>
    exact ⟨hestablished, _, hattempt, NegotiationAttempt.validateSelection_ok.mpr hsel⟩
  | nonAuthority =>
    exact ⟨hestablished, _, hattempt, NegotiationAttempt.validateSelection_ok.mpr hsel⟩

end Party

/-! ### Both sides -/

/-- The two sides of one connection. What one sent and the other did not take is on its way. -/
structure Negotiation where
  authority : Party
  peer : Party

namespace Negotiation

variable {s s' : Negotiation}

structure Starts (s : Negotiation) : Prop where
  authority : s.authority.Starts .authority
  peer : s.peer.Starts .nonAuthority

inductive Step (s : Negotiation) : Negotiation → Prop where
  | authority {p : Party} (h : Party.Acts s.peer.sent s.authority p) : Step s { s with authority := p }
  | peer {p : Party} (h : Party.Acts s.authority.sent s.peer p) : Step s { s with peer := p }

structure Inv (s : Negotiation) : Prop where
  authority : s.authority.Inv .authority
  peer : s.peer.Inv .nonAuthority
  authorityHeard : s.authority.Heard .authority s.peer
  peerHeard : s.peer.Heard .nonAuthority s.authority
  authorityHolds : s.authority.Holds .authority s.peer
  peerHolds : s.peer.Holds .nonAuthority s.authority

theorem Inv.next (h : Inv s) (hs : Step s s') : Inv s' := by
  cases hs with
  | authority hacts =>
    have hk := hacts.keeps h.authority h.peer h.authorityHeard h.peerHeard h.authorityHolds
    exact ⟨hk.inv, h.peer, hk.heard, h.peerHeard.mono hk.grows, hk.holds,
      h.peerHolds.mono hk.grows⟩
  | peer hacts =>
    have hk := hacts.keeps h.peer h.authority h.peerHeard h.authorityHeard h.peerHolds
    exact ⟨h.authority, hk.inv, h.authorityHeard.mono hk.grows, hk.heard,
      h.authorityHolds.mono hk.grows, hk.holds⟩

theorem inv_of_reachable (h : Reachable Starts Step s) : Inv s :=
  h.invariant (P := Inv) (fun _ h₀ => ⟨h₀.authority.inv, h₀.peer.inv, h₀.authority.heard,
    h₀.peer.heard, h₀.authority.holds, h₀.peer.holds⟩) fun _ _ => Inv.next

theorem Inv.established (h : Inv s) (hphase : s.peer.phase = .established) :
    s.authority.phase = .established := by
  obtain ⟨reported, hsent, -⟩ := h.authority.sent
  have heard := h.peerHeard
  unfold Party.Heard at heard
  rw [hphase, hsent] at heard
  exact established_of_heard h.authority.known heard

theorem Inv.validated (h : Inv s) (hphase : s.authority.phase = .established) :
    s.peer.phase = .awaitingEstablished ∨ s.peer.phase = .established := by
  obtain ⟨reported, hsent, -⟩ := h.peer.sent
  have heard := h.authorityHeard
  unfold Party.Heard at heard
  rw [hphase, hsent] at heard
  exact validated_of_heard h.peer.known heard

theorem phase_of_state {role : SemanticRole} {p : Party} {state : NegotiationState}
    (h : p.Inv role) (hstate : p.state = state) (hlive : state ≠ .failed) : p.phase = state :=
  (h.live (hstate ▸ hlive)).1.symm.trans hstate

/-- The peer is established after the authority. -/
theorem peer_after_authority (h : Reachable Starts Step s) (hs : s.peer.state = .established) :
    ∃ s₁, Reachable Starts Step s₁ ∧ Relation.ReflTransGen Step s₁ s ∧
      s₁.authority.state = .established ∧ s₁.peer.state ≠ .established := by
  have hphase : s.authority.phase = .established :=
    (inv_of_reachable h).established
      (phase_of_state (inv_of_reachable h).peer hs NegotiationState.noConfusion)
  obtain ⟨s₁, s₂, hs₁, hstep, hrun, hnot, hreached⟩ :=
    h.passes (P := fun s => s.authority.phase = .established) (fun s h₀ heq => by
      rw [h₀.authority.phase] at heq
      cases heq) hphase
  have hi := inv_of_reachable hs₁
  refine ⟨s₂, hs₁.next hstep, hrun, ?_⟩
  cases hstep with
  | authority hacts =>
    refine ⟨(hacts.reaches fun heq => hnot (heq ▸ hreached)).trans hreached, fun hpeer => hnot ?_⟩
    exact hi.established (phase_of_state hi.peer hpeer NegotiationState.noConfusion)
  | peer hacts => exact absurd hreached hnot

/-- The authority is established after the peer validated its proposal. -/
theorem authority_after_validation (h : Reachable Starts Step s)
    (hs : s.authority.state = .established) :
    ∃ s₁, Reachable Starts Step s₁ ∧ Relation.ReflTransGen Step s₁ s ∧ s₁.peer.Validated ∧
      s₁.authority.state ≠ .established := by
  have hphase := (inv_of_reachable h).validated
    (phase_of_state (inv_of_reachable h).authority hs NegotiationState.noConfusion)
  obtain ⟨s₁, s₂, hs₁, hstep, hrun, hnot, hreached⟩ := h.passes
    (P := fun s => s.peer.phase = .awaitingEstablished ∨ s.peer.phase = .established)
    (fun s h₀ heq => by
      rw [h₀.peer.phase] at heq
      rcases heq with heq | heq <;> cases heq) hphase
  have hi := inv_of_reachable hs₁
  have hi₂ := inv_of_reachable (hs₁.next hstep)
  refine ⟨s₂, hs₁.next hstep, hrun, ?_⟩
  cases hstep with
  | authority hacts => exact absurd hreached hnot
  | peer hacts =>
    have hstate := hacts.reaches fun heq => hnot (heq ▸ hreached)
    have hawaits := hreached.resolve_right fun hest => hnot (hi.validated (hi₂.established hest))
    refine ⟨⟨hstate.trans hawaits, ?_⟩, fun hauthority => hnot (hi.validated ?_)⟩
    · obtain ⟨_, _, v, w, -, -, -, -, hentry⟩ := hi₂.peerHolds (by rw [hawaits]; rfl)
      rw [hstate, hawaits] at hentry
      obtain ⟨k, -, hget⟩ := hentry
      exact ⟨_, hget, rfl, rfl⟩
    · exact phase_of_state hi.authority hauthority NegotiationState.noConfusion

/-- In every interleaving of two sides that keep their order of calls, the peer is established only
after the authority and the authority only after the peer validated its proposal; when both are, one
contract is in both managers and admitted by the two offers under the limits and the requirements of
either; and no operation of either side finds that the other, or the manager, broke the protocol. -/
theorem negotiation_agreement (h : Reachable Starts Step s) :
    (s.peer.state = .established → ∃ s₁, Reachable Starts Step s₁ ∧
      Relation.ReflTransGen Step s₁ s ∧ s₁.authority.state = .established ∧
      s₁.peer.state ≠ .established) ∧
    (s.authority.state = .established → ∃ s₁, Reachable Starts Step s₁ ∧
      Relation.ReflTransGen Step s₁ s ∧ s₁.peer.Validated ∧
      s₁.authority.state ≠ .established) ∧
    (s.authority.state = .established → s.peer.state = .established →
      ∃ authorityOffer peerOffer contract, s.authority.offer = some authorityOffer ∧
        s.peer.offer = some peerOffer ∧
        s.authority.Accepts authorityOffer peerOffer contract ∧
        s.peer.Accepts authorityOffer peerOffer contract) ∧
    ∀ e ∈ s.authority.errors ++ s.peer.errors,
      (∀ p, e ≠ .profileProtocol p) ∧ ∀ status, e ≠ .unexpectedCoreStatus status := by
  have hi := inv_of_reachable h
  refine ⟨peer_after_authority h, authority_after_validation h, fun ha hp => ?_, fun e he => ?_⟩
  · obtain ⟨ao, po, k, hao, hpo, hk, haccepts⟩ := hi.authorityHolds.accepts hi.authority ha
    obtain ⟨po', ao', k', hpo', hao', hk', haccepts'⟩ := hi.peerHolds.accepts hi.peer hp
    cases hao.symm.trans hao'
    cases hpo.symm.trans hpo'
    cases hk.symm.trans hk'
    exact ⟨ao, po, k, hao, hpo, haccepts, haccepts'⟩
  · obtain ⟨state, hblameless⟩ : ∃ state, e.Blameless state := by
      rcases List.mem_append.mp he with he | he
      · exact hi.authority.blameless e he
      · exact hi.peer.blameless e he
    constructor
    · rintro p rfl
      exact hblameless
    · rintro status rfl
      exact hblameless

/-! Both sides make the same offer and agree on everything in it. -/

/-- What a side does next. -/
inductive Turn where
  | prepare
  | propose
  | hear

/-- An order of the sample's contract, and of any other. -/
def sampleOrder (c : NegotiatedContract) : ContractOrder c :=
  if h : c.capabilities = {⟨2⟩} then
    ⟨[⟨2⟩], c.schemas.entries, List.nodup_singleton _, fun id => by
      rw [h, List.mem_singleton, Finset.mem_singleton], .refl _⟩
  else
    ⟨c.capabilities.sort, c.schemas.entries, Finset.sort_nodup _ _, fun _ => Finset.mem_sort _,
      .refl _⟩

def Turn.op (p : Party) (inbox : List ControlFrame) : Turn → Option ExchangeOp
  | .prepare => if p.state = .ready then
      some (.prepareOffer ExchangeRun.sampleAlloc NegotiationAttempt.sampleOffer) else none
  | .propose => if p.state = .awaitingAuthoritySelection then
      some (.proposeAuthority ExchangeRun.sampleAlloc sampleOrder NegotiationRun.sampleContract
        p.requirements) else none
  | .hear => if p.state ≠ .ready ∧ p.state ≠ .failed then
      inbox[p.taken]?.map (.receive ExchangeRun.sampleAlloc p.requirements) else none

theorem Turn.op_allowed {p : Party} {inbox : List ControlFrame} {turn : Turn} {op : ExchangeOp}
    (h : turn.op p inbox = some op) : p.Allows inbox op := by
  cases turn with
  | prepare =>
    simp only [Turn.op, Option.ite_none_right_eq_some] at h
    obtain ⟨hstate, h⟩ := h
    cases h
    refine ⟨hstate, ?_⟩
    constructor
    all_goals simp [NegotiationAttempt.sampleOffer, ProtocolContract.Fits, CapabilityOffer.Fits,
      SchemaOffer.Fits, SchemaContractOffer.Fits, Ident.Fits]
  | propose =>
    simp only [Turn.op, Option.ite_none_right_eq_some] at h
    obtain ⟨hstate, h⟩ := h
    cases h
    exact ⟨hstate, rfl⟩
  | hear =>
    simp only [Turn.op, Option.ite_none_right_eq_some] at h
    obtain ⟨hstate, h⟩ := h
    obtain ⟨frame, hframe, rfl⟩ := Option.map_eq_some_iff.mp h
    exact ⟨hstate, rfl, hframe⟩

def take (p : Party) (inbox : List ControlFrame) (turn : Turn) : Option Party :=
  (turn.op p inbox).bind fun op =>
    (p.run.exec op).toOption.map fun (reply, run) => p.after op reply run

theorem take_acts {p p' : Party} {inbox : List ControlFrame} {turn : Turn}
    (h : take p inbox turn = some p') : Party.Acts inbox p p' := by
  obtain ⟨op, hop, h⟩ := Option.bind_eq_some_iff.mp h
  obtain ⟨⟨reply, run⟩, hexec, rfl⟩ := Option.map_eq_some_iff.mp h
  cases hp : p.run.exec op with
  | error e =>
    rw [hp] at hexec
    cases hexec
  | ok result =>
    rw [hp] at hexec
    cases hexec
    exact .exec (Turn.op_allowed hop) hp

/-- The turns of the authority (`true`) and of the peer. -/
def play (s : Negotiation) : List (Bool × Turn) → Option Negotiation
  | [] => some s
  | (true, turn) :: turns =>
    (take s.authority s.peer.sent turn).bind fun p => play { s with authority := p } turns
  | (false, turn) :: turns =>
    (take s.peer s.authority.sent turn).bind fun p => play { s with peer := p } turns

theorem play_reachable {turns : List (Bool × Turn)} (hs : Reachable Starts Step s)
    (h : play s turns = some s') : Reachable Starts Step s' := by
  induction turns generalizing s with
  | nil =>
    cases h
    exact hs
  | cons entry turns ih =>
    obtain ⟨authority, turn⟩ := entry
    cases authority with
    | true =>
      obtain ⟨p, hp, h⟩ := Option.bind_eq_some_iff.mp h
      exact ih (hs.next (.authority (take_acts hp))) h
    | false =>
      obtain ⟨p, hp, h⟩ := Option.bind_eq_some_iff.mp h
      exact ih (hs.next (.peer (take_acts hp))) h

def sampleParty (own other : SemanticRole) (requirements : NegotiationRequirements) : Party :=
  let manager : NegotiationManager := ⟨.default, ⟨64, 16777216⟩, 196608, 0, .empty, .empty⟩
  ⟨⟨.fromProfile ⟨1⟩ ⟨own, 1024, 1024, 4, 64⟩ ⟨other, 1024, 1024, 4, 64⟩, manager, manager, []⟩,
    requirements, .ready, none, none, [], 0, []⟩

def sampleStart : Negotiation :=
  ⟨sampleParty .authority .nonAuthority ⟨[⟨2⟩], []⟩, sampleParty .nonAuthority .authority ⟨[], [⟨3⟩]⟩⟩

theorem sampleParty_starts (own other : SemanticRole) (requirements : NegotiationRequirements) :
    (sampleParty own other requirements).Starts own where
  run := {
    exchange := ⟨_, _, _, rfl⟩
    manager := ⟨fun _ => none, .start ⟨⟨.default, ⟨64, 16777216⟩, rfl⟩, rfl⟩⟩
    before := rfl
    done := rfl }
  plays := rfl
  phase := rfl
  offer := rfl
  contract := rfl
  sent := rfl
  taken := rfl
  errors := rfl

def sampleTurns : List (Bool × Turn) :=
  [(true, .prepare), (false, .prepare), (true, .hear), (true, .propose), (false, .hear),
    (false, .hear), (true, .hear), (false, .hear)]

theorem negotiation_agreement_sample : ∃ s, play sampleStart sampleTurns = some s ∧
    s.authority.state = .established ∧ s.peer.state = .established ∧
    ∃ authorityOffer peerOffer contract, s.authority.offer = some authorityOffer ∧
      s.peer.offer = some peerOffer ∧ s.authority.Accepts authorityOffer peerOffer contract ∧
      s.peer.Accepts authorityOffer peerOffer contract := by
  have hplayed : ((play sampleStart sampleTurns).any fun s =>
      s.authority.state = .established && s.peer.state = .established) = true := by
    decide +kernel
  obtain ⟨s, hs, hstate⟩ := (Option.any_eq_true _ _).mp hplayed
  simp only [Bool.and_eq_true, decide_eq_true_eq] at hstate
  have hstarts : Starts sampleStart := ⟨sampleParty_starts _ _ _, sampleParty_starts _ _ _⟩
  obtain ⟨-, -, hagree, -⟩ := negotiation_agreement (play_reachable (.start hstarts) hs)
  exact ⟨s, hs, hstate.1, hstate.2, hagree hstate.1 hstate.2⟩

end Negotiation

end RunenNet
