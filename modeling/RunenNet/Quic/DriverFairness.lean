import RunenNet.Foundation.Rotation
import RunenNet.Quic.ControlOrder

/-!
# The turns of the driver

A poll of the driver looks at its eight kinds of work in a circle and stops at the first that has
something to do; the next poll begins behind it. No kind of work is passed over for long, whatever
the others have to do.
-/

namespace RunenNet

open Foundation

theorem rotation_eq {n cursor : Nat} : rotation (cursor % n) n = around n cursor n := around_mod

namespace EstablishedConnectionDriver

variable {t : DriverTransport} {alloc : Allocator} {d d' : EstablishedConnectionDriver}
  {e e' : DeliveryEndpoint}
  {answer : Polled (Except ConnectionDriverError EstablishedConnectionProgress)}

/-- The categories that the loop of a poll looks at: each but the last has nothing to do. -/
def looksFrom (t : DriverTransport) : List Nat → EstablishedConnectionDriver → DeliveryEndpoint →
    List Nat
  | [], _, _ => []
  | index :: rest, d, endpoint => index :: match d.pollCategory t endpoint index with
    | .ok (.none, d, endpoint) => looksFrom t rest d endpoint
    | _ => []

/-- The categories that a poll looks at. -/
def looks (d : EstablishedConnectionDriver) (t : DriverTransport) (endpoint : DeliveryEndpoint) :
    List Nat :=
  looksFrom t (rotation (d.pollCursor % driverCategoryCount) driverCategoryCount) d endpoint

/-- A poll looks at all categories, or stops at the one that gives the answer. -/
theorem pollFrom_looks {next : Nat} {indices : List Nat}
    (h : pollFrom t next indices d e = .ok (answer, d', e')) :
    (looksFrom t indices d e = indices ∧ answer = none ∧ d'.pollCursor = next) ∨
      ∃ before index after, indices = before ++ index :: after ∧
        looksFrom t indices d e = before ++ [index] ∧ answer.isSome = true ∧
          d'.pollCursor = nextPollCursor index := by
  induction indices generalizing d e with
  | nil =>
    cases h
    exact .inl ⟨rfl, rfl, rfl⟩
  | cons index rest ih =>
    simp only [pollFrom] at h
    cases hcategory : d.pollCategory t e index with
    | error panic =>
      rw [hcategory] at h
      cases h
    | ok stepped =>
      obtain ⟨step, d₁, e₁⟩ := stepped
      rw [hcategory, Checked.ok_bind] at h
      cases step with
      | none =>
        have hlooks : looksFrom t (index :: rest) d e = index :: looksFrom t rest d₁ e₁ := by
          simp only [looksFrom, hcategory]
        rcases ih h with ⟨hall, hnone, hcursor⟩ | ⟨before, i, after, hrest, hstop, hsome, hcursor⟩
        · exact .inl ⟨by rw [hlooks, hall], hnone, hcursor⟩
        · exact .inr ⟨index :: before, i, after, by rw [hrest]; rfl, by rw [hlooks, hstop]; rfl,
            hsome, hcursor⟩
      | progress progress =>
        cases h
        exact .inr ⟨[], index, rest, rfl, by simp only [looksFrom, hcategory]; rfl, rfl, rfl⟩
      | error error =>
        cases h
        exact .inr ⟨[], index, rest, rfl, by simp only [looksFrom, hcategory]; rfl, rfl, rfl⟩

/-- A poll takes its turn. -/
theorem pollStep_turn (hphase : d.phase ≠ .terminal) (hopen : t.peerNoErrorClose = false)
    (h : d.pollStep t e = .ok (answer, d', e')) :
    Turn driverCategoryCount d.pollCursor (d.looks t e) d'.pollCursor := by
  simp only [pollStep, if_neg hphase, hopen, Bool.false_eq_true, if_false, pollRound] at h
  refine .of_loop ?_
  rw [looks, ← rotation_eq]
  rcases pollFrom_looks h with ⟨hall, -, -⟩ | ⟨before, index, after, hsplit, hstop, -, hcursor⟩
  · exact .inl hall
  · exact .inr ⟨before, index, after, hsplit, hstop, hcursor⟩

/-- A poll that finds nothing to do has looked at every category. -/
theorem pollStep_idle (hopen : t.peerNoErrorClose = false) (h : d.pollStep t e = .ok (none, d', e'))
    {category : Nat} (hcategory : category < driverCategoryCount) : category ∈ d.looks t e := by
  unfold pollStep at h
  split at h
  · cases h
  · simp only [hopen, Bool.false_eq_true, if_false, pollRound] at h
    rcases pollFrom_looks h with ⟨hall, -, -⟩ | ⟨_, _, _, -, -, hsome, -⟩
    · rw [looks, hall, rotation_eq]
      exact mem_around_whole hcategory
    · cases hsome

/-! ### Commands leave the turn where it is -/

@[simp] theorem enterTerminal_pollCursor : d.enterTerminal.pollCursor = d.pollCursor := by
  unfold enterTerminal
  split
  · rfl
  · rfl

theorem startPreparedSend_pollCursor {pending : PendingFlowControlSend}
    {r : Except ConnectionDriverError Unit} (h : d.startPreparedSend pending = (r, d')) :
    d'.pollCursor = d.pollCursor := by
  unfold startPreparedSend startControlSend at h
  split at h
  · rename_i heq
    cases h
    rw [enterTerminal_pollCursor]
    split at heq
    · cases heq
      rfl
    · split at heq
      · cases heq
      · cases heq
        rfl
      · cases heq
        rfl
  · rename_i heq
    cases h
    split at heq
    · cases heq
    · split at heq
      · cases heq
        rfl
      · cases heq
      · cases heq

theorem applyDataFailure_pollCursor {disposition : EstablishedDataFailureDisposition}
    {error : ConnectionDriverError} {r : Except ConnectionDriverError FlowId}
    (h : d.applyDataFailure alloc e disposition error = .ok (r, d', e')) :
    d'.pollCursor = d.pollCursor := by
  unfold applyDataFailure at h
  simp only at h
  split at h
  rotate_left 3
  · cases h
    exact enterTerminal_pollCursor
  -- the dispositions that concern a flow are prepared alike
  all_goals
    simp only [Checked.bind_eq_ok] at h
    obtain ⟨⟨res, fc, e₁⟩, -, h⟩ := h
    split at h
    · cases h
      rw [enterTerminal_pollCursor]
    · split at h
      · rename_i hs
        cases h
        exact (startPreparedSend_pollCursor hs :)
      · rename_i hs
        cases h
        exact (startPreparedSend_pollCursor hs :)
    · simp only [Checked.bind_eq_ok] at h
      obtain ⟨-, -, h⟩ := h
      cases h
      rfl
    · cases h
      rw [enterTerminal_pollCursor]

theorem openOutbound_pollCursor {maxDatagramSize : Option Nat} {request : OutboundOpenRequest}
    {r : Except ConnectionDriverError Unit}
    (h : d.openOutbound alloc maxDatagramSize e request = .ok (r, d')) :
    d'.pollCursor = d.pollCursor := by
  unfold openOutbound at h
  split at h
  · cases h
    rfl
  · simp only [Checked.bind_eq_ok] at h
    obtain ⟨⟨res, fc⟩, -, h⟩ := h
    split at h
    · cases h
      split
      · rw [enterTerminal_pollCursor]
      · rfl
    · exact (startPreparedSend_pollCursor (Except.ok.inj h) :)

theorem startDecision_pollCursor {decided : FlowDriver.Decided}
    {r : Except InboundDecisionDriverError Unit} (h : d.startDecision decided = (r, d', e')) :
    d'.pollCursor = d.pollCursor := by
  unfold startDecision at h
  simp only at h
  split at h
  · cases h
    split
    · rw [enterTerminal_pollCursor]
    · rfl
  · cases h
    rw [startPreparedSend_pollCursor Prod.mk.eta.symm]

theorem acceptInbound_pollCursor {request : InboundOpenRequest} {admission : InboundAdmission}
    {r : Except InboundDecisionDriverError Unit}
    (h : d.acceptInbound alloc e request admission = .ok (r, d', e')) :
    d'.pollCursor = d.pollCursor := by
  unfold acceptInbound at h
  split at h
  · cases h
    rfl
  · simp only [Checked.bind_eq_ok] at h
    obtain ⟨decided, -, h⟩ := h
    exact startDecision_pollCursor (Except.ok.inj h)

theorem rejectInbound_pollCursor {request : InboundOpenRequest} {reason : FlowRejectReason}
    {r : Except InboundDecisionDriverError Unit}
    (h : d.rejectInbound alloc e request reason = .ok (r, d', e')) :
    d'.pollCursor = d.pollCursor := by
  unfold rejectInbound at h
  split at h
  · cases h
    rfl
  · simp only [Checked.bind_eq_ok] at h
    obtain ⟨decided, -, h⟩ := h
    exact startDecision_pollCursor (Except.ok.inj h)

theorem requestOutboundFinishNormal_pollCursor {finished : Except IoFailure Unit} {flowId : FlowId}
    {r : Except ConnectionDriverError OutboundFinishOutcome}
    (h : d.requestOutboundFinishNormal alloc finished e flowId = .ok (r, d', e')) :
    d'.pollCursor = d.pollCursor := by
  unfold requestOutboundFinishNormal at h
  split at h
  · cases h
    rfl
  · simp only [Checked.bind_eq_ok] at h
    obtain ⟨⟨res, reliable⟩, -, h⟩ := h
    split at h
    · cases h
      rfl
    · split at h
      · cases h
        rfl
      · cases h
        rfl
      · split at h
        · cases h
          rfl
        · simp only [Checked.bind_eq_ok] at h
          obtain ⟨⟨applied, d₁, e₁⟩, happly, h⟩ := h
          cases h
          exact (applyDataFailure_pollCursor happly :)
      · cases h
        rw [enterTerminal_pollCursor]

theorem requestOutboundFinishNormalByKey_pollCursor {finished : Except IoFailure Unit}
    {key : DeliveryFlowKey} {mode : DeliveryMode}
    {r : Except KeyedFinishError OutboundFinishOutcome}
    (h : d.requestOutboundFinishNormalByKey alloc finished e key mode = .ok (r, d', e')) :
    d'.pollCursor = d.pollCursor := by
  unfold requestOutboundFinishNormalByKey at h
  split at h
  · cases h
    rfl
  · split at h
    · split at h
      · cases h
        rfl
      · simp only [Checked.bind_eq_ok] at h
        obtain ⟨⟨res, d₁, e₁⟩, hfinish, h⟩ := h
        cases h
        exact requestOutboundFinishNormal_pollCursor hfinish
    -- the unreliable modes end the flow at once
    all_goals
      split at h
      · cases h
        rfl
      · simp only [Checked.bind_eq_ok] at h
        obtain ⟨⟨res, fc, e₁⟩, -, h⟩ := h
        split at h
        · cases h
          rfl
        · cases h
          rw [startPreparedSend_pollCursor Prod.mk.eta.symm]

theorem submitUnreliable_pollCursor {maxDatagramSize : Option Nat} {flowId : FlowId}
    {payload : List UInt8} {r : Except DatagramSubmitDriverError DatagramSubmitOutcome}
    (h : d.submitUnreliable alloc maxDatagramSize e flowId payload = .ok (r, d', e')) :
    d'.pollCursor = d.pollCursor := by
  unfold submitUnreliable at h
  split at h
  · cases h
    rfl
  · simp only [Checked.bind_eq_ok] at h
    obtain ⟨⟨res, e₁⟩, -, h⟩ := h
    split at h
    · split at h
      · cases h
        exact enterTerminal_pollCursor
      · cases h
        rfl
    · split at h
      · simp only [Checked.bind_eq_ok] at h
        obtain ⟨⟨applied, d₁, e₂⟩, happly, h⟩ := h
        cases h
        exact applyDataFailure_pollCursor happly
      · cases h
        split
        · exact enterTerminal_pollCursor
        · rfl

theorem submitUnreliableByKey_pollCursor {maxDatagramSize : Option Nat} {key : DeliveryFlowKey}
    {payload : List UInt8} {r : Except KeyedDatagramSubmitError DatagramSubmitOutcome}
    (h : d.submitUnreliableByKey alloc maxDatagramSize e key payload = .ok (r, d', e')) :
    d'.pollCursor = d.pollCursor := by
  unfold submitUnreliableByKey at h
  split at h
  · cases h
    rfl
  · simp only [Checked.bind_eq_ok] at h
    obtain ⟨⟨res, d₁, e₁⟩, hsubmit, h⟩ := h
    cases h
    exact submitUnreliable_pollCursor hsubmit

end EstablishedConnectionDriver

namespace DriverCall

variable {d d' : EstablishedConnectionDriver} {e : DeliveryEndpoint} {call : DriverCall}

/-- Once the peer has closed, the control receiver goes before the others in every poll. -/
def BeforeClose : DriverCall → Prop
  | .pollStep t => t.peerNoErrorClose = false
  | _ => True

/-- The categories that the poll of a driver that runs looks at. -/
def looked (d : EstablishedConnectionDriver) (e : DeliveryEndpoint) : DriverCall → List (List Nat)
  | .pollStep t => if d.phase = .terminal then [] else [d.looks t e]
  | _ => []

theorem looked_command (hcommand : ∀ t, call ≠ .pollStep t) : call.looked d e = [] := by
  cases call with
  | pollStep t => exact absurd rfl (hcommand t)
  | _ => rfl

theorem exec_answer {α : Type} {x : Checked α} {f : α → EstablishedConnectionDriver}
    (h : f <$> x = .ok d') : ∃ answer, x = .ok answer ∧ f answer = d' := by
  rw [map_eq_pure_bind, Checked.bind_eq_ok] at h
  obtain ⟨answer, hx, h⟩ := h
  exact ⟨answer, hx, Except.ok.inj h⟩

/-- A command leaves the turn to the next poll. -/
theorem exec_command (hcommand : ∀ t, call ≠ .pollStep t) (h : call.exec d e = .ok d') :
    d'.pollCursor = d.pollCursor := by
  cases call with
  | pollStep t => exact absurd rfl (hcommand t)
  | openOutbound =>
    obtain ⟨⟨r, d₁⟩, hrun, rfl⟩ := exec_answer h
    exact EstablishedConnectionDriver.openOutbound_pollCursor hrun
  | acceptInbound =>
    obtain ⟨⟨r, d₁, e₁⟩, hrun, rfl⟩ := exec_answer h
    exact EstablishedConnectionDriver.acceptInbound_pollCursor hrun
  | rejectInbound =>
    obtain ⟨⟨r, d₁, e₁⟩, hrun, rfl⟩ := exec_answer h
    exact EstablishedConnectionDriver.rejectInbound_pollCursor hrun
  | requestOutboundFinishNormal =>
    obtain ⟨⟨r, d₁, e₁⟩, hrun, rfl⟩ := exec_answer h
    exact EstablishedConnectionDriver.requestOutboundFinishNormal_pollCursor hrun
  | requestOutboundFinishNormalByKey =>
    obtain ⟨⟨r, d₁, e₁⟩, hrun, rfl⟩ := exec_answer h
    exact EstablishedConnectionDriver.requestOutboundFinishNormalByKey_pollCursor hrun
  | submitUnreliable =>
    obtain ⟨⟨r, d₁, e₁⟩, hrun, rfl⟩ := exec_answer h
    exact EstablishedConnectionDriver.submitUnreliable_pollCursor hrun
  | submitUnreliableByKey =>
    obtain ⟨⟨r, d₁, e₁⟩, hrun, rfl⟩ := exec_answer h
    exact EstablishedConnectionDriver.submitUnreliableByKey_pollCursor hrun

/-- A poll takes its turn. -/
theorem exec_poll {t : DriverTransport} (hopen : t.peerNoErrorClose = false)
    (h : exec d e (.pollStep t) = .ok d') :
    Turns driverCategoryCount d.pollCursor (looked d e (.pollStep t)) d'.pollCursor := by
  obtain ⟨⟨answer, d₁, e₁⟩, hpoll, rfl⟩ := exec_answer h
  simp only [looked]
  split
  · rename_i hphase
    rw [EstablishedConnectionDriver.pollStep, if_pos hphase] at hpoll
    cases hpoll
    exact .nil
  · rename_i hphase
    exact .cons (EstablishedConnectionDriver.pollStep_turn hphase hopen hpoll) .nil

/-- A call takes a turn, or leaves it to the next call. -/
theorem exec_turns (hcall : call.BeforeClose) (h : call.exec d e = .ok d') :
    Turns driverCategoryCount d.pollCursor (call.looked d e) d'.pollCursor := by
  by_cases hpoll : ∃ t, call = .pollStep t
  · obtain ⟨t, rfl⟩ := hpoll
    exact exec_poll hcall h
  · have hcommand : ∀ t, call ≠ .pollStep t := fun t heq => hpoll ⟨t, heq⟩
    rw [exec_command hcommand h, looked_command hcommand]
    exact .nil

end DriverCall

/-- A run of a driver, with the categories that each of its polls looked at. -/
structure TurnRun where
  driver : EstablishedConnectionDriver
  looked : List (List Nat)

namespace TurnRun

/-- A call that the driver gets while the peer has not closed. The endpoint is the host's, who may
do anything with it between two calls. -/
abbrev Call := { call : DriverCall // call.BeforeClose } × DeliveryEndpoint

def exec (s : TurnRun) (call : Call) : Checked TurnRun := do
  let driver ← call.1.val.exec s.driver call.2
  return ⟨driver, s.looked ++ call.1.val.looked s.driver call.2⟩

def Step (s s' : TurnRun) : Prop := ∃ call, s.exec call = .ok s'

def Starts (s : TurnRun) : Prop := s.looked = []

variable {s s' : TurnRun}

theorem Step.turns {start : Nat}
    (hs : Turns driverCategoryCount start s.looked s.driver.pollCursor) (h : Step s s') :
    Turns driverCategoryCount start s'.looked s'.driver.pollCursor := by
  obtain ⟨call, h⟩ := h
  simp only [exec, Checked.bind_eq_ok, Checked.pure_eq, Except.ok.injEq] at h
  obtain ⟨d', hexec, rfl⟩ := h
  exact hs.append (DriverCall.exec_turns call.1.property hexec)

theorem reachable_turns (h : Reachable Starts Step s) :
    ∃ start, Turns driverCategoryCount start s.looked s.driver.pollCursor := by
  refine h.invariant (P := fun s => ∃ start,
    Turns driverCategoryCount start s.looked s.driver.pollCursor) ?_ ?_
  · intro s hs
    rw [show s.looked = [] from hs]
    exact ⟨s.driver.pollCursor, .nil⟩
  · intro s s' hs hstep
    obtain ⟨start, hs⟩ := hs
    exact ⟨start, hstep.turns hs⟩

/-- Whatever the work is and whatever the host does in between, eight polls in a row look at each
category, and a poll that finds nothing to do has looked at all of them. A command of the host
leaves the turn where it is. -/
theorem driver_fair (h : Reachable Starts Step s) {category : Nat}
    (hcategory : category < driverCategoryCount) :
    (∀ before polls after : List (List Nat), s.looked = before ++ polls ++ after →
      driverCategoryCount ≤ polls.length → ∃ looks ∈ polls, category ∈ looks) ∧
    (∀ (t : DriverTransport) (e e' : DeliveryEndpoint) (d' : EstablishedConnectionDriver),
      t.peerNoErrorClose = false → s.driver.pollStep t e = .ok (none, d', e') →
        category ∈ s.driver.looks t e) ∧
    ∀ (call : DriverCall) (e : DeliveryEndpoint) (d' : EstablishedConnectionDriver),
      (∀ t, call ≠ .pollStep t) → call.exec s.driver e = .ok d' →
        d'.pollCursor = s.driver.pollCursor := by
  refine ⟨fun before polls after hlooked hlength => ?_, fun t e e' d' hopen hpoll =>
    EstablishedConnectionDriver.pollStep_idle hopen hpoll hcategory,
    fun call e d' hcommand hexec => DriverCall.exec_command hcommand hexec⟩
  obtain ⟨start, hturns⟩ := reachable_turns h
  rw [hlooked] at hturns
  exact hturns.all_within hlength hcategory

/-! The open of a flow is sent, and seven polls find nothing to do. -/

def sampleStart : TurnRun := ⟨.new FlowRun.sampleStart.client.control (.nearest 64), []⟩

def sampleCalls : List Call :=
  [(⟨.openOutbound FlowRun.sampleAlloc none ⟨⟨⟨1⟩, .outbound, ⟨9⟩⟩, .reliableOrdered,
      FlowRun.samplePolicy, .nearest 16, FlowRun.sampleLimits⟩, trivial⟩,
      .new FlowRun.sampleLimits),
    (⟨.pollStep Connection.sendingTransport.step, rfl⟩, .new FlowRun.sampleLimits)] ++
  List.replicate 7 (⟨.pollStep Connection.idleTransport.step, rfl⟩, .new FlowRun.sampleLimits)

theorem driver_fair_sample : ∃ s, sampleCalls.foldlM exec sampleStart = .ok s ∧
    s.looked.head? = some [0] ∧ ∃ looks ∈ s.looked, 7 ∈ looks := by
  have hplayed : ((sampleCalls.foldlM exec sampleStart).toOption.any fun s =>
      decide (s.looked.length = driverCategoryCount ∧ s.looked.head? = some [0])) = true := by
    decide +kernel
  obtain ⟨s, hs, hlooked⟩ := (Option.any_eq_true _ _).mp hplayed
  obtain ⟨hlength, hhead⟩ := of_decide_eq_true hlooked
  have hreach : Reachable Starts Step s :=
    Checked.foldlM_invariant (P := Reachable Starts Step)
      (fun _ call _ h hcall => h.next ⟨call, hcall⟩) (.start (s := sampleStart) rfl)
      (ok_of_toOption hs)
  exact ⟨s, ok_of_toOption hs, hhead, (driver_fair hreach (by decide)).1 [] s.looked []
    (by rw [List.append_nil, List.nil_append]) (le_of_eq hlength.symm)⟩

end TurnRun

end RunenNet
