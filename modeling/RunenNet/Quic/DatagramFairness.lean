import RunenNet.Quic.DriverFairness

/-!
# The turns of the unreliable flows

The unreliable flows of a connection share its datagrams. A drive goes around the flows that are
scheduled and stops behind the first that has something to send or that fails; none of them is
passed over for long, however much the others send.
-/

namespace RunenNet

open Foundation

namespace DatagramConnectionIo

variable {t : DatagramSendTransport} {fc : FlowControl} {io io' : DatagramConnectionIo}
  {e e' : DeliveryEndpoint} {len next : Nat} {indices : List Nat}
  {r : Except DatagramIoError (Option DatagramOutboundProgress)}

/-- The places in the schedule that the loop of a drive looks at: each but the last is idle. -/
def drivesFrom (t : DatagramSendTransport) (fc : FlowControl) :
    List Nat → DatagramConnectionIo → DeliveryEndpoint → List Nat
  | [], _, _ => []
  | index :: rest, io, endpoint => index :: (io.outbound[index]?).elim [] fun flowId =>
    match driveOne t endpoint fc.registry flowId io.outboundTransportDrops with
    | .ok (.ok .idle, endpoint, drops) =>
      drivesFrom t fc rest { io with outboundTransportDrops := drops } endpoint
    | _ => []

/-- The places that a drive looks at. -/
def drives (io : DatagramConnectionIo) (t : DatagramSendTransport) (fc : FlowControl)
    (endpoint : DeliveryEndpoint) : List Nat :=
  drivesFrom t fc (rotation (io.outboundCursor % io.outbound.length) io.outbound.length) io endpoint

/-- No flow of the schedule has ended. -/
def AllLive (io : DatagramConnectionIo) (fc : FlowControl) : Prop :=
  ∀ flowId ∈ io.outbound, registeredOutboundUnreliableIsLive fc flowId = true

theorem drivesFrom_idle {index drops : Nat} (rest : List Nat) {flowId : FlowId}
    (hindex : io.outbound[index]? = some flowId)
    (hdrive : driveOne t e fc.registry flowId io.outboundTransportDrops =
      .ok (.ok .idle, e', drops)) :
    drivesFrom t fc (index :: rest) io e =
      index :: drivesFrom t fc rest { io with outboundTransportDrops := drops } e' := by
  simp only [drivesFrom, hindex, Option.elim_some, hdrive]

theorem drivesFrom_stopped {index drops : Nat} {rest : List Nat} {flowId : FlowId}
    {sent : Except DatagramSendError DatagramSendProgress}
    (hindex : io.outbound[index]? = some flowId)
    (hdrive : driveOne t e fc.registry flowId io.outboundTransportDrops = .ok (sent, e', drops))
    (hsent : sent ≠ .ok .idle) : drivesFrom t fc (index :: rest) io e = [index] := by
  simp only [drivesFrom, hindex, Option.elim_some, hdrive]
  split
  · rename_i heq
    cases heq
    exact absurd rfl hsent
  · rfl

/-- A drive keeps the schedule. It looks at all places or stops at the one that gives the answer. -/
theorem driveOutboundFrom_looks (hlive : io.AllLive fc)
    (h : driveOutboundFrom t fc len next indices io e = .ok (r, io', e')) :
    io'.outbound = io.outbound ∧
      ((drivesFrom t fc indices io e = indices ∧ r = .ok none ∧ io'.outboundCursor = next) ∨
        ∃ before index after, indices = before ++ index :: after ∧
          drivesFrom t fc indices io e = before ++ [index] ∧ r ≠ .ok none ∧
            io'.outboundCursor = (index + 1) % len) := by
  induction indices generalizing io e with
  | nil =>
    cases h
    exact ⟨rfl, .inl ⟨rfl, rfl, rfl⟩⟩
  | cons index rest ih =>
    simp only [driveOutboundFrom, Checked.bind_eq_ok] at h
    obtain ⟨flowId, hindex, h⟩ := h
    have hindex : io.outbound[index]? = some flowId := Checked.expect_eq_ok.mp hindex
    rw [if_neg (not_not.mpr (hlive flowId (List.mem_of_getElem? hindex)))] at h
    simp only [Checked.bind_eq_ok] at h
    obtain ⟨registered, -, ⟨res, e₁, drops⟩, hdrive, h⟩ := h
    simp only at h
    split at h
    · have hlooks := drivesFrom_idle rest hindex hdrive
      have hlive : AllLive { io with outboundTransportDrops := drops } fc := hlive
      obtain ⟨houtbound, hloop⟩ := ih hlive h
      refine ⟨houtbound, ?_⟩
      rcases hloop with ⟨hall, hr, hcursor⟩ | ⟨before, i, after, hrest, hstop, hr, hcursor⟩
      · exact .inl ⟨by rw [hlooks, hall], hr, hcursor⟩
      · exact .inr ⟨index :: before, i, after, by rw [hrest]; rfl, by rw [hlooks, hstop]; rfl, hr,
          hcursor⟩
    · rename_i hres
      cases h
      refine ⟨rfl, .inr ⟨[], index, rest, rfl, drivesFrom_stopped hindex hdrive ?_, ?_,
        rfl⟩⟩
      · intro hidle
        cases hidle
        exact hres rfl
      · intro hr
        cases hr
    · cases h
      refine ⟨rfl, .inr ⟨[], index, rest, rfl, drivesFrom_stopped hindex hdrive ?_, ?_,
        rfl⟩⟩
      · intro hidle
        cases hidle
      · intro hr
        cases hr

/-- A drive takes its turn. -/
theorem driveOutbound_turn (hlive : io.AllLive fc)
    (h : io.driveOutbound t e fc = .ok (r, io', e')) : io'.outbound = io.outbound ∧
      Turn io.outbound.length io.outboundCursor (io.drives t fc e) io'.outboundCursor := by
  unfold driveOutbound at h
  simp only at h
  split at h
  · rename_i hempty
    cases h
    refine ⟨rfl, .of_loop (.inl ?_)⟩
    rw [drives, hempty]
    rfl
  · obtain ⟨houtbound, hloop⟩ := driveOutboundFrom_looks hlive h
    refine ⟨houtbound, .of_loop ?_⟩
    rw [drives, ← rotation_eq]
    rcases hloop with ⟨hall, -, -⟩ | ⟨before, index, after, hsplit, hstop, -, hcursor⟩
    · exact .inl hall
    · exact .inr ⟨before, index, after, hsplit, hstop, hcursor⟩

/-- A drive that finds nothing to send has looked at every place. -/
theorem driveOutbound_idle (hlive : io.AllLive fc)
    (h : io.driveOutbound t e fc = .ok (.ok none, io', e')) {index : Nat}
    (hindex : index < io.outbound.length) : index ∈ io.drives t fc e := by
  unfold driveOutbound at h
  simp only at h
  split at h
  · rename_i hempty
    rw [hempty] at hindex
    exact absurd hindex (Nat.not_lt_zero index)
  · obtain ⟨-, ⟨hall, -, -⟩ | ⟨_, _, _, -, -, hr, -⟩⟩ := driveOutboundFrom_looks hlive h
    · rw [drives, hall, rotation_eq]
      exact mem_around_whole hindex
    · exact absurd rfl hr

theorem pollInbound_schedule {t : DatagramTransport}
    {answer : Polled (Except DatagramIoError DatagramReceiveOutcome)}
    (h : io.pollInbound t e fc = .ok (answer, io', e')) :
    io'.outbound = io.outbound ∧ io'.outboundCursor = io.outboundCursor := by
  unfold pollInbound at h
  split at h
  · cases h
    exact ⟨rfl, rfl⟩
  · split at h
    · cases h
      exact ⟨rfl, rfl⟩
    · cases h
      exact ⟨rfl, rfl⟩
    · simp only [Checked.bind_eq_ok] at h
      obtain ⟨⟨res, e₁⟩, -, h⟩ := h
      cases h
      exact ⟨rfl, rfl⟩

end DatagramConnectionIo

/-- The datagrams of a connection, with the places in the schedule that each drive looked at. -/
structure DriveRun where
  io : DatagramConnectionIo
  looked : List (List Nat)

namespace DriveRun

/-- Drives and polls while the scheduled flows live and no other is scheduled. The host may do
anything with the endpoint between two of them, and flow control anything with other flows. -/
inductive Step : DriveRun → DriveRun → Prop where
  | drive {s : DriveRun} {t : DatagramSendTransport} {fc : FlowControl} {e e' : DeliveryEndpoint}
      {io' : DatagramConnectionIo} {r : Except DatagramIoError (Option DatagramOutboundProgress)} :
    s.io.AllLive fc → s.io.driveOutbound t e fc = .ok (r, io', e') →
    Step s ⟨io', s.looked ++ [s.io.drives t fc e]⟩
  | poll {s : DriveRun} {t : DatagramTransport} {fc : FlowControl} {e e' : DeliveryEndpoint}
      {io' : DatagramConnectionIo}
      {answer : Polled (Except DatagramIoError DatagramReceiveOutcome)} :
    s.io.pollInbound t e fc = .ok (answer, io', e') → Step s ⟨io', s.looked⟩

def Starts (s : DriveRun) : Prop := s.looked = []

variable {s s' : DriveRun}

/-- The drives went around the schedule. -/
def Around (s : DriveRun) : Prop :=
  ∃ start, Turns s.io.outbound.length start s.looked s.io.outboundCursor

theorem Around.step (hs : Around s) (h : Step s s') : Around s' := by
  obtain ⟨start, hs⟩ := hs
  cases h with
  | drive hlive hdrive =>
    obtain ⟨houtbound, hturn⟩ := DatagramConnectionIo.driveOutbound_turn hlive hdrive
    refine ⟨start, ?_⟩
    rw [houtbound]
    exact hs.append (.cons hturn .nil)
  | poll hpoll =>
    obtain ⟨houtbound, hcursor⟩ := DatagramConnectionIo.pollInbound_schedule hpoll
    refine ⟨start, ?_⟩
    rw [houtbound, hcursor]
    exact hs

theorem reachable_around (h : Reachable Starts Step s) : Around s :=
  h.invariant (P := Around)
    (fun s hs => ⟨s.io.outboundCursor, by rw [show s.looked = [] from hs]; exact .nil⟩)
    fun _ _ hs hstep => hs.step hstep

/-- As many drives in a row as there are flows look at each flow, and a drive that finds nothing to
send has looked at all of them. -/
theorem flows_fair (h : Reachable Starts Step s) {flowId : FlowId}
    (hflow : flowId ∈ s.io.outbound) :
    (∀ before drives after : List (List Nat), s.looked = before ++ drives ++ after →
      s.io.outbound.length ≤ drives.length →
        ∃ looks ∈ drives, ∃ index ∈ looks, s.io.outbound[index]? = some flowId) ∧
    ∀ (t : DatagramSendTransport) (fc : FlowControl) (e e' : DeliveryEndpoint)
      (io' : DatagramConnectionIo), s.io.AllLive fc →
        s.io.driveOutbound t e fc = .ok (.ok none, io', e') →
          ∃ index ∈ s.io.drives t fc e, s.io.outbound[index]? = some flowId := by
  obtain ⟨index, hlt, hindex⟩ := List.mem_iff_getElem.mp hflow
  have hindex : s.io.outbound[index]? = some flowId := List.getElem?_eq_some_iff.mpr ⟨hlt, hindex⟩
  obtain ⟨start, hturns⟩ := reachable_around h
  constructor
  · intro before drives after hlooked hlength
    rw [hlooked] at hturns
    obtain ⟨looks, hlooks, hmem⟩ := hturns.all_within hlength hlt
    exact ⟨looks, hlooks, index, hmem, hindex⟩
  · intro t fc e e' io' hlive hdrive
    exact ⟨index, DatagramConnectionIo.driveOutbound_idle hlive hdrive hlt, hindex⟩

/-! Two flows have messages to send, the first of them two. -/

def sampleKey (flow : Nat) : DeliveryFlowKey := ⟨⟨1⟩, .outbound, ⟨flow⟩⟩

def samplePolicy : FlowResourcePolicy :=
  ⟨.nearest 16, .nearest 4, .nearest 64, .rejectNew, .dropIncomingUnreliable⟩

def sampleControl : FlowControl :=
  { FlowRun.sampleStart.client.control with
    registry := ⟨.client, 4,
      (SortedMap.empty.insert 0 ⟨sampleKey 9, .unreliableUnordered, 16, none⟩).insert 2
        ⟨sampleKey 8, .unreliableUnordered, 16, none⟩⟩ }

def sampleOps : List DeliveryOp :=
  [.establishFlow (sampleKey 9) .unreliableUnordered samplePolicy FlowRun.sampleLimits,
    .establishFlow (sampleKey 8) .unreliableUnordered samplePolicy FlowRun.sampleLimits,
    .submit (sampleKey 9) [5], .submit (sampleKey 9) [6], .submit (sampleKey 8) [7]]

def sampleEndpoint : DeliveryEndpoint :=
  (sampleOps.foldlM (fun e op => Prod.snd <$> DeliveryEndpoint.exec e op)
    (.new FlowRun.sampleLimits)).toOption.getD (.new FlowRun.sampleLimits)

theorem sampleFirst_le : 0 ≤ maxVarint := by decide

theorem sampleSecond_le : 2 ≤ maxVarint := by decide

def sampleFirst : FlowId := ⟨0, sampleFirst_le⟩

def sampleSecond : FlowId := ⟨2, sampleSecond_le⟩

def sampleIo : DatagramConnectionIo := ⟨0, true, [sampleFirst, sampleSecond], 0⟩

def sampleTransport : DatagramSendTransport where
  maxDatagramSize := some 64
  sendBufferSpace := 64
  reserves := true
  maxDatagramSizeAgain := some 64
  sendBufferSpaceAgain := 64
  trySend _ := .ok ()

theorem sampleIo_live : sampleIo.AllLive sampleControl := by
  intro flowId hflow
  rcases List.mem_pair.mp hflow with rfl | rfl
  · rfl
  · rfl

theorem flows_fair_sample : ∃ s : DriveRun, Reachable Starts Step s ∧ s.looked = [[0], [1]] ∧
    ∃ looks ∈ s.looked, ∃ index ∈ looks, s.io.outbound[index]? = some sampleSecond := by
  have h0 : Reachable Starts Step ⟨sampleIo, []⟩ := .start (by rfl)
  have h1 := h0.next (.drive (t := sampleTransport) (e := sampleEndpoint) sampleIo_live rfl)
  have h2 := h1.next (.drive (t := sampleTransport) (e := sampleEndpoint) sampleIo_live rfl)
  have hflow : sampleSecond ∈ [sampleFirst, sampleSecond] :=
    List.mem_cons_of_mem _ List.mem_cons_self
  exact ⟨_, h2, rfl, (flows_fair h2 hflow).1 [] _ [] rfl (le_refl 2)⟩

end DriveRun

end RunenNet
