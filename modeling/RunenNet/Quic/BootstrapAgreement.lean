import RunenNet.Foundation.Transition
import RunenNet.Quic.ProfileBootstrap

/-!
# Two bootstraps agree

A client and a server, each with settings of its own, whose control stream carries the bytes of
both in order but in parts of any size, and may end at any time. In every interleaving a side that
becomes ready has exactly the settings of the other one and hands on what the other one wrote behind
them; and it fails by what its own transport did, for want of memory, or because both have one
role.
-/

namespace RunenNet

open Foundation

/-! ### Writes that go on -/

/-- What more answers add: the bytes that were written stay, and so does what a send came to. -/
def Continues (more : WriteAnswers) (sent sent' : Sent) : Prop :=
  sent.2.1 <+: sent'.2.1 ∧ ∀ r, sent.1 = some r → sent' = (some r, sent.2.1, sent.2.2 ++ more)

theorem writePart_continues (answers more : WriteAnswers) (part : List UInt8) :
    Continues more (writePart answers part) (writePart (answers ++ more) part) := by
  induction answers generalizing part with
  | nil =>
    cases part with
    | nil => exact ⟨List.nil_prefix, fun r hr => by cases hr; cases more <;> rfl⟩
    | cons b part => exact ⟨List.nil_prefix, fun r hr => by cases hr⟩
  | cons answer answers ih =>
    cases part with
    | nil => exact ⟨List.nil_prefix, fun r hr => by cases hr; rfl⟩
    | cons b part =>
      rcases answer with e | _ | n
      · exact ⟨List.nil_prefix, fun r hr => by cases hr; rfl⟩
      · exact ⟨List.nil_prefix, fun r hr => by cases hr; rfl⟩
      · obtain ⟨hwritten, hr⟩ := ih (part.drop n)
        refine ⟨(List.prefix_append_right_inj _).mpr hwritten, fun r hsome => ?_⟩
        rw [List.cons_append, writePart, hr r hsome]
        rfl

theorem writeSlices_continues (answers more : WriteAnswers) (parts : List (List UInt8)) :
    Continues more (writeSlices answers parts) (writeSlices (answers ++ more) parts) := by
  induction parts generalizing answers with
  | nil => exact ⟨List.nil_prefix, fun r hr => by cases hr; rfl⟩
  | cons part parts ih =>
    obtain ⟨hwritten, hr⟩ := writePart_continues answers more part
    unfold writeSlices
    rcases hrun : writePart answers part with ⟨_ | e | ⟨⟨⟩⟩, written, left⟩
    · rw [hrun] at hwritten
      refine ⟨?_, fun r h => by cases h⟩
      rcases hrun' : writePart (answers ++ more) part with ⟨_ | e | ⟨⟨⟩⟩, written', left'⟩
      · rw [hrun'] at hwritten
        exact hwritten
      · rw [hrun'] at hwritten
        exact hwritten
      · rw [hrun'] at hwritten
        exact hwritten.trans (List.prefix_append _ _)
    · rw [hrun] at hr
      rw [hr _ rfl]
      exact ⟨List.prefix_rfl, fun r h => by cases h; rfl⟩
    · rw [hrun] at hr
      rw [hr _ rfl]
      obtain ⟨hmore, hr'⟩ := ih left
      refine ⟨(List.prefix_append_right_inj _).mpr hmore, fun r h => ?_⟩
      simp only [hr' r h]

/-! ### A side over time -/

namespace BootstrapTransport

/-- More answers of a transport: what is settled stays, the rest goes on. -/
structure Extends (t t' : BootstrapTransport) : Prop where
  handshake : t'.handshake = t.handshake
  maxDatagramSize : t'.maxDatagramSize = t.maxDatagramSize
  side : t'.side = t.side
  control : t.control = none ∨ t'.control = t.control
  writes : ∃ more, t'.writes = t.writes ++ more
  arrived : ∃ more, t'.arrived = t.arrived ++ more ∧
    (t.stream = .waiting ∨ t'.stream = t.stream ∧ more = [])
  reserves : t'.reserves = t.reserves

variable {t t' t'' : BootstrapTransport} {expected : WireSide} {settings : Settings}

theorem Extends.refl (t : BootstrapTransport) : Extends t t :=
  ⟨rfl, rfl, rfl, .inr rfl, ⟨[], (List.append_nil _).symm⟩,
    ⟨[], (List.append_nil _).symm, .inr ⟨rfl, rfl⟩⟩, rfl⟩

theorem Extends.confirmed (h : Extends t t') (hc : Confirmed expected t) : Confirmed expected t' where
  handshake := h.handshake.trans hc.handshake
  datagrams := by
    rw [h.maxDatagramSize]
    exact hc.datagrams
  side := h.side.trans hc.side
  control := by
    rcases h.control with hnone | hsame
    · rw [hc.control] at hnone
      cases hnone
    · rw [hsame, hc.control]

theorem Extends.settingsSent (h : Extends t t') (settings : Settings) :
    ∃ more, Continues more (settingsSent settings t) (RunenNet.settingsSent settings t') := by
  obtain ⟨more, hmore⟩ := h.writes
  refine ⟨more, ?_⟩
  have hlen : (settingsFrame settings).body.length ≤ maxVarint :=
    settings.bytes_length_le.trans (by decide)
  have hsend : ∀ t, RunenNet.settingsSent settings t = writeSlices t.writes
      [varintBytes (settingsFrame settings).frameType.wire,
        varintBytes (settingsFrame settings).body.length, (settingsFrame settings).body] :=
    fun t => sendFrameRaw_eq t.writes hlen
  rw [hsend, hsend, hmore]
  exact writeSlices_continues _ _ _

/-- The settings that were received stay received. -/
theorem Extends.received (h : Extends t t') {s : BootstrapState} {rest : List UInt8}
    {asked : List ReceiveRequest} (hrun : peerReceived settings t = ⟨some (.ok s), rest, asked⟩) :
    ∃ more, peerReceived settings t' = ⟨some (.ok s), rest ++ more, asked⟩ := by
  obtain ⟨more, harrived, hstream⟩ := h.arrived
  have hmore := (BootstrapState.sent settings).receivePeerSettings_settled t.stream t.reserves _ _ _ _
    hrun (fun e he => by cases he) more
  refine ⟨more, ?_⟩
  rw [peerReceived, harrived, h.reserves]
  rcases hstream with hwaiting | ⟨hsame, -⟩
  · rw [hwaiting] at hmore
    exact (BootstrapState.sent settings).receivePeerSettings_decides t'.stream t.reserves _ _ _ _ hmore
  · rw [hsame]
    exact hmore

/-- A profile that is ready stays so, while more arrives for its receiver. -/
theorem Extends.ready (h : Extends t t') (hvalid : settings.Valid) {ready : ProfileReady}
    {written : List UInt8}
    (hready : establishProfileReady expected settings t = .ok (some (.ok ready), written)) :
    ∃ more, establishProfileReady expected settings t' =
      .ok (some (.ok { ready with received := ready.received ++ more }), written) := by
  obtain ⟨x, hx, he⟩ := establishProfileReady_establishes hvalid expected t
  rw [hready] at hx
  cases hx
  obtain ⟨hc, hwritten, hreceived⟩ := he.ready
  have hfinish := he.sent hc hwritten
  rcases finishBootstrap_cases settings t with ⟨-, hnone⟩ | ⟨e, -, herror⟩ |
    ⟨ready', asked, hreceived', hrun, hok⟩
  · rw [hfinish] at hnone
    cases hnone
  · rw [hfinish] at herror
    cases herror
  · rw [hfinish] at hok
    cases hok
    obtain ⟨more, hmore⟩ := h.received hrun
    obtain ⟨⟨r', written'⟩, hx', he'⟩ := establishProfileReady_establishes hvalid expected t'
    have hc' := h.confirmed hc
    have hwritten' : written' = frameBytes (settingsFrame settings) := by
      obtain ⟨answers, -, hstays⟩ := h.settingsSent settings
      have hwhole := (he.written_eq hc).symm.trans hwritten
      have hsent := hstays _ (settingsSent_whole.mpr hwhole)
      refine (he'.written_eq hc').trans ?_
      rw [hsent]
      exact hwhole
    have hfinish' := he'.sent hc' hwritten'
    rw [finishBootstrap_taken hmore] at hfinish'
    cases hfinish'
    refine ⟨more, ?_⟩
    rw [hx', hwritten', hwritten, hreceived.sender]

end BootstrapTransport

/-- One side: what its transport answered so far, and what the profile wrote since it is ready. -/
structure BootstrapSide where
  settings : Settings
  transport : BootstrapTransport
  later : List UInt8

namespace BootstrapSide

/-- What the bootstrap of the side came to. -/
def Comes (expected : WireSide) (a : BootstrapSide) (x : Bootstrapped) : Prop :=
  establishProfileReady expected a.settings a.transport = .ok x

/-- What the side put on the line. -/
def Line (expected : WireSide) (a : BootstrapSide) (bytes : List UInt8) : Prop :=
  ∃ r written, a.Comes expected (r, written) ∧ bytes = written ++ a.later

/-- What may happen at a side whose peer put `line` on the line. -/
inductive Acts (expected : WireSide) (line : List UInt8) (a : BootstrapSide) : BootstrapSide → Prop where
  | opens (answer : Except Unit Bool) (h : a.transport.control = none) : Acts expected line a
      { a with transport := { a.transport with control := some answer } }
  | writes (answer : Except WriteFailure Nat) : Acts expected line a
      { a with transport := { a.transport with writes := a.transport.writes ++ [answer] } }
  | arrives (bytes : List UInt8) (hopen : a.transport.stream = .waiting)
      (h : a.transport.arrived ++ bytes <+: line) : Acts expected line a
      { a with transport := { a.transport with arrived := a.transport.arrived ++ bytes } }
  | ends (stream : StreamEnd) (hopen : a.transport.stream = .waiting) : Acts expected line a
      { a with transport := { a.transport with stream := stream } }
  | goesOn (bytes : List UInt8) {ready : ProfileReady} {written : List UInt8}
      (h : a.Comes expected (some (.ok ready), written)) : Acts expected line a
      { a with later := a.later ++ bytes }

structure Starts (a : BootstrapSide) : Prop where
  valid : a.settings.Valid
  control : a.transport.control = none
  writes : a.transport.writes = []
  arrived : a.transport.arrived = []
  stream : a.transport.stream = .waiting
  later : a.later = []

variable {expected : WireSide} {line : List UInt8} {a a' b b' : BootstrapSide}

theorem Acts.extends (h : Acts expected line a a') :
    a'.settings = a.settings ∧ a.transport.Extends a'.transport ∧ a.later <+: a'.later := by
  have hrefl := BootstrapTransport.Extends.refl a.transport
  cases h with
  | opens answer h =>
    exact ⟨rfl, { hrefl with control := .inl h }, List.prefix_rfl⟩
  | writes answer =>
    exact ⟨rfl, { hrefl with writes := ⟨[answer], rfl⟩ }, List.prefix_rfl⟩
  | arrives bytes hopen h =>
    exact ⟨rfl, { hrefl with arrived := ⟨bytes, rfl, .inl hopen⟩ }, List.prefix_rfl⟩
  | ends stream hopen =>
    exact ⟨rfl, { hrefl with arrived := ⟨[], (List.append_nil _).symm, .inl hopen⟩ },
      List.prefix_rfl⟩
  | goesOn bytes h => exact ⟨rfl, hrefl, List.prefix_append _ _⟩

theorem comes (hvalid : a.settings.Valid) (expected : WireSide) : ∃ x, a.Comes expected x ∧
    Establishes expected a.settings a.transport x :=
  establishProfileReady_establishes hvalid expected a.transport

theorem Comes.establishes {x : Bootstrapped} (h : a.Comes expected x) (hvalid : a.settings.Valid) :
    Establishes expected a.settings a.transport x := by
  obtain ⟨x', hx', he⟩ := comes hvalid expected
  rw [Comes] at h hx'
  rw [h] at hx'
  cases hx'
  exact he

/-- The settings are written whole. -/
def Sent (a : BootstrapSide) : Prop := (settingsSent a.settings a.transport).1 = some (.ok ())

theorem Acts.sent (h : Acts expected line a a') (hsent : a.Sent) : a'.Sent ∧
    (settingsSent a'.settings a'.transport).2.1 = (settingsSent a.settings a.transport).2.1 := by
  obtain ⟨hsettings, hextends, -⟩ := h.extends
  obtain ⟨more, -, hstays⟩ := hextends.settingsSent a.settings
  have heq := hstays _ hsent
  unfold Sent
  rw [hsettings, heq]
  exact ⟨rfl, rfl⟩

/-! ### What is on the line -/

/-- What a side keeps: behind its settings it writes only when they are out, and what arrived is
what the peer put on the line. -/
structure Inv (expected : WireSide) (a b : BootstrapSide) : Prop where
  valid : a.settings.Valid
  later : a.later ≠ [] → Confirmed expected a.transport ∧ a.Sent
  arrived : ∀ line, b.Line expected.opposite line → a.transport.arrived <+: line

/-- The line only grows. -/
theorem Acts.grows (h : Acts expected line a a') (ha : Inv expected a b) {bytes : List UInt8}
    (hline : a.Line expected bytes) : ∃ bytes', a'.Line expected bytes' ∧ bytes <+: bytes' := by
  obtain ⟨hsettings, hextends, hlater⟩ := h.extends
  obtain ⟨r, written, hcomes, rfl⟩ := hline
  obtain ⟨⟨r', written'⟩, hcomes', he'⟩ := comes (a := a') (hsettings ▸ ha.valid) expected
  have he := hcomes.establishes ha.valid
  refine ⟨_, ⟨r', written', hcomes', rfl⟩, ?_⟩
  by_cases hempty : a.later = []
  · rw [hempty, List.append_nil]
    refine List.IsPrefix.trans ?_ (List.prefix_append _ _)
    by_cases hwritten : written = []
    · rw [hwritten]
      exact List.nil_prefix
    · have hc := he.written.2 hwritten
      have hw := he.written_eq hc
      have hw' := he'.written_eq (hextends.confirmed hc)
      obtain ⟨more, hgrows, -⟩ := hextends.settingsSent a.settings
      simp only at hw hw'
      rw [hw, hw', hsettings]
      exact hgrows
  · obtain ⟨hc, hsent⟩ := ha.later hempty
    have hw := he.written_eq hc
    have hw' := he'.written_eq (hextends.confirmed hc)
    simp only at hw hw'
    rw [hw, hw', (h.sent hsent).2]
    exact (List.prefix_append_right_inj _).mpr hlater

theorem Line.unique {bytes bytes' : List UInt8} (h : a.Line expected bytes)
    (h' : a.Line expected bytes') : bytes = bytes' := by
  obtain ⟨r, written, hcomes, rfl⟩ := h
  obtain ⟨r', written', hcomes', rfl⟩ := h'
  rw [Comes] at hcomes hcomes'
  rw [hcomes] at hcomes'
  cases hcomes'
  rfl

theorem exists_line (hvalid : a.settings.Valid) (expected : WireSide) : ∃ bytes, a.Line expected bytes := by
  obtain ⟨⟨r, written⟩, hcomes, -⟩ := comes hvalid expected
  exact ⟨_, r, written, hcomes, rfl⟩

/-- A side keeps its invariant in its own steps. -/
theorem Inv.acts (ha : Inv expected a b) (hline : b.Line expected.opposite line)
    (h : Acts expected line a a') : Inv expected a' b := by
  obtain ⟨hsettings, hextends, -⟩ := h.extends
  refine ⟨hsettings ▸ ha.valid, fun hne => ?_, fun line' hline' => ?_⟩
  · by_cases hempty : a.later = []
    · cases h with
      | @goesOn bytes ready written hready =>
        have he := hready.establishes ha.valid
        obtain ⟨hc, hwritten, -⟩ := he.ready
        exact ⟨hc, settingsSent_whole.mpr ((he.written_eq hc).symm.trans hwritten)⟩
      | _ => exact absurd hempty hne
    · obtain ⟨hc, hsent⟩ := ha.later hempty
      exact ⟨hextends.confirmed hc, (h.sent hsent).1⟩
  · rw [← hline.unique hline']
    cases h with
    | arrives bytes hopen h => exact h
    | _ => exact ha.arrived line hline

/-- A side keeps its invariant in the steps of its peer. -/
theorem Inv.peer (ha : Inv expected a b) (hb : Inv expected.opposite b a)
    (h : Acts expected.opposite line b b') : Inv expected a b' := by
  refine ⟨ha.valid, ha.later, fun line' hline' => ?_⟩
  obtain ⟨bytes, hbytes⟩ := exists_line hb.valid expected.opposite
  obtain ⟨bytes', hbytes', hgrows⟩ := h.grows hb hbytes
  rw [hline'.unique hbytes']
  exact (ha.arrived bytes hbytes).trans hgrows

/-! ### What a side learns of the other -/

/-- What arrived begins with the settings of the peer, or is a part of them. -/
theorem Inv.arrives (ha : Inv expected a b) (hb : Inv expected.opposite b a) :
    (∃ rest, a.transport.arrived = frameBytes (settingsFrame b.settings) ++ rest ∧ b.Sent ∧
      Confirmed expected.opposite b.transport ∧ rest <+: b.later) ∨
    ∃ part, part ≠ [] ∧
      frameBytes (settingsFrame b.settings) = a.transport.arrived ++ part := by
  obtain ⟨⟨r, written⟩, hcomes, he⟩ := comes hb.valid expected.opposite
  have hprefix := ha.arrived _ ⟨r, written, hcomes, rfl⟩
  obtain ⟨hwritten, hconfirmed⟩ := he.written
  by_cases hwhole : written = frameBytes (settingsFrame b.settings)
  · have hne : written ≠ [] := by
      rw [hwhole]
      exact settingsFrame_ne
    have hc := hconfirmed hne
    have hsent : b.Sent := settingsSent_whole.mpr ((he.written_eq hc).symm.trans hwhole)
    rw [hwhole] at hprefix
    rcases List.prefix_or_prefix_of_prefix hprefix (List.prefix_append _ b.later) with
      ⟨part, hpart⟩ | ⟨rest, hrest⟩
    · by_cases hnil : part = []
      · rw [hnil, List.append_nil] at hpart
        exact .inl ⟨[], by rw [hpart, List.append_nil], hsent, hc, List.nil_prefix⟩
      · exact .inr ⟨part, hnil, hpart.symm⟩
    · rw [← hrest] at hprefix
      exact .inl ⟨rest, hrest.symm, hsent, hc, (List.prefix_append_right_inj _).mp hprefix⟩
  · have hnone : b.later = [] := by
      by_contra hlater
      obtain ⟨hc, hsent⟩ := hb.later hlater
      exact hwhole ((he.written_eq hc).trans (settingsSent_whole.mp hsent))
    rw [hnone, List.append_nil] at hprefix
    obtain ⟨part, hpart⟩ := hprefix
    obtain ⟨more, hmore⟩ := hwritten
    refine .inr ⟨part ++ more, fun hnil => ?_, ?_⟩
    · obtain ⟨-, rfl⟩ := List.append_eq_nil_iff.mp hnil
      exact hwhole (by rw [← hmore, List.append_nil])
    · rw [← List.append_assoc, hpart, hmore]

/-- Why the bootstrap of `a` may fail whose peer is `b`. -/
inductive Fails (expected : WireSide) (a b : BootstrapSide) : BootstrapError → Prop where
  | transport {e : BootstrapError} (h : ¬ Confirmed expected a.transport) : Fails expected a b e
  | write {e : ControlFrameError} (h : (settingsSent a.settings a.transport).1 = some (.error e)) :
      Fails expected a b (.frame e)
  | short {f : ReceiveFailure} {e : BootstrapError} (h : a.transport.stream.Short f)
      (he : BootstrapState.failureOf f = .error e) : Fails expected a b e
  | memory {n : Nat} (h : a.transport.reserves n = false) : Fails expected a b (.frame .allocation)
  | role (h : b.settings.semanticRole ≠ a.settings.semanticRole.opposite) : Fails expected a b
      (.peerRoleMismatch a.settings.semanticRole.opposite b.settings.semanticRole)

/-- What the bootstrap of `a` comes to, whose peer is `b`. -/
structure Agrees (expected : WireSide) (a b : BootstrapSide) (x : Bootstrapped) : Prop where
  ready : ∀ ready, x.1 = some (.ok ready) →
    ready.peerSettings = b.settings ∧ b.settings.semanticRole = a.settings.semanticRole.opposite ∧
      ready.sender = ⟨a.settings, b.settings, .clean⟩ ∧ a.Sent ∧ b.Sent ∧
      Confirmed expected a.transport ∧ Confirmed expected.opposite b.transport ∧
      ready.received <+: b.later
  fails : ∀ e, x.1 = some (.error e) → Fails expected a b e
  progress : Confirmed expected a.transport → a.Sent →
    frameBytes (settingsFrame b.settings) <+: a.transport.arrived →
    b.settings.semanticRole = a.settings.semanticRole.opposite →
      (∃ ready, x.1 = some (.ok ready)) ∨
        x.1 = some (.error (.frame .allocation)) ∧ ∃ n, a.transport.reserves n = false

/-- The transport of a side with memory for everything. -/
def roomy (a : BootstrapSide) : BootstrapTransport := { a.transport with reserves := fun _ => true }

theorem roomy_reserves (a : BootstrapSide) (n : Nat) : a.roomy.reserves n = true := rfl

/-- What a side receives is what it receives with memory, or it lacks memory. -/
theorem received_or_memory (a : BootstrapSide) :
    peerReceived a.settings a.transport = peerReceived a.settings a.roomy ∨
      (peerReceived a.settings a.transport).result = some (.error (.error (.frame .allocation))) ∧
        ∃ n, a.transport.reserves n = false := by
  rcases (BootstrapState.sent a.settings).receivePeerSettings_falters a.transport.stream
    a.transport.reserves a.transport.arrived with hsame | ⟨e, ⟨rfl, hn⟩, hfails⟩
  · exact .inl hsame
  · exact .inr ⟨hfails, hn⟩

/-- A part of the settings of the peer is not refused, but awaited. -/
theorem part_awaited (ha : a.settings.Valid) (hb : b.settings.Valid) {part : List UInt8}
    (hpart : part ≠ []) (h : frameBytes (settingsFrame b.settings) = a.transport.arrived ++ part) :
    (peerReceived a.settings a.roomy).result = none ∨ ∃ f, a.transport.stream.Short f ∧
      (peerReceived a.settings a.roomy).result =
        some (.error (BootstrapState.failureOf f)) := by
  have htakes := BootstrapState.readPeerSettings_takes (.sent a.settings)
    a.roomy.stream rfl ha hb a.roomy_reserves
  rw [h] at htakes
  have hshort := htakes.short (BootstrapState.readPeerSettings_settled _ _ _) hpart
  rcases hrun : (BootstrapState.sent a.settings).readPeerSettings a.roomy.stream
    a.roomy.reserves a.transport.arrived with ⟨result, rest, asked⟩
  rw [hrun] at hshort
  rcases hshort with hnone | ⟨e, ⟨f, hf, rfl⟩, herror⟩
  · cases hnone
    exact .inl (congrArg Outcome.result (StreamReader.bind_run_none hrun))
  · cases herror
    exact .inr ⟨f, hf, congrArg Outcome.result (StreamReader.bind_run_error hrun)⟩

/-- What is received of an honest peer is refused for want of memory, because the stream ended too
early, or because both have one role. -/
theorem Inv.refused (ha : Inv expected a b) (hb : Inv expected.opposite b a) {e : BootstrapError}
    (hresult : (peerReceived a.settings a.transport).result = some (.error (.error e))) :
    Fails expected a b e := by
  rcases a.received_or_memory with hsame | ⟨hmemory, n, hn⟩
  · rw [hsame] at hresult
    rcases ha.arrives hb with ⟨rest, hrest, -⟩ | ⟨part, hpart, hrest⟩
    · by_cases hrole : b.settings.semanticRole = a.settings.semanticRole.opposite
      · obtain ⟨asked, htaken⟩ := BootstrapState.receivePeerSettings_takes
          (.sent a.settings) a.roomy.stream rfl ha.valid hb.valid hrole a.roomy_reserves rest
        rw [← hrest] at htaken
        cases hresult.symm.trans (congrArg Outcome.result htaken)
      · obtain ⟨asked, hrefused⟩ := BootstrapState.receivePeerSettings_mismatch
          (.sent a.settings) a.roomy.stream rfl ha.valid hb.valid hrole a.roomy_reserves rest
        rw [← hrest] at hrefused
        cases hresult.symm.trans (congrArg Outcome.result hrefused)
        exact .role hrole
    · rcases part_awaited ha.valid hb.valid hpart hrest with hnone | ⟨f, hf, hshort⟩
      · rw [hresult] at hnone
        cases hnone
      · rw [hresult] at hshort
        simp only [Option.some.injEq, Except.error.injEq] at hshort
        exact .short hf hshort.symm
  · rw [hresult] at hmemory
    cases hmemory
    exact .memory hn

theorem Inv.agrees (ha : Inv expected a b) (hb : Inv expected.opposite b a) {x : Bootstrapped}
    (hx : a.Comes expected x) : Agrees expected a b x := by
  have he := hx.establishes ha.valid
  have harrives := ha.arrives hb
  constructor
  · intro ready hready
    obtain ⟨r, written⟩ := x
    subst hready
    obtain ⟨hc, hwritten, hreceived⟩ := he.ready
    have hsent := settingsSent_whole.mpr ((he.written_eq hc).symm.trans hwritten)
    have harrived := hreceived.arrived
    rcases harrives with ⟨rest, hrest, hbsent, hbc, hlater⟩ | ⟨part, hpart, hrest⟩
    · rw [harrived] at hrest
      obtain ⟨hpeer, hreceivedRest⟩ :=
        BootstrapState.settingsFrame_unique hreceived.valid hb.valid hrest
      have hrole := hreceived.role
      have hsender := hreceived.sender
      rw [hpeer] at hrole hsender
      exact ⟨hpeer, hrole, hsender, hsent, hbsent, hc, hbc, hreceivedRest ▸ hlater⟩
    · rw [harrived, List.append_assoc] at hrest
      have hnone := (BootstrapState.settingsFrame_unique hb.valid hreceived.valid
        ((List.append_nil _).trans hrest)).2
      exact absurd (List.append_eq_nil_iff.mp hnone.symm).2 hpart
  · intro e herror
    cases he with
    | unconfirmed h hr => exact .transport h
    | sending h hsent => cases herror
    | failing h hsent =>
      cases herror
      exact .write (congrArg Prod.fst hsent)
    | receiving hc hsent hr =>
      simp only at herror
      subst herror
      rcases finishBootstrap_cases a.settings a.transport with ⟨-, hnone⟩ | ⟨e', hresult, hfails⟩ |
        ⟨ready, asked, -, -, hok⟩
      · rw [hr] at hnone
        cases hnone
      · rw [hr] at hfails
        cases hfails
        exact ha.refused hb hresult
      · rw [hr] at hok
        cases hok
  · rintro hc hsent ⟨rest, hrest⟩ hrole
    have hwritten := (he.written_eq hc).trans (settingsSent_whole.mp hsent)
    have hfinish := he.sent hc hwritten
    rcases a.received_or_memory with hsame | ⟨hmemory, hn⟩
    · obtain ⟨asked, htaken⟩ := BootstrapState.receivePeerSettings_takes (.sent a.settings)
        a.roomy.stream rfl ha.valid hb.valid hrole a.roomy_reserves rest
      rw [hrest] at htaken
      rw [finishBootstrap_taken (hsame.trans htaken)] at hfinish
      exact .inl ⟨_, (Except.ok.inj hfinish).symm⟩
    · rw [finishBootstrap_failed hmemory] at hfinish
      exact .inr ⟨(Except.ok.inj hfinish).symm, hn⟩

end BootstrapSide

/-! ### The two sides -/

structure Bootstraps where
  client : BootstrapSide
  server : BootstrapSide

namespace Bootstraps

open BootstrapSide

/-- One of the sides goes on; the other one put `line` on the line so far. -/
inductive Step (s : Bootstraps) : Bootstraps → Prop where
  | client {line : List UInt8} {a : BootstrapSide} (hline : s.server.Line .server line)
      (h : Acts .client line s.client a) : Step s { s with client := a }
  | server {line : List UInt8} {b : BootstrapSide} (hline : s.client.Line .client line)
      (h : Acts .server line s.server b) : Step s { s with server := b }

structure Starts (s : Bootstraps) : Prop where
  client : s.client.Starts
  server : s.server.Starts

structure Inv (s : Bootstraps) : Prop where
  client : BootstrapSide.Inv .client s.client s.server
  server : BootstrapSide.Inv .server s.server s.client

theorem Starts.inv {s : Bootstraps} (h : s.Starts) : s.Inv := by
  have hside : ∀ {expected : WireSide} {a b : BootstrapSide}, a.Starts →
      BootstrapSide.Inv expected a b := fun ha =>
    ⟨ha.valid, fun hne => absurd ha.later hne, fun line _ => by
      rw [ha.arrived]
      exact List.nil_prefix⟩
  exact ⟨hside h.client, hside h.server⟩

theorem Inv.step {s s' : Bootstraps} (h : s.Inv) (hstep : Step s s') : s'.Inv := by
  cases hstep with
  | client hline hacts => exact ⟨h.client.acts hline hacts, h.server.peer h.client hacts⟩
  | server hline hacts => exact ⟨h.client.peer h.server hacts, h.server.acts hline hacts⟩

/-- A side that is ready stays so with the same settings, while more arrives. -/
def Stays (expected : WireSide) (a a' : BootstrapSide) : Prop :=
  ∀ ready written, a.Comes expected (some (.ok ready), written) →
    ∃ more, a'.Comes expected
      (some (.ok { ready with received := ready.received ++ more }), written)

theorem Stays.refl (expected : WireSide) (a : BootstrapSide) : Stays expected a a :=
  fun ready written h => ⟨[], by rwa [List.append_nil]⟩

theorem Stays.acts {expected : WireSide} {a a' a'' : BootstrapSide} {line : List UInt8}
    (h : Stays expected a a') (hvalid : a'.settings.Valid) (hacts : Acts expected line a' a'') :
    Stays expected a a'' := fun ready written hready => by
  obtain ⟨more, hmore⟩ := h ready written hready
  obtain ⟨hsettings, hextends, -⟩ := hacts.extends
  obtain ⟨more', hmore'⟩ := hextends.ready hvalid hmore
  refine ⟨more ++ more', ?_⟩
  rw [Comes, hsettings, hmore']
  simp only [List.append_assoc]

theorem Inv.stays {s s' : Bootstraps} (h : s.Inv) (hrun : Relation.ReflTransGen Step s s') :
    s'.Inv ∧ Stays .client s.client s'.client ∧ Stays .server s.server s'.server := by
  induction hrun with
  | refl => exact ⟨h, .refl _ _, .refl _ _⟩
  | tail hr hstep ih =>
    obtain ⟨hinv, hclient, hserver⟩ := ih
    refine ⟨hinv.step hstep, ?_⟩
    cases hstep with
    | client hline hacts => exact ⟨hclient.acts hinv.client.valid hacts, hserver⟩
    | server hline hacts => exact ⟨hclient, hserver.acts hinv.server.valid hacts⟩

/-- In every interleaving of the two sides, in parts of any size: no side panics, what each comes to
agrees with the other, and what is ready stays ready. -/
theorem bootstraps_agree {s : Bootstraps} (h : Reachable Starts Step s) :
    (∃ x, s.client.Comes .client x ∧ Agrees .client s.client s.server x) ∧
      (∃ y, s.server.Comes .server y ∧ Agrees .server s.server s.client y) ∧
      ∀ s', Relation.ReflTransGen Step s s' →
        Stays .client s.client s'.client ∧ Stays .server s.server s'.server := by
  have hinv : s.Inv := h.invariant (fun _ h => h.inv) fun _ _ hinv hstep => hinv.step hstep
  obtain ⟨x, hx, -⟩ := comes hinv.client.valid .client
  obtain ⟨y, hy, -⟩ := comes hinv.server.valid .server
  exact ⟨⟨x, hx, hinv.client.agrees hinv.server hx⟩, ⟨y, hy, hinv.server.agrees hinv.client hy⟩,
    fun s' hrun => (hinv.stays hrun).2⟩

/-- A step that needs nothing of the peer. -/
theorem Step.client_any {s : Bootstraps} {a : BootstrapSide} (hvalid : s.server.settings.Valid)
    (h : ∀ line, Acts .client line s.client a) : Step s { s with client := a } := by
  obtain ⟨line, hline⟩ := exists_line hvalid .server
  exact .client hline (h line)

theorem Step.server_any {s : Bootstraps} {b : BootstrapSide} (hvalid : s.client.settings.Valid)
    (h : ∀ line, Acts .server line s.server b) : Step s { s with server := b } := by
  obtain ⟨line, hline⟩ := exists_line hvalid .client
  exact .server hline (h line)

/-- A side of the sample, whose transport takes the settings in three writes. -/
def sampleSide (side : WireSide) (semanticRole : SemanticRole) (control : Polled (Except Unit Bool))
    (writes : WriteAnswers) (arrived : List UInt8) : BootstrapSide where
  settings := .sample semanticRole
  transport := { BootstrapTransport.sample with
    side := side, control := control, writes := writes, arrived := arrived }
  later := []

def sampleClient (arrived : List UInt8) : BootstrapSide :=
  sampleSide .client .nonAuthority (some (.ok false)) [.ok 64, .ok 64, .ok 64] arrived

def sampleServer (arrived : List UInt8) : BootstrapSide :=
  sampleSide .server .authority (some (.ok false)) [.ok 64, .ok 64, .ok 64] arrived

theorem sampleClient_line :
    (sampleClient []).Line .client (frameBytes (settingsFrame (.sample .nonAuthority))) := by
  have hvalid : (sampleClient []).settings.Valid := Settings.sample_valid _
  obtain ⟨⟨r, written⟩, hcomes, he⟩ := comes hvalid .client
  have hwritten : written = _ :=
    (he.written_eq ⟨rfl, rfl, rfl, rfl⟩).trans (settingsSent_whole.mp rfl)
  exact ⟨r, written, hcomes, by rw [hwritten]; rfl⟩

/-- Both write their settings, and those of the client arrive. -/
theorem sample_reachable :
    Reachable Starts Step ⟨sampleClient [],
      sampleServer (frameBytes (settingsFrame (.sample .nonAuthority)))⟩ := by
  have hvalid := Settings.sample_valid
  have hstart : Reachable Starts Step ⟨sampleSide .client .nonAuthority none [] [],
      sampleSide .server .authority none [] []⟩ :=
    .start ⟨⟨hvalid _, rfl, rfl, rfl, rfl, rfl⟩, ⟨hvalid _, rfl, rfl, rfl, rfl, rfl⟩⟩
  have hclient : Reachable Starts Step ⟨sampleClient [], sampleSide .server .authority none [] []⟩ :=
    (((hstart.next (.client_any (hvalid _) fun _ => .opens (.ok false) rfl)).next
      (.client_any (hvalid _) fun _ => .writes (.ok 64))).next
        (.client_any (hvalid _) fun _ => .writes (.ok 64))).next
          (.client_any (hvalid _) fun _ => .writes (.ok 64))
  have hserver : Reachable Starts Step ⟨sampleClient [], sampleServer []⟩ :=
    (((hclient.next (.server_any (hvalid _) fun _ => .opens (.ok false) rfl)).next
      (.server_any (hvalid _) fun _ => .writes (.ok 64))).next
        (.server_any (hvalid _) fun _ => .writes (.ok 64))).next
          (.server_any (hvalid _) fun _ => .writes (.ok 64))
  exact hserver.next (.server sampleClient_line (.arrives _ rfl List.prefix_rfl))

theorem bootstraps_agree_sample : ∃ y ready,
    (sampleServer (frameBytes (settingsFrame (.sample .nonAuthority)))).Comes .server y ∧
      y.1 = some (.ok ready) ∧ ready.peerSettings = .sample .nonAuthority := by
  obtain ⟨-, ⟨y, hy, hagrees⟩, -⟩ := bootstraps_agree sample_reachable
  rcases hagrees.progress ⟨rfl, rfl, rfl, rfl⟩ rfl List.prefix_rfl rfl with
    ⟨ready, hready⟩ | ⟨-, n, hn⟩
  · exact ⟨y, ready, hy, hready, (hagrees.ready ready hready).1⟩
  · cases hn

end Bootstraps

end RunenNet
