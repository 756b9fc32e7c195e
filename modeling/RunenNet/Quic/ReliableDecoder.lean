import RunenNet.Foundation.Chunks
import RunenNet.Quic.Reliable

/-!
# The decoder of a reliable stream

However a stream is cut into chunks, the decoder hands out the messages and the error of one parse
of the whole stream, and finishes as the parse does.
-/

namespace RunenNet

open Foundation

/-! ### The parse of a whole stream -/

theorem decodeVarint_pos {input : List UInt8} {value len : Nat}
    (h : decodeVarint input = .ok (value, len)) : 0 < len ∧ len ≤ input.length := by
  obtain ⟨hle, rfl, hinput⟩ := decodeVarint_eq_ok.mp h
  obtain ⟨bs, hbs, hpos, -⟩ := encodeVarint_ok hle
  rw [encodeVarint_eq hle, Except.ok.injEq] at hbs
  refine ⟨hbs ▸ hpos, ?_⟩
  rw [hinput, List.length_append]
  exact Nat.le_add_right _ _

/-- The messages of a stream, the error that ended it, and what finishing the stream there gives.
`reserves k` is the allocator's answer for message `k`. -/
def parseFrames (maxMessageBytes maxStagingBytes : Nat) (reserves : Nat → Bool) (k : Nat)
    (stream : List UInt8) :
    List (List UInt8) × Option ReliableFrameError × Except ReliableFrameError Unit :=
  match _h : decodeVarint stream with
  | .error .nonMinimal => ([], some (.varInt .nonMinimal), .error .truncatedFrame)
  | .error (.incomplete _ _) =>
    ([], none, if stream = [] then .ok () else .error .truncatedFrame)
  | .ok (claimed, len) =>
    if claimed > maxMessageBytes then
      ([], some (.messageTooLarge claimed maxMessageBytes), .error .truncatedFrame)
    else if claimed > maxStagingBytes then
      ([], some (.stagingLimitExceeded claimed maxStagingBytes), .error .truncatedFrame)
    else if claimed ≠ 0 ∧ ¬ reserves k then ([], some .allocationFailed, .error .truncatedFrame)
    else if stream.length < len + claimed then ([], none, .error .truncatedFrame)
    else
      let later := parseFrames maxMessageBytes maxStagingBytes reserves (k + 1)
        (stream.drop (len + claimed))
      ((stream.drop len).take claimed :: later.1, later.2)
termination_by stream.length
decreasing_by
  have := decodeVarint_pos _h
  rw [List.length_drop]
  omega

section Parsing

variable {maxMessage maxStaging : Nat} {reserves : Nat → Bool} {k : Nat} {stream : List UInt8}

theorem parseFrames_nil : parseFrames maxMessage maxStaging reserves k [] = ([], none, .ok ()) := by
  rw [parseFrames]
  rfl

/-- A part of a length, and nothing behind it. -/
theorem parseFrames_short {first : UInt8} {tail : List UInt8}
    (h : tail.length + 1 < encodedLenFromFirst first) :
    parseFrames maxMessage maxStaging reserves k (first :: tail) =
      ([], none, .error .truncatedFrame) := by
  rw [encodedLenFromFirst_eq] at h
  have hshort := decodeVarint_short h
  rw [parseFrames]
  split
  · rename_i heq
    rw [hshort] at heq
    cases heq
  · rfl
  · rename_i heq
    rw [hshort] at heq
    cases heq

theorem parseFrames_nonMinimal (h : decodeVarint stream = .error .nonMinimal) :
    parseFrames maxMessage maxStaging reserves k stream =
      ([], some (.varInt .nonMinimal), .error .truncatedFrame) := by
  rw [parseFrames]
  split
  · rfl
  · rename_i heq
    rw [h] at heq
    cases heq
  · rename_i heq
    rw [h] at heq
    cases heq

/-- What a frame whose length can be read comes to. -/
theorem parseFrames_ok {claimed len : Nat} (h : decodeVarint stream = .ok (claimed, len)) :
    parseFrames maxMessage maxStaging reserves k stream =
      if claimed > maxMessage then
        ([], some (.messageTooLarge claimed maxMessage), .error .truncatedFrame)
      else if claimed > maxStaging then
        ([], some (.stagingLimitExceeded claimed maxStaging), .error .truncatedFrame)
      else if claimed ≠ 0 ∧ ¬ reserves k then ([], some .allocationFailed, .error .truncatedFrame)
      else if stream.length < len + claimed then ([], none, .error .truncatedFrame)
      else
        let later := parseFrames maxMessage maxStaging reserves (k + 1)
          (stream.drop (len + claimed))
        ((stream.drop len).take claimed :: later.1, later.2) := by
  rw [parseFrames]
  split
  · rename_i heq
    rw [h] at heq
    cases heq
  · rename_i heq
    rw [h] at heq
    cases heq
  · rename_i heq
    rw [h] at heq
    cases heq
    rfl

/-- A frame within the limits: its body is there, or the stream ends in it. -/
theorem parseFrames_body {expected : Nat} (hm : expected ≤ maxMessage) (hs : expected ≤ maxStaging)
    (hv : expected ≤ maxVarint) (hr : expected ≠ 0 → reserves k = true) (body : List UInt8) :
    parseFrames maxMessage maxStaging reserves k (varintBytes expected ++ body) =
      if body.length < expected then ([], none, .error .truncatedFrame)
      else
        let later := parseFrames maxMessage maxStaging reserves (k + 1) (body.drop expected)
        (body.take expected :: later.1, later.2) := by
  rw [parseFrames_ok (decodeVarint_encode (encodeVarint_eq hv) body), if_neg (not_lt.mpr hm),
    if_neg (not_lt.mpr hs), if_neg (by rintro ⟨h0, hno⟩; exact hno (hr h0)), List.length_append,
    List.drop_left, ← List.drop_drop, List.drop_left]
  simp only [Nat.add_lt_add_iff_left]

end Parsing

/-- With all the bytes of a length there, what follows does not matter. -/
theorem decodeVarint_complete {first : UInt8} {tail : List UInt8}
    (h : tail.length + 1 = encodedLenFromFirst first) (rest : List UInt8) :
    decodeVarint (first :: tail ++ rest) = decodeVarint (first :: tail) := by
  rw [encodedLenFromFirst_eq] at h
  have hself : decodeVarint (first :: tail ++ []) = _ := decodeVarint_cons h
  rw [List.append_nil] at hself
  rw [decodeVarint_cons h, hself]

/-- All the bytes of a length are a varint or not the shortest one. -/
theorem decodeVarint_whole {first : UInt8} {tail : List UInt8}
    (h : tail.length + 1 = encodedLenFromFirst first) :
    decodeVarint (first :: tail) = .error .nonMinimal ∨
    ∃ value, value ≤ maxVarint ∧ first :: tail = varintBytes value ∧
      decodeVarint (first :: tail) = .ok (value, tail.length + 1) := by
  have hcons := h
  rw [encodedLenFromFirst_eq] at hcons
  have hself : decodeVarint (first :: tail ++ []) = _ := decodeVarint_cons hcons
  rw [List.append_nil, ← hcons] at hself
  simp only at hself
  split at hself
  · exact .inl hself
  · obtain ⟨hle, -, hinput⟩ := decodeVarint_eq_ok.mp hself
    have hnil : (first :: tail).drop (tail.length + 1) = [] :=
      List.drop_eq_nil_of_le (le_of_eq List.length_cons)
    rw [hnil, List.append_nil] at hinput
    exact .inr ⟨_, hle, hinput, hself⟩

/-! ### The decoder between two calls -/

/-- The bytes of the unfinished frame that were taken in. -/
def FrameState.pending : FrameState → List UInt8
  | .length bytes _ => bytes
  | .payload expected bytes => varintBytes expected ++ bytes

/-- The bytes of the unfinished message that are kept in memory. -/
def FrameState.staged : FrameState → List UInt8
  | .length _ _ => []
  | .payload _ bytes => bytes

/-- Between two frames or inside of one. -/
inductive FrameState.Unfinished (maxMessageBytes maxStagingBytes : Nat) : FrameState → Prop where
  | between {needed} : Unfinished maxMessageBytes maxStagingBytes (.length [] needed)
  | length {first tail} : tail.length + 1 < encodedLenFromFirst first →
      Unfinished maxMessageBytes maxStagingBytes
        (.length (first :: tail) (encodedLenFromFirst first))
  | payload {expected bytes} : bytes.length < expected → expected ≤ maxMessageBytes →
      expected ≤ maxStagingBytes →
      Unfinished maxMessageBytes maxStagingBytes (.payload expected bytes)

/-- Behind a length that was refused. -/
inductive FrameState.Faulty : FrameState → Prop where
  | mk {first tail} : tail.length + 1 = encodedLenFromFirst first →
      (∀ len, decodeVarint (first :: tail) ≠ .ok (0, len)) →
      Faulty (.length (first :: tail) (encodedLenFromFirst first))

namespace ReliableFrameDecoder

/-- The decoder before message `k`, which has its memory once its length was read. -/
structure Live (maxMessage maxStaging : Nat) (reserves : Nat → Bool) (k : Nat)
    (d : ReliableFrameDecoder) : Prop where
  message : d.maxMessageBytes = maxMessage
  staging : d.maxStagingBytes = maxStaging
  state : d.state.Unfinished maxMessage maxStaging
  reserved : ∀ expected bytes, d.state = .payload expected bytes → reserves k = true

theorem Live.start (maxMessage maxStaging : Nat) (reserves : Nat → Bool) (k : Nat) :
    Live maxMessage maxStaging reserves k ⟨maxMessage, maxStaging, .start⟩ :=
  ⟨rfl, rfl, .between, fun _ _ h => by simp [FrameState.start] at h⟩

/-- One call, with the allocator's answer for message `k`. -/
def take (reserves : Nat → Bool) (k : Nat) (d : ReliableFrameDecoder) (input : List UInt8) :
    Taken (List UInt8) ReliableFrameError × ReliableFrameDecoder :=
  let (r, d) := d.consume (reserves k) input
  (r.map fun c => (c.consumed, c.message), d)

/-- What a call comes to whose unfinished frame was `before`: all of the input belongs to it, or
a message is complete, or the stream is at fault. -/
inductive Call (maxMessage maxStaging : Nat) (reserves : Nat → Bool) (k : Nat)
    (before input : List UInt8) :
    Taken (List UInt8) ReliableFrameError × ReliableFrameDecoder → Prop where
  | more {d} : d.state.pending = before ++ input → Live maxMessage maxStaging reserves k d →
      Call maxMessage maxStaging reserves k before input (.ok (input.length, none), d)
  | message {n m} : 0 < n → n ≤ input.length →
      (∀ rest, parseFrames maxMessage maxStaging reserves k (before ++ (input ++ rest)) =
        let later := parseFrames maxMessage maxStaging reserves (k + 1) (input.drop n ++ rest)
        (m :: later.1, later.2)) →
      Call maxMessage maxStaging reserves k before input
        (.ok (n, some m), ⟨maxMessage, maxStaging, .start⟩)
  | failed {e d} : d.state.Faulty → d.maxMessageBytes = maxMessage →
      d.maxStagingBytes = maxStaging →
      (∀ rest, parseFrames maxMessage maxStaging reserves k (before ++ (input ++ rest)) =
        ([], some e, d.finish)) →
      Call maxMessage maxStaging reserves k before input (.error e, d)

section Calls

variable {maxMessage maxStaging : Nat} {reserves : Nat → Bool} {k c : Nat}
  {before input bytes : List UInt8} {expected : Nat}

/-- The part of a call that takes bytes of the payload. -/
theorem consumePayload_call (hm : expected ≤ maxMessage) (hs : expected ≤ maxStaging)
    (hv : expected ≤ maxVarint) (hr : reserves k = true) (hlt : bytes.length < expected)
    (hc : c ≤ input.length)
    (hsplit : before ++ input.take c = varintBytes expected ++ bytes) (state : FrameState) :
    Call maxMessage maxStaging reserves k before input
      (let (result, d) := consumePayload ⟨maxMessage, maxStaging, state⟩ expected bytes input c
       (.ok (result.consumed, result.message), d)) := by
  have hdrop : (input.drop c).length = input.length - c := List.length_drop
  rcases lt_or_ge (bytes.length + (input.length - c)) expected with hshort | hlong
  · have htake : min (input.length - c) (expected - bytes.length) = input.length - c := by omega
    have hall : (input.drop c).take (input.length - c) = input.drop c :=
      List.take_of_length_le (le_of_eq hdrop)
    have hne : (bytes ++ input.drop c).length ≠ expected := by
      rw [List.length_append, hdrop]
      omega
    simp only [consumePayload, htake, hall, if_neg hne, Nat.add_sub_cancel' hc]
    refine .more ?_ ⟨rfl, rfl, .payload ?_ hm hs, fun _ _ _ => hr⟩
    · show varintBytes expected ++ (bytes ++ input.drop c) = _
      rw [← List.append_assoc, ← hsplit, List.append_assoc, List.take_append_drop]
    · rw [List.length_append, hdrop]
      exact hshort
  · have htake : min (input.length - c) (expected - bytes.length) = expected - bytes.length := by
      omega
    have hlen : (bytes ++ (input.drop c).take (expected - bytes.length)).length = expected := by
      rw [List.length_append, List.length_take, hdrop]
      omega
    simp only [consumePayload, htake, if_pos hlen]
    refine .message (by omega) (by omega) fun rest => ?_
    have hbody : before ++ (input ++ rest) =
        varintBytes expected ++ (bytes ++ (input.drop c ++ rest)) := by
      rw [← List.append_assoc (varintBytes expected), ← hsplit, List.append_assoc before,
        ← List.append_assoc (input.take c), List.take_append_drop]
    have hle : ¬ (bytes ++ (input.drop c ++ rest)).length < expected := by
      rw [List.length_append, List.length_append, hdrop]
      omega
    rw [hbody, parseFrames_body hm hs hv fun _ => hr, if_neg hle,
      List.take_append, List.drop_append, List.take_of_length_le hlt.le,
      List.drop_eq_nil_of_le hlt.le, List.nil_append,
      List.take_append_of_le_length (by rw [hdrop]; omega),
      List.drop_append_of_le_length (by rw [hdrop]; omega), List.drop_drop]

/-- The part of a call that takes the last bytes of a length. -/
theorem startPayload_call {first : UInt8} {tail : List UInt8}
    (hlen : tail.length + 1 = encodedLenFromFirst first) (hc : c ≤ input.length)
    (hpos : 0 < c ∨ ∀ len, decodeVarint (first :: tail) ≠ .ok (0, len))
    (hsplit : before ++ input.take c = first :: tail) :
    Call maxMessage maxStaging reserves k before input
      (let (r, d) := startPayload
        ⟨maxMessage, maxStaging, .length (first :: tail) (encodedLenFromFirst first)⟩
        (reserves k) (first :: tail) input c
       (r.map fun taken => (taken.consumed, taken.message), d)) := by
  have hstream : ∀ rest, before ++ (input ++ rest) = first :: tail ++ (input.drop c ++ rest) :=
    fun rest => by
      rw [← hsplit, List.append_assoc, ← List.append_assoc (input.take c), List.take_append_drop]
  rcases decodeVarint_whole hlen with hbad | ⟨claimed, hv, hbytes, hok⟩
  · simp only [startPayload, hbad]
    refine .failed (.mk hlen (by simp [hbad])) rfl rfl fun rest => ?_
    rw [hstream, parseFrames_nonMinimal ((decodeVarint_complete hlen _).trans hbad)]
    rfl
  have hparse : ∀ rest, parseFrames maxMessage maxStaging reserves k
      (first :: tail ++ (input.drop c ++ rest)) = _ := fun rest =>
    parseFrames_ok ((decodeVarint_complete hlen (input.drop c ++ rest)).trans hok)
  have hfaulty : claimed ≠ 0 →
      FrameState.Faulty (.length (first :: tail) (encodedLenFromFirst first)) :=
    fun hne => .mk hlen fun len h => by
      rw [hok] at h
      cases h
      exact hne rfl
  by_cases hm : claimed > maxMessage
  · simp only [startPayload, hok, if_pos hm]
    refine .failed (hfaulty (by omega)) rfl rfl fun rest => ?_
    rw [hstream, hparse, if_pos hm]
    rfl
  by_cases hs : claimed > maxStaging
  · simp only [startPayload, hok, if_neg hm, if_pos hs]
    refine .failed (hfaulty (by omega)) rfl rfl fun rest => ?_
    rw [hstream, hparse, if_neg hm, if_pos hs]
    rfl
  have hplatform : ¬ claimed > usizeMax := by
    rw [maxVarint_eq] at hv
    unfold usizeMax
    omega
  by_cases h0 : claimed = 0
  · subst h0
    have hpos := hpos.resolve_right fun h => h _ hok
    simp only [startPayload, hok, if_neg hm, if_neg hs, if_neg hplatform, if_true]
    refine .message hpos hc fun rest => ?_
    rw [hstream, hbytes, parseFrames_body (Nat.zero_le _) (Nat.zero_le _) hv (absurd rfl)]
    rfl
  by_cases hr : reserves k = true
  swap
  · simp only [startPayload, hok, if_neg hm, if_neg hs, if_neg hplatform, if_neg h0, if_pos hr]
    refine .failed (hfaulty h0) rfl rfl fun rest => ?_
    rw [hstream, hparse, if_neg hm, if_neg hs, if_pos ⟨h0, hr⟩]
    rfl
  · simp only [startPayload, hok, if_neg hm, if_neg hs, if_neg hplatform, if_neg h0, hr,
      not_true_eq_false, if_false]
    have hnone : ([] : List UInt8).length < claimed := Nat.pos_of_ne_zero h0
    exact consumePayload_call (not_lt.mp hm) (not_lt.mp hs) hv hr hnone hc
      (by rw [hsplit, hbytes, List.append_nil]) _

/-- The part of a call that takes bytes of a length. -/
theorem consumeLength_call {first : UInt8} {tail : List UInt8}
    (hall : before ++ input = first :: tail)
    (hlt : before.length < encodedLenFromFirst first) (state : FrameState) :
    Call maxMessage maxStaging reserves k before input
      (let (r, d) := consumeLength ⟨maxMessage, maxStaging, state⟩ (reserves k) before
        (encodedLenFromFirst first) input
       (r.map fun taken => (taken.consumed, taken.message), d)) := by
  have htotal : before.length + input.length = tail.length + 1 := by
    rw [← List.length_append, hall, List.length_cons]
  rcases lt_or_ge (before.length + input.length) (encodedLenFromFirst first) with hshort | hlong
  · have htake : min input.length (encodedLenFromFirst first - before.length) = input.length := by
      omega
    have hne : (before ++ input).length ≠ encodedLenFromFirst first := by
      rw [List.length_append]
      omega
    simp only [consumeLength, htake, List.take_length, if_neg hne]
    refine .more rfl ⟨rfl, rfl, ?_, nofun⟩
    rw [hall]
    exact .length (by omega)
  · have htake : min input.length (encodedLenFromFirst first - before.length) =
        encodedLenFromFirst first - before.length := by omega
    have hlen : (before ++ input.take (encodedLenFromFirst first - before.length)).length =
        encodedLenFromFirst first := by
      rw [List.length_append, List.length_take]
      omega
    -- the bytes of the length begin with the same byte as the whole
    obtain ⟨tail', htail⟩ : ∃ tail',
        before ++ input.take (encodedLenFromFirst first - before.length) = first :: tail' := by
      have hprefix : before ++ input.take (encodedLenFromFirst first - before.length) <+:
          first :: tail := by
        rw [← hall]
        exact (List.prefix_append_right_inj before).mpr (List.take_prefix _ _)
      cases hb : before ++ input.take (encodedLenFromFirst first - before.length) with
      | nil =>
        rw [hb] at hlen
        have : 0 < encodedLenFromFirst first := Nat.zero_lt_of_lt hlt
        exact absurd hlen (by rw [List.length_nil]; omega)
      | cons b bs =>
        rw [hb] at hprefix
        exact ⟨bs, by rw [(List.cons_prefix_cons.mp hprefix).1]⟩
    simp only [consumeLength, htake, if_pos hlen]
    rw [htail] at hlen ⊢
    rw [List.length_cons] at hlen
    exact startPayload_call hlen (by omega) (.inl (by omega)) htail

/-- Every call from every state between two calls. -/
theorem take_call (hbound : maxMessage ≤ maxVarint) {d : ReliableFrameDecoder}
    (hd : Live maxMessage maxStaging reserves k d) (input : List UInt8) :
    Call maxMessage maxStaging reserves k d.state.pending input (d.take reserves k input) := by
  obtain ⟨m, st, state⟩ := d
  obtain ⟨hm, hs, hstate, hr⟩ := hd
  simp only at hm hs hstate hr
  subst hm hs
  cases hstate with
  | between =>
    cases input with
    | nil => exact .more rfl ⟨rfl, rfl, .between, nofun⟩
    | cons first rest =>
      have hlt : ([] : List UInt8).length < encodedLenFromFirst first := by
        rw [encodedLenFromFirst_eq, List.length_nil]
        positivity
      exact consumeLength_call rfl hlt _
  | length hlt => exact consumeLength_call List.cons_append hlt _
  | payload hlt hm hs =>
    exact consumePayload_call hm hs (hm.trans hbound) (hr _ _ rfl) hlt (Nat.zero_le _)
      (by rw [List.take_zero, List.append_nil]; rfl) _

/-- A call after a refused length asks for its memory once more, or refuses it again. -/
theorem take_call_faulty {d : ReliableFrameDecoder} (hm : d.maxMessageBytes = maxMessage)
    (hs : d.maxStagingBytes = maxStaging) (hd : d.state.Faulty) :
    Call maxMessage maxStaging reserves k d.state.pending input (d.take reserves k input) := by
  obtain ⟨m, st, state⟩ := d
  simp only at hm hs hd
  subst hm hs
  cases hd with
  | @mk first tail hlen hzero =>
    have hfull : (first :: tail).length = encodedLenFromFirst first := hlen
    have hcall : Call m st reserves k (first :: tail) input _ :=
      startPayload_call hlen (Nat.zero_le input.length) (.inr hzero)
        (show first :: tail ++ input.take 0 = first :: tail from List.append_nil _)
    simp only [take, consume, consumeLength, hfull, Nat.sub_self, Nat.min_zero, List.take_zero,
      List.append_nil, if_true]
    exact hcall

end Calls

/-! ### Whole streams -/

section Streams

variable {maxMessage maxStaging : Nat} {reserves : Nat → Bool}

theorem agrees (hbound : maxMessage ≤ maxVarint) :
    Agrees (take reserves) (parseFrames maxMessage maxStaging reserves) finish
      (fun d => d.state.pending) (Live maxMessage maxStaging reserves) where
  progress := by
    intro k s input n m s' hs hne h
    have hcall := take_call hbound hs input
    rw [h] at hcall
    cases hcall with
    | more => exact List.length_pos_of_ne_nil hne
    | message hpos => exact hpos
  more := by
    intro k s input n s' hs _ h
    have hcall := take_call hbound hs input
    rw [h] at hcall
    cases hcall with
    | more hp hlive => exact ⟨le_refl _, hp, hlive⟩
  message := by
    intro k s input n m s' hs _ h
    have hcall := take_call hbound hs input
    rw [h] at hcall
    cases hcall with
    | message _ _ hparse => exact ⟨rfl, .start .., hparse⟩
  failed := by
    intro k s input e s' hs _ h
    have hcall := take_call hbound hs input
    rw [h] at hcall
    cases hcall with
    | failed _ _ _ hparse => exact hparse
  stopped := by
    intro k s hs
    obtain ⟨m, st, state⟩ := s
    obtain ⟨-, -, hstate, hr⟩ := hs
    simp only at hstate hr
    cases hstate with
    | between => exact parseFrames_nil
    | length hlt => exact parseFrames_short hlt
    | @payload expected bytes hlt hm hs =>
      have hbody := parseFrames_body hm hs (hm.trans hbound) (fun _ => hr expected bytes rfl) bytes
      rwa [if_pos hlt] at hbody

end Streams

/-! ### Any calls -/

/-- What holds of the decoder whatever was done with it, also after an error. -/
structure Held (maxMessage maxStaging : Nat) (d : ReliableFrameDecoder) : Prop where
  message : d.maxMessageBytes = maxMessage
  staging : d.maxStagingBytes = maxStaging
  state : d.state.Unfinished maxMessage maxStaging ∨ d.state.Faulty

section AnyCalls

variable {maxMessage maxStaging : Nat} {d : ReliableFrameDecoder}

theorem Held.staged_le (hd : Held maxMessage maxStaging d) :
    d.state.staged.length ≤ min maxMessage maxStaging := by
  obtain ⟨m, st, state⟩ := d
  rcases hd.state with hu | hf
  · simp only at hu
    cases hu with
    | between => exact Nat.zero_le _
    | length => exact Nat.zero_le _
    | payload hlt hm hs => exact le_min (hlt.le.trans hm) (hlt.le.trans hs)
  · simp only at hf
    cases hf
    exact Nat.zero_le _

/-- What one call keeps and returns, whatever the allocator answers. -/
theorem Held.consume (hbound : maxMessage ≤ maxVarint) (hd : Held maxMessage maxStaging d)
    (reserves : Bool) (input : List UInt8) :
    Held maxMessage maxStaging (d.consume reserves input).2 ∧
      ∀ c, (d.consume reserves input).1 = .ok c →
        c.consumed ≤ input.length ∧ (input ≠ [] → 0 < c.consumed) := by
  -- inside of a payload the allocator is not asked
  obtain ⟨asked, hlive, hasked⟩ : ∃ asked : Bool, (d.state.Faulty ∨
      Live maxMessage maxStaging (fun _ => asked) 0 d) ∧
      d.consume asked input = d.consume reserves input := by
    rcases hd.state with hu | hf
    · cases hstate : d.state with
      | length bytes needed =>
        refine ⟨reserves, .inr ⟨hd.message, hd.staging, hu, fun _ _ h => ?_⟩, rfl⟩
        rw [hstate] at h
        cases h
      | payload expected bytes =>
        refine ⟨true, .inr ⟨hd.message, hd.staging, hu, fun _ _ _ => rfl⟩, ?_⟩
        simp only [ReliableFrameDecoder.consume, hstate]
    · exact ⟨reserves, .inl hf, rfl⟩
  have hcall : Call maxMessage maxStaging (fun _ => asked) 0 d.state.pending input
      (d.take (fun _ => asked) 0 input) := by
    rcases hlive with hf | hlive
    · exact take_call_faulty hd.message hd.staging hf
    · exact take_call hbound hlive input
  rw [take, hasked] at hcall
  generalize d.consume reserves input = result at hcall ⊢
  obtain ⟨r, d'⟩ := result
  cases r with
  | error e =>
    cases hcall with
    | failed hf hm hs _ =>
      refine ⟨⟨hm, hs, .inr hf⟩, fun c hc => ?_⟩
      cases hc
  | ok c =>
    obtain ⟨n, m⟩ := c
    cases hcall with
    | more _ hl =>
      refine ⟨⟨hl.message, hl.staging, .inl hl.state⟩, fun c hc => ?_⟩
      cases hc
      exact ⟨le_refl _, List.length_pos_of_ne_nil⟩
    | message hpos hle _ =>
      refine ⟨⟨rfl, rfl, .inl .between⟩, fun c hc => ?_⟩
      cases hc
      exact ⟨hle, fun _ => hpos⟩

/-- The decoder after any calls, each with the allocator's answer. -/
def after (d : ReliableFrameDecoder) (calls : List (Bool × List UInt8)) : ReliableFrameDecoder :=
  calls.foldl (fun d call => (d.consume call.1 call.2).2) d

theorem Held.after (hbound : maxMessage ≤ maxVarint) (hd : Held maxMessage maxStaging d)
    (calls : List (Bool × List UInt8)) : Held maxMessage maxStaging (d.after calls) := by
  induction calls generalizing d with
  | nil => exact hd
  | cons call calls ih => exact ih (hd.consume hbound call.1 call.2).1

theorem new_ok (h : new maxMessage maxStaging = .ok d) :
    maxMessage ≤ maxVarint ∧ d = ⟨maxMessage, maxStaging, .start⟩ := by
  unfold new at h
  split at h
  · cases h
  · split at h
    · cases h
    · rename_i hle
      cases h
      exact ⟨not_lt.mp fun hlt => hle (.inl hlt), rfl⟩

end AnyCalls

/-- A new decoder gives what the parse of the whole stream gives, whatever the chunks; and after
any calls it keeps within its limits and takes some of every input that is not empty. -/
theorem chunking_invariant {maxMessage maxStaging : Nat} {d : ReliableFrameDecoder}
    (h : new maxMessage maxStaging = .ok d) :
    (∀ (reserves : Nat → Bool) (chunks : List (List UInt8)), ∃ messages error d',
      feed (take reserves) 0 d chunks = .ok (messages, error, d') ∧
      parseFrames maxMessage maxStaging reserves 0 chunks.flatten =
        (messages, error, d'.finish)) ∧
    ∀ calls, (d.after calls).state.staged.length ≤ min maxMessage maxStaging ∧
      ∀ reserves input c, ((d.after calls).consume reserves input).1 = .ok c →
        c.consumed ≤ input.length ∧ (input ≠ [] → 0 < c.consumed) := by
  obtain ⟨hbound, rfl⟩ := new_ok h
  refine ⟨fun reserves chunks => ?_, fun calls => ?_⟩
  · exact (agrees hbound).feed_parse (.start ..) chunks
  · have hheld : Held maxMessage maxStaging ⟨maxMessage, maxStaging, .start⟩ :=
      ⟨rfl, rfl, .inl .between⟩
    have hafter := hheld.after hbound calls
    exact ⟨hafter.staged_le, fun reserves input => (hafter.consume hbound reserves input).2⟩

/-! A stream of the messages `[7, 8]` and `[]`, cut inside of the first one. -/

theorem sample_new : new 4 4 = .ok ⟨4, 4, .start⟩ := rfl

example :
    feed (take fun _ => true) 0 ⟨4, 4, .start⟩ [[2, 7], [8, 0]] =
      .ok ([[7, 8], []], none, ⟨4, 4, .start⟩) := by decide

theorem chunking_invariant_sample : ∃ messages error d',
    feed (take fun _ => true) 0 ⟨4, 4, .start⟩ [[2, 7], [8, 0]] = .ok (messages, error, d') ∧
      parseFrames 4 4 (fun _ => true) 0 [2, 7, 8, 0] = (messages, error, d'.finish) :=
  (chunking_invariant sample_new).1 (fun _ => true) [[2, 7], [8, 0]]

end ReliableFrameDecoder

end RunenNet
