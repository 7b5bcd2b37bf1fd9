import StreamBox.RustDesk.Framing

/-!
# The stateful codec

Three encoders write the same framing, and two decoders read it: `read_frame` on
a stream, and `BytesCodec::decode` on a buffer that grows by chunks.

* **Encoders** — `encodeFrameInto_eq`, `BytesCodec.encode_eq`: the bytes of
  `encode_frame`, behind what the buffer holds.
* **Decoder** — `BytesCodec.Awaits`: what the decoder's state, the buffer and the
  bytes still to come amount to, kept by one `decode` (`BytesCodec.decode_awaits`).
* **Round trip** — `codec_round_trip`: however the stream is cut, both decoders
  give back exactly the payloads.
-/

namespace StreamBox.RustDesk

/-! ## The other encoders -/

/-- `BufMut::put_u16_le`. -/
def putU16Le (buf : Bytes) (n : Nat) : Bytes := buf ++ [UInt8.ofNat n, UInt8.ofNat (n >>> 8)]

/-- `BufMut::put_u32_le`. -/
def putU32Le (buf : Bytes) (n : Nat) : Bytes :=
  buf ++ [UInt8.ofNat n, UInt8.ofNat (n >>> 8), UInt8.ofNat (n >>> 16), UInt8.ofNat (n >>> 24)]

/-- Encode a message into an existing buffer. -/
def encodeFrameInto (data buf : Bytes) : Except String Bytes :=
  let len := data.length
  if len ≤ 0x3F then .ok (buf ++ [UInt8.ofNat (len <<< 2)] ++ data)
  else if len ≤ 0x3FFF then .ok (putU16Le buf ((len <<< 2) % 2 ^ 16 ||| 0x1) ++ data)
  else if len ≤ 0x3FFFFF then
    let h := (len <<< 2) % 2 ^ 32 ||| 0x2
    .ok (buf ++ [UInt8.ofNat (h &&& 0xFF)] ++ [UInt8.ofNat ((h >>> 8) &&& 0xFF)] ++
      [UInt8.ofNat ((h >>> 16) &&& 0xFF)] ++ data)
  else if len ≤ MAX_PACKET_LENGTH then .ok (putU32Le buf ((len <<< 2) % 2 ^ 32 ||| 0x3) ++ data)
  else .error "Message too large"

inductive DecodeState
  | head
  | data (n : Nat)
  deriving DecidableEq, Repr

structure BytesCodec where
  state : DecodeState := .head
  maxPacketLength : Nat := MAX_PACKET_LENGTH
  deriving DecidableEq, Repr

namespace BytesCodec

/-- Encode a message behind what the buffer holds. -/
def encode (_ : BytesCodec) (data buf : Bytes) : Except String Bytes :=
  let len := data.length
  if len ≤ 0x3F then .ok (buf ++ [UInt8.ofNat (len <<< 2)] ++ data)
  else if len ≤ 0x3FFF then .ok (putU16Le buf ((len <<< 2) % 2 ^ 16 ||| 0x1) ++ data)
  else if len ≤ 0x3FFFFF then
    let h := (len <<< 2) % 2 ^ 32 ||| 0x2
    .ok (putU16Le buf ((h &&& 0xFFFF) % 2 ^ 16) ++ [UInt8.ofNat (h >>> 16)] ++ data)
  else if len ≤ MAX_PACKET_LENGTH then .ok (putU32Le buf ((len <<< 2) % 2 ^ 32 ||| 0x3) ++ data)
  else .error "Message too large"

/-! ## The decoder -/

/-- The length in a complete header, and the buffer behind it. -/
def decodeHead (codec : BytesCodec) (src : Bytes) : Except String (Option (Nat × Bytes)) :=
  match src with
  | [] => .ok none
  | first :: rest =>
    let headLen := headLen first
    if src.length < headLen then .ok none
    else
      let n := first.toNat
      let n := if headLen > 1 then n ||| (rest.getD 0 0).toNat <<< 8 else n
      let n := if headLen > 2 then n ||| (rest.getD 1 0).toNat <<< 16 else n
      let n := if headLen > 3 then n ||| (rest.getD 2 0).toNat <<< 24 else n
      let n := n >>> 2
      if n > codec.maxPacketLength then .error "Message too large"
      else .ok (some (n, src.drop headLen))

/-- A complete body, and the buffer behind it. -/
def decodeData (n : Nat) (src : Bytes) : Option (Bytes × Bytes) :=
  if src.length < n then none else some (src.take n, src.drop n)

/-- The body part of `decode`. -/
def decodeBody (codec : BytesCodec) (n : Nat) (src : Bytes) : Option Bytes × BytesCodec × Bytes :=
  match decodeData n src with
  | some (data, src) => (some data, { codec with state := .head }, src)
  | none => (none, codec, src)

/-- Decode one message from the buffer, if it is complete. -/
def decode (codec : BytesCodec) (src : Bytes) :
    Except String (Option Bytes × BytesCodec × Bytes) :=
  match codec.state with
  | .head =>
    match codec.decodeHead src with
    | .error e => .error e
    | .ok none => .ok (none, codec, src)
    | .ok (some (n, src)) => .ok (decodeBody { codec with state := .data n } n src)
  | .data n => .ok (decodeBody codec n src)

/-- Decode until the buffer holds no complete message. -/
def decodeAll : Nat → BytesCodec → Bytes → Except String (List Bytes × BytesCodec × Bytes)
  | 0, _, _ => .error "decode does not come to an end"
  | fuel + 1, codec, src => do
    match ← codec.decode src with
    | (none, codec, src) => pure ([], codec, src)
    | (some data, codec, src) =>
      let (msgs, codec, src) ← decodeAll fuel codec src
      pure (data :: msgs, codec, src)

/-- Feed the decoder chunk by chunk, taking all complete messages after each. -/
def feed : BytesCodec → Bytes → List Bytes → Except String (List Bytes × BytesCodec × Bytes)
  | codec, src, [] => pure ([], codec, src)
  | codec, src, chunk :: chunks => do
    let src := src ++ chunk
    let (msgs, codec, src) ← decodeAll (src.length + 2) codec src
    let (more, codec, src) ← feed codec src chunks
    pure (msgs ++ more, codec, src)

end BytesCodec

/-- What the reader makes of the next bytes, calling `read_frame` anew after each message. -/
def readBytes : ReadFrame → Bytes → Except String (List Bytes × ReadFrame)
  | fut, [] => pure ([], fut)
  | fut, b :: bs =>
    match fut.feed b with
    | .pending fut => readBytes fut bs
    | .ready msg => do
      let (msgs, fut) ← readBytes .first bs
      pure (msg :: msgs, fut)
    | .failed reason => throw reason

/-- Reading a stream that arrives in chunks. -/
def readFrames : ReadFrame → List Bytes → Except String (List Bytes × ReadFrame)
  | fut, [] => pure ([], fut)
  | fut, chunk :: chunks => do
    let (msgs, fut) ← readBytes fut chunk
    let (more, fut) ← readFrames fut chunks
    pure (msgs ++ more, fut)

/-! ## The encoders agree -/

/-- `encode_frame_into` appends the frame. -/
theorem encodeFrameInto_eq {data frame : Bytes} (henc : encodeFrame data = .ok frame)
    (buf : Bytes) : encodeFrameInto data buf = .ok (buf ++ frame) := by
  have hmask (h : Nat) : UInt8.ofNat (h &&& 0xFF) = UInt8.ofNat h := by
    apply UInt8.toNat_inj.mp
    simp only [UInt8.toNat_ofNat', Nat.and_two_pow_sub_one_eq_mod h 8]
    omega
  simp only [encodeFrame, encodeFrameInto, putU16Le, putU32Le, hmask] at henc ⊢
  split at henc
  case isTrue h6 =>
    cases henc
    simp [h6]
  rw [if_neg ‹_›]
  split at henc
  case isTrue h14 =>
    cases henc
    have hfit : data.length <<< 2 % 2 ^ 16 = data.length <<< 2 := by
      rw [Nat.shiftLeft_eq]
      omega
    rw [if_pos h14, hfit, List.append_assoc]
  rw [if_neg ‹_›]
  have hfit (hmax : data.length ≤ MAX_PACKET_LENGTH) :
      data.length <<< 2 % 2 ^ 32 = data.length <<< 2 := by
    unfold MAX_PACKET_LENGTH at hmax
    rw [Nat.shiftLeft_eq]
    omega
  split at henc
  case isTrue h22 =>
    cases henc
    rw [if_pos h22, hfit (by unfold MAX_PACKET_LENGTH; omega)]
    simp only [List.append_assoc, List.cons_append, List.nil_append]
  rw [if_neg ‹_›]
  split at henc
  case isTrue h30 =>
    cases henc
    rw [if_pos h30, hfit h30, List.append_assoc]
  case isFalse => cases henc

/-- The two ways of writing the three header bytes. -/
theorem BytesCodec.encode_eq_encodeFrameInto (codec : BytesCodec) (data buf : Bytes) :
    codec.encode data buf = encodeFrameInto data buf := by
  have hlow (h : Nat) : UInt8.ofNat ((h &&& 0xFFFF) % 2 ^ 16) = UInt8.ofNat (h &&& 0xFF) := by
    apply UInt8.toNat_inj.mp
    simp only [UInt8.toNat_ofNat', Nat.and_two_pow_sub_one_eq_mod h 8,
      Nat.and_two_pow_sub_one_eq_mod h 16]
    omega
  have hmid (h : Nat) : UInt8.ofNat (((h &&& 0xFFFF) % 2 ^ 16) >>> 8)
      = UInt8.ofNat ((h >>> 8) &&& 0xFF) := by
    apply UInt8.toNat_inj.mp
    simp only [UInt8.toNat_ofNat', Nat.and_two_pow_sub_one_eq_mod _ 8,
      Nat.and_two_pow_sub_one_eq_mod h 16, Nat.shiftRight_eq_div_pow]
    omega
  have htop (h : Nat) : UInt8.ofNat (h >>> 16) = UInt8.ofNat ((h >>> 16) &&& 0xFF) := by
    apply UInt8.toNat_inj.mp
    simp only [UInt8.toNat_ofNat', Nat.and_two_pow_sub_one_eq_mod _ 8]
    omega
  simp only [encode, encodeFrameInto, putU16Le, hlow, hmid, htop, List.append_assoc,
    List.cons_append, List.nil_append]

/-! ## The decoder -/

namespace BytesCodec

/-- The decoder in this state, with these bytes in the buffer or to come, is about to
return exactly the messages. -/
def Awaits (codec : BytesCodec) (bs : Bytes) (msgs : List Bytes) : Prop :=
  codec.maxPacketLength = MAX_PACKET_LENGTH ∧
  match codec.state with
  | .head => encodeFrames msgs = .ok bs
  | .data n => ∃ m rest tail, msgs = m :: rest ∧ m.length = n ∧ encodeFrames rest = .ok tail ∧
      bs = m ++ tail

theorem length_take_headerRest (word : Nat) {tag : Nat} (h : tag ≤ 3) :
    ((headerRest word tag).take tag).length = tag := by
  obtain rfl | rfl | rfl | rfl : tag = 0 ∨ tag = 1 ∨ tag = 2 ∨ tag = 3 := by omega
  all_goals rfl

/-- A header of `tag + 1` bytes reads back the length, and is not read before it is complete. -/
theorem decodeHead_word (codec : BytesCodec) {word tag : Nat} {src tail future : Bytes}
    (hmax : word / 4 ≤ codec.maxPacketLength) (htag : word % 4 = tag)
    (hfit : word < 256 ^ (tag + 1))
    (hsrc : src ++ future = UInt8.ofNat word :: ((headerRest word tag).take tag ++ tail)) :
    (src.length < tag + 1 ∧ codec.decodeHead src = .ok none) ∨
    ∃ rest, src = UInt8.ofNat word :: ((headerRest word tag).take tag ++ rest) ∧
      rest ++ future = tail ∧ codec.decodeHead src = .ok (some (word / 4, rest)) := by
  have hhead := headLen_word word
  rw [htag] at hhead
  cases src with
  | nil => exact Or.inl ⟨by simp, rfl⟩
  | cons first rest =>
    obtain ⟨rfl, hrest⟩ := List.cons.inj hsrc
    change rest ++ future = _ at hrest
    by_cases hshort : rest.length < tag
    · refine Or.inl ⟨by simpa using hshort, ?_⟩
      rw [decodeHead]
      simp only [hhead, List.length_cons]
      rw [if_pos (by omega)]
    · right
      have hdec := decodeHeader_word htag hfit
      have hthree : tag ≤ 3 := by omega
      have hlen := length_take_headerRest word hthree
      obtain ⟨body, rfl⟩ : ∃ body, rest = (headerRest word tag).take tag ++ body := by
        refine ⟨rest.drop tag, ?_⟩
        have := congrArg (List.take tag) hrest
        rw [List.take_append_of_le_length (by omega), List.take_append_of_le_length (by omega),
          List.take_of_length_le (by omega : ((headerRest word tag).take tag).length ≤ tag)] at this
        rw [← this, List.take_append_drop]
      refine ⟨body, rfl, ?_, ?_⟩
      · rw [List.append_assoc] at hrest
        exact List.append_cancel_left hrest
      · rw [decodeHead]
        simp only [hhead, List.length_cons]
        rw [if_neg (by rw [List.length_append]; omega)]
        obtain rfl | rfl | rfl | rfl : tag = 0 ∨ tag = 1 ∨ tag = 2 ∨ tag = 3 := by omega
        all_goals
          simp [decodeHeader, hhead, headerRest] at hdec ⊢
          rw [hdec, if_neg (by omega)]

/-- A body is taken when it is complete, and otherwise the buffer is kept. -/
theorem decodeBody_cases (codec : BytesCodec) {src future m tail : Bytes}
    (hbs : src ++ future = m ++ tail) :
    (decodeBody codec m.length src = (none, codec, src) ∧ future ≠ []) ∨
    ∃ src', decodeBody codec m.length src = (some m, { codec with state := .head }, src') ∧
      src = m ++ src' ∧ src' ++ future = tail := by
  by_cases hshort : src.length < m.length
  · refine Or.inl ⟨by simp only [decodeBody, decodeData, if_pos hshort], ?_⟩
    rintro rfl
    have := congrArg List.length hbs
    simp only [List.length_append, List.length_nil] at this
    omega
  · right
    have htake : src.take m.length = m := by
      have := congrArg (List.take m.length) hbs
      rwa [List.take_append_of_le_length (by omega), List.take_left] at this
    have hsrc : src = m ++ src.drop m.length := by
      conv_lhs => rw [← List.take_append_drop m.length src, htake]
    refine ⟨src.drop m.length, ?_, hsrc, ?_⟩
    · simp only [decodeBody, decodeData, if_neg hshort, htake]
    · rw [hsrc, List.append_assoc] at hbs
      exact List.append_cancel_left hbs

/-- One `decode`: the next message and one less to await, or nothing; then every byte to
come is needed for the next message, if there is one. -/
theorem decode_awaits {codec : BytesCodec} {src future : Bytes} {msgs : List Bytes}
    (h : Awaits codec (src ++ future) msgs) :
    (∃ codec' src', codec.decode src = .ok (none, codec', src') ∧
      Awaits codec' (src' ++ future) msgs ∧
      (future = [] → msgs = [] ∧ codec'.state = .head ∧ src' = [])) ∨
    ∃ m rest codec' src', msgs = m :: rest ∧ codec.decode src = .ok (some m, codec', src') ∧
      Awaits codec' (src' ++ future) rest ∧ codec'.state = .head ∧
      (src'.length < src.length ∨ codec.state ≠ .head ∧ src'.length ≤ src.length) := by
  obtain ⟨hmax, hstate⟩ := h
  cases hcase : codec.state with
  | data n =>
    rw [hcase] at hstate
    obtain ⟨m, rest, tail, rfl, rfl, hrest, hbs⟩ := hstate
    have hdecode : codec.decode src = .ok (decodeBody codec m.length src) := by
      rw [decode, hcase]
    rcases decodeBody_cases codec hbs with ⟨hnone, hfuture⟩ | ⟨src', hsome, hsrc, htail⟩
    · refine Or.inl ⟨codec, src, by rw [hdecode, hnone], ⟨hmax, ?_⟩,
        fun hnil => absurd hnil hfuture⟩
      rw [hcase]
      exact ⟨m, rest, tail, rfl, rfl, hrest, hbs⟩
    · refine Or.inr ⟨m, rest, { codec with state := .head }, src', rfl, by rw [hdecode, hsome],
        ⟨hmax, htail ▸ hrest⟩, rfl, Or.inr ⟨by simp, ?_⟩⟩
      rw [hsrc, List.length_append]
      omega
  | head =>
    rw [hcase] at hstate
    cases msgs with
    | nil =>
      have hnil : src ++ future = [] := (Except.ok.inj hstate).symm
      obtain ⟨rfl, rfl⟩ := List.append_eq_nil_iff.mp hnil
      exact Or.inl ⟨codec, [], by rw [decode, hcase]; rfl, ⟨hmax, by rw [hcase]; rfl⟩,
        fun _ => ⟨rfl, hcase, rfl⟩⟩
    | cons m rest =>
      obtain ⟨frame, tail, hframe, hrest, hbs⟩ := encodeFrames_cons hstate
      obtain ⟨word, tag, htag, hfit, hlen, hle, rfl⟩ := encodeFrame_word hframe
      rw [List.cons_append, List.append_assoc] at hbs
      rcases decodeHead_word codec (by omega) htag hfit hbs with
        ⟨hshort, hnone⟩ | ⟨body, rfl, hbody, hsome⟩
      · refine Or.inl ⟨codec, src, by rw [decode, hcase]; simp only [hnone], ⟨hmax, ?_⟩, ?_⟩
        · rw [hcase]
          exact hstate
        · rintro rfl
          have := congrArg List.length hbs
          have htake := length_take_headerRest word (show tag ≤ 3 by omega)
          simp only [List.length_append, List.length_cons, List.length_nil, htake] at this
          omega
      · rw [hlen] at hsome
        have hdecode : codec.decode (UInt8.ofNat word :: ((headerRest word tag).take tag ++ body))
            = .ok (decodeBody { codec with state := .data m.length } m.length body) := by
          rw [decode, hcase]
          simp only [hsome]
        rcases decodeBody_cases { codec with state := .data m.length } hbody with
          ⟨hnone, hfuture⟩ | ⟨src', hdone, hsrc, htail⟩
        · exact Or.inl ⟨{ codec with state := .data m.length }, body, by rw [hdecode, hnone],
            ⟨hmax, show ∃ m' rest' tail', _ from ⟨m, rest, tail, rfl, rfl, hrest, hbody⟩⟩,
            fun hnil => absurd hnil hfuture⟩
        · refine Or.inr ⟨m, rest, { codec with state := .head }, src', rfl, by rw [hdecode, hdone],
            ⟨hmax, htail ▸ hrest⟩, rfl, Or.inl ?_⟩
          simp only [hsrc, List.length_cons, List.length_append]
          omega

/-- Taking all complete messages; the induction is on the bytes of the buffer, and one more
pass for a decoder inside a body. -/
theorem decodeAll_awaits (fuel : Nat) {codec : BytesCodec} {src future : Bytes}
    {msgs : List Bytes} (h : Awaits codec (src ++ future) msgs)
    (hfuel : src.length + (if codec.state = .head then 1 else 2) ≤ fuel) :
    ∃ out rest codec' src', codec.decodeAll fuel src = .ok (out, codec', src') ∧
      msgs = out ++ rest ∧ Awaits codec' (src' ++ future) rest ∧
      (future = [] → rest = [] ∧ codec'.state = .head ∧ src' = []) := by
  induction fuel generalizing codec src msgs with
  | zero => split at hfuel <;> omega
  | succ fuel ih =>
    rcases decode_awaits h with ⟨codec', src', hnone, hrest, hend⟩ |
      ⟨m, rest, codec', src', rfl, hsome, hrest, hhead, hless⟩
    · refine ⟨[], msgs, codec', src', ?_, rfl, hrest, hend⟩
      simp only [decodeAll, hnone, bind, Except.bind, pure, Except.pure]
    · obtain ⟨out, rest', codec'', src'', hall, rfl, hrest', hend⟩ := ih hrest (by
        rw [if_pos hhead]
        rcases hless with hless | ⟨hstate, hless⟩
        · split at hfuel <;> omega
        · rw [if_neg hstate] at hfuel
          omega)
      refine ⟨m :: out, rest', codec'', src'', ?_, rfl, hrest', hend⟩
      simp only [decodeAll, hsome, hall, bind, Except.bind, pure, Except.pure]

/-- Feeding the chunks of a stream; the induction is on the chunks. -/
theorem feed_awaits {codec : BytesCodec} {src : Bytes} {chunks msgs : List Bytes}
    (h : Awaits codec (src ++ chunks.flatten) msgs)
    (hdone : chunks = [] → msgs = [] ∧ codec.state = .head ∧ src = []) :
    ∃ codec', codec.feed src chunks = .ok (msgs, codec', []) ∧ codec'.state = .head := by
  induction chunks generalizing codec src msgs with
  | nil =>
    obtain ⟨rfl, hhead, rfl⟩ := hdone rfl
    exact ⟨codec, rfl, hhead⟩
  | cons chunk chunks ih =>
    rw [List.flatten_cons, ← List.append_assoc] at h
    obtain ⟨out, rest, codec', src', hall, rfl, hrest, hend⟩ :=
      decodeAll_awaits ((src ++ chunk).length + 2) h (by split <;> omega)
    obtain ⟨codec'', hfeed, hhead⟩ := ih hrest (by
      rintro rfl
      exact hend rfl)
    refine ⟨codec'', ?_, hhead⟩
    simp only [feed, hall, hfeed, bind, Except.bind, pure, Except.pure]

end BytesCodec

/-! ## The stream reader -/

/-- A byte of an awaited message is never refused. -/
theorem Awaits.not_failed {fut : ReadFrame} {b : UInt8} {bs : Bytes} {msgs : List Bytes}
    {reason : String} (h : HandleTcp.Awaits fut (b :: bs) msgs) :
    fut.feed b ≠ .failed reason := by
  intro hfeed
  cases msgs with
  | nil => exact absurd h.2 (by simp)
  | cons m msgs =>
    obtain ⟨tail, rest, hcomp, -, hbs⟩ := h
    cases tail with
    | nil => simp [ReadFrame.completes] at hcomp
    | cons c tail =>
      obtain ⟨rfl, -⟩ := List.cons.inj hbs
      simp [ReadFrame.completes, hfeed] at hcomp

/-- Reading the next bytes of a stream gives the messages they complete. -/
theorem readBytes_awaits {fut : ReadFrame} {bs future : Bytes} {msgs : List Bytes}
    (h : HandleTcp.Awaits fut (bs ++ future) msgs) :
    ∃ out rest fut', readBytes fut bs = .ok (out, fut') ∧ msgs = out ++ rest ∧
      HandleTcp.Awaits fut' future rest := by
  induction bs generalizing fut msgs with
  | nil => exact ⟨[], msgs, fut, rfl, rfl, h⟩
  | cons b bs ih =>
    cases hfeed : fut.feed b with
    | pending fut' =>
      obtain ⟨out, rest, fut'', hread, rfl, hrest⟩ := ih (HandleTcp.Awaits.pending h hfeed)
      exact ⟨out, rest, fut'', by simp only [readBytes, hfeed, hread], rfl, hrest⟩
    | ready msg =>
      obtain ⟨msgs', rfl, hnext⟩ := HandleTcp.Awaits.ready h hfeed
      obtain ⟨out, rest, fut'', hread, rfl, hrest⟩ := ih hnext
      refine ⟨msg :: out, rest, fut'', ?_, rfl, hrest⟩
      simp only [readBytes, hfeed, hread, bind, Except.bind, pure, Except.pure]
    | failed reason => exact absurd hfeed (Awaits.not_failed h)

/-- Reading a stream chunk by chunk; the induction is on the chunks. -/
theorem readFrames_awaits {fut : ReadFrame} {chunks msgs : List Bytes}
    (h : HandleTcp.Awaits fut chunks.flatten msgs) :
    readFrames fut chunks = .ok (msgs, .first) := by
  induction chunks generalizing fut msgs with
  | nil =>
    cases msgs with
    | nil =>
      obtain ⟨rfl, -⟩ := h
      rfl
    | cons m msgs =>
      obtain ⟨tail, rest, hcomp, -, hnil⟩ := h
      obtain ⟨rfl, -⟩ := List.append_eq_nil_iff.mp hnil.symm
      simp [ReadFrame.completes] at hcomp
  | cons chunk chunks ih =>
    obtain ⟨out, rest, fut', hread, rfl, hrest⟩ := readBytes_awaits h
    simp only [readFrames, hread, ih hrest, bind, Except.bind, pure, Except.pure]

/-! ## The round trip -/

/-- A payload within the limit is encoded. -/
theorem encodeFrame_ok {data : Bytes} (h : data.length ≤ MAX_PACKET_LENGTH) :
    ∃ frame, encodeFrame data = .ok frame := by
  unfold encodeFrame
  simp only
  split_ifs <;> exact ⟨_, rfl⟩

theorem encodeFrames_ok {msgs : List Bytes} (h : ∀ m ∈ msgs, m.length ≤ MAX_PACKET_LENGTH) :
    ∃ stream, encodeFrames msgs = .ok stream := by
  induction msgs with
  | nil => exact ⟨[], rfl⟩
  | cons m msgs ih =>
    obtain ⟨frame, hframe⟩ := encodeFrame_ok (h m List.mem_cons_self)
    obtain ⟨stream, hstream⟩ := ih fun m' hm' => h m' (List.mem_cons_of_mem _ hm')
    cases hframes : msgs.mapM encodeFrame with
    | error e => simp [encodeFrames, hframes, bind, Except.bind] at hstream
    | ok frames =>
      exact ⟨(frame :: frames).flatten, by
        simp only [encodeFrames, List.mapM_cons, hframe, hframes, bind, Except.bind, pure,
          Except.pure]⟩

/-- **Codec round trip.** For payloads within the frame limit the three encoders
write the same bytes; and however their concatenation is cut into chunks, the
stateful decoder and the stream reader give back exactly the payloads, in order,
and end with an empty buffer between two messages. -/
theorem codec_round_trip (payloads : List Bytes)
    (hsize : ∀ m ∈ payloads, m.length ≤ MAX_PACKET_LENGTH) :
    (∀ m ∈ payloads, ∃ frame, encodeFrame m = .ok frame ∧ ∀ buf,
      encodeFrameInto m buf = .ok (buf ++ frame) ∧
      ∀ codec : BytesCodec, codec.encode m buf = .ok (buf ++ frame)) ∧
    ∃ stream, encodeFrames payloads = .ok stream ∧ ∀ chunks, chunks.flatten = stream →
      (∃ codec : BytesCodec, BytesCodec.feed {} [] chunks = .ok (payloads, codec, []) ∧
        codec.state = .head) ∧
      readFrames .first chunks = .ok (payloads, .first) := by
  constructor
  · intro m hm
    obtain ⟨frame, hframe⟩ := encodeFrame_ok (hsize m hm)
    have hinto := encodeFrameInto_eq hframe
    exact ⟨frame, hframe, fun buf => ⟨hinto buf, fun codec => by
      rw [BytesCodec.encode_eq_encodeFrameInto, hinto buf]⟩⟩
  · obtain ⟨stream, hstream⟩ := encodeFrames_ok hsize
    refine ⟨stream, hstream, ?_⟩
    rintro chunks rfl
    refine ⟨?_, readFrames_awaits (HandleTcp.awaits_of_encodeFrames hstream)⟩
    refine BytesCodec.feed_awaits ⟨rfl, hstream⟩ ?_
    rintro rfl
    cases payloads with
    | nil => exact ⟨rfl, rfl, rfl⟩
    | cons m rest =>
      obtain ⟨frame, tail, hframe, -, hnil⟩ := encodeFrames_cons hstream
      obtain ⟨word, tag, -, -, -, -, rfl⟩ := encodeFrame_word hframe
      simp at hnil

/-- Two payloads, one of them empty. -/
theorem codec_round_trip_two :
    (∀ m ∈ [[8, 1], ([] : Bytes)], m.length ≤ MAX_PACKET_LENGTH) ∧
      ∃ stream, encodeFrames [[8, 1], []] = .ok stream ∧ ∀ chunks, chunks.flatten = stream →
        readFrames .first chunks = .ok ([[8, 1], []], .first) := by
  have hsize : ∀ m ∈ [[8, 1], ([] : Bytes)], m.length ≤ MAX_PACKET_LENGTH := by decide
  obtain ⟨-, stream, hstream, hall⟩ := codec_round_trip _ hsize
  exact ⟨hsize, stream, hstream, fun chunks hchunks => (hall chunks hchunks).2⟩

end StreamBox.RustDesk
