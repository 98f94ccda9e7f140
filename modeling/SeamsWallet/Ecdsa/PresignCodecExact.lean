import SeamsWallet.Ecdsa.PresignPayloads

/-!
# What the presign frame codec accepts

Every consistent message is encoded, and its frame decodes to the message. The other way
round, a frame that is accepted is the frame of the message it decodes to, except that a
point in compact form is written in compressed form. So an accepted frame is reproduced
exactly when none of its points is in compact form. The header keeps the frames of different
roles and rounds apart.
-/

namespace SeamsWallet.PresignCodec

open Library EcdsaPresign PresignSession

/-! ## Frames -/

theorem length_frame (role round : UInt8) (size : ℕ) :
    (frame role round size).length = headerSize := by
  simp [frame, magic, headerSize]

variable {role : FixedRole} {round : ℕ} {payload bytes : List UInt8}

theorem encodeRound_eq_ok {out : List UInt8} : encodeRound role round (.ok payload) = .ok out ↔
      payload.length = payloadSize round ∧
        frame (roleByte role) (UInt8.ofNat round) (payloadSize round) ++ payload = out := by
  have hsize := payloadSize_le round
  have hlength := length_frame (roleByte role) (UInt8.ofNat round) (payloadSize round)
  rw [encodeRound, ok_bind, finishFrame, List.length_append, hlength, maxPresignFrameSize]
  split
  · rename_i hbad
    constructor
    · intro h
      cases h
    · rintro ⟨hpayload, -⟩
      omega
  · rename_i hgood
    push Not at hgood
    rw [Except.ok.injEq]
    exact ⟨fun h => ⟨by omega, h⟩, fun h => h.2⟩

theorem take_four_eq {a b c d : UInt8} (ha : bytes[0]? = some a)
    (hb : bytes[1]? = some b) (hc : bytes[2]? = some c) (hd : bytes[3]? = some d) :
    bytes.take 4 = [a, b, c, d] := by
  match bytes, ha, hb, hc, hd with
  | _ :: _ :: _ :: _ :: _, ha, hb, hc, hd =>
    simp_all

theorem decodeFrame_eq_ok {encoded : List UInt8} {role round : UInt8} {size : ℕ}
    (h : decodeFrame encoded role round size = .ok payload) :
    encoded = frame role round size ++ payload ∧ payload.length = size := by
  simp only [decodeFrame, ok_iff] at h
  obtain ⟨hshort, hmagic, hversion, hrole, hround, hflags, -, ⟨hsize, hlength⟩, rfl⟩ := h
  rw [headerSize] at hshort hlength
  have hfields : (encoded.drop 4).take 4 = [version, role, round, 0] :=
    take_four_eq (by simpa using hversion) (by simpa using hrole) (by simpa using hround)
      (by simpa using hflags)
  have hsizeBytes : ((encoded.drop 8).take 4) = (toBigEndian 4 size).toList := by
    have hback := toBigEndian_ofBigEndian ((encoded.drop 8).take 4)
    have hfour : ((encoded.drop 8).take 4).length = 4 := by
      rw [List.length_take, List.length_drop]
      omega
    rw [hfour, hsize] at hback
    exact hback.symm
  refine ⟨?_, by rw [List.length_drop, headerSize]; omega⟩
  calc encoded = encoded.take 4 ++ ((encoded.drop 4).take 4 ++ ((encoded.drop 8).take 4 ++
        encoded.drop 12)) := by
        rw [show encoded.drop 12 = (encoded.drop 8).drop 4 by rw [List.drop_drop],
          List.take_append_drop, show encoded.drop 8 = (encoded.drop 4).drop 4 by
            rw [List.drop_drop], List.take_append_drop, List.take_append_drop]
    _ = frame role round size ++ encoded.drop headerSize := by
        rw [hmagic, hfields, hsizeBytes, frame, headerSize]
        simp only [List.append_assoc]

theorem decodeFrame_frame (h : payload.length = payloadSize round) :
    decodeFrame (frame (roleByte role) (UInt8.ofNat round) (payloadSize round) ++ payload)
      (roleByte role) (UInt8.ofNat round) (payloadSize round) = .ok payload := by
  obtain ⟨payload', hpayload'⟩ :=
    isFrame_of_encodeRound (encodeRound_eq_ok.mpr ⟨h, rfl⟩ :
      encodeRound role round (.ok payload) = .ok _)
  obtain ⟨heq, -⟩ := decodeFrame_eq_ok hpayload'
  rw [hpayload', List.append_cancel_left heq]

/-! ## One message type -/

section Codec

variable {Message : Type} {write : Message → Except PresignCodecError (List UInt8)}
  {read : Reader PresignCodecError Message} {consistent : Message → Prop}
  {payload : Message → List UInt8} {tags : List Bool} {role : FixedRole} {round : ℕ}
  {message : Message} (h : PayloadExact write read consistent payload tags)

include h

theorem PayloadExact.length_payload (hmessage : consistent message) :
    (payload message).length = tags.length := by
  obtain ⟨-, raw, -, hraw⟩ := h.read_eq_ok (h.read_payload hmessage [])
  exact hraw.length_eq

variable (hsize : tags.length = payloadSize round)
include hsize

theorem PayloadExact.encode (hmessage : consistent message) :
    (messageCodec role round write read).encodePresignMessage message =
      .ok (frame (roleByte role) (UInt8.ofNat round) (payloadSize round) ++ payload message) := by
  have hwrite : write message = .ok (payload message) := h.write_eq_ok.mpr ⟨hmessage, rfl⟩
  have hlength := (h.length_payload hmessage).trans hsize
  simp only [messageCodec, hwrite]
  exact encodeRound_eq_ok.mpr ⟨hlength, rfl⟩

theorem PayloadExact.decode_encode (hmessage : consistent message) :
    ∃ bytes, (messageCodec role round write read).encodePresignMessage message = .ok bytes ∧
      (messageCodec role round write read).decode bytes = .ok message := by
  refine ⟨_, h.encode hsize hmessage, ?_⟩
  have hlength := (h.length_payload hmessage).trans hsize
  have hread := h.read_payload hmessage []
  rw [List.append_nil] at hread
  simp only [messageCodec, decodeFrame_frame hlength, ok_bind, hread]
  rfl

/-- The message of an accepted frame is encoded as the frame with its points in compressed
form. -/
theorem PayloadExact.encode_decode {bytes : List UInt8}
    (hdecode : (messageCodec role round write read).decode bytes = .ok message) :
    ∃ out, (messageCodec role round write read).encodePresignMessage message = .ok out ∧
      Normalizes (plain headerSize ++ tags) bytes out := by
  simp only [messageCodec, ok_iff] at hdecode
  obtain ⟨cursor, hframe, ⟨_, rest⟩, hread, rfl⟩ := hdecode
  obtain ⟨rfl, hcursor⟩ := decodeFrame_eq_ok hframe
  obtain ⟨hmessage, raw, rfl, hraw⟩ := h.read_eq_ok hread
  -- The payload has the round's size, and that is all the reader takes.
  have hrest : rest = [] := by
    apply List.eq_nil_of_length_eq_zero
    rw [List.length_append, hraw.1, hsize] at hcursor
    omega
  refine ⟨_, h.encode hsize hmessage, ?_⟩
  rw [hrest, List.append_nil]
  have hheader := normalizes_plain (frame (roleByte role) (UInt8.ofNat round) (payloadSize round))
  rw [length_frame] at hheader
  exact hheader.append hraw

omit hsize

omit h

structure MessageCodec.Exact {Message : Type} (codec : MessageCodec Message) (role : FixedRole)
    (round : ℕ) (consistent : Message → Prop) (tags : List Bool) : Prop where
  decode_encode : ∀ {message}, consistent message →
    ∃ bytes, codec.encodePresignMessage message = .ok bytes ∧ codec.decode bytes = .ok message
  encode_decode : ∀ {bytes message}, codec.decode bytes = .ok message →
    ∃ out, codec.encodePresignMessage message = .ok out ∧
      Normalizes (plain headerSize ++ tags) bytes out
  isFrame : ∀ {bytes message}, codec.decode bytes = .ok message → IsFrame role round bytes

theorem PayloadExact.codec (h : PayloadExact write read consistent payload tags)
    (hsize : tags.length = payloadSize round) :
    (messageCodec role round write read).Exact role round consistent tags where
  decode_encode := h.decode_encode hsize
  encode_decode := h.encode_decode hsize
  isFrame hdecode := by
    obtain ⟨cursor, hframe, -⟩ := bind_eq_ok.mp hdecode
    exact ⟨cursor, hframe⟩

end Codec

/-! ## The codecs of the two roles -/

/-- The triple for which a role sends the base transfer, which it also extends and answers in
the multiplication. -/
def senderIndex : FixedRole → TripleIndex
  | .client => .one
  | .signingWorker => .zero

def receiverIndex : FixedRole → TripleIndex
  | .client => .zero
  | .signingWorker => .one

/-- The parts of a message carry one context and the triple indices of the role's round. -/
def Consistent {n : ℕ} {P : Type} [AddCommGroup P] (role : FixedRole) :
    (round : PresignRound) → PresignMessage n P round → Prop
  | .round1, message => Round1Message.Consistent (senderIndex role) message
  | .round2, message => Round2Message.Consistent (receiverIndex role) message
  | .round3, message => CorrelationMessage.tripleIndex message = senderIndex role
  | .round4, message => ChallengeMessage.tripleIndex message = receiverIndex role
  | .round5, message => ConsistencyProof.tripleIndex message = senderIndex role
  | .round6, message => AcceptanceMessage.tripleIndex message = receiverIndex role
  | .round7, message => CiphertextMessage.tripleIndex message = receiverIndex role
  | .round8, message => ResponseMessage.tripleIndex message = senderIndex role
  | .round9, _ => True
  | .round10, _ => True
  | .round11, _ => True

/-- The bytes of a round's payload at which a point tag stands. -/
def pointTags : PresignRound → List Bool
  | .round1 => round1Tags
  | .round2 => round2Tags
  | .round3 => round3Tags
  | .round4 => contextDigestTags
  | .round5 => round5Tags
  | .round6 => contextDigestTags
  | .round7 => round7Tags
  | .round8 => round8Tags
  | .round9 => round9Tags
  | .round10 => plain contextSize ++ plain 32
  | .round11 => plain contextSize ++ (plain 32 ++ plain 32)

@[simp] theorem length_plain (width : ℕ) : (plain width).length = width := by
  simp [plain]

@[simp] theorem length_pointTag : pointTag.length = 33 := by
  simp [pointTag]

@[simp] theorem length_repeated (count : ℕ) (tags : List Bool) :
    (repeated count tags).length = count * tags.length := by
  simp [repeated]

theorem length_pointTags (round : PresignRound) :
    (pointTags round).length = payloadSize round.number := by
  cases round <;>
    simp only [pointTags, round1Tags, round2Tags, round3Tags, contextDigestTags, round5Tags,
      round7Tags, round8Tags, round9Tags, openingTags, contributionTags, List.length_append,
      length_plain, length_pointTag, length_repeated] <;>
    decide

section Roles

variable {n : ℕ} [NeZero n] {P : Type} [AddCommGroup P] [Module (ZMod n) P] [DecidableEq P]
  {K : K256 n P}

theorem codec_exact (hSec1 : K.Sec1) (role : FixedRole) (round : PresignRound) :
    (codec K role round).Exact role round.number (Consistent role round) (pointTags round) := by
  have hsize := length_pointTags round
  cases round with
  | round1 => cases role <;> exact (round1_exact hSec1 _).codec hsize
  | round2 => cases role <;> exact (round2_exact hSec1 _).codec hsize
  | round3 => cases role <;> exact (round3_exact _).codec hsize
  | round4 => cases role <;> exact (contextDigest_exact challengeParts_lawful _).codec hsize
  | round5 => cases role <;> exact (round5_exact _).codec hsize
  | round6 => cases role <;> exact (contextDigest_exact acceptanceParts_lawful _).codec hsize
  | round7 => cases role <;> exact (round7_exact K.order_le _).codec hsize
  | round8 => cases role <;> exact (round8_exact K.order_le _).codec hsize
  | round9 => cases role <;> exact (round9_exact hSec1).codec hsize
  | round10 => cases role <;> exact round10_exact.codec hsize
  | round11 => cases role <;> exact round11_exact.codec hsize

end Roles

theorem eq_of_isFrame {role' : FixedRole} {round round' : PresignRound}
    (h : IsFrame role round.number bytes) (h' : IsFrame role' round'.number bytes) :
    role = role' ∧ round = round' := by
  have hrole {r : FixedRole} {k : ℕ} (hk : IsFrame r k bytes) : bytes[5]? = some (roleByte r) := by
    obtain ⟨payload, hpayload⟩ := hk
    simp only [decodeFrame, ok_iff] at hpayload
    exact hpayload.2.2.2.1
  have hbyte : roleByte role = roleByte role' :=
    Option.some.inj ((hrole h).symm.trans (hrole h'))
  obtain rfl : role = role' := by
    cases role <;> cases role' <;> first | rfl | exact absurd hbyte (by decide)
  have hround := h.round_eq h'
  refine ⟨rfl, ?_⟩
  cases round <;> cases round' <;> first | rfl | exact absurd hround (by decide)

def NoCompactPoint (round : PresignRound) (bytes : List UInt8) : Prop :=
  ∀ i : ℕ, (plain headerSize ++ pointTags round)[i]? = some true → bytes[i]? ≠ some 5

/-- Every consistent message is encoded and decoded to itself; an accepted frame is the frame
of its message exactly if it holds no compact point; and no frame is accepted by the decoders
of two roles or rounds. -/
theorem presign_frame_codec_exact {n : ℕ} [NeZero n] {P : Type} [AddCommGroup P]
    [Module (ZMod n) P] [DecidableEq P] (K : K256 n P) (hSec1 : K.Sec1) :
    (∀ role round (message : PresignMessage n P round), Consistent role round message →
      ∃ bytes, encodePresignMessage K role round message = .ok bytes ∧
        decode K role round bytes = .ok message) ∧
    (∀ role round bytes (message : PresignMessage n P round),
      decode K role round bytes = .ok message →
        (encodePresignMessage K role round message = .ok bytes ↔ NoCompactPoint round bytes)) ∧
    (∀ bytes role round (message : PresignMessage n P round) role' round'
      (message' : PresignMessage n P round'), decode K role round bytes = .ok message →
        decode K role' round' bytes = .ok message' → role = role' ∧ round = round') := by
  refine ⟨fun role round message => (codec_exact hSec1 role round).decode_encode, ?_, ?_⟩
  · intro role round bytes message hdecode
    obtain ⟨out, hout, hnormalizes⟩ := (codec_exact hSec1 role round).encode_decode hdecode
    rw [encodePresignMessage, hout, NoCompactPoint, ← normalize_eq_self_iff hnormalizes.1,
      hnormalizes.2, Except.ok.injEq]
  · intro bytes role round message role' round' message' hdecode hdecode'
    exact eq_of_isFrame ((codec_exact hSec1 role round).isFrame hdecode)
      ((codec_exact hSec1 role' round').isFrame hdecode')

/-! ## A small curve with encoded points -/

/-- A curve with its points encoded by tag and coordinate. -/
def sec1Points {n : ℕ} {P : Type} [AddCommGroup P] [Module (ZMod n) P] (K : K256 n P) :
    K256 n P where
  toCurve := K.toCurve
  order_le := K.order_le
  xCoord_lt := K.xCoord_lt
  xCoord_lt_two_mul_order := K.xCoord_lt_two_mul_order
  yIsOdd := K.yIsOdd
  decompress := K.decompress
  decompress_xCoord := K.decompress_xCoord
  pointBytes Q := (if K.yIsOdd Q then 3 else 2) ::ᵥ K.xBytes Q
  fromEncodedPoint bytes :=
    if bytes.head = 2 ∨ bytes.head = 5 then K.decompress (ofBigEndian bytes.tail.toList) false
    else if bytes.head = 3 then K.decompress (ofBigEndian bytes.tail.toList) true
    else none
  fromEncodedPoint_pointBytes Q hQ := by
    have hx : ofBigEndian (K.xBytes Q).toList = K.xCoord Q :=
      ofBigEndian_toBigEndian_of_lt (K.xCoord_lt Q)
    have hback := K.decompress_xCoord Q hQ
    cases hodd : K.yIsOdd Q with
    | false => simpa [hx, hodd] using hback
    | true => simpa [hx, hodd] using hback

theorem sec1_additive31 : (sec1Points K256.additive31).Sec1 where
  pointBytes_eq _ _ := rfl
  fromEncodedPoint_eq _ := rfl
  decompress_eq_some x odd Q h hQ := by
    have hall : ∀ x : Fin 16, ∀ odd : Bool, (if odd then -(x : ZMod 31) else x) ≠ 0 →
        K256.additive31.xCoord (if odd then -(x : ZMod 31) else x) = x ∧
          K256.additive31.yIsOdd (if odd then -(x : ZMod 31) else x) = odd := by
      decide
    have hx : x < 16 ∧ (if odd then -(x : ZMod 31) else x) = Q := by
      change (if x ≤ 15 then some (if odd then -(x : ZMod 31) else x) else none) = some Q at h
      split at h
      · exact ⟨by omega, Option.some.inj h⟩
      · cases h
    obtain ⟨hlt, rfl⟩ := hx
    exact hall ⟨x, hlt⟩ odd hQ

/-- A first frame of the client whose hello point is the generator, with a given tag. -/
def round1Frame (tag : UInt8) : List UInt8 :=
  frame 1 1 (payloadSize 1) ++ (List.replicate 128 0 ++ (tag :: List.replicate 31 0 ++ [1]))

/-- A first frame with its point in compact form is accepted, and its message is encoded as
another frame. -/
theorem presign_frame_codec_compact_point : (sec1Points K256.additive31).Sec1 ∧
    ∃ message, decode (sec1Points K256.additive31) .client .round1 (round1Frame 5) = .ok message ∧
      encodePresignMessage (sec1Points K256.additive31) .client .round1 message ≠
        .ok (round1Frame 5) := by
  refine ⟨sec1_additive31, ?_⟩
  have hok : (decode (sec1Points K256.additive31) .client .round1 (round1Frame 5)).isOk = true := by
    decide +kernel
  obtain ⟨message, hdecode⟩ := exists_ok_of_isOk hok
  refine ⟨message, hdecode, ?_⟩
  obtain ⟨out, hout, -, hnormalize⟩ :=
    (codec_exact sec1_additive31 .client .round1).encode_decode hdecode
  have hchanged : normalize (plain headerSize ++ pointTags .round1) (round1Frame 5) ≠
      round1Frame 5 := by
    decide +kernel
  rw [encodePresignMessage, hout, Ne, Except.ok.injEq, ← hnormalize]
  exact hchanged

/-- The same frame with its point in compressed form is reproduced. -/
theorem presign_frame_codec_exact_small : (sec1Points K256.additive31).Sec1 ∧
    ∃ message, decode (sec1Points K256.additive31) .client .round1 (round1Frame 2) = .ok message ∧
      encodePresignMessage (sec1Points K256.additive31) .client .round1 message =
        .ok (round1Frame 2) := by
  refine ⟨sec1_additive31, ?_⟩
  have hok : (decode (sec1Points K256.additive31) .client .round1 (round1Frame 2)).isOk = true := by
    decide +kernel
  obtain ⟨message, hdecode⟩ := exists_ok_of_isOk hok
  have hkept : NoCompactPoint .round1 (round1Frame 2) :=
    (normalize_eq_self_iff (by decide +kernel)).mp (by decide +kernel)
  exact ⟨message, hdecode,
    ((presign_frame_codec_exact _ sec1_additive31).2.1 _ _ _ _ hdecode).mpr hkept⟩

end SeamsWallet.PresignCodec
