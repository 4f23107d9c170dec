import FitzClient.FrameCodec

/-!
# Frames are canonical

The decoder accepts exactly the byte strings that the encoder makes, and gives
back the fields they were made of.  So a frame cannot be cut, lengthened or
written in another way.  A request is first encoded without flags and
correlation id; the multiplexer patches these two into the header, and what it
sends is the frame that the encoder would have made of them.
-/

namespace FitzClient

namespace FrameCodec

/-- The frame that `_issue_request` makes of `frame_data`, unless the flags do
not fit in a byte or the id in eight. -/
def patchFrame (frameData : Bytes) (flags correlationId : Nat) : Option Bytes :=
  if 0xFF < flags ∨ 0xFFFFFFFFFFFFFFFF < correlationId then
    none
  else
    some (frameData.take 2 ++ BigEndian.encode 1 flags ++ BigEndian.encode 8 correlationId ++
      frameData.drop 11)

/-- `decode_frame` raises a `CodecError`. -/
def Rejected (data : Bytes) : Prop :=
  ∃ message, decodeFrame data = .error (.codec message)

/-- A byte string is the slices of its header and its payload. -/
theorem slices_eq (data : Bytes) :
    data.take 2 ++ (data.drop 2).take 1 ++ (data.drop 3).take 8 ++ (data.drop 11).take 4 ++
      data.drop headerLen = data := by
  have step (low width : Nat) : data.take low ++ (data.drop low).take width =
      data.take (low + width) := by
    rw [List.take_add]
  rw [step 2 1, step 3 8, step 11 4]
  exact List.take_append_drop headerLen data

theorem length_slice {data : Bytes} {low width : Nat} (within : low + width ≤ data.length) :
    ((data.drop low).take width).length = width := by
  rw [List.length_take, List.length_drop]
  omega

theorem take_layout (frame : Frame) :
    (layout frame).take 2 = BigEndian.encode 2 frame.messageType := by
  simp only [layout, List.append_assoc]
  exact List.take_left' (BigEndian.length_encode 2 _)

theorem flags_layout (frame : Frame) :
    ((layout frame).drop 2).take 1 = BigEndian.encode 1 frame.flags := by
  simp only [layout, List.append_assoc]
  rw [List.drop_left' (BigEndian.length_encode 2 _)]
  exact List.take_left' (BigEndian.length_encode 1 _)

theorem correlationId_layout (frame : Frame) :
    ((layout frame).drop 3).take 8 = BigEndian.encode 8 frame.correlationId := by
  simp only [layout]
  rw [List.append_assoc, List.append_assoc, List.drop_left' (by simp), List.take_left' (by simp)]

theorem payloadLength_layout (frame : Frame) :
    ((layout frame).drop 11).take 4 = BigEndian.encode 4 frame.payload.length := by
  simp only [layout]
  rw [List.append_assoc, List.drop_left' (by simp), List.take_left' (by simp)]

theorem payload_layout (frame : Frame) : (layout frame).drop headerLen = frame.payload := by
  simp only [layout]
  rw [List.drop_left' (by simp [headerLen])]

/-- After the correlation id there is the payload with its length. -/
theorem drop_layout (frame : Frame) :
    (layout frame).drop 11 = BigEndian.encode 4 frame.payload.length ++ frame.payload := by
  simp only [layout]
  rw [List.append_assoc, List.drop_left' (by simp)]

/-- A frame in which the decoder finds these fields is laid out of them. -/
theorem layout_of_slices {data : Bytes} {frame : Frame} (long : headerLen ≤ data.length)
    (messageType : frame.messageType = BigEndian.decode (data.take 2))
    (flags : frame.flags = BigEndian.decode ((data.drop 2).take 1))
    (correlationId : frame.correlationId = BigEndian.decode ((data.drop 3).take 8))
    (payloadLength : frame.payload.length = BigEndian.decode ((data.drop 11).take 4))
    (payload : frame.payload = data.drop headerLen) : layout frame = data := by
  simp only [headerLen] at long
  have typeSize : (data.take 2).length = 2 := by
    rw [List.length_take]
    omega
  rw [layout, messageType, flags, correlationId, payloadLength, payload,
    BigEndian.encode_decode_of_length typeSize,
    BigEndian.encode_decode_of_length (length_slice (by omega)),
    BigEndian.encode_decode_of_length (length_slice (by omega)),
    BigEndian.encode_decode_of_length (length_slice (by omega))]
  exact slices_eq data

theorem decodeFrame_eq_ok_iff {data : Bytes} {frame : Frame} :
    decodeFrame data = .ok frame ↔ encodeFrame frame = .ok data := by
  rw [encodeFrame_eq_ok_iff]
  constructor
  · intro decoded
    simp only [decodeFrame, unsupported, decide_eq_true_eq] at decoded
    split_ifs at decoded with long short flagged mismatch
    obtain rfl := Except.ok.inj decoded
    have enough : headerLen ≤ data.length := Nat.not_lt.mp short
    have slice (low width : Nat) (within : low + width ≤ headerLen) :
        BigEndian.decode ((data.drop low).take width) < 256 ^ width := by
      have bound := BigEndian.decode_lt ((data.drop low).take width)
      rwa [length_slice (within.trans enough)] at bound
    have exact : data.length = headerLen + BigEndian.decode ((data.drop 11).take 4) :=
      not_not.mp mismatch
    have payloadLength : (data.drop headerLen).length =
        BigEndian.decode ((data.drop 11).take 4) := by
      rw [List.length_drop]
      omega
    refine ⟨Nat.le_of_lt_succ (slice 0 2 (by decide)), Nat.not_lt.mp flagged,
      Nat.le_of_lt_succ (slice 3 8 (by decide)), ?_,
      (layout_of_slices enough rfl rfl rfl payloadLength rfl).symm⟩
    rw [payloadLength, ← exact]
    exact Nat.not_lt.mp long
  · rintro ⟨messageType, flags, correlationId, size, rfl⟩
    have typeFits : frame.messageType < 256 ^ 2 := Nat.lt_succ_of_le messageType
    have flagsFit : frame.flags < 256 ^ 1 := by
      simp only [validFlags] at flags
      omega
    have idFits : frame.correlationId < 256 ^ 8 := Nat.lt_succ_of_le correlationId
    have lengthFits : frame.payload.length < 256 ^ 4 := by
      simp only [maxMessageSize] at size
      omega
    simp only [decodeFrame, length_layout, take_layout, flags_layout, correlationId_layout,
      payloadLength_layout, payload_layout, BigEndian.decode_encode typeFits,
      BigEndian.decode_encode flagsFit, BigEndian.decode_encode idFits,
      BigEndian.decode_encode lengthFits, unsupported, decide_eq_true_eq]
    rw [if_neg (Nat.not_lt.mpr size), if_neg (Nat.not_lt.mpr (Nat.le_add_right _ _)),
      if_neg (Nat.not_lt.mpr flags), if_neg (not_not.mpr rfl)]

/-- What the decoder does not accept it rejects. -/
theorem decoded_or_rejected (data : Bytes) :
    (∃ frame, decodeFrame data = .ok frame) ∨ Rejected data := by
  simp only [Rejected, decodeFrame]
  split_ifs
  · exact Or.inr ⟨_, rfl⟩
  · exact Or.inr ⟨_, rfl⟩
  · exact Or.inr ⟨_, rfl⟩
  · exact Or.inr ⟨_, rfl⟩
  · exact Or.inl ⟨_, rfl⟩

theorem rejected_of_forall_ne {data : Bytes} (other : ∀ frame, decodeFrame data ≠ .ok frame) :
    Rejected data :=
  (decoded_or_rejected data).resolve_left fun ⟨frame, decoded⟩ => other frame decoded

/-- The header says how long an accepted byte string is. -/
theorem length_of_decodeFrame {data : Bytes} {frame : Frame}
    (decoded : decodeFrame data = .ok frame) :
    data.length = headerLen + BigEndian.decode ((data.drop 11).take 4) := by
  obtain ⟨-, -, -, size, rfl⟩ := encodeFrame_eq_ok_iff.mp (decodeFrame_eq_ok_iff.mp decoded)
  have lengthFits : frame.payload.length < 256 ^ 4 := by
    simp only [maxMessageSize] at size
    omega
  rw [length_layout, payloadLength_layout, BigEndian.decode_encode lengthFits]

/-- No frame goes on after another one. -/
theorem eq_nil_of_decodeFrame_append {data more : Bytes} {first second : Frame}
    (decoded : decodeFrame data = .ok first) (longer : decodeFrame (data ++ more) = .ok second) :
    more = [] := by
  have size := length_of_decodeFrame decoded
  have longerSize := length_of_decodeFrame longer
  have enough : 15 ≤ data.length := by
    rw [size]
    exact Nat.le_add_right _ _
  rw [List.drop_append_of_le_length (by omega),
    List.take_append_of_le_length (by rw [List.length_drop]; omega), ← size,
    List.length_append] at longerSize
  exact List.eq_nil_of_length_eq_zero (by omega)

/-- A frame is patched to the one with the given flags and correlation id. -/
theorem patchFrame_layout (frame : Frame) {flags correlationId : Nat}
    (supported : flags ≤ validFlags) (fits : correlationId ≤ 0xFFFFFFFFFFFFFFFF) :
    patchFrame (layout frame) flags correlationId =
      some (layout { frame with flags, correlationId }) := by
  have flagsFit : ¬ 0xFF < flags := by
    simp only [validFlags] at supported
    omega
  rw [patchFrame, if_neg (not_or.mpr ⟨flagsFit, Nat.not_lt.mpr fits⟩), take_layout, drop_layout]
  simp only [layout, List.append_assoc]

/-- The decoder accepts exactly what the encoder makes, with the same fields.
All else it rejects: what is cut or lengthened, unsupported flags and what is
too long.  A patched frame is the one that is encoded with the flags and
the correlation id. -/
theorem frames_canonical :
    (∀ frame data, encodeFrame frame = .ok data → decodeFrame data = .ok frame) ∧
    (∀ data frame, decodeFrame data = .ok frame → encodeFrame frame = .ok data) ∧
    (∀ data, (∀ frame, encodeFrame frame ≠ .ok data) → Rejected data) ∧
    (∀ frame data, encodeFrame frame = .ok data →
      (∀ size < data.length, Rejected (data.take size)) ∧
        (∀ more, more ≠ [] → Rejected (data ++ more))) ∧
    (∀ data, maxMessageSize < data.length → Rejected data) ∧
    (∀ data, unsupported (BigEndian.decode ((data.drop 2).take 1)) = true → Rejected data) ∧
    (∀ frame data flags correlationId, encodeFrame frame = .ok data → ¬ unsupported flags →
      correlationId ≤ 0xFFFFFFFFFFFFFFFF →
      ∃ patched, patchFrame data flags correlationId = some patched ∧
        encodeFrame { frame with flags, correlationId } = .ok patched) := by
  refine ⟨fun frame data => decodeFrame_eq_ok_iff.mpr, fun data frame => decodeFrame_eq_ok_iff.mp,
    fun data other => ?_, fun frame data encoded => ⟨fun size shorter => ?_, fun more some => ?_⟩,
    fun data long => ?_, fun data flagged => ?_, ?_⟩
  · exact rejected_of_forall_ne fun frame decoded =>
      other frame (decodeFrame_eq_ok_iff.mp decoded)
  · refine rejected_of_forall_ne fun cut decoded => ?_
    have whole : decodeFrame (data.take size ++ data.drop size) = .ok frame := by
      rw [List.take_append_drop]
      exact decodeFrame_eq_ok_iff.mpr encoded
    have spent := eq_nil_of_decodeFrame_append decoded whole
    have left : size < data.length := shorter
    rw [List.drop_eq_nil_iff] at spent
    omega
  · exact rejected_of_forall_ne fun longer decoded =>
      some (eq_nil_of_decodeFrame_append (decodeFrame_eq_ok_iff.mpr encoded) decoded)
  · exact ⟨_, if_pos long⟩
  · simp only [Rejected, decodeFrame]
    split_ifs
    · exact ⟨_, rfl⟩
    · exact ⟨_, rfl⟩
    · exact ⟨_, rfl⟩
  · intro frame data flags correlationId encoded supported fits
    obtain ⟨messageType, -, -, size, rfl⟩ := encodeFrame_eq_ok_iff.mp encoded
    have allowed : flags ≤ validFlags := by simpa [unsupported] using supported
    exact ⟨_, patchFrame_layout frame allowed fits,
      encodeFrame_eq_ok_iff.mpr ⟨messageType, allowed, fits, size, rfl⟩⟩

end FrameCodec

end FitzClient
