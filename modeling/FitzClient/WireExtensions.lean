import FitzClient.WireBuffer

/-!
# Extensions of a payload

A payload with extensions is an envelope: the length of its core, the core, and
numbered fields behind it.  Field 1 of a HELLO lists the capabilities that the
broker supports, and a HELLO without it is refused.  Unknown fields are skipped.
-/

namespace FitzClient

namespace WireExtensions

/-- `EXTENSIONS_PRESENT` -/
def extensionsPresent : Nat := 4

/-- `flags & EXTENSIONS_PRESENT` -/
def present (flags : Nat) : Bool :=
  flags &&& extensionsPresent ≠ 0

def queueMessageTtl : Nat := 1

def queueNack : Nat := 2

def clientCapabilityIds : List Nat := [queueMessageTtl, queueNack]

/-- The ids are ascending from above `previous` and fit in four bytes. -/
def ascending : Nat → List Nat → Bool
  | _, [] => true
  | previous, id :: ids => previous < id && id ≤ 0xFFFFFFFF && ascending id ids

/-- `encode_capabilities` -/
def encodeCapabilities (ids : List Nat) : Except WireException Bytes :=
  if 65535 < ids.length ∨ ¬ ascending 0 ids then
    .error (.codec "Capability IDs must be nonzero, ascending u32 values")
  else
    .ok (BigEndian.encode 2 ids.length ++ ids.flatMap (BigEndian.encode 4))

/-- The `for` loop of `encode_payload` after a field with the id `previous`. -/
def encodeFields : Nat → List (Nat × Bytes) → Except WireException Bytes
  | _, [] => .ok []
  | previous, (fieldId, value) :: fields =>
      if ¬ (previous < fieldId ∧ fieldId ≤ 65535) then
        .error (.codec "Extension fields must have ascending nonzero u16 IDs")
      else if 256 ^ 4 ≤ value.length then
        .error .struct
      else
        (encodeFields fieldId fields).map fun entries =>
          BigEndian.encode 2 fieldId ++ BigEndian.encode 4 value.length ++ value ++ entries

/-- `encode_payload` -/
def encodePayload (core : Bytes) (fields : List (Nat × Bytes)) : Except WireException Bytes :=
  if fields.isEmpty then
    .ok core
  else
    match encodeFields 0 fields with
    | .error error => .error error
    | .ok entries =>
        if 256 ^ 4 ≤ core.length then
          .error .struct
        else
          .ok (BigEndian.encode 4 core.length ++ core ++ entries)

/-- The capability list of a HELLO. -/
def decodeCapabilities (earlier : Option (List Nat)) (value : Bytes) :
    Except WireException (List Nat) :=
  if earlier.isSome ∨ value.length < 2 then
    .error (.codec "Duplicate or malformed capability list")
  else
    let count := BigEndian.decode (value.take 2)
    if value.length ≠ 2 + 4 * count then
      .error (.codec "Capability list length mismatch")
    else
      let capabilities := (List.range count).map fun index =>
        BigEndian.decode ((value.drop (2 + 4 * index)).take 4)
      (encodeCapabilities capabilities).map fun _ => capabilities

/-- The `while` loop of `decode_payload` at what is left of the payload, with
the capabilities found and whether a field was seen. -/
def decodeFields (handshake : Bool) (capabilities : Option (List Nat)) (fieldsSeen : Bool)
    (left : Bytes) : Except WireException (Option (List Nat) × Bool) :=
  if left.isEmpty then
    .ok (capabilities, fieldsSeen)
  else if left.length < 6 then
    .error (.codec "Extension header is truncated")
  else
    let fieldId := BigEndian.decode (left.take 2)
    let size := BigEndian.decode ((left.drop 2).take 4)
    let value := left.drop 6
    if fieldId = 0 ∨ value.length < size then
      .error (.codec "Invalid extension ID or value length")
    else if handshake ∧ fieldId = 1 then
      match decodeCapabilities capabilities (value.take size) with
      | .error error => .error error
      | .ok found => decodeFields handshake (some found) true (value.drop size)
    else
      decodeFields handshake capabilities true (value.drop size)
termination_by left.length
decreasing_by all_goals simp only [List.length_drop]; omega

/-- `decode_payload` -/
def decodePayload (payload : Bytes) (messageType flags : Nat) :
    Except WireException (Bytes × List Nat) :=
  let handshake := messageType = 2
  if ¬ present flags then
    if handshake then
      .error (.codec "HELLO requires an explicit capability list")
    else
      .ok (payload, [])
  else if payload.length < 4 then
    .error (.codec "Extension core length is truncated")
  else
    let coreLength := BigEndian.decode (payload.take 4)
    if payload.length < 4 + coreLength then
      .error (.codec "Extension core exceeds payload bounds")
    else
      match decodeFields handshake none false (payload.drop (4 + coreLength)) with
      | .error error => .error error
      | .ok (capabilities, fieldsSeen) =>
          if ¬ fieldsSeen ∨ (handshake ∧ capabilities = none) then
            .error (.codec "Required extension fields are missing")
          else
            .ok ((payload.drop 4).take coreLength, capabilities.getD [])

end WireExtensions

end FitzClient
