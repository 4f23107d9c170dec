import FitzClient.DelimitedFields
import FitzClient.ExtensionEnvelope
import FitzClient.FrameCanonical
import FitzClient.RequestPayloads

/-!
# Telling messages from their frames

The arguments of an operation are delimited fields, so that they can be told
from its payload, and the operation from the message type.  So a frame says which
message it is, up to the defaults that the client fills in.
-/

namespace FitzClient

open WireValue

theorem CodePoints.toText_ofString (value : String) : (ofString value).toText = value := by
  have points : (ofString value).map Char.ofNat = value.toList := by
    simp [ofString, Function.comp_def]
  rw [toText, points, String.ofList_toList]

theorem CodePoints.ofString_injective : Function.Injective ofString := by
  intro first second same
  rw [← toText_ofString first, ← toText_ofString second, same]

namespace WireValue

/-- A text is one of Unicode, without surrogates. -/
def Textual : WireValue → Prop
  | .text value => ∃ plain : String, value = .ofString plain
  | _ => True

def AllTextual (values : List WireValue) : Prop :=
  ∀ value ∈ values, value.Textual

@[simp]
theorem string_inj {first second : String} : string first = string second ↔ first = second := by
  refine ⟨fun same => ?_, congrArg string⟩
  exact CodePoints.ofString_injective (WireValue.text.inj same)

@[simp]
theorem textual_string (value : String) : (string value).Textual :=
  ⟨value, rfl⟩

@[simp]
theorem textual_u8 (value : Nat) : (u8 value).Textual := trivial

@[simp]
theorem textual_u32 (value : Nat) : (u32 value).Textual := trivial

@[simp]
theorem textual_u64 (value : Nat) : (u64 value).Textual := trivial

@[simp]
theorem textual_bytes (value : Bytes) : (bytes value).Textual := trivial

@[simp]
theorem textual_optionalU64 (value : Option Nat) : (optionalU64 value).Textual := trivial

@[simp]
theorem allTextual_nil : AllTextual [] := nofun

@[simp]
theorem allTextual_cons {value : WireValue} {values : List WireValue} :
    AllTextual (value :: values) ↔ value.Textual ∧ AllTextual values :=
  List.forall_mem_cons

@[simp]
theorem allTextual_append {front back : List WireValue} :
    AllTextual (front ++ back) ↔ AllTextual front ∧ AllTextual back :=
  List.forall_mem_append

@[simp]
theorem allTextual_blob (value : Bytes) : AllTextual (blob value) :=
  allTextual_cons.mpr ⟨trivial, allTextual_cons.mpr ⟨trivial, allTextual_nil⟩⟩

theorem allTextual_optional {Argument : Type} {writes : Argument → List WireValue}
    (textual : ∀ argument, AllTextual (writes argument)) (argument : Option Argument) :
    AllTextual (optional writes argument) := by
  cases argument with
  | none => exact allTextual_cons.mpr ⟨trivial, allTextual_nil⟩
  | some value => exact allTextual_cons.mpr ⟨trivial, textual value⟩

theorem allTextual_counted {Item : Type} {writes : Item → List WireValue}
    (textual : ∀ item, AllTextual (writes item)) (items : List Item) :
    AllTextual (counted writes items) := by
  refine allTextual_cons.mpr ⟨trivial, fun value member => ?_⟩
  obtain ⟨item, -, inItem⟩ := List.mem_flatMap.mp member
  exact textual item value inItem

/-- The encodings of values of one kind are delimited. -/
def code : DelimitedCode WireValue WireField UInt8 where
  kind := field
  encoding := encoding
  valid := InRange
  delimited {first second rest others} firstFits secondFits sameKind same := by
    have readFirst := WireField.take_encoding firstFits rest
    have readSecond := WireField.take_encoding secondFits others
    rw [sameKind, same, readSecond] at readFirst
    obtain ⟨sameValue, sameRest⟩ := Prod.mk.inj (Except.ok.inj readFirst)
    exact ⟨sameValue.symm, sameRest.symm⟩

end WireValue

namespace BufferWriter

/-- Only what is in range is written. -/
theorem inRange_of_write {value : WireValue} (textual : value.Textual)
    {writer next : BufferWriter} (wrote : writer.write value = .ok next) : value.InRange := by
  have ofNumber {width number : Nat}
      (written : ∃ later, writer.writeNumber width number = .ok later) : number < 256 ^ width := by
    obtain ⟨later, written⟩ := written
    rw [writeNumber] at written
    split at written
    · assumption
    · cases written
  cases value with
  | u8 value => exact ofNumber ⟨next, wrote⟩
  | u16 value => exact ofNumber ⟨next, wrote⟩
  | u32 value => exact ofNumber ⟨next, wrote⟩
  | u64 value => exact ofNumber ⟨next, wrote⟩
  | bytes value => trivial
  | text value =>
      obtain ⟨plain, rfl⟩ := textual
      refine ⟨CodePoints.encodes_ofString plain, fun point member => ?_, ?_⟩
      · obtain ⟨character, -, rfl⟩ := List.mem_map.mp member
        rcases character.valid with below | ⟨-, below⟩
        · exact Nat.lt_trans below (by decide)
        · exact below
      · have bound : (writer.writeString (.ofString plain) >>= pure) = .ok next := by
          rw [bind_pure]
          exact wrote
        rw [CodePoints.toText_ofString]
        exact (writeString_bind_eq_ok_iff.mp bound).1
  | optionalU64 value =>
      cases value with
      | none => trivial
      | some value =>
          have written : (writer.writeNumber 1 1 >>= fun writer => writer.writeNumber 8 value) =
              .ok next := wrote
          obtain ⟨-, second⟩ := writeNumber_bind_eq_ok_iff.mp written
          rw [writeNumber] at second
          split at second
          · assumption
          · cases second

theorem inRange_of_writeAll {values : List WireValue} (textual : AllTextual values)
    {writer last : BufferWriter} (wrote : writer.writeAll values = .ok last) :
    ∀ value ∈ values, value.InRange := by
  induction values generalizing writer with
  | nil => nofun
  | cons value values ih =>
      obtain ⟨front, others⟩ := List.forall_mem_cons.mp textual
      cases written : writer.write value with
      | error error =>
          rw [writeAll, written] at wrote
          cases wrote
      | ok next =>
          rw [writeAll, written] at wrote
          exact List.forall_mem_cons.mpr ⟨inRange_of_write front written, ih others wrote⟩

/-- What is built is the encoding of what was written. -/
theorem build_of_writeAll {values : List WireValue} (textual : AllTextual values)
    {writer last : BufferWriter} (wrote : writer.writeAll values = .ok last) :
    (∀ value ∈ values, value.InRange) ∧ last.build = writer.build ++ values.flatMap encoding := by
  have inRange := inRange_of_writeAll textual wrote
  obtain ⟨later, written, built⟩ := appends_writeAll inRange writer
  rw [wrote] at written
  obtain rfl := Except.ok.inj written
  exact ⟨inRange, built⟩

end BufferWriter

theorem build_eq_ok {values : List WireValue} (textual : AllTextual values) {bytes : Bytes}
    (built : Request.build values = .ok bytes) :
    (∀ value ∈ values, value.InRange) ∧ bytes = values.flatMap encoding := by
  rw [Request.build] at built
  cases wrote : (BufferWriter.new 128).writeAll values with
  | error error =>
      rw [wrote] at built
      cases built
  | ok last =>
      rw [wrote] at built
      obtain rfl := Except.ok.inj built
      exact BufferWriter.build_of_writeAll textual wrote

namespace WireValue

open DelimitedCode

theorem tells_blob : code.Tells blob where
  agrees _ _ := ⟨rfl, fun same => ⟨congrArg WireField.bytes (WireValue.u32.inj same),
    fun _ => trivial⟩⟩
  injective _ _ same := WireValue.bytes.inj (List.cons.inj (List.cons.inj same).2).1

theorem tells_optional {Argument : Type} {writes : Argument → List WireValue}
    (tells : code.Tells writes) : code.Tells (optional writes) where
  agrees first second := by
    cases first with
    | none =>
        cases second with
        | none => exact ⟨rfl, fun _ => trivial⟩
        | some value => exact ⟨rfl, fun same => absurd (WireValue.u8.inj same) (by decide)⟩
    | some value =>
        cases second with
        | none => exact ⟨rfl, fun same => absurd (WireValue.u8.inj same) (by decide)⟩
        | some other => exact ⟨rfl, fun _ => tells.agrees value other⟩
  injective first second same := by
    cases first with
    | none =>
        cases second with
        | none => rfl
        | some value => simp [optional] at same
    | some value =>
        cases second with
        | none => simp [optional] at same
        | some other => rw [tells.injective (List.cons.inj same).2]

/-- Items behind their count. -/
theorem tells_counted {Item : Type} {writes : Item → List WireValue} (tells : code.Tells writes) :
    code.Tells (counted writes) where
  agrees _ _ := ⟨rfl, fun same => Agrees.flatMap tells.agrees (WireValue.u32.inj same)⟩
  injective first second same := by
    obtain ⟨sameLength, sameItems⟩ := List.cons.inj same
    exact tells.flatMap_inj (WireValue.u32.inj sameLength) sameItems

/-- An argument that one call writes. -/
theorem tells_one {Argument : Type} {write : Argument → WireValue} (kind : WireField)
    (sameKind : ∀ value, (write value).field = kind) (injective : Function.Injective write) :
    code.Tells fun value => [write value] where
  agrees first second := ⟨(sameKind first).trans (sameKind second).symm, fun _ => trivial⟩
  injective _ _ same := injective (List.cons.inj same).1

theorem tells_string : code.Tells fun value : String => [string value] :=
  tells_one .text (fun _ => rfl) fun _ _ => string_inj.mp

theorem tells_u8 : code.Tells fun value : Nat => [u8 value] :=
  tells_one .u8 (fun _ => rfl) fun _ _ => WireValue.u8.inj

theorem tells_u32 : code.Tells fun value : Nat => [u32 value] :=
  tells_one .u32 (fun _ => rfl) fun _ _ => WireValue.u32.inj

theorem tells_u64 : code.Tells fun value : Nat => [u64 value] :=
  tells_one .u64 (fun _ => rfl) fun _ _ => WireValue.u64.inj

theorem tells_optionalU64 : code.Tells fun value : Option Nat => [optionalU64 value] :=
  tells_one .optionalU64 (fun _ => rfl) fun _ _ => WireValue.optionalU64.inj

end WireValue

namespace KvRequest

variable {first second : KvRequest}

theorem options_injective {first second : KvScanRequest} (same : first.options = second.options) :
    first.reverse = second.reverse ∧ first.startExclusive = second.startExclusive := by
  unfold KvScanRequest.options at same
  revert same
  cases first.reverse <;> cases first.startExclusive <;> cases second.reverse <;>
    cases second.startExclusive <;> decide

/-- The arguments of a SCAN, as they are written. -/
def scanParts (request : KvScanRequest) : ((Option Bytes × Option Bytes) × Option Nat) × Nat :=
  (((request.startKey, request.endKey), request.limit), request.options)

theorem scanParts_injective : Function.Injective scanParts := by
  intro first second same
  simp only [scanParts, Prod.mk.injEq] at same
  obtain ⟨⟨⟨startKey, endKey⟩, limit⟩, options⟩ := same
  obtain ⟨reverse, startExclusive⟩ := options_injective options
  cases first
  cases second
  simp_all

theorem tells_scan : code.Tells scanWrites :=
  ((((tells_optional tells_blob).append (tells_optional tells_blob)).append
    (tells_optional tells_u32)).append tells_u8).comp scanParts_injective

theorem agrees (sameType : first.messageType = second.messageType) :
    code.Agrees first.writes second.writes := by
  cases first <;> cases second <;> simp only [messageType, Nat.reduceEqDiff] at sameType
  case scan.scan =>
    exact (tells_u64.append tells_string).append tells_scan |>.agrees ((_, _), _) ((_, _), _)
  all_goals simp [writes, handle, blob, DelimitedCode.Agrees, code, field, string]

theorem eq_of_writes_eq (sameType : first.messageType = second.messageType)
    (same : first.writes = second.writes) : first = second := by
  cases first <;> cases second <;> simp only [messageType, Nat.reduceEqDiff] at sameType
  case scan.scan =>
    simp only [writes, handle, List.cons_append, List.nil_append, List.cons.injEq, u64.injEq,
      string_inj] at same
    obtain ⟨rfl, rfl, sameScan⟩ := same
    rw [tells_scan.injective sameScan]
  case begin.begin route mode other otherMode =>
    cases mode <;> cases otherMode <;> simp_all [writes]
  case commit.commit route durability _ other otherDurability =>
    cases durability <;> cases otherDurability <;> simp_all [writes, handle]
  all_goals simp_all [writes, handle, blob]

theorem allTextual (request : KvRequest) : AllTextual request.writes := by
  cases request <;> simp [writes, handle, scanWrites, allTextual_optional]

end KvRequest

namespace QueueRequest

variable {first second : QueueRequest}

theorem tells_seconds : code.Tells seconds where
  agrees first second := by
    unfold seconds
    split <;> split
    · exact ⟨rfl, fun _ => ⟨rfl, fun _ => trivial⟩⟩
    · exact ⟨rfl, fun same => absurd (WireValue.u8.inj same) (by decide)⟩
    · exact ⟨rfl, fun same => absurd (WireValue.u8.inj same) (by decide)⟩
    · exact ⟨rfl, fun _ => trivial⟩
  injective first second same := by
    unfold seconds at same
    split at same <;> split at same
    · simpa using same
    · simp at same
    · simp at same
    · omega

theorem agrees (sameType : first.messageType = second.messageType) :
    code.Agrees first.writes second.writes := by
  cases first <;> cases second <;> simp only [messageType, Nat.reduceEqDiff] at sameType
  case enqueue.enqueue =>
    exact (tells_string.append (tells_blob.append tells_seconds)).agrees (_, _, _) (_, _, _)
  case reserve.reserve =>
    exact (tells_string.append (tells_u64.append (tells_u8.append (tells_u32.append
      tells_seconds)))).agrees (_, _, _, _, _) (_, _, _, _, _)
  all_goals simp [writes, DelimitedCode.Agrees, code, field, string]

/-- The TTL is not written, but stands behind the core. -/
theorem meaning_eq_of_writes_eq (sameType : first.messageType = second.messageType)
    (same : first.writes = second.writes) (sameTtl : first.ttlHours = second.ttlHours) :
    first.meaning = second.meaning := by
  cases first <;> cases second <;> simp only [messageType, Nat.reduceEqDiff] at sameType
  case enqueue.enqueue route body delay ttl _ _ otherDelay otherTtl =>
    obtain rfl : ttl = otherTtl := sameTtl
    simp only [writes, blob, List.cons_append, List.nil_append, List.cons.injEq, string_inj,
      u32.injEq, bytes.injEq] at same
    obtain ⟨rfl, -, rfl, sameDelay⟩ := same
    rw [meaning, meaning, tells_seconds.injective sameDelay]
  case reserve.reserve selector lease batchSize wait _ _ otherBatchSize otherWait =>
    simp only [writes, List.cons_append, List.nil_append, List.cons.injEq, string_inj, u64.injEq,
      u32.injEq, true_and] at same
    obtain ⟨rfl, rfl, sameSize, sameWait⟩ := same
    rw [meaning, meaning, sameSize, tells_seconds.injective sameWait]
  all_goals simp_all [writes, meaning]

theorem allTextual_seconds (value : Nat) : AllTextual (seconds value) := by
  unfold seconds
  split <;> simp

theorem allTextual (request : QueueRequest) : AllTextual request.writes := by
  cases request <;> simp [writes, allTextual_seconds]

end QueueRequest

namespace RpcRequest

variable {first second : RpcRequest}

/-- A correlation id is written without its length. -/
theorem tells_correlationId :
    code.Tells fun correlationId : RpcCorrelationId => [WireValue.bytes correlationId.bytes] where
  agrees first second :=
    ⟨congrArg WireField.bytes (first.length_eq.trans second.length_eq.symm), fun _ => trivial⟩
  injective first second same := by
    cases first
    cases second
    simpa using same

theorem agrees (sameType : first.messageType = second.messageType) :
    code.Agrees first.writes second.writes := by
  cases first <;> cases second <;> simp only [messageType, Nat.reduceEqDiff] at sameType
  case request.request =>
    exact (tells_correlationId.append (tells_string.append (tells_blob.append
      (tells_optional tells_u32)))).agrees (_, _, _, _) (_, _, _, _)
  case response.response =>
    exact (tells_correlationId.append (tells_u64.append (tells_u8.append tells_blob))).agrees
      (_, _, _, _) (_, _, _, _)
  case cancel.cancel =>
    exact (tells_u8.append (tells_correlationId.append tells_u8)).agrees (1, _, _) (1, _, _)
  case acknowledge.acknowledge =>
    exact (tells_u8.append tells_correlationId).agrees (3, _) (3, _)
  all_goals simp [writes, DelimitedCode.Agrees, code, field, string]

theorem eq_of_writes_eq (sameType : first.messageType = second.messageType)
    (same : first.writes = second.writes) : first = second := by
  cases first <;> cases second <;> simp only [messageType, Nat.reduceEqDiff] at sameType
  case request.request id route body budget otherId _ _ otherBudget =>
    cases id
    cases otherId
    simp only [writes, blob, List.cons_append, List.nil_append, List.cons.injEq, string_inj,
      u32.injEq, bytes.injEq] at same
    obtain ⟨rfl, rfl, -, rfl, sameBudget⟩ := same
    rw [(tells_optional tells_u32).injective sameBudget]
  case response.response id _ ends _ otherId _ otherEnds _ =>
    cases id
    cases otherId
    cases ends <;> cases otherEnds <;> simp_all [writes, blob]
  case cancel.cancel id _ otherId _ =>
    cases id
    cases otherId
    simp_all [writes]
  case acknowledge.acknowledge id otherId =>
    cases id
    cases otherId
    simp_all [writes]
  all_goals simp_all [writes]

theorem allTextual (request : RpcRequest) : AllTextual request.writes := by
  cases request <;> simp [writes, allTextual_optional]

end RpcRequest

namespace LeaseRequest

variable {first second : LeaseRequest}

theorem tells_cursor :
    code.Tells fun cursor : LeaseListCursor => [u64 cursor.snapshotId, u32 cursor.offset] where
  agrees _ _ := ⟨rfl, fun _ => ⟨rfl, fun _ => trivial⟩⟩
  injective first second same := by
    cases first
    cases second
    simpa using same

theorem agrees (sameType : first.messageType = second.messageType) :
    code.Agrees first.writes second.writes := by
  cases first <;> cases second <;> simp only [messageType, Nat.reduceEqDiff] at sameType
  case list.list =>
    exact (tells_string.append ((tells_optional tells_cursor).append tells_u32)).agrees
      (_, _, _) (_, _, _)
  all_goals simp [writes, DelimitedCode.Agrees, code, field, string]

theorem meaning_eq_of_writes_eq (sameType : first.messageType = second.messageType)
    (same : first.writes = second.writes) : first.meaning = second.meaning := by
  cases first <;> cases second <;> simp only [messageType, Nat.reduceEqDiff] at sameType
  case list.list pattern cursor limit _ otherCursor otherLimit =>
    obtain ⟨samePattern, sameRest⟩ := List.cons.inj same
    obtain rfl := string_inj.mp samePattern
    obtain ⟨rfl, sameLimit⟩ := (tells_optional tells_cursor).append_inj sameRest
    rw [meaning, meaning, tells_u32.injective sameLimit]
  all_goals simp_all [writes, meaning]

theorem allTextual (request : LeaseRequest) : AllTextual request.writes := by
  cases request <;> simp [writes, allTextual_optional]

end LeaseRequest

namespace NoticeRequest

variable {first second : NoticeRequest}

theorem agrees (sameType : first.messageType = second.messageType) :
    code.Agrees first.writes second.writes := by
  cases first <;> cases second <;> simp only [messageType, Nat.reduceEqDiff] at sameType <;>
    simp [writes, blob, DelimitedCode.Agrees, code, field, string]

/-- Whether an acknowledgement is asked for is said by the flags. -/
theorem eq_of_writes_eq (sameType : first.messageType = second.messageType)
    (same : first.writes = second.writes) (sameFlag : first.acknowledged = second.acknowledged) :
    first = second := by
  cases first <;> cases second <;> simp only [messageType, Nat.reduceEqDiff] at sameType <;>
    simp_all [writes, blob, acknowledged]

theorem allTextual (request : NoticeRequest) : AllTextual request.writes := by
  cases request <;> simp [writes]

end NoticeRequest

namespace StreamFilterClause

theorem tells_writes : code.Tells writes where
  agrees first second := by
    cases first <;> cases second
    case anyOf.anyOf values others =>
      exact ⟨rfl, fun _ => (tells_counted tells_string).agrees values others⟩
    all_goals simp [writes, counted, DelimitedCode.Agrees, code, field, string]
  injective first second same := by
    cases first <;> cases second
    case anyOf.anyOf values others =>
      rw [(tells_counted tells_string).injective (List.cons.inj same).2]
    all_goals simp_all [writes]

theorem tells_setWrites : code.Tells setWrites where
  agrees first second :=
    ⟨rfl, fun _ => ⟨rfl, fun _ => (tells_counted tells_writes).agrees first second⟩⟩
  injective _ _ same :=
    (tells_counted tells_writes).injective (List.cons.inj (List.cons.inj same).2).2

theorem allTextual (clause : StreamFilterClause) : AllTextual clause.writes := by
  cases clause <;> simp [writes, allTextual_counted]

theorem allTextual_set (clauses : List StreamFilterClause) : AllTextual (setWrites clauses) := by
  simp [setWrites, allTextual_counted, allTextual]

end StreamFilterClause

namespace StreamRequest

variable {first second : StreamRequest}

/-- The encoding of a set says which clauses it has. -/
theorem filterBytes_inj {filter other : Option (List StreamFilterClause)} {encoded : Bytes}
    (built : filterBytes filter = .ok encoded) (builtOther : filterBytes other = .ok encoded) :
    filter.getD [] = other.getD [] := by
  have ofClauses {filter : Option (List StreamFilterClause)} {encoded : Bytes}
      (built : filterBytes filter = .ok encoded) :
      filter.getD [] = [] ∧ encoded = [] ∨ encoded ≠ [] ∧
        (∀ value ∈ StreamFilterClause.setWrites (filter.getD []), value.InRange) ∧
        encoded = (StreamFilterClause.setWrites (filter.getD [])).flatMap encoding := by
    unfold filterBytes at built
    split at built
    · exact Or.inl ⟨rfl, (Except.ok.inj built).symm⟩
    · exact Or.inl ⟨rfl, (Except.ok.inj built).symm⟩
    · next clauses _ =>
        obtain ⟨inRange, isEncoding⟩ :=
          build_eq_ok (StreamFilterClause.allTextual_set clauses) built
        refine Or.inr ⟨?_, inRange, isEncoding⟩
        rw [isEncoding]
        simp [StreamFilterClause.setWrites, encoding, BigEndian.encode]
  rcases ofClauses built with ⟨none, empty⟩ | ⟨nonempty, inRange, isEncoding⟩
  · rcases ofClauses builtOther with ⟨noneOther, -⟩ | ⟨nonempty, -, -⟩
    · rw [none, noneOther]
    · exact (nonempty empty).elim
  · rcases ofClauses builtOther with ⟨-, empty⟩ | ⟨-, inRangeOther, isEncodingOther⟩
    · exact (nonempty empty).elim
    · refine StreamFilterClause.tells_setWrites.injective ?_
      exact (StreamFilterClause.tells_setWrites.agrees _ _).eq_of_flatMap_eq inRange inRangeOther
        (isEncoding.symm.trans isEncodingOther)

theorem tells_filter : code.Tells filterWrites where
  agrees first second := by
    unfold filterWrites
    split <;> split
    · exact ⟨rfl, fun _ => trivial⟩
    · exact ⟨rfl, fun same => absurd (WireValue.u8.inj same) (by decide)⟩
    · exact ⟨rfl, fun same => absurd (WireValue.u8.inj same) (by decide)⟩
    · exact ⟨rfl, fun _ => tells_blob.agrees first second⟩
  injective first second same := by
    unfold filterWrites at same
    split at same <;> split at same
    · next none noneOther => rw [none, noneOther]
    · simp at same
    · simp at same
    · exact tells_blob.injective (List.cons.inj same).2

theorem agrees (sameType : first.messageType = second.messageType) :
    code.Agrees first.writes second.writes := by
  cases first <;> cases second <;> simp only [messageType, Nat.reduceEqDiff] at sameType
  case begin.begin =>
    exact (tells_string.append (tells_optional tells_blob)).agrees (_, _) (_, _)
  case append.append =>
    exact (tells_u64.append (tells_u64.append (tells_blob.append ((tells_optional
      tells_blob).append (tells_optional tells_string))))).agrees (_, _, _, _, _) (_, _, _, _, _)
  all_goals simp [writes, DelimitedCode.Agrees, code, field, string]

end StreamRequest

namespace ScheduleRequest

variable {first second : ScheduleRequest}

theorem tells_entry : code.Tells entryWrites where
  agrees first second := by
    simp [entryWrites, blob, DelimitedCode.Agrees, code, field, string]
  injective first second same := by
    obtain ⟨route, cron, mode, payload⟩ := first
    obtain ⟨otherRoute, otherCron, otherMode, otherPayload⟩ := second
    cases mode <;> cases otherMode <;> simp_all [entryWrites, blob]

theorem agrees (sameType : first.messageType = second.messageType) :
    code.Agrees first.writes second.writes := by
  cases first <;> cases second <;> simp only [messageType, Nat.reduceEqDiff] at sameType
  case create.create => exact tells_entry.agrees _ _
  case list.list =>
    exact ((tells_optional tells_string).append tells_optionalU64).agrees (_, _) (_, _)
  case createBatch.createBatch => exact (tells_counted tells_entry).agrees _ _
  all_goals simp [writes, DelimitedCode.Agrees, code, field, string]

theorem eq_of_writes_eq (sameType : first.messageType = second.messageType)
    (same : first.writes = second.writes) : first = second := by
  cases first <;> cases second <;> simp only [messageType, Nat.reduceEqDiff] at sameType
  case create.create => rw [tells_entry.injective same]
  case list.list =>
    obtain ⟨rfl, sameLimit⟩ := (tells_optional tells_string).append_inj same
    rw [tells_optionalU64.injective sameLimit]
  case createBatch.createBatch => rw [(tells_counted tells_entry).injective same]
  all_goals simp_all [writes]

theorem allTextual_entry (entry : ScheduleEntry) : AllTextual (entryWrites entry) := by
  simp [entryWrites]

theorem allTextual (request : ScheduleRequest) : AllTextual request.writes := by
  cases request <;> simp [writes, allTextual_optional, allTextual_counted, allTextual_entry]

end ScheduleRequest

/-- Sequences that agree can be told from what is built of them. -/
theorem writes_eq_of_build_eq {firsts seconds : List WireValue} {bytes : Bytes}
    (agrees : code.Agrees firsts seconds) (textualFirsts : AllTextual firsts)
    (textualSeconds : AllTextual seconds) (built : Request.build firsts = .ok bytes)
    (builtSecond : Request.build seconds = .ok bytes) : firsts = seconds := by
  obtain ⟨inRange, isEncoding⟩ := build_eq_ok textualFirsts built
  obtain ⟨inRangeSecond, isEncodingSecond⟩ := build_eq_ok textualSeconds builtSecond
  exact agrees.eq_of_flatMap_eq inRange inRangeSecond (isEncoding.symm.trans isEncodingSecond)

namespace QueueRequest

variable {first second : QueueRequest}

/-- The core and the TTL can be told from the extended payload. -/
theorem core_eq_of_payload_eq {firstCore secondCore payload : Bytes}
    (sameTtl : first.ttlHours = none ↔ second.ttlHours = none)
    (fits : ∀ hours ∈ first.ttlHours, hours < 256 ^ 4)
    (fitsSecond : ∀ hours ∈ second.ttlHours, hours < 256 ^ 4)
    (encoded : WireExtensions.encodePayload firstCore first.extensions = .ok payload)
    (encodedSecond : WireExtensions.encodePayload secondCore second.extensions = .ok payload) :
    firstCore = secondCore ∧ first.ttlHours = second.ttlHours := by
  have extended {core : Bytes} {hours : Nat} (encoded : WireExtensions.encodePayload core
      [(1, BigEndian.encode 4 hours)] = .ok payload) :
      (∀ value ∈ blob core ++ .u16 1 :: blob (BigEndian.encode 4 hours), value.InRange) ∧
        payload = (blob core ++ .u16 1 :: blob (BigEndian.encode 4 hours)).flatMap encoding := by
    obtain ⟨envelope, -⟩ := WireExtensions.envelope_of_encodePayload (by simp) encoded
    refine ⟨fun value member => ?_, ?_⟩
    · simp only [blob, List.cons_append, List.nil_append, List.mem_cons, List.not_mem_nil,
        or_false] at member
      rcases member with rfl | rfl | rfl | rfl | rfl
      · exact envelope.coreFits
      · trivial
      · exact (by decide : (1 : Nat) < 256 ^ 2)
      · rw [BigEndian.length_encode]
        exact (by decide : (4 : Nat) < 256 ^ 4)
      · trivial
    · rw [envelope.whole]
      simp [blob, encoding, WireExtensions.fieldLayout]
  unfold extensions at encoded encodedSecond
  cases ttl : first.ttlHours with
  | none =>
      rw [ttl] at encoded
      rw [sameTtl.mp ttl] at encodedSecond ⊢
      have same := (Except.ok.inj encoded).trans (Except.ok.inj encodedSecond).symm
      exact ⟨same, rfl⟩
  | some hours =>
      cases ttlSecond : second.ttlHours with
      | none => simp [ttl, ttlSecond] at sameTtl
      | some others =>
          rw [ttl] at encoded
          rw [ttlSecond] at encodedSecond
          obtain ⟨inRange, isEncoding⟩ := extended encoded
          obtain ⟨inRangeSecond, isEncodingSecond⟩ := extended encodedSecond
          have agrees : code.Agrees (blob firstCore ++ .u16 1 :: blob (BigEndian.encode 4 hours))
              (blob secondCore ++ .u16 1 :: blob (BigEndian.encode 4 others)) :=
            (tells_blob.agrees _ _).append fun _ => ⟨rfl, fun _ => tells_blob.agrees _ _⟩
          have same := agrees.eq_of_flatMap_eq inRange inRangeSecond
            (isEncoding.symm.trans isEncodingSecond)
          obtain ⟨sameCore, sameField⟩ := tells_blob.append_inj same
          have sameHours := tells_blob.injective (List.cons.inj sameField).2
          have decoded := congrArg BigEndian.decode sameHours
          rw [BigEndian.decode_encode (fits hours ttl),
            BigEndian.decode_encode (fitsSecond others ttlSecond)] at decoded
          exact ⟨sameCore, by rw [decoded]⟩

/-- A TTL that the client lets through fits in four bytes. -/
theorem ttlHours_lt_of_check {capabilityIds : List Nat} {request : QueueRequest}
    (checked : request.check capabilityIds = .ok ()) :
    ∀ hours ∈ request.ttlHours, hours < 256 ^ 4 := by
  intro hours isTtl
  cases request with
  | enqueue route body delay ttlHours =>
      obtain rfl : ttlHours = some hours := isTtl
      obtain ⟨-, checked⟩ := RequestException.require_bind_eq_ok_iff.mp checked
      obtain ⟨fits, -⟩ := RequestException.require_bind_eq_ok_iff.mp checked
      exact Nat.lt_succ_of_le fits.2
  | _ => cases isTtl

end QueueRequest

namespace StreamRequest

/-- The writes of a READ with this encoded filter. -/
def readWrites (route : String) (startOffset limit : Nat) (maxBytes : Option Nat) (filter : Bytes)
    (cursorFingerprint capturedWatermark : Option Nat) : List WireValue :=
  readFront route startOffset limit maxBytes ++
    (filterWrites filter ++ readBack cursorFingerprint capturedWatermark)

theorem readWrites_agrees (route otherRoute : String)
    (startOffset otherStart limit otherLimit : Nat)
    (maxBytes otherBytes : Option Nat) (filter otherFilter : Bytes)
    (cursorFingerprint otherFingerprint capturedWatermark otherWatermark : Option Nat) :
    code.Agrees
      (readWrites route startOffset limit maxBytes filter cursorFingerprint capturedWatermark)
      (readWrites otherRoute otherStart otherLimit otherBytes otherFilter otherFingerprint
        otherWatermark) :=
  ((tells_string.append (tells_u64.append (tells_u64.append (tells_optional tells_u64)))).append
    (tells_filter.append (tells_optionalU64.append tells_optionalU64))).agrees
      ((_, _, _, _), _, _, _) ((_, _, _, _), _, _, _)

theorem allTextual_readWrites (route : String) (startOffset limit : Nat) (maxBytes : Option Nat)
    (filter : Bytes) (cursorFingerprint capturedWatermark : Option Nat) :
    AllTextual (readWrites route startOffset limit maxBytes filter cursorFingerprint
      capturedWatermark) := by
  have textual : AllTextual (filterWrites filter) := by
    unfold filterWrites
    split <;> simp
  simp [readWrites, readFront, readBack, allTextual_optional, textual]

theorem allTextual (request : StreamRequest) : AllTextual request.writes := by
  cases request <;> simp [writes, allTextual_optional]

theorem writeAll_append (writer : BufferWriter) (front back : List WireValue) :
    writer.writeAll (front ++ back) = writer.writeAll front >>= fun next => next.writeAll back := by
  induction front generalizing writer with
  | nil => rfl
  | cons value front ih =>
      simp only [List.cons_append, BufferWriter.writeAll, bind_assoc]
      exact congrArg _ (funext ih)

/-- A READ writes its filter as a blob of its own. -/
theorem exists_filter_of_payload {route : String} {startOffset limit : Nat} {maxBytes : Option Nat}
    {filter : Option (List StreamFilterClause)} {cursorFingerprint capturedWatermark : Option Nat}
    {payload : Bytes} (built : (Request.stream (.read route startOffset limit maxBytes filter
      cursorFingerprint capturedWatermark)).payload = .ok payload) :
    ∃ encoded, filterBytes filter = .ok encoded ∧
      Request.build (readWrites route startOffset limit maxBytes encoded cursorFingerprint
        capturedWatermark) = .ok payload := by
  simp only [Request.payload] at built
  cases front : (BufferWriter.new 128).writeAll (readFront route startOffset limit maxBytes) with
  | error error =>
      rw [front] at built
      cases built
  | ok writer =>
      rw [front] at built
      cases encoded : filterBytes filter with
      | error error =>
          rw [encoded] at built
          cases built
      | ok encoded' =>
          rw [encoded] at built
          refine ⟨encoded', rfl, ?_⟩
          rw [Request.build, readWrites, writeAll_append, front]
          exact built

variable {first second : StreamRequest}

theorem meaning_eq_of_payload_eq {payload : Bytes}
    (sameType : first.messageType = second.messageType)
    (built : (Request.stream first).payload = .ok payload)
    (builtSecond : (Request.stream second).payload = .ok payload) :
    first.meaning = second.meaning := by
  have sameWrites : Request.build first.writes = .ok payload →
      Request.build second.writes = .ok payload → first.writes = second.writes :=
    writes_eq_of_build_eq (agrees sameType) (allTextual first) (allTextual second)
  cases first <;> cases second <;> simp only [messageType, Nat.reduceEqDiff] at sameType
  case read.read =>
    obtain ⟨encoded, isFilter, built⟩ := exists_filter_of_payload built
    obtain ⟨otherEncoded, isOtherFilter, builtSecond⟩ := exists_filter_of_payload builtSecond
    have same := writes_eq_of_build_eq (by apply readWrites_agrees)
      (by apply allTextual_readWrites) (by apply allTextual_readWrites) built builtSecond
    simp only [readWrites, readFront, List.cons_append, List.nil_append, List.cons.injEq,
      string_inj, u64.injEq] at same
    obtain ⟨rfl, rfl, rfl, sameRest⟩ := same
    obtain ⟨rfl, sameBack⟩ := (tells_optional tells_u64).append_inj sameRest
    obtain ⟨rfl, sameCursors⟩ := tells_filter.append_inj sameBack
    simp only [readBack, List.cons.injEq, optionalU64.injEq, and_true] at sameCursors
    obtain ⟨rfl, rfl⟩ := sameCursors
    rw [meaning, meaning, filterBytes_inj isFilter isOtherFilter]
  case begin.begin =>
    have same := sameWrites built builtSecond
    obtain ⟨sameRoute, sameMetadata⟩ := List.cons.inj same
    rw [string_inj.mp sameRoute, (tells_optional tells_blob).injective sameMetadata]
  case append.append =>
    have same := sameWrites built builtSecond
    simp only [writes, blob, List.cons_append, List.nil_append, List.cons.injEq, u64.injEq,
      u32.injEq, bytes.injEq] at same
    obtain ⟨rfl, rfl, -, rfl, sameBack⟩ := same
    obtain ⟨rfl, sameDiscriminator⟩ := (tells_optional tells_blob).append_inj sameBack
    rw [(tells_optional tells_string).injective sameDiscriminator]
  case commit.commit mode _ otherMode =>
    have same := sameWrites built builtSecond
    cases mode <;> cases otherMode <;> simp_all [writes]
  all_goals
    have same := sameWrites built builtSecond
    simp_all [writes, meaning]

end StreamRequest

namespace FrameCodec

/-- A frame says what is in it. -/
theorem encodeFrame_injective {first second : Frame} {data : Bytes}
    (encoded : encodeFrame first = .ok data) (encodedSecond : encodeFrame second = .ok data) :
    first = second := by
  have decoded := decodeFrame_eq_ok_iff.mpr encoded
  rw [decodeFrame_eq_ok_iff.mpr encodedSecond] at decoded
  exact (Except.ok.inj decoded).symm

end FrameCodec

namespace Request

variable {first second : Request} {capabilityIds otherIds : List Nat} {payload : Bytes}

/-- The domain of a message. -/
def domain : Request → Nat
  | kv _ => 1
  | queue _ => 2
  | rpc _ => 3
  | .lease _ => 4
  | notice _ => 5
  | .stream _ => 6
  | schedule _ => 7

/-- The message types of a domain are its hundred. -/
theorem messageType_div (request : Request) : request.messageType / 100 = request.domain := by
  cases request with
  | kv request => cases request <;> simp [messageType, domain, KvRequest.messageType]
  | queue request => cases request <;> simp [messageType, domain, QueueRequest.messageType]
  | rpc request => cases request <;> simp [messageType, domain, RpcRequest.messageType]
  | lease request => cases request <;> simp [messageType, domain, LeaseRequest.messageType]
  | notice request => cases request <;> simp [messageType, domain, NoticeRequest.messageType]
  | stream request => cases request <;> simp [messageType, domain, StreamRequest.messageType]
  | schedule request => cases request <;> simp [messageType, domain, ScheduleRequest.messageType]

theorem exists_core {request : QueueRequest} (built : (queue request).payload = .ok payload) :
    ∃ core, build request.writes = .ok core ∧
      WireExtensions.encodePayload core request.extensions = .ok payload := by
  simp only [Request.payload] at built
  cases core : build request.writes with
  | error error =>
      rw [core] at built
      cases built
  | ok bytes =>
      rw [core] at built
      exact ⟨bytes, rfl, built⟩

/-- The payload of a message, with its type and flags, says what it means. -/
theorem meaning_eq_of_payload_eq (sameType : first.messageType = second.messageType)
    (sameFlags : first.flags = second.flags) (checked : first.check capabilityIds = .ok ())
    (checkedSecond : second.check otherIds = .ok ()) (built : first.payload = .ok payload)
    (builtSecond : second.payload = .ok payload) : first.meaning = second.meaning := by
  have sameDomain : first.domain = second.domain := by
    rw [← messageType_div, ← messageType_div, sameType]
  cases first with
  | kv first =>
      cases second <;> simp only [domain, Nat.reduceEqDiff] at sameDomain
      next second =>
      have same := writes_eq_of_build_eq (first.agrees sameType) first.allTextual
        second.allTextual built builtSecond
      rw [first.eq_of_writes_eq sameType same]
  | queue first =>
      cases second <;> simp only [domain, Nat.reduceEqDiff] at sameDomain
      next second =>
      have sameTtl : first.ttlHours = none ↔ second.ttlHours = none := by
        simp only [flags, WireExtensions.extensionsPresent] at sameFlags
        split at sameFlags <;> split at sameFlags <;> simp_all
      obtain ⟨core, coreBuilt, encoded⟩ := exists_core built
      obtain ⟨otherCore, otherBuilt, otherEncoded⟩ := exists_core builtSecond
      obtain ⟨rfl, sameHours⟩ := QueueRequest.core_eq_of_payload_eq sameTtl
        (QueueRequest.ttlHours_lt_of_check checked)
        (QueueRequest.ttlHours_lt_of_check checkedSecond) encoded otherEncoded
      have same := writes_eq_of_build_eq (first.agrees sameType) first.allTextual
        second.allTextual coreBuilt otherBuilt
      rw [meaning, meaning, first.meaning_eq_of_writes_eq sameType same sameHours]
  | rpc first =>
      cases second <;> simp only [domain, Nat.reduceEqDiff] at sameDomain
      next second =>
      have same := writes_eq_of_build_eq (first.agrees sameType) first.allTextual
        second.allTextual built builtSecond
      rw [first.eq_of_writes_eq sameType same]
  | lease first =>
      cases second <;> simp only [domain, Nat.reduceEqDiff] at sameDomain
      next second =>
      have same := writes_eq_of_build_eq (first.agrees sameType) first.allTextual
        second.allTextual built builtSecond
      rw [meaning, meaning, first.meaning_eq_of_writes_eq sameType same]
  | notice first =>
      cases second <;> simp only [domain, Nat.reduceEqDiff] at sameDomain
      next second =>
      have sameFlag : first.acknowledged = second.acknowledged := by
        simp only [flags, ackRequested] at sameFlags
        split at sameFlags <;> split at sameFlags <;> simp_all
      have same := writes_eq_of_build_eq (first.agrees sameType) first.allTextual
        second.allTextual built builtSecond
      rw [first.eq_of_writes_eq sameType same sameFlag]
  | stream first =>
      cases second <;> simp only [domain, Nat.reduceEqDiff] at sameDomain
      next second =>
      rw [meaning, meaning, first.meaning_eq_of_payload_eq sameType built builtSecond]
  | schedule first =>
      cases second <;> simp only [domain, Nat.reduceEqDiff] at sameDomain
      next second =>
      have same := writes_eq_of_build_eq (first.agrees sameType) first.allTextual
        second.allTextual built builtSecond
      rw [first.eq_of_writes_eq sameType same]

/-- The defaults that a client fills in make no difference to its frames. -/
theorem frame_meaning (request : Request) (correlationId : Nat) :
    request.meaning.frame correlationId = request.frame correlationId := by
  have sameType : request.meaning.messageType = request.messageType := by
    cases request with
    | queue request => cases request <;> rfl
    | lease request => cases request <;> rfl
    | stream request => cases request <;> rfl
    | _ => rfl
  have sameFlags : request.meaning.flags = request.flags := by
    cases request with
    | queue request => cases request <;> rfl
    | _ => rfl
  have samePayload : request.meaning.payload = request.payload := by
    cases request with
    | queue request =>
        cases request with
        | reserve selector lease batchSize wait =>
            have sameSize : QueueRequest.orOne (some (QueueRequest.orOne batchSize)) =
                QueueRequest.orOne batchSize := by
              unfold QueueRequest.orOne
              split <;> split <;> simp_all
            simp only [payload, meaning, QueueRequest.meaning, QueueRequest.writes, sameSize,
              Option.getD_some]
            rfl
        | _ => rfl
    | lease request => cases request <;> rfl
    | stream request =>
        cases request with
        | read route startOffset limit maxBytes filter cursorFingerprint capturedWatermark =>
            cases filter <;> rfl
        | _ => rfl
    | _ => rfl
  rw [frame, frame, samePayload, sameFlags, sameType]

theorem submit_eq_ok_iff {request : Request} {correlationId : Nat} {data : Bytes} :
    request.submit capabilityIds correlationId = .ok data ↔
      request.check capabilityIds = .ok () ∧ request.frame correlationId = .ok data := by
  unfold submit
  cases checked : request.check capabilityIds with
  | error error => simp [bind, Except.bind]
  | ok _ =>
      cases framed : request.frame correlationId with
      | error error => simp [bind, Except.bind, Except.mapError]
      | ok bytes => simp [bind, Except.bind, Except.mapError]

theorem frame_eq_ok_iff {request : Request} {correlationId : Nat} {data : Bytes} :
    request.frame correlationId = .ok data ↔ ∃ payload, request.payload = .ok payload ∧
      FrameCodec.encodeFrame ⟨request.messageType, request.flags, correlationId, payload⟩ =
        .ok data := by
  unfold frame
  cases built : request.payload with
  | error error => simp [bind, Except.bind]
  | ok bytes => simp [bind, Except.bind]

/-- A frame says the correlation id and the meaning of its message. -/
theorem eq_of_submit_eq {firstId secondId : Nat} {data : Bytes}
    (submitted : first.submit capabilityIds firstId = .ok data)
    (submittedSecond : second.submit otherIds secondId = .ok data) :
    firstId = secondId ∧ first.meaning = second.meaning := by
  obtain ⟨checked, framed⟩ := submit_eq_ok_iff.mp submitted
  obtain ⟨checkedSecond, framedSecond⟩ := submit_eq_ok_iff.mp submittedSecond
  obtain ⟨payload, built, encoded⟩ := frame_eq_ok_iff.mp framed
  obtain ⟨otherPayload, builtSecond, encodedSecond⟩ := frame_eq_ok_iff.mp framedSecond
  have same := FrameCodec.encodeFrame_injective encoded encodedSecond
  simp only [Frame.mk.injEq] at same
  obtain ⟨sameType, sameFlags, sameId, rfl⟩ := same
  exact ⟨sameId, meaning_eq_of_payload_eq sameType sameFlags checked checkedSecond built
    builtSecond⟩

/-- Two messages have the same frame exactly if they have the same correlation id
and mean the same: every argument of every operation of every domain can be told
from the frame, and nothing else can. -/
theorem frame_eq_frame_iff {firstId secondId : Nat} {data otherData : Bytes}
    (submitted : first.submit capabilityIds firstId = .ok data)
    (submittedSecond : second.submit otherIds secondId = .ok otherData) :
    data = otherData ↔ firstId = secondId ∧ first.meaning = second.meaning := by
  constructor
  · rintro rfl
    exact eq_of_submit_eq submitted submittedSecond
  · rintro ⟨rfl, sameMeaning⟩
    have framed := (submit_eq_ok_iff.mp submitted).2
    have framedSecond := (submit_eq_ok_iff.mp submittedSecond).2
    rw [← frame_meaning, sameMeaning, frame_meaning, framedSecond] at framed
    exact (Except.ok.inj framed).symm

/-- The frame of a reservation of one job from `queue://r/a/*` that does not wait. -/
def reserveFrame : Bytes :=
  [0, 202, 0, 0, 0, 0, 0, 0, 0, 0, 7, 0, 0, 0, 31, 0, 0, 0, 13, 113, 117, 101, 117, 101, 58, 47,
    47, 114, 47, 97, 47, 42, 0, 0, 0, 0, 0, 0, 0, 30, 1, 0, 0, 0, 1, 0]

set_option maxRecDepth 8000 in
/-- No batch size is a batch of one, and no wait is a wait of zero. -/
theorem frame_eq_frame_iff_reserve :
    reserveFrame = reserveFrame ↔ 7 = 7 ∧
      (queue (.reserve "queue://r/a/*" 30 none (some 0))).meaning =
        (queue (.reserve "queue://r/a/*" 30 (some 1) none)).meaning := by
  have bare : (queue (.reserve "queue://r/a/*" 30 none (some 0))).submit [] 7 =
      .ok reserveFrame := by decide
  have full : (queue (.reserve "queue://r/a/*" 30 (some 1) none)).submit [] 7 =
      .ok reserveFrame := by decide
  exact frame_eq_frame_iff bare full

end Request

end FitzClient
