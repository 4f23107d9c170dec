import FitzClient.RouteShapes

/-!
# Commit notifications of a stream

The body of a commit notification is a JSON text.  Its event is copied, and
seven numbers are converted one after the other into a notification that
already exists.  A conversion that raises ends the loop with some of them
assigned, and the handler answers with a new notification; but it handles only
`TypeError` and `ValueError`, and `int` of an infinite float raises an
`OverflowError`.

`json.loads`, the tables of Unicode and the limit on the digits of a number
belong to the interpreter.
-/

namespace FitzClient

/-- A float: `mantissa * 2 ^ exponent`, an infinity, or not a number. -/
inductive JsonFloat
  | finite (mantissa exponent : Int)
  | infinite (negative : Bool)
  | nan
  deriving DecidableEq, Repr

/-- What `json.loads` returns. -/
inductive JsonValue
  | null
  | bool (value : Bool)
  | int (value : Int)
  | float (value : JsonFloat)
  | str (value : CodePoints)
  | list (items : List JsonValue)
  | object (entries : List (CodePoints × JsonValue))

namespace JsonValue

/-- `entries.get(key, default)` -/
def get (entries : List (CodePoints × JsonValue)) (key : String) (default : JsonValue) :
    JsonValue :=
  (entries.lookup (CodePoints.ofString key)).getD default

end JsonValue

/-- What the interpreter brings.  No limit on the digits of a number is zero,
and `loads` gives `none` where it raises a `ValueError`. -/
structure Interpreter where
  decimal : Nat → Option Nat
  isSpace : Nat → Bool
  maxStrDigits : Nat
  loads : Bytes → Option JsonValue

namespace Interpreter

variable (python : Interpreter)

def digit? (point : Nat) : Option Nat :=
  if 0x30 ≤ point ∧ point ≤ 0x39 then
    some (point - 0x30)
  else if 0x7F ≤ point then
    python.decimal point
  else
    none

def isBlank (point : Nat) : Bool :=
  0x09 ≤ point && point ≤ 0x0D || point = 0x20 || 0x7F ≤ point && python.isSpace point

def strip (text : CodePoints) : CodePoints :=
  ((text.dropWhile python.isBlank).reverse.dropWhile python.isBlank).reverse

/-- Digits, with single underscores between them. -/
def readDigits : CodePoints → Option (List Nat)
  | [] => none
  | [point] => (python.digit? point).map ([·])
  | point :: 0x5F :: rest => do
      let digit ← python.digit? point
      let digits ← readDigits rest
      return digit :: digits
  | point :: next :: rest => do
      let digit ← python.digit? point
      let digits ← readDigits (next :: rest)
      return digit :: digits

/-- The sign of a number and what follows it. -/
def splitSign : CodePoints → Int × CodePoints
  | 0x2D :: rest => (-1, rest)
  | 0x2B :: rest => (1, rest)
  | rest => (1, rest)

/-- `int(text)`, with `none` for a `ValueError`. -/
def intOfString (text : CodePoints) : Option Int :=
  let (sign, body) := splitSign (python.strip text)
  match python.readDigits body with
  | none => none
  | some digits =>
      if 0 < python.maxStrDigits ∧ python.maxStrDigits < digits.length then
        none
      else
        some (sign * (digits.foldl (fun value digit => 10 * value + digit) 0 : Nat))

end Interpreter

inductive ConversionError
  | valueError
  | overflowError
  deriving DecidableEq, Repr

/-- `int` of a float truncates towards zero. -/
def JsonFloat.toInt : JsonFloat → Except ConversionError Int
  | .finite mantissa exponent =>
      if 0 ≤ exponent then
        .ok (mantissa * 2 ^ exponent.toNat)
      else
        .ok (mantissa.tdiv (2 ^ (-exponent).toNat))
  | .infinite _ => .error .overflowError
  | .nan => .error .valueError

/-- `_json_int` -/
def jsonInt (python : Interpreter) : JsonValue → Except ConversionError Int
  | .int value => .ok value
  | .float value => value.toInt
  | .str text =>
      match python.intOfString text with
      | some value => .ok value
      | none => .error .valueError
  | .null | .bool _ | .list _ | .object _ => .ok 0

structure StreamCommitNotification where
  route : CodePoints
  event : CodePoints := []
  firstResourceOffset : Int := 0
  lastResourceOffset : Int := 0
  firstAreaOffset : Int := 0
  lastAreaOffset : Int := 0
  firstRealmOffset : Int := 0
  lastRealmOffset : Int := 0
  batchSize : Int := 0
  deriving DecidableEq, Repr

/-- The numbers of a notification. -/
inductive CommitField
  | firstResourceOffset
  | lastResourceOffset
  | firstAreaOffset
  | lastAreaOffset
  | firstRealmOffset
  | lastRealmOffset
  | batchSize
  deriving DecidableEq, Repr

namespace CommitField

/-- The order in which they are converted. -/
def order : List CommitField :=
  [.firstResourceOffset, .lastResourceOffset, .firstAreaOffset, .lastAreaOffset,
    .firstRealmOffset, .lastRealmOffset, .batchSize]

def key : CommitField → String
  | .firstResourceOffset => "first_resource_offset"
  | .lastResourceOffset => "last_resource_offset"
  | .firstAreaOffset => "first_area_offset"
  | .lastAreaOffset => "last_area_offset"
  | .firstRealmOffset => "first_realm_offset"
  | .lastRealmOffset => "last_realm_offset"
  | .batchSize => "batch_size"

def assign (notification : StreamCommitNotification) (value : Int) :
    CommitField → StreamCommitNotification
  | .firstResourceOffset => { notification with firstResourceOffset := value }
  | .lastResourceOffset => { notification with lastResourceOffset := value }
  | .firstAreaOffset => { notification with firstAreaOffset := value }
  | .lastAreaOffset => { notification with lastAreaOffset := value }
  | .firstRealmOffset => { notification with firstRealmOffset := value }
  | .lastRealmOffset => { notification with lastRealmOffset := value }
  | .batchSize => { notification with batchSize := value }

def read (notification : StreamCommitNotification) : CommitField → Int
  | .firstResourceOffset => notification.firstResourceOffset
  | .lastResourceOffset => notification.lastResourceOffset
  | .firstAreaOffset => notification.firstAreaOffset
  | .lastAreaOffset => notification.lastAreaOffset
  | .firstRealmOffset => notification.firstRealmOffset
  | .lastRealmOffset => notification.lastRealmOffset
  | .batchSize => notification.batchSize

/-- What the body has for this number. -/
def value (field : CommitField) (decoded : List (CodePoints × JsonValue)) : JsonValue :=
  JsonValue.get decoded field.key (.int 0)

end CommitField

/-- The assignments to a notification: what they leave, and what was raised. -/
def fillNotification (python : Interpreter) (decoded : List (CodePoints × JsonValue)) :
    List CommitField → StreamCommitNotification →
      StreamCommitNotification × Option ConversionError
  | [], notification => (notification, none)
  | field :: fields, notification =>
      match jsonInt python (field.value decoded) with
      | .error raised => (notification, some raised)
      | .ok value => fillNotification python decoded fields (field.assign notification value)

inductive NotificationException
  | stream (message : CodePoints) (code : String)
  | overflowError
  deriving DecidableEq, Repr

/-- `_assert_stream_route` -/
def assertStreamRoute (route : CodePoints) : Except NotificationException Unit :=
  if isExactRouteShape route "stream" 3 then
    .ok ()
  else
    .error (.stream (.ofString "Invalid stream route: " ++ route ++
      .ofString (" (expected stream://\x7brealm\x7d/\x7barea\x7d/\x7bresource\x7d, " ++
        "no empty segments or wildcards)")) "INVALID_ROUTE")

/-- `_decode_stream_commit_notification` -/
def decodeStreamCommitNotification (python : Interpreter) (route : CodePoints)
    (payload : Bytes) : Except NotificationException StreamCommitNotification := do
  assertStreamRoute route
  if payload.isEmpty then
    return { route }
  match python.loads payload with
  | some (.object decoded) =>
      match JsonValue.get decoded "event" (.str []) with
      | .str event =>
          match fillNotification python decoded CommitField.order { route, event } with
          | (filled, none) => return filled
          | (_, some .valueError) => return { route }
          | (_, some .overflowError) => throw .overflowError
      | _ => return { route }
  | _ => return { route }

namespace JsonValue

/-- An infinite float, which the handler does not expect. -/
def IsInfinite (value : JsonValue) : Prop :=
  ∃ negative, value = .float (.infinite negative)

/-- What `int` refuses with a `ValueError`. -/
inductive IsRefused (python : Interpreter) : JsonValue → Prop
  | nan : IsRefused python (.float .nan)
  | str (text : CodePoints) (unreadable : python.intOfString text = none) :
      IsRefused python (.str text)

end JsonValue

/-- A value is converted, refused, or an infinite float. -/
theorem jsonInt_cases (python : Interpreter) (value : JsonValue) :
    (∃ number, jsonInt python value = .ok number) ∧
        ¬ value.IsInfinite ∧ ¬ value.IsRefused python ∨
      jsonInt python value = .error .valueError ∧
        ¬ value.IsInfinite ∧ value.IsRefused python ∨
      jsonInt python value = .error .overflowError ∧
        value.IsInfinite ∧ ¬ value.IsRefused python := by
  cases value with
  | float value =>
      cases value with
      | finite mantissa exponent =>
          refine Or.inl ⟨?_, nofun, nofun⟩
          by_cases integral : 0 ≤ exponent
          · exact ⟨_, if_pos integral⟩
          · exact ⟨_, if_neg integral⟩
      | infinite negative => exact Or.inr (Or.inr ⟨rfl, ⟨negative, rfl⟩, nofun⟩)
      | nan => exact Or.inr (Or.inl ⟨rfl, nofun, .nan⟩)
  | str text =>
      cases readable : python.intOfString text with
      | some number =>
          refine Or.inl ⟨⟨number, by simp only [jsonInt, readable]⟩, nofun, ?_⟩
          rintro ⟨⟩
          next unreadable =>
            rw [readable] at unreadable
            cases unreadable
      | none =>
          exact Or.inr (Or.inl ⟨by simp only [jsonInt, readable], nofun, .str text readable⟩)
  | null => exact Or.inl ⟨⟨_, rfl⟩, nofun, nofun⟩
  | bool value => exact Or.inl ⟨⟨_, rfl⟩, nofun, nofun⟩
  | int value => exact Or.inl ⟨⟨_, rfl⟩, nofun, nofun⟩
  | list items => exact Or.inl ⟨⟨_, rfl⟩, nofun, nofun⟩
  | object entries => exact Or.inl ⟨⟨_, rfl⟩, nofun, nofun⟩

namespace CommitField

variable {notification : StreamCommitNotification} {value : Int}

@[simp]
theorem read_assign_self (field : CommitField) :
    field.read (field.assign notification value) = value := by
  cases field <;> rfl

theorem read_assign_of_ne {field other : CommitField} (ne : other ≠ field) :
    other.read (field.assign notification value) = other.read notification := by
  cases field <;> cases other <;> first | rfl | exact absurd rfl ne

@[simp]
theorem route_assign (field : CommitField) :
    (field.assign notification value).route = notification.route := by
  cases field <;> rfl

@[simp]
theorem event_assign (field : CommitField) :
    (field.assign notification value).event = notification.event := by
  cases field <;> rfl

theorem mem_order (field : CommitField) : field ∈ order := by
  cases field <;> decide

end CommitField

section fill

variable {python : Interpreter} {decoded : List (CodePoints × JsonValue)}
  {notification : StreamCommitNotification} {fields : List CommitField}

/-- The number that a field is given, if it is converted. -/
def Converted (python : Interpreter) (decoded : List (CodePoints × JsonValue))
    (notification : StreamCommitNotification) (field : CommitField) : Prop :=
  jsonInt python (field.value decoded) = .ok (field.read notification)

theorem fillNotification_cons_ok {field : CommitField} {value : Int}
    (converted : jsonInt python (field.value decoded) = .ok value) :
    fillNotification python decoded (field :: fields) notification =
      fillNotification python decoded fields (field.assign notification value) := by
  rw [fillNotification, converted]

theorem fillNotification_cons_error {field : CommitField} {raised : ConversionError}
    (fails : jsonInt python (field.value decoded) = .error raised) :
    fillNotification python decoded (field :: fields) notification =
      (notification, some raised) := by
  rw [fillNotification, fails]

/-- The route and the event are not touched. -/
theorem fillNotification_header :
    (fillNotification python decoded fields notification).1.route = notification.route ∧
      (fillNotification python decoded fields notification).1.event = notification.event := by
  induction fields generalizing notification with
  | nil => exact ⟨rfl, rfl⟩
  | cons field fields ih =>
      cases converted : jsonInt python (field.value decoded) with
      | error raised =>
          rw [fillNotification_cons_error converted]
          exact ⟨rfl, rfl⟩
      | ok value =>
          rw [fillNotification_cons_ok converted]
          simpa using @ih (field.assign notification value)

/-- Without an exception every number is that of the body. -/
theorem fillNotification_converts
    (finished : (fillNotification python decoded fields notification).2 = none) :
    (∀ field ∈ fields,
        Converted python decoded (fillNotification python decoded fields notification).1 field) ∧
      ∀ field ∉ fields, field.read (fillNotification python decoded fields notification).1 =
        field.read notification := by
  induction fields generalizing notification with
  | nil => exact ⟨nofun, fun _ _ => rfl⟩
  | cons field fields ih =>
      cases converted : jsonInt python (field.value decoded) with
      | error raised =>
          rw [fillNotification_cons_error converted] at finished
          cases finished
      | ok value =>
          rw [fillNotification_cons_ok converted] at finished ⊢
          obtain ⟨inside, outside⟩ := ih finished
          constructor
          · intro other member
            by_cases later : other ∈ fields
            · exact inside other later
            · obtain rfl := (List.mem_cons.mp member).resolve_right later
              rw [Converted, outside other later, CommitField.read_assign_self, converted]
          · intro other absent
            rw [outside other fun later => absent (List.mem_cons_of_mem _ later)]
            exact CommitField.read_assign_of_ne fun same => absent (same ▸ List.mem_cons_self)

/-- An infinite float is converted before anything that is refused. -/
def Overflows (python : Interpreter) (decoded : List (CodePoints × JsonValue))
    (fields : List CommitField) : Prop :=
  ∃ before field after, fields = before ++ field :: after ∧ (field.value decoded).IsInfinite ∧
    ∀ earlier ∈ before, ¬ (earlier.value decoded).IsRefused python

theorem overflows_cons {field : CommitField} :
    Overflows python decoded (field :: fields) ↔
      (field.value decoded).IsInfinite ∨
        ¬ (field.value decoded).IsRefused python ∧ Overflows python decoded fields := by
  constructor
  · rintro ⟨before, culprit, after, split, infinite, accepted⟩
    cases before with
    | nil =>
        obtain ⟨rfl, rfl⟩ := List.cons.inj split
        exact Or.inl infinite
    | cons first before =>
        obtain ⟨rfl, rfl⟩ := List.cons.inj split
        exact Or.inr ⟨accepted field List.mem_cons_self, before, culprit, after, rfl, infinite,
          fun earlier member => accepted earlier (List.mem_cons_of_mem _ member)⟩
  · rintro (infinite | ⟨accepted, before, culprit, after, rfl, infinite, others⟩)
    · exact ⟨[], field, fields, rfl, infinite, nofun⟩
    · refine ⟨field :: before, culprit, after, rfl, infinite, fun earlier member => ?_⟩
      rcases List.mem_cons.mp member with rfl | later
      · exact accepted
      · exact others earlier later

theorem fillNotification_overflow_iff (notification : StreamCommitNotification) :
    (fillNotification python decoded fields notification).2 = some .overflowError ↔
      Overflows python decoded fields := by
  induction fields generalizing notification with
  | nil =>
      refine ⟨nofun, ?_⟩
      rintro ⟨before, _, _, empty, _⟩
      exact absurd empty.symm (List.append_ne_nil_of_right_ne_nil _ (List.cons_ne_nil _ _))
  | cons field fields ih =>
      rw [overflows_cons]
      rcases jsonInt_cases python (field.value decoded) with
        ⟨⟨value, converted⟩, finite, accepted⟩ | ⟨fails, finite, refused⟩ |
          ⟨fails, infinite, accepted⟩
      · rw [fillNotification_cons_ok converted, ih]
        simp [finite, accepted]
      · rw [fillNotification_cons_error fails]
        simp [finite, refused]
      · rw [fillNotification_cons_error fails]
        simp [infinite]

end fill

/-- All decoded fields are those of the body. -/
def FromBody (python : Interpreter) (payload : Bytes)
    (notification : StreamCommitNotification) : Prop :=
  ∃ decoded, python.loads payload = some (.object decoded) ∧
    JsonValue.get decoded "event" (.str []) = .str notification.event ∧
      ∀ field, Converted python decoded notification field

/-- A notification for the route is returned, with all fields from the body or
with none. -/
def AllOrNothing (python : Interpreter) (route : CodePoints) (payload : Bytes) : Prop :=
  ∃ notification, decodeStreamCommitNotification python route payload = .ok notification ∧
    notification.route = route ∧
      (notification = { route } ∨ FromBody python payload notification)

/-- The body is an object with a textual event, or none, in which an infinite
float is converted before anything that is refused. -/
def BodyOverflows (python : Interpreter) (payload : Bytes) : Prop :=
  payload ≠ [] ∧ ∃ decoded event, python.loads payload = some (.object decoded) ∧
    JsonValue.get decoded "event" (.str []) = .str event ∧
      Overflows python decoded CommitField.order

section decode

variable {python : Interpreter} {route : CodePoints} {payload : Bytes}

/-- The answer of the handler, once the event has been copied. -/
theorem decode_of_event (exact : isExactRouteShape route "stream" 3 = true)
    (nonempty : payload ≠ []) {decoded : List (CodePoints × JsonValue)} {event : CodePoints}
    (loaded : python.loads payload = some (.object decoded))
    (text : JsonValue.get decoded "event" (.str []) = .str event) :
    decodeStreamCommitNotification python route payload =
      match fillNotification python decoded CommitField.order { route, event } with
      | (filled, none) => .ok filled
      | (_, some .valueError) => .ok { route }
      | (_, some .overflowError) => .error .overflowError := by
  have assertion : assertStreamRoute route = .ok () := if_pos exact
  have filledBody : payload.isEmpty = false := by simpa using nonempty
  unfold decodeStreamCommitNotification
  rw [assertion, filledBody, loaded]
  simp only [text]
  rfl

/-- Every other body gives the defaults. -/
theorem decode_of_no_event (exact : isExactRouteShape route "stream" 3 = true)
    (absent : ¬ (payload ≠ [] ∧ ∃ decoded event,
      python.loads payload = some (.object decoded) ∧
        JsonValue.get decoded "event" (.str []) = .str event)) :
    decodeStreamCommitNotification python route payload = .ok { route } := by
  have assertion : assertStreamRoute route = .ok () := if_pos exact
  unfold decodeStreamCommitNotification
  rw [assertion]
  cases filled : payload.isEmpty with
  | true => rfl
  | false =>
      have nonempty : payload ≠ [] := by simpa using filled
      dsimp only [bind, Except.bind]
      rw [if_neg Bool.false_ne_true]
      split
      · next decoded loaded =>
          split
          · next event text => exact absurd ⟨nonempty, decoded, event, loaded, text⟩ absent
          · rfl
      · rfl

/-- The decoder fails its promise on the bodies that overflow, and there only. -/
theorem allOrNothing_iff (exact : isExactRouteShape route "stream" 3 = true) :
    AllOrNothing python route payload ↔ ¬ BodyOverflows python payload := by
  by_cases textual : payload ≠ [] ∧ ∃ decoded event,
      python.loads payload = some (.object decoded) ∧
        JsonValue.get decoded "event" (.str []) = .str event
  · obtain ⟨nonempty, decoded, event, loaded, text⟩ := textual
    have decoding := decode_of_event exact nonempty loaded text
    have overflows_iff : BodyOverflows python payload ↔
        Overflows python decoded CommitField.order := by
      constructor
      · rintro ⟨_, other, _, loadedOther, _, overflows⟩
        rw [loaded] at loadedOther
        cases loadedOther
        exact overflows
      · exact fun overflows => ⟨nonempty, decoded, event, loaded, text, overflows⟩
    rw [overflows_iff, ← fillNotification_overflow_iff { route, event }]
    have header := @fillNotification_header python decoded { route, event } CommitField.order
    have converts := @fillNotification_converts python decoded { route, event } CommitField.order
    generalize fillNotification python decoded CommitField.order { route, event } = answer
      at decoding header converts ⊢
    obtain ⟨filled, raised⟩ := answer
    cases raised with
    | none =>
        refine ⟨fun _ => nofun, fun _ => ⟨filled, decoding, header.1, Or.inr ?_⟩⟩
        obtain ⟨_, named⟩ := header
        exact ⟨decoded, loaded, text.trans (congrArg _ named.symm),
          fun field => (converts rfl).1 field field.mem_order⟩
    | some error =>
        cases error with
        | valueError => exact ⟨fun _ => nofun, fun _ => ⟨_, decoding, rfl, Or.inl rfl⟩⟩
        | overflowError =>
            refine ⟨?_, fun never => absurd rfl never⟩
            rintro ⟨_, returned, _⟩
            rw [decoding] at returned
            cases returned
  · have decoding := decode_of_no_event exact textual
    refine ⟨fun _ => ?_, fun _ => ⟨_, decoding, rfl, Or.inl rfl⟩⟩
    rintro ⟨nonempty, decoded, event, loaded, text, _⟩
    exact textual ⟨nonempty, decoded, event, loaded, text⟩

end decode

/-- An interpreter that reads one body. -/
def Interpreter.reading (entries : List (String × JsonValue)) : Interpreter where
  decimal _ := none
  isSpace _ := false
  maxStrDigits := 4300
  loads _ := some (.object (entries.map fun entry => (CodePoints.ofString entry.1, entry.2)))

/-- A text and a float are converted. -/
theorem allOrNothing_of_text :
    ∃ notification, decodeStreamCommitNotification
        (.reading [("event", .str [0x63]), ("batch_size", .str [0x20, 0x31, 0x5F, 0x30]),
          ("last_area_offset", .float (.finite (-5) (-1)))])
        (.ofString "stream://realm/area/resource") [0x7B] = .ok notification ∧
      notification.batchSize = 10 ∧ notification.lastAreaOffset = -2 ∧
      ¬ BodyOverflows
        (.reading [("event", .str [0x63]), ("batch_size", .str [0x20, 0x31, 0x5F, 0x30]),
          ("last_area_offset", .float (.finite (-5) (-1)))]) [0x7B] :=
  ⟨_, rfl, rfl, rfl, (@allOrNothing_iff _ (.ofString "stream://realm/area/resource") _ rfl).mp
    ⟨_, rfl, rfl, Or.inr ⟨_, rfl, rfl, fun field => by cases field <;> rfl⟩⟩⟩

/-- The text `1e400` is read as an infinite float. -/
theorem infinite_batch_size_raises :
    isExactRouteShape (.ofString "stream://realm/area/resource") "stream" 3 = true ∧
      ¬ AllOrNothing (.reading [("batch_size", .float (.infinite false))])
        (.ofString "stream://realm/area/resource")
        ((CodePoints.ofString "\x7b\"batch_size\": 1e400\x7d").map UInt8.ofNat) := by
  refine ⟨by decide +kernel, ?_⟩
  rintro ⟨_, returned, _⟩
  cases returned

end FitzClient
