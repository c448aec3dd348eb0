import SessionMux.Datum
import SessionMux.Monitor.Event

/-!
Events as records. A record holds the device, the time, the kind of change under `type`, and the
fields of the change beside them; fields without a meaning are passed over.
-/

namespace SessionMux

/-- Reads a choice that carries nothing: its word, or a record of one field with that name and an
empty value. -/
def Datum.choice? (items : List (String × α)) : Datum → Option α
  | .text word => items.lookup word
  | .record [(word, .null)] => items.lookup word
  | .record [(word, .record [])] => items.lookup word
  | _ => none

namespace ErrorCode

/-- A code without a word is a record of one field, `Other`, with its number. -/
def toDatum (code : ErrorCode) : Datum :=
  match code.word? with
  | some word => .text word
  | none => .record [("Other", .nat code.toNumber.toNat)]

def ofDatum? : Datum → Option ErrorCode
  | .record [("Other", number)] => (number.below? 65536).map fun n => other (UInt16.ofNat n)
  | datum => datum.choice? (named.filterMap fun code => code.word?.map (·, code))

end ErrorCode

def Level.ofDatum? (datum : Datum) : Option Level :=
  datum.choice? (Level.all.map fun level => (level.word, level))

def Transport.ofDatum? (datum : Datum) : Option Transport :=
  datum.choice? (Transport.all.map fun transport => (transport.name, transport))

namespace ErrorReport

def toFields (report : ErrorReport) (id : Uuid) : List (String × Datum) :=
  [("error_id", .text id.text), ("error_code", report.code.toDatum),
    ("level", .text report.level.word), ("message", .text report.message)]

def ofParts? (id code level message : Datum) : Option (ErrorReport × Uuid) := do
  let id ← Uuid.ofText? (← id.text?)
  let code ← ErrorCode.ofDatum? code
  let level ← Level.ofDatum? level
  let message ← message.text?
  some ({ code, level, message }, id)

def ofFields? (fields : List (String × Datum)) : Option (ErrorReport × Uuid) := do
  ofParts? (← fields.lookup "error_id") (← fields.lookup "error_code") (← fields.lookup "level")
    (← fields.lookup "message")

/-- An error inside another record may also be the list of its fields' values. -/
def ofDatum? : Datum → Option (ErrorReport × Uuid)
  | .record fields => ofFields? fields
  | .list [id, code, level, message] => ofParts? id code level message
  | _ => none

end ErrorReport

namespace Change

def toFields (change : Change) (id : Uuid) : List (String × Datum) :=
  match change with
  | channelCreate callHome transport =>
    [("call_home", .bool callHome), ("channel_type", .text transport.name)]
  | channelClose => []
  | channelError report => report.toFields id
  | sessionCreate session port =>
    [("session_id", .nat session.toNat), ("port", .nat port.toNat)]
  | sessionClose session => [("session_id", .nat session.toNat)]
  | sessionError session report =>
    [("session_id", .nat session.toNat), ("error", .record (report.toFields id))]
  | sessionTransaction session bytesIn bytesOut =>
    [("session_id", .nat session.toNat), ("bytes_in", .nat bytesIn), ("bytes_out", .nat bytesOut)]

/-- The names of the kinds of change. A record may give a kind by its place in this list. -/
def names : List String :=
  ["channel_create", "channel_close", "channel_error", "session_create", "session_close",
    "session_error", "session_transaction"]

def name? : Datum → Option String
  | .text name => if names.contains name then some name else none
  | .int place => if 0 ≤ place then names[place.toNat]? else none
  | _ => none

def sessionOf? (fields : List (String × Datum)) : Option UInt32 := do
  some (UInt32.ofNat (← (← fields.lookup "session_id").below? 4294967296))

def ofFields? (name : String) (fields : List (String × Datum)) : Option (Change × Uuid) :=
  match name with
  | "channel_create" => do
    let callHome ← (← fields.lookup "call_home").bool?
    let transport ← Transport.ofDatum? (← fields.lookup "channel_type")
    some (channelCreate callHome transport, default)
  | "channel_close" => some (channelClose, default)
  | "channel_error" => do
    let (report, id) ← ErrorReport.ofFields? fields
    some (channelError report, id)
  | "session_create" => do
    let session ← sessionOf? fields
    let port ← (← fields.lookup "port").below? 65536
    some (sessionCreate session (UInt16.ofNat port), default)
  | "session_close" => do
    some (sessionClose (← sessionOf? fields), default)
  | "session_error" => do
    let session ← sessionOf? fields
    let (report, id) ← ErrorReport.ofDatum? (← fields.lookup "error")
    some (sessionError session report, id)
  | "session_transaction" => do
    let session ← sessionOf? fields
    let bytesIn ← (← fields.lookup "bytes_in").below? 18446744073709551616
    let bytesOut ← (← fields.lookup "bytes_out").below? 18446744073709551616
    some (sessionTransaction session bytesIn bytesOut, default)
  | _ => none

end Change

namespace Event

def toDatum (event : Event) : Datum :=
  .record ([("device_id", .text event.device), ("timestamp", .text event.stamp.text),
    ("type", .text event.change.name)] ++ event.change.toFields event.errorId)

def ofDatum? (datum : Datum) : Option Event := do
  let fields ← datum.record?
  let device ← (← fields.lookup "device_id").text?
  let stamp ← Stamp.ofText? (← (← fields.lookup "timestamp").text?)
  let name ← Change.name? (← fields.lookup "type")
  let (change, errorId) ← Change.ofFields? name fields
  some { device, stamp, change, errorId }

end Event

end SessionMux
