import WireShapes.Schema.Event
import WireShapes.Schema.Response

/-!
A service that stores records: its shapes, its operations and its stream of events.

* `RecordShape`: the names of the shapes
* `records`: the shapes
* `getRecord`, `putRecord`, `subscribe`, `publish`: the operations
* `recordEvents`: the events
-/

namespace WireShapes

/-- The names of the shapes. -/
inductive RecordShape
  | string
  | int
  | bool
  | bytes
  | id
  | title
  | priority
  | status
  | tags
  | item
  | record
  | node
  | nodes
  | linked
  | payload
  | getRecordInput
  | getRecordOutput
  | recordNotFound
  | putRecordInput
  | putRecordOutput
  | subscribeInput
  | subscribeOutput
  | publishInput
  | publishOutput
  | recordEvents
  | recordCreated
  | recordArchived
  | throttled
deriving DecidableEq, Repr

namespace RecordShape

def name : RecordShape → String
  | string => "String"
  | int => "Integer"
  | bool => "Boolean"
  | bytes => "Blob"
  | id => "Id"
  | title => "Title"
  | priority => "Priority"
  | status => "Status"
  | tags => "Tags"
  | item => "Item"
  | record => "Record"
  | node => "Node"
  | nodes => "Nodes"
  | linked => "Linked"
  | payload => "Payload"
  | getRecordInput => "GetRecordInput"
  | getRecordOutput => "GetRecordOutput"
  | recordNotFound => "RecordNotFound"
  | putRecordInput => "PutRecordInput"
  | putRecordOutput => "PutRecordOutput"
  | subscribeInput => "SubscribeInput"
  | subscribeOutput => "SubscribeOutput"
  | publishInput => "PublishInput"
  | publishOutput => "PublishOutput"
  | recordEvents => "RecordEvents"
  | recordCreated => "RecordCreated"
  | recordArchived => "RecordArchived"
  | throttled => "Throttled"

/-- The shapes that are read and written as whole documents. -/
def documents : List RecordShape :=
  [tags, item, record, node, linked, payload, getRecordInput, getRecordOutput, recordNotFound,
    putRecordInput, putRecordOutput, subscribeInput, subscribeOutput, publishInput, publishOutput,
    recordCreated, recordArchived, throttled]

/-- The id of a record, which travels in the path where it belongs to a request. -/
def idMember (place : Schema.Place) : Schema.Member RecordShape := ⟨"id", id, true, none, place⟩

def optional (name : String) (target : RecordShape) (place : Schema.Place) : Schema.Member RecordShape :=
  ⟨name, target, false, none, place⟩

/-- The end of the stream of events, which has to be there. -/
def streamMember : Schema.Member RecordShape := ⟨"events", recordEvents, true, none, .stream⟩

def shape : RecordShape → Schema.Shape RecordShape
  | string => .text .free
  | int => .integer none
  | bool => .boolean
  | bytes => .blob
  | id => .text ⟨some ⟨1, 16⟩, some "^[a-z]+$"⟩
  | title => .text ⟨some ⟨1, 5⟩, none⟩
  | priority => .integer (some ⟨1, 5⟩)
  | status => .enumeration [("Active", "active"), ("Archived", "archived")]
  | tags => .list string
  | item => .struct [idMember .body, optional "tags" tags .body]
  | record => .struct [idMember .body, optional "tags" tags .body, optional "title" title .body,
      ⟨"status", status, false, some (.symbol "active"), .body⟩, optional "priority" priority .body]
  | node => .struct [⟨"value", string, true, none, .body⟩, optional "children" nodes .body]
  | nodes => .list node
  | linked => .struct [optional "label" string .body, optional "next" linked .body]
  | payload => .union [optional "text" string .body, optional "count" int .body,
      optional "record" record .body]
  | getRecordInput => .struct [idMember .label, optional "verbose" bool (.query "verbose")]
  | getRecordOutput => .struct [optional "record" record .body,
      optional "etag" string (.header "etag")]
  | recordNotFound => .struct [optional "message" string .body]
  | putRecordInput => .struct [idMember .label, optional "tags" tags (.query "tag"),
      optional "trace" string (.header "x-trace"), optional "title" title .body]
  | putRecordOutput => .struct [optional "created" bool .body]
  | subscribeInput => .struct [idMember .label]
  | subscribeOutput => .struct [streamMember]
  | publishInput => .struct [idMember .label, streamMember]
  | publishOutput => .struct []
  | recordEvents => .stream
  | recordCreated => .struct [optional "id" string .eventHeader, optional "title" string .body]
  | recordArchived => .struct [optional "id" string .eventHeader, optional "reason" bytes .eventPayload]
  | throttled => .struct [optional "message" string .body]

end RecordShape

/-- The shapes of the service. -/
def records : Schema RecordShape := ⟨"example.records", RecordShape.name, RecordShape.shape⟩

namespace Records

def getRecord : Schema.Operation RecordShape :=
  ⟨"GetRecord", "GET", "/records/\x7bid\x7d", 200, .getRecordInput, .getRecordOutput,
    [(.recordNotFound, 404)]⟩

def putRecord : Schema.Operation RecordShape :=
  ⟨"PutRecord", "PUT", "/records/\x7bid\x7d", 201, .putRecordInput, .putRecordOutput, []⟩

def subscribe : Schema.Operation RecordShape :=
  ⟨"Subscribe", "GET", "/records/\x7bid\x7d/events", 200, .subscribeInput, .subscribeOutput, []⟩

def publish : Schema.Operation RecordShape :=
  ⟨"Publish", "POST", "/records/\x7bid\x7d/events", 200, .publishInput, .publishOutput, []⟩

def operations : List (Schema.Operation RecordShape) := [getRecord, putRecord, subscribe, publish]

/-- Records that come and go, and a plea to slow down. -/
def recordEvents : Schema.EventStream RecordShape :=
  ⟨"RecordEvents", [("created", .recordCreated), ("archived", .recordArchived)],
    [("throttled", .throttled)]⟩

end Records

end WireShapes
