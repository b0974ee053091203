import WireShapes.Stream.Message

/-!
The two ends of an event stream.

* `Receiver`: messages are pushed in and taken out as events; the first failure ends the stream
* `Sender`: events wait to be turned into messages
-/

namespace WireShapes.Stream

/-- What a message turns out to be. -/
inductive Outcome (ε φ : Type)
  | event (e : ε)
  | failure (f : φ)
deriving DecidableEq, Repr

/-- What taking from a receiver gives. -/
inductive Received (ε φ : Type)
  | nothing
  | event (e : ε)
  | modeled (f : φ)
  | stream (fault : StreamFault)
deriving DecidableEq, Repr

/-- Messages that wait, and whether the stream has ended. -/
structure Receiver where
  waiting : List Message
  ended : Bool
deriving DecidableEq, Repr

namespace Receiver

def empty : Receiver := ⟨[], false⟩

def push (r : Receiver) (m : Message) : Receiver := { r with waiting := r.waiting ++ [m] }

/-- Takes the first message that waits and reads it. -/
def receive {ε φ : Type} (unmarshall : Message → Except StreamFault (Outcome ε φ)) (r : Receiver) :
    Received ε φ × Receiver :=
  if r.ended then (.nothing, r)
  else
    match r.waiting with
    | [] => (.nothing, r)
    | m :: rest =>
      match unmarshall m with
      | .ok (.event e) => (.event e, ⟨rest, false⟩)
      | .ok (.failure f) => (.modeled f, ⟨rest, true⟩)
      | .error fault => (.stream fault, ⟨rest, true⟩)

/-- The state of a receiver whose reader has the given name. -/
def debug (unmarshaller : String) (r : Receiver) : String :=
  s!"Receiver \x7b unmarshaller: {unmarshaller}, buffered: {r.waiting.length}, " ++
    s!"terminated: {r.ended} \x7d"

end Receiver

/-- Events that wait to be sent. -/
structure Sender (ε : Type) where
  waiting : List ε
deriving DecidableEq, Repr

namespace Sender

variable {ε : Type}

def empty : Sender ε := ⟨[]⟩

def send (s : Sender ε) (e : ε) : Sender ε := ⟨s.waiting ++ [e]⟩

/-- The messages of events in order, up to the first that cannot be written. -/
def marshallAll (marshall : ε → Except StreamFault Message) :
    List ε → Except StreamFault (List Message)
  | [] => .ok []
  | e :: rest => do
    let m ← marshall e
    let more ← marshallAll marshall rest
    .ok (m :: more)

def messages (s : Sender ε) (marshall : ε → Except StreamFault Message) :
    Except StreamFault (List Message) :=
  marshallAll marshall s.waiting

def debug (s : Sender ε) : String := s!"Sender \x7b pending: {s.waiting.length} \x7d"

end Sender

end WireShapes.Stream
