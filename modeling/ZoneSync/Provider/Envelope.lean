import ZoneSync.Decoding

/-!
# Envelopes

Every answer of the provider comes in an envelope: whether it succeeded, with which code, a message
for a reader, and the data that was asked for.
-/

namespace ZoneSync

structure Envelope where
  status : String
  code : Int
  shortMessage : Option String
  longMessage : Option String
  data : Json

namespace Envelope

def blank : Envelope :=
  ⟨"", 0, none, none, .null⟩

def shape : Decode.Shape Envelope where
  name := "ResponseEnvelope"
  blank := blank
  fields := [
    ⟨"status", true, fun value envelope =>
      return { envelope with status := ← Decode.string value }⟩,
    ⟨"statuscode", false, fun value envelope =>
      return { envelope with code := ← Decode.int64 value }⟩,
    ⟨"shortmessage", false, fun value envelope =>
      return { envelope with shortMessage := ← Decode.optionalString value }⟩,
    ⟨"longmessage", false, fun value envelope =>
      return { envelope with longMessage := ← Decode.optionalString value }⟩,
    ⟨"responsedata", false, fun value envelope => return { envelope with data := value }⟩]

def decode (value : Json) : Except DecodeError Envelope :=
  shape.decode value

def succeeded (envelope : Envelope) : Bool :=
  envelope.status == "success"

/-- The best message there is. -/
def message (envelope : Envelope) : String :=
  (envelope.longMessage.or envelope.shortMessage).getD s!"status '{envelope.status}'"

/-- The envelope that is written in a text. -/
def parse? (text : String) : Option Envelope :=
  shape.parse? text

end Envelope

end ZoneSync
