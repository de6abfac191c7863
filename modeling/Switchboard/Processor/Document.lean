import Switchboard.Processor.Text

/-!
# Documents: reading and writing structured values
-/

namespace Switchboard.Processor

/-- Reads the document that bytes or a text hold. -/
def readJson (document : Bytes) : Processed :=
  match Json.read document with
  | .ok v => .passed (.json v)
  | .error failure => .failed (.invalidInput ("invalid JSON: " ++ failure.message))

/-- Bytes and texts become the values of their documents. -/
def decodeJson : Payload → Processed
  | .json j => .passed (.json j)
  | .text s => readJson (Utf8.encode s)
  | .bytes b => readJson b
  | p => .failed (.payload (p.mismatch bytesOrText))

/-- A value becomes the compact text of its document. -/
def encodeJson : Payload → Processed
  | .json j => .passed (.text j.text)
  | .text s => .passed (.text (Json.string s).text)
  | .int i => .passed (.text (Json.ofInt i.toInt).text)
  | .bool b => .passed (.text (Json.bool b).text)
  | .float f =>
    if f.isFinite then .passed (.text (Json.number (.float f)).text)
    else .failed (.invalidInput (Decimal.Layout.plain.write f ++ " has no JSON representation"))
  | p => .failed (.payload (p.mismatch "json, text, number or bool"))

/-- Reads documents. -/
def jsonDecode : Processor := .quiet "json.decode" decodeJson

/-- Writes documents. -/
def jsonEncode : Processor := .quiet "json.encode" encodeJson

end Switchboard.Processor
