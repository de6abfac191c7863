/-!
# Byte strings

A message on the wire is a list of bytes.
-/

namespace Switchboard

/-- A byte string, first byte first. -/
abbrev Bytes := List UInt8

end Switchboard
