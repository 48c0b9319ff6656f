/-!
# Bytes

What travels on the bus, first byte first.
-/

namespace FlashIdent

/-- A finite run of bytes. -/
abbrev Bytes : Type := List UInt8

end FlashIdent
