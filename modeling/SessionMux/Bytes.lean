/-!
Byte strings, and 16-bit and 32-bit numbers written in network order.
-/

namespace SessionMux

abbrev Bytes := List UInt8

namespace Bytes

/-- The two bytes of a number, most significant first. -/
def ofUInt16 (value : UInt16) : Bytes :=
  [UInt8.ofNat (value.toNat / 256), UInt8.ofNat (value.toNat % 256)]

def toUInt16 (high low : UInt8) : UInt16 :=
  UInt16.ofNat (high.toNat * 256 + low.toNat)

def ofUInt32 (value : UInt32) : Bytes :=
  [UInt8.ofNat (value.toNat / 16777216), UInt8.ofNat (value.toNat / 65536 % 256),
    UInt8.ofNat (value.toNat / 256 % 256), UInt8.ofNat (value.toNat % 256)]

def toUInt32 (first second third fourth : UInt8) : UInt32 :=
  UInt32.ofNat (first.toNat * 16777216 + second.toNat * 65536 + third.toNat * 256 + fourth.toNat)

@[simp]
theorem length_ofUInt16 (value : UInt16) : (ofUInt16 value).length = 2 := rfl

@[simp]
theorem length_ofUInt32 (value : UInt32) : (ofUInt32 value).length = 4 := rfl

end Bytes

end SessionMux
