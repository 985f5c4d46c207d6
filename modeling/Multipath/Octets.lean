/-!
# Words as bytes

Fixed-width words laid out as bytes, and read back.

* `bigEndian16`, `bigEndian32` write the most significant byte first, the order of addresses and
  protocol headers.
* `ofBigEndian32` reads such a layout back.
* `ofLittleEndian` assembles up to four bytes, least significant first, the order in which hash
  blocks are read.  Missing bytes count as zero.
-/

namespace Multipath

/-- The two bytes of `w`, most significant first. -/
def bigEndian16 (w : UInt16) : List UInt8 :=
  [(w >>> 8).toUInt8, w.toUInt8]

/-- The four bytes of `w`, most significant first. -/
def bigEndian32 (w : UInt32) : List UInt8 :=
  [(w >>> 24).toUInt8, (w >>> 16).toUInt8, (w >>> 8).toUInt8, w.toUInt8]

/-- The word whose bytes are `a`, `b`, `c`, `d`, most significant first. -/
def ofBigEndian32 (a b c d : UInt8) : UInt32 :=
  a.toUInt32 <<< 24 ||| b.toUInt32 <<< 16 ||| c.toUInt32 <<< 8 ||| d.toUInt32

/-- The word whose bytes are `a`, `b`, `c`, `d`, least significant first. -/
def ofLittleEndian (a b c d : UInt8) : UInt32 :=
  ofBigEndian32 d c b a

@[simp] theorem length_bigEndian16 (w : UInt16) : (bigEndian16 w).length = 2 := rfl

@[simp] theorem length_bigEndian32 (w : UInt32) : (bigEndian32 w).length = 4 := rfl

end Multipath
