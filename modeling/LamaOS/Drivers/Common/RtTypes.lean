import Mathlib.Init

/-!
# Basic driver types

The part of `drivers/common/rt_types.h` and `drivers/common/rt_drivers.h` that the modelled
functions use. Machine integers are bit vectors of the width the source gives them; the
two signed 16-bit fields of the mouse driver are read in two's complement. The project is
built for x86-64 (`README.md`, `RT_Size`), so a pointer is a 64-bit word; a pointer argument
that the code compares with `NULL` is an `Option`, with `none` for the null pointer.
-/

namespace LamaOS

abbrev RtU8 := BitVec 8
abbrev RtU16 := BitVec 16
abbrev RtU32 := BitVec 32
abbrev RtU64 := BitVec 64

/-- `RT_S16`; `BitVec.toInt` is its value. -/
abbrev RtS16 := BitVec 16

/-- An object address. -/
abbrev RtPtr := BitVec 64

/-- `RT_IOPort`: a port number is a 32-bit word, whatever the bus can address. -/
abbrev RtIoPort := RtU32

/-- `MAX_IO_PORTS` of `rt_drivers.h`. -/
abbrev maxIoPorts : Nat := 1024

/-- A string literal, as the UTF-8 bytes before its terminating zero. -/
def cString (s : String) : List RtU8 :=
  s.toList.flatMap fun c => (String.utf8EncodeChar c).map UInt8.toBitVec

/-- `RT_DriverState`. -/
inductive RtDriverState where
  | uninitialized
  | initializing
  | ready
  | running
  | stopping
  | stopped
  | error
  | suspended
  deriving DecidableEq, Repr, Inhabited

/-- The codes returned as `RT_ErrorCode`: the enumeration of `rt_drivers.h`, and the three
values `0x1001` to `0x1003` that `io_port.h` adds as macros and returns under that type. -/
inductive RtErrorCode where
  | success
  | invalidParameter
  | notInitialized
  | alreadyInitialized
  | noMemory
  | hardwareFault
  | timeout
  | busy
  | notSupported
  | ioError
  | portLocked
  | invalidPort
  | portNotInitialized
  deriving DecidableEq, Repr

/-- `RT_Driver`, reduced to the one field the drivers read and write. -/
structure RtDriver where
  state : RtDriverState
  deriving DecidableEq, Repr, Inhabited

end LamaOS
