/-!
# Lock pools

A fixed number of locks shared by all devices. A device is given the lock that its hash falls on,
so one device always gets the same lock, and two devices may share one.
-/

set_option autoImplicit false

namespace MeterSync

structure LockPool where
  count : Nat
  positive : 0 < count

namespace LockPool

/-- The number of locks of a pool that is not told how many to have. -/
def defaultStripes : UInt64 := 30

/-- The greatest number of locks that can be asked for. A lock takes up a byte, and no more bytes
than these can be addressed. -/
def maxStripes : UInt64 := 0x7FFFFFFFFFFFFFFF

/-- The pool with this many locks, or with one if none is asked for. -/
def ofStripes (stripes : UInt64) : LockPool :=
  ⟨max stripes.toNat 1, by omega⟩

def stripe (pool : LockPool) (hash : UInt64) : Fin pool.count :=
  ⟨hash.toNat % pool.count, Nat.mod_lt _ pool.positive⟩

end LockPool

end MeterSync
