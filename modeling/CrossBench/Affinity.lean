/-!
# Pinning

A run can be pinned to a processor core, and the processes that it starts go where it goes. It is
pinned if the system offers that core; otherwise the run goes on unpinned. Which core a run uses
shows in its times only.
-/

namespace CrossBench

/-- Whether a run can be pinned to `core`, where the system offers the cores `offered`. -/
def canPin (offered : List UInt64) (core : UInt64) : Bool := offered.contains core

end CrossBench
