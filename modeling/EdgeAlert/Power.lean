/-!
# Powers

Powers of naturals and of integers are those of the core library wherever this namespace is open, also
when other instances of `Pow` are in sight.
-/

namespace EdgeAlert

attribute [scoped instance (high)] instPowNat

end EdgeAlert
