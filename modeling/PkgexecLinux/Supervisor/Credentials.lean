import PkgexecLinux.Filesystem.HostShape
import PkgexecLinux.Foundation.Searching
import PkgexecLinux.Supervisor.Outcome

/-!
# The credentials of a request

Both backends admit only the credentials that they have themselves.  `current_groups` asks
for the number of supplementary groups and then for the groups; another thread may change
them in between.  It returns what it has found as an increasing list without the primary
group, and a request has to list them in the same way.
-/

namespace PkgexecLinux.Supervisor

open Foundation
open Filesystem (Credentials HostTree HostRequest HostBinding Path isAbsolute
  validateHostRequestShape)

/-- `EINVAL`. -/
def invalidArgument : UInt32 := 22

/-- What the process finds out about its credentials.  `first` and `second` are its groups at
the two calls of `getgroups`, or the errors of these calls. -/
structure CredentialCalls where
  userId : Nat
  groupId : Nat
  first : Except UInt32 (List Nat)
  second : Except UInt32 (List Nat)

/-- `getgroups` with room for `size` groups. -/
def getgroups (held : Except UInt32 (List Nat)) (size : Nat) : Except UInt32 (List Nat) :=
  match held with
  | .error errno => .error errno
  | .ok groups => if groups.length ≤ size then .ok groups else .error invalidArgument

namespace CredentialCalls

/-- The vector that `getgroups` has filled: zero where it has written nothing. -/
def native (calls : CredentialCalls) : Except UInt32 (List Nat) :=
  match calls.first with
  | .error errno => .error errno
  | .ok held =>
      if 0 < held.length then
        match getgroups calls.second held.length with
        | .error errno => .error errno
        | .ok written => .ok (written ++ List.replicate (held.length - written.length) 0)
      else
        .ok []

end CredentialCalls

section Checks

variable (std : StdSort (Comparison.linear Nat)) (strerror : UInt32 → String)
variable (calls : CredentialCalls)

end Checks

/-! ## What is accepted -/

section Accepted

variable {std : StdSort (Comparison.linear Nat)} {strerror : UInt32 → String}
variable {calls : CredentialCalls} {requested : Credentials}

end Accepted

end PkgexecLinux.Supervisor
