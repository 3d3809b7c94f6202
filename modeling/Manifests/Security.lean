import Manifests.Object.Pod
import Manifests.Service
import Manifests.Text.Integer
import Manifests.Text.Pieces

/-! What the containers of a service may do. -/

namespace Manifests

/-- An id that is not negative. -/
def id? (s : List Char) : Option Int := (Text.int64? s).filter (0 ≤ ·)

/-- The user and group ids of `UID` or `UID:GID`; other texts give none. -/
def userAndGroup (s : String) : Option Int × Option Int :=
  match Text.pieces ':' s.toList with
  | [uid] => (id? uid, none)
  | [uid, gid] => (id? uid, id? gid)
  | _ => (none, none)

namespace Service

variable (s : Service)

def containerSecurity : Option ContainerSecurity :=
  let ids := ((filled s.user).map userAndGroup).getD (none, none)
  let security : ContainerSecurity :=
    { capAdd := s.capAdd, capDrop := s.capDrop, privileged := s.privileged
      readOnlyRoot := s.readOnly, user := ids.1, group := ids.2 }
  if security = {} then none else some security

def podSecurity : Option PodSecurity :=
  let security : PodSecurity :=
    { fsGroup := nonzero s.fsGroup, supplementalGroups := s.groupAdd }
  if security = {} then none else some security

end Service

end Manifests
