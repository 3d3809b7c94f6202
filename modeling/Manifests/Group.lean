import Manifests.Label

/-! Services that share a workload. -/

namespace Manifests

structure Group where
  id : String
  /-- The workload of the group. -/
  name : String
  /-- In the order of the services' names. -/
  members : List Service
deriving DecidableEq

namespace Group

/-- The group that a service belongs to; the empty text stands for none. -/
def idOf (s : Service) (mode : Option String) : String :=
  match mode with
  | some "label" => (s.labels.get? Label.group).getD ""
  | some "volume" => .join (s.volumes.map DeclaredVolume.fingerprint)
  | _ => ""

/-- A service as a member carries its key as its name. -/
def enroll (mode : Option String) (key : String) (s : Service) : Service :=
  if idOf s mode = "" then s else { s with name := key, inGroup := true }

def join (d : Dict (List Service)) (id : String) (s : Service) : Dict (List Service) :=
  d.insert id ((d.get? id).getD [] ++ [s])

/-- One more service, with the others of its group if it has one. -/
def take (mode : Option String) (d : Dict (List Service)) (e : String × Service) :
    Dict (List Service) :=
  if idOf e.2 mode = "" then d else join d (idOf e.2 mode) (enroll mode e.1 e.2)

def workloadName (mode : Option String) (id : String) (members : List Service) : String :=
  if mode = some "volume" then resourceName ((members.head?.map (·.name)).getD id)
  else resourceName id

end Group

/-- The groups in the order of their ids. -/
def groupsOf (services : Dict Service) (mode : Option String) : List Group :=
  (services.entries.foldl (Group.take mode) ∅).entries.map fun (id, members) =>
    ⟨id, Group.workloadName mode id members, members⟩

/-- The services, with those in a group marked. -/
def enrolled (services : Dict Service) (mode : Option String) : Dict Service :=
  services.map (Group.enroll mode)

end Manifests
