set_option autoImplicit false

namespace QueryWorkload

inductive EntityKind where
  | host
  | cluster
  | replicaSet
  | group
  | org
  deriving DecidableEq, Repr

namespace EntityKind

def word : EntityKind → String
  | .host => "host"
  | .cluster => "cluster"
  | .replicaSet => "replica"
  | .group => "group"
  | .org => "org"

def tag : EntityKind → String
  | .host => "hostname"
  | .cluster => "clusterName"
  | .replicaSet => "replicaSetName"
  | .group => "groupId"
  | .org => "orgId"

end EntityKind

def stateTag : String := "replicaSetState"

def primaryState : String := "PRIMARY"

end QueryWorkload
