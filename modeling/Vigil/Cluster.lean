import Vigil.InstanceId
import Vigil.Sorted.Map

/-!
A cluster as one of its instances sees it: the members in the order in which they joined, and the
holders of roles.
-/

namespace Vigil

/-- The role of the instance that coordinates the cluster. -/
def coordinatorRole : String := "coordinator"

structure Cluster where
  me : InstanceId
  members : List InstanceId
  roles : SortedMap String InstanceId
  deriving DecidableEq, Repr

namespace Cluster

def isMember (c : Cluster) (id : InstanceId) : Bool := c.members.contains id

def isMe (c : Cluster) (id : InstanceId) : Bool := c.me == id

/-- Put a new member at the end. The answer tells whether it is new. -/
def join (c : Cluster) (id : InstanceId) : Cluster × Bool :=
  if c.isMember id then (c, false) else ({ c with members := c.members ++ [id] }, true)

/-- Remove a member and take all roles from it, a member or not. The answer tells whether it was
a member. -/
def leave (c : Cluster) (id : InstanceId) : Cluster × Bool :=
  let members := c.members.filter (· != id)
  let roles := ⟨c.roles.toList.filter (fun e => e.2 != id), c.roles.increasing.filter _⟩
  ({ c with members, roles }, members.length != c.members.length)

/-- Give a role to an instance, which need not be a member. -/
def elect (c : Cluster) (role : String) (id : InstanceId) : Cluster :=
  { c with roles := c.roles.insert role id }

def elected (c : Cluster) (role : String) : Option InstanceId := c.roles.get? role

/-- Take a role from its holder, who is the answer. -/
def unelect (c : Cluster) (role : String) : Cluster × Option InstanceId :=
  ({ c with roles := c.roles.erase role }, c.elected role)

/-- Repeated members keep their first place. -/
def ofMembers (me : InstanceId) (members : List InstanceId) : Cluster :=
  members.foldl (fun c id => (c.join id).1) ⟨me, [], ∅⟩

/-- The members other than this instance. -/
def peers (c : Cluster) : List InstanceId := c.members.filter (· != c.me)

/-- The coordinator: whoever holds the role, or else the first member. -/
def coordinator? (c : Cluster) : Option InstanceId :=
  match c.elected coordinatorRole with
  | some id => some id
  | none => c.members.head?

end Cluster

/-- A change of the membership or of the roles. -/
inductive ClusterChange where
  | join (id : InstanceId)
  | leave (id : InstanceId)
  | elect (role : String) (id : InstanceId)
  | unelect (role : String)
  deriving DecidableEq, Repr

/-- What a change answers. -/
inductive ClusterAnswer where
  | changed (b : Bool)
  | holder (id : Option InstanceId)
  | nothing
  deriving DecidableEq, Repr

def Cluster.apply (c : Cluster) : ClusterChange → Cluster × ClusterAnswer
  | .join id => let (c, b) := c.join id; (c, .changed b)
  | .leave id => let (c, b) := c.leave id; (c, .changed b)
  | .elect role id => (c.elect role id, .nothing)
  | .unelect role => let (c, h) := c.unelect role; (c, .holder h)

end Vigil
