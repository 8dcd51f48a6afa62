import StackAws.Types

/-!
What a pass sends to the cluster it provisioned once the worker stack completed:
`generateAWSAuthConfigMap`, `_awsauth` and `_secret` (`eks.go`, lines 200-284 and 348-365). In
`Reconcile` they are the calls `awsauth` and `secret`, which the world answers freely; here is
what they do.

`yaml.Marshal` (ghodss/yaml), the `eks.Client`'s `ConnectionToken`,
`base64.StdEncoding.DecodeString`, `kubernetes.NewForConfig` and the connection publisher are not
in this repository: `Outside` holds their answers. The remote cluster's ConfigMaps are modelled
from the Kubernetes API: `Create` and `Update` may fail for a reason of their own and then change
nothing; otherwise `Create` of a ConfigMap the cluster holds answers already-exists and `Update`
of one it does not hold answers not-found.
-/

namespace StackAws

def eksAuthConfigMapName : String := "aws-auth"

def eksAuthMapRolesKey : String := "mapRoles"

def eksAuthMapUsersKey : String := "mapUsers"

/-- The part of a `v1.ConfigMap` the code sets: its name, its Namespace and its data. -/
structure ConfigMap where
  name : String
  ns : String
  data : List (String × String)
  deriving DecidableEq, Repr

/-- `rest.Config` as `_awsauth` fills it (lines 262-268). -/
structure RestConfig where
  host : String
  caData : String
  bearerToken : String
  deriving DecidableEq, Repr

/-- The connection details `_secret` publishes (lines 360-364). -/
structure ConnectionDetails where
  endpoint : String
  clusterCA : String
  token : String
  deriving DecidableEq, Repr

/-- The answers of the calls that leave this repository. `createFault` and `updateFault` are the
failures of the remote `Create` and `Update` for a reason of their own (a refused connection, a
denied request), whatever ConfigMaps the cluster holds. -/
structure Outside where
  marshalRoles : List MapRole → Except Error String
  marshalUsers : List MapUser → Except Error String
  connectionToken : String → Except Error String
  decodeString : String → Except Error String
  newForConfig : RestConfig → Except Error Unit
  createFault : Option Error
  updateFault : Option Error
  publishConnection : ConnectionDetails → Except Error Unit

/-! ## `generateAWSAuthConfigMap` -/

/-- The role every worker node maps to (lines 203-207). -/
def defaultRole (workerARN : String) : MapRole :=
  { roleARN := workerARN, username := "system:node:\x7b\x7bEC2PrivateDNSName\x7d\x7d",
    groups := ["system:bootstrappers", "system:nodes"] }

/-- Lines 201-241. -/
def generateAWSAuthConfigMap (out : Outside) (inst : EKSCluster) (workerARN : String) :
    Except Error ConfigMap := do
  let rolesMarshalled ← out.marshalRoles (inst.spec.mapRoles ++ [defaultRole workerARN])
  let data ←
    if inst.spec.mapUsers.length > 0 then do
      let usersMarshalled ← out.marshalUsers inst.spec.mapUsers
      pure [(eksAuthMapRolesKey, rolesMarshalled), (eksAuthMapUsersKey, usersMarshalled)]
    else pure [(eksAuthMapRolesKey, rolesMarshalled)]
  pure { name := eksAuthConfigMapName, ns := "kube-system", data := data }

/-! ## The remote cluster's ConfigMaps -/

namespace ConfigMap

/-- `c` is the ConfigMap named `name` in `ns`. -/
def named (c : ConfigMap) (ns name : String) : Bool := c.ns == ns && c.name == name

end ConfigMap

/-- The ConfigMaps the remote cluster's API server holds. -/
structure Remote where
  configMaps : List ConfigMap := []
  deriving DecidableEq, Repr

namespace Remote

/-- The ConfigMap named `name` in `ns`. -/
def get (rs : Remote) (ns name : String) : Option ConfigMap :=
  rs.configMaps.find? (·.named ns name)

/-- `ConfigMaps(ns).Create`. -/
def create (rs : Remote) (cm : ConfigMap) (fault : Option Error) : Except Error Remote :=
  match fault with
  | some err => .error err
  | none =>
    if (rs.get cm.ns cm.name).isSome then .error ⟨.alreadyExists, cm.name ++ " already exists"⟩
    else .ok ⟨rs.configMaps ++ [cm]⟩

/-- `ConfigMaps(ns).Update`. -/
def update (rs : Remote) (cm : ConfigMap) (fault : Option Error) : Except Error Remote :=
  match fault with
  | some err => .error err
  | none =>
    if (rs.get cm.ns cm.name).isNone then .error ⟨.notFound, cm.name ++ " not found"⟩
    else .ok ⟨rs.configMaps.map fun c => if c.named cm.ns cm.name then cm else c⟩

end Remote

/-! ## `_awsauth` and `_secret` -/

/-- Lines 245-273: the ConfigMap `_awsauth` pushes, once the client set for the cluster at the
endpoint of `cluster`, whose CA is `ca`, is built. -/
def awsauthConfigMap (out : Outside) (cluster : Cluster) (ca : String) (inst : EKSCluster)
    (workerARN : String) : Except Error ConfigMap := do
  let cm ← generateAWSAuthConfigMap out inst workerARN
  let token ← out.connectionToken inst.status.clusterName
  let caData ← out.decodeString ca
  out.newForConfig { host := cluster.endpoint, caData := caData, bearerToken := token }
  pure cm

/-- Lines 275-283: create the ConfigMap, and update it if it already exists. -/
def createOrUpdate (out : Outside) (cm : ConfigMap) (rs : Remote) : Remote × Option Error :=
  match rs.create cm out.createFault with
  | .ok rs' => (rs', none)
  | .error err =>
    if isErrorAlreadyExists err then
      match rs.update cm out.updateFault with
      | .ok rs' => (rs', none)
      | .error err => (rs, some err)
    else (rs, some err)

/-- Lines 244-284: the remote cluster's ConfigMaps afterwards, and the error `_awsauth` returns. -/
def awsauth (out : Outside) (cluster : Cluster) (ca : String) (inst : EKSCluster)
    (workerARN : String) (rs : Remote) : Remote × Option Error :=
  match awsauthConfigMap out cluster ca inst workerARN with
  | .error err => (rs, some err)
  | .ok cm => createOrUpdate out cm rs

/-- Lines 348-365. -/
def secret (out : Outside) (cluster : Cluster) (ca : String) (inst : EKSCluster) :
    Except Error Unit := do
  let token ← out.connectionToken inst.status.clusterName
  let caData ← out.decodeString ca
  out.publishConnection { endpoint := cluster.endpoint, clusterCA := caData, token := token }

end StackAws
