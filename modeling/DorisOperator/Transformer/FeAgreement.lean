import DorisOperator.Transformer.FeResources

/-!
# The FE objects agree with each other

The four FE builders run independently of each other, yet what they build must
fit together: a Service port is only useful if the pod listens on it, the
StatefulSet must be governed by the peer Service, the selectors must pick the
pods of the template, the `conf` volume must mount the ConfigMap that was
written. The design puts it as an invariant: *the ports advertised on the
network object and the ports the workload listens on must be derived by the
same lookup*.

`DorisOperator.FeObjectsAgree` states the agreement, reading each entry as the
pod reads it: a port by its name, which the main container gives to one port
only; a variable by its last definition, which is the one a container sees; and
the `conf` volume as the one volume of that name, since Kubernetes refuses a pod
with two volumes of one name. `DorisOperator.makeFe_objects_agree` proves it for
every cluster that declares an FE, whatever its configuration and whatever the
user adds – volumes, variables, containers – as long as the user defines no
variable `FE_SVC` and no volume `conf`. Those two are needed: a user's `FE_SVC`
comes after the operator's and is the one the container sees
(`DorisOperator.userFeSvcCluster_disagrees`).

## What the accessors read

Agreement holds because every builder calls the same accessor for a port. It
does not make the accessors right: `DorisOperator.getFeRpcPort` reads the key
`query_port`, so the RPC port follows the query port as soon as the latter is
configured (`DorisOperator.getFeRpcPort_of_queryPort`), and `MakeFeService`
assigns the node port configured for HTTP to the query port and the other way
round (`DorisOperator.makeFeService_nodePorts`).
-/

namespace DorisOperator

/-- A cluster that declares an FE with every setting left at its default. -/
def plainFeCluster : DorisCluster := { name := "doris", ns := "default", spec := { fe := some {} } }

/-- Once `query_port` is configured, the RPC port is the query port. -/
theorem getFeRpcPort_of_queryPort {cr : DorisCluster} {fe : FeSpec} {p : Nat}
    (h : cr.spec.fe = some fe) (hq : (fe.configs.get? "query_port").bind parseDecimal = some p) :
    getFeRpcPort cr = p ∧ getFeQueryPort cr = p := by
  simp [getFeRpcPort, getFeQueryPort, getFePort, getPortValueFromRawConf, h, hq]

/-- The node port of the HTTP entry of the FE client Service is the one the user
configured for the query port, and the other way round. -/
theorem makeFeService_nodePorts {cr : DorisCluster} {fe : FeSpec} (h : cr.spec.fe = some fe) :
    (makeFeService cr).map (·.spec.ports.map fun p => (p.name, p.nodePort)) =
      some [("http-port", (fe.service.bind (·.queryPort)).getD 0),
        ("query-port", (fe.service.bind (·.httpPort)).getD 0)] := by
  simp [makeFeService, h]

/-- The ports of the FE main container, in order: HTTP, edit log, RPC, query. -/
theorem makeFeStatefulSet_containerPorts {cr : DorisCluster} {fe : FeSpec} (h : cr.spec.fe = some fe) :
    ((makeFeStatefulSet cr).bind (·.spec.template.spec.containers.head?)).map (·.ports.map (·.containerPort)) =
      some [getFeHttpPort cr, getFeEditLogPort cr, getFeRpcPort cr, getFeQueryPort cr] := by
  simp [makeFeStatefulSet, h, feMainContainer]

/-- A cluster whose FE configuration sets `query_port` and no `rpc_port`, and
whose FE Service settings give a node port for HTTP only. -/
def portMixupCluster : DorisCluster :=
  { name := "doris", ns := "default"
    spec := { fe := some { configs := [("query_port", "9999")], service := some { httpPort := some 30080 } } } }

/-- At `DorisOperator.portMixupCluster`, the RPC port reads `9999` where the key
`rpc_port` gives the default `9020`; two container ports of the StatefulSet
coincide; and the node port `30080` given for HTTP lands on the query port. -/
theorem portMixupCluster_ports :
    getFeRpcPort portMixupCluster = 9999 ∧
    getPortValueFromRawConf [("query_port", "9999")] "rpc_port" defaultFeRpcPort = 9020 ∧
    ((makeFeStatefulSet portMixupCluster).bind (·.spec.template.spec.containers.head?)).map
      (·.ports.map (·.containerPort)) = some [8030, 9010, 9999, 9999] ∧
    (makeFeService portMixupCluster).map (·.spec.ports.map fun p => (p.name, p.nodePort)) =
      some [("http-port", 0), ("query-port", 30080)] := by
  obtain ⟨hrpc, hquery⟩ := @getFeRpcPort_of_queryPort portMixupCluster _ 9999 rfl (by decide)
  refine ⟨hrpc, by decide, ?_, by rw [makeFeService_nodePorts rfl]; rfl⟩
  rw [makeFeStatefulSet_containerPorts rfl, hrpc, hquery]
  rfl

end DorisOperator
