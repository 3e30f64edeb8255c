import DorisOperator.Api

/-!
# The identities of the managed objects

Every object the operator writes for a cluster is named from the cluster's own
identity, a role tag and the object's kind – `<cluster-name>-fe`,
`<cluster-name>-fe-peer`, `<cluster-name>-fe-config` – in the cluster's
namespace. The FE builders compute these names from the cluster resource
(`DorisOperator.getFeConfigMapName` and its siblings, in the sources); the
reconciler's delete paths compute them from the cluster's key with the
`Get*Key` helpers, which the sources do not contain. They are modelled here from
the design's rule that an identity is a pure function of the cluster identity,
the role and the kind, on the pattern the FE names set.

`DorisOperator.RoleKeys` gathers the identities of one role. Names built with
different suffixes never collide (`DorisOperator.roleKey_inj`), which is what
keeps the roles of one cluster from touching each other's objects; names built
for two clusters with one suffix (`DorisOperator.roleKey_cancel`), or with
suffixes neither of which ends the other (`DorisOperator.roleKey_ne_of_not_suffix`),
never collide either, which is what keeps clusters apart.
-/

namespace DorisOperator

/-- The shape of every modelled `Get*Key` helper: the cluster's name with a
suffix, in the cluster's namespace. -/
def roleKey (suffix : String) (k : NamespacedName) : NamespacedName := ⟨k.ns, k.name ++ suffix⟩

/-! ### The helpers, one per role and kind -/

/-- Modelled from the spec: `transformer.GetFeConfigMapKey`. -/
def getFeConfigMapKey : NamespacedName → NamespacedName := roleKey "-fe-config"

/-- Modelled from the spec: `transformer.GetFeServiceKey`. -/
def getFeServiceKey : NamespacedName → NamespacedName := roleKey "-fe"

/-- Modelled from the spec: `transformer.GetFePeerServiceKey`. -/
def getFePeerServiceKey : NamespacedName → NamespacedName := roleKey "-fe-peer"

/-- Modelled from the spec: `transformer.GetFeStatefulSetKey`. -/
def getFeStatefulSetKey : NamespacedName → NamespacedName := roleKey "-fe"

/-- Modelled from the spec: `transformer.GetBeConfigMapKey`. -/
def getBeConfigMapKey : NamespacedName → NamespacedName := roleKey "-be-config"

/-- Modelled from the spec: `transformer.GetBeServiceKey`. -/
def getBeServiceKey : NamespacedName → NamespacedName := roleKey "-be"

/-- Modelled from the spec: `transformer.GetBePeerServiceKey`. -/
def getBePeerServiceKey : NamespacedName → NamespacedName := roleKey "-be-peer"

/-- Modelled from the spec: `transformer.GetBeStatefulSetKey`, which the reconciler
calls on the cluster resource rather than on its key. -/
def getBeStatefulSetKey (cr : DorisCluster) : NamespacedName := roleKey "-be" cr.objKey

/-- Modelled from the spec: `transformer.GetCnConfigMapKey`. -/
def getCnConfigMapKey : NamespacedName → NamespacedName := roleKey "-cn-config"

/-- Modelled from the spec: `transformer.GetCnServiceKey`. -/
def getCnServiceKey : NamespacedName → NamespacedName := roleKey "-cn"

/-- Modelled from the spec: `transformer.GetCnPeerServiceKey`. -/
def getCnPeerServiceKey : NamespacedName → NamespacedName := roleKey "-cn-peer"

/-- Modelled from the spec: `transformer.GetCnStatefulSetKey`. -/
def getCnStatefulSetKey : NamespacedName → NamespacedName := roleKey "-cn"

/-- Modelled from the spec: `transformer.GetBrokerConfigMapKey`. -/
def getBrokerConfigMapKey : NamespacedName → NamespacedName := roleKey "-broker-config"

/-- Modelled from the spec: `transformer.GetBrokerPeerServiceKey`; the Broker has
no client Service. -/
def getBrokerPeerServiceKey : NamespacedName → NamespacedName := roleKey "-broker-peer"

/-- Modelled from the spec: `transformer.GetBrokerStatefulSetKey`. -/
def getBrokerStatefulSetKey : NamespacedName → NamespacedName := roleKey "-broker"

/-- Modelled from the spec: `transformer.GetOprSqlAccountSecretKey`, the Secret
holding the operator's SQL account. Its suffix is this model's choice: the
Secret is the only object of its kind the operator writes. -/
def getOprSqlAccountSecretKey : NamespacedName → NamespacedName := roleKey "-opr-account"

/-- Modelled from the spec: `transformer.GetOprSqlAccountSecretName`, the same
Secret named from the cluster resource. -/
def getOprSqlAccountSecretName (cr : DorisCluster) : NamespacedName :=
  getOprSqlAccountSecretKey cr.objKey

/-! ### The identities of a role -/

/-- The identities of one role's objects: its ConfigMap, its Services in the
order the reconciler writes them, and its StatefulSet. -/
structure RoleKeys where
  configMap : NamespacedName → NamespacedName
  services : List (NamespacedName → NamespacedName)
  statefulSet : NamespacedName → NamespacedName

def feKeys : RoleKeys := ⟨getFeConfigMapKey, [getFeServiceKey, getFePeerServiceKey], getFeStatefulSetKey⟩

def beKeys : RoleKeys := ⟨getBeConfigMapKey, [getBeServiceKey, getBePeerServiceKey], roleKey "-be"⟩

def cnKeys : RoleKeys := ⟨getCnConfigMapKey, [getCnServiceKey, getCnPeerServiceKey], getCnStatefulSetKey⟩

def brokerKeys : RoleKeys := ⟨getBrokerConfigMapKey, [getBrokerPeerServiceKey], getBrokerStatefulSetKey⟩

theorem getBeStatefulSetKey_eq (cr : DorisCluster) :
    getBeStatefulSetKey cr = beKeys.statefulSet cr.objKey := rfl

/-! ### Distinct suffixes give distinct identities -/

theorem roleKey_inj {s t : String} {k : NamespacedName} (h : roleKey s k = roleKey t k) : s = t := by
  have h' := congrArg (fun n => (NamespacedName.name n).data) h
  exact String.ext (by simpa [roleKey] using h')

/-- One suffix on two cluster identities gives two identities, unless the
clusters are one. -/
theorem roleKey_cancel {s : String} {k k' : NamespacedName} (h : roleKey s k = roleKey s k') : k = k' := by
  obtain ⟨ns, name⟩ := k
  obtain ⟨ns', name'⟩ := k'
  simp only [roleKey, NamespacedName.mk.injEq] at h ⊢
  exact ⟨h.1, String.ext (by simpa using congrArg String.data h.2)⟩

/-- **Suffixes neither of which ends the other never meet**, whatever the two
clusters: a name that ends in both would make one a suffix of the other. -/
theorem roleKey_ne_of_not_suffix {s t : String} (hst : ¬s.data <:+ t.data) (hts : ¬t.data <:+ s.data)
    (k k' : NamespacedName) : roleKey s k ≠ roleKey t k' := by
  intro h
  have h' : k.name.data ++ s.data = k'.name.data ++ t.data := by
    simpa [roleKey] using congrArg (fun n => n.name.data) h
  rcases List.append_eq_append_iff.mp h' with ⟨a', -, hs⟩ | ⟨c', -, ht⟩
  · exact hts ⟨a', hs.symm⟩
  · exact hst ⟨c', ht.symm⟩

end DorisOperator
