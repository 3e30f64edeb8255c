import DorisOperator.Reconciler.Convergence

/-!
# A failed pass names the call that failed

A stage that meets an error returns at once, and its result is the report of the
pass: the stage label and the action say where the pass stopped. This module
proves that the report is determined by the call that failed and by nothing
else. Whatever the cluster, the store and the failures, a pass that returns an
error has logged, last, the call that failed with it, after calls that all
succeeded, and reports `DorisOperator.failureReport` of that call
(`DorisOperator.reconcile_reports_failed_call`).

The table `DorisOperator.failureReport` is read off the stages. The Secret's two
calls report under the Secret stage. A failed write of a role's object reports
under the role's stage for the object's kind – its Configmap, Service or
StatefulSet stage – and the CN's autoscaler lookup under the CN StatefulSet
stage, all with the action `StageActionApply`. A failed deletion reports under
the role's Configmap stage with the action `StageActionDelete`, whichever object
it deleted. Every report has the status `StageResultSucceeded`.

`DorisOperator.Attributed` says that every error a computation returns was the
verdict on the last call it logged, and relates that call to the value returned.
It is closed under the binds of the reconciler (`DorisOperator.Attributed.bind`),
and so under `orFail`, `orFailEach` and the stage loop.
-/

namespace DorisOperator

/-! ### The report of a failed call -/

/-- The stage under which a role's apply path reports a failed write of an
object of the given kind. -/
def RoleStages.ofKind (st : RoleStages) : Kind → DorisClusterOprStage
  | .configMap => st.configmap
  | .service => st.service
  | .statefulSet => st.statefulSet
  | .secret => st.stage

/-- The stage labels of the role of the cluster `k` whose identities hold `ref`. -/
def roleStagesOf (k : NamespacedName) (ref : ObjRef) : RoleStages :=
  if ref ∈ feKeys.refs k then feStages
  else if ref ∈ beKeys.refs k then beStages
  else if ref ∈ cnKeys.refs k then cnStages
  else brokerStages

/-- What a pass of the cluster `k` reports when the call of shape `s` fails with
the error `e`. -/
def failureReport (k : NamespacedName) (s : CallShape) (e : Error) : ClusterStageRecResult :=
  match s with
  | .exist _ | .create _ => clusterStageFail .stageSqlAccountSecret .stageActionApply e
  | .createOrUpdate ref => clusterStageFail ((roleStagesOf k ref).ofKind ref.kind) .stageActionApply e
  | .findRefDorisAutoScaler _ => clusterStageFail .stageCnStatefulSet .stageActionApply e
  | .deleteWhenExist ref => clusterStageFail (roleStagesOf k ref).configmap .stageActionDelete e

theorem failureReport_write {k : NamespacedName} {ref : ObjRef} {st : RoleStages}
    (h : roleStagesOf k ref = st) (e : Error) :
    failureReport k (.createOrUpdate ref) e = clusterStageFail (st.ofKind ref.kind) .stageActionApply e := by
  rw [failureReport, h]

theorem failureReport_delete {k : NamespacedName} {ref : ObjRef} {st : RoleStages}
    (h : roleStagesOf k ref = st) (e : Error) :
    failureReport k (.deleteWhenExist ref) e = clusterStageFail st.configmap .stageActionDelete e := by
  rw [failureReport, h]

/-- Each role's identities are its own. -/
theorem roleStagesOf_of_mem (k : NamespacedName) :
    (∀ r ∈ feKeys.refs k, roleStagesOf k r = feStages) ∧
    (∀ r ∈ beKeys.refs k, roleStagesOf k r = beStages) ∧
    (∀ r ∈ cnKeys.refs k, roleStagesOf k r = cnStages) ∧
    (∀ r ∈ brokerKeys.refs k, roleStagesOf k r = brokerStages) := by
  obtain ⟨afb, afc, afr, abc, abr, acr⟩ := roleRefs_apart k
  refine ⟨fun r hr => if_pos hr, fun r hr => ?_, fun r hr => ?_, fun r hr => ?_⟩
  · rw [roleStagesOf, if_neg fun h => afb r h hr, if_pos hr]
  · rw [roleStagesOf, if_neg fun h => afc r h hr, if_neg fun h => abc r h hr, if_pos hr]
  · rw [roleStagesOf, if_neg fun h => afr r h hr, if_neg fun h => abr r h hr, if_neg fun h => acr r h hr]

/-! ### Errors and the calls they come from -/

/-- Every error `x` returns, from any world, is the verdict on the last call of
the log it leaves, and `R` relates that call's shape and the error to the value
returned. -/
def Attributed {α : Type} (err : α → Option Error) (R : CallShape → Error → α → Prop)
    (x : Rec α) : Prop :=
  ∀ w a e, (x w).1 = .ret a → err a = some e →
    ∃ l c, (x w).2.log = l ++ [(c, some e)] ∧ R c.shape e a

section Combinators

variable {α β : Type} {err : α → Option Error} {R R' : CallShape → Error → α → Prop}

theorem attributed_issue {c : Call} {s : CallShape} (hs : c.shape = s) :
    Attributed id (fun s' _ _ => s' = s) (issue c) := fun w _ e h he => by
  cases h
  exact ⟨w.log, c, by rw [← show w.fail w.log c = some e from he]; rfl, hs⟩

/-- A computation whose values carry no error. -/
theorem attributed_none (x : Rec α) : Attributed (fun _ => none) (fun _ _ _ => True) x :=
  fun _ _ _ _ h => nomatch h

theorem attributed_pure {a : α} (ha : err a = none) : Attributed err R (pure a) := fun _ _ _ h he => by
  cases h
  simp [ha] at he

theorem Attributed.mono {x : Rec α} (hx : Attributed err R x) (h : ∀ s e a, R s e a → R' s e a) :
    Attributed err R' x := fun w a e ha he => by
  obtain ⟨l, c, hl, hc⟩ := hx w a e ha he
  exact ⟨l, c, hl, h _ _ _ hc⟩

/-- **Sequencing.** `x` returns values satisfying `P`; from one without an error
`f` goes on as `Attributed`; from one with an error `f` returns at once a value
carrying that error, related to the failed call as `x`'s value was. -/
theorem Attributed.bind {ex : β → Option Error} {Rx : CallShape → Error → β → Prop}
    {P : β → Prop} {x : Rec β} {f : β → Rec α} (hx : Attributed ex Rx x) (hy : Yields P x)
    (hok : ∀ b, P b → ex b = none → Attributed err R (f b))
    (herr : ∀ b e, ex b = some e →
      ∃ a, f b = pure a ∧ err a = some e ∧ ∀ s, Rx s e b → R s e a) :
    Attributed err R (x >>= f) := by
  intro w a e h he
  rw [Rec.bind_apply] at h ⊢
  rcases hxw : x w with ⟨b | m, w'⟩ <;> simp only [hxw] at h ⊢
  · rcases hb : ex b with _ | e'
    · exact hok b (hy w b (by rw [hxw])) hb w' a e h he
    · obtain ⟨a', hf, ha', hR⟩ := herr b e' hb
      rw [hf] at h ⊢
      cases h
      obtain rfl : e' = e := Option.some_injective _ (ha'.symm.trans he)
      obtain ⟨l, c, hl, hc⟩ := hx w b e' (by rw [hxw]) hb
      rw [hxw] at hl
      exact ⟨l, c, hl, hR _ hc⟩
  · cases h

variable {Rs : CallShape → Error → ClusterStageRecResult → Prop} {st : DorisClusterOprStage}
  {act : OprStageAction} {rest : Rec ClusterStageRecResult}

theorem attributed_orFail {call : Rec (Option Error)} {s : CallShape}
    (hc : Attributed id (fun s' _ _ => s' = s) call) (hfail : ∀ e, Rs s e (clusterStageFail st act e))
    (hrest : Attributed (·.err) Rs rest) : Attributed (·.err) Rs (orFail call st act rest) :=
  hc.bind (yields_true call)
    (fun v _ (hv : v = none) => by
      subst hv
      exact hrest)
    fun v e (hv : v = some e) => by
      subst hv
      exact ⟨_, rfl, rfl, fun _ h => h ▸ hfail e⟩

theorem attributed_orFailEach {calls : List (Rec (Option Error))} {shapes : List CallShape}
    (hcalls : List.Forall₂ (fun c s => Attributed id (fun s' _ _ => s' = s) c) calls shapes)
    (hfail : ∀ s ∈ shapes, ∀ e, Rs s e (clusterStageFail st act e))
    (hrest : Attributed (·.err) Rs rest) :
    Attributed (·.err) Rs (orFailEach calls st act rest) := by
  induction hcalls with
  | nil => exact hrest
  | cons hc _ ih =>
    exact attributed_orFail hc (hfail _ (.head _)) (ih fun s hs => hfail s (.tail _ hs))

theorem attributed_runStages {fns : List (Rec ClusterStageRecResult)}
    (hfns : ∀ fn ∈ fns, Attributed (·.err) Rs fn) : Attributed (·.err) Rs (runStages fns) := by
  induction fns with
  | nil => exact attributed_pure rfl
  | cons fn fns ih =>
    refine (hfns fn (.head _)).bind (yields_true fn) (fun r _ hr => ?_)
      fun r e hr => ⟨r, by simp [hr], hr, fun _ h => h⟩
    simpa [hr] using ih fun f hf => hfns f (.tail _ hf)

end Combinators

/-! ### The stages -/

theorem yields_deref {γ : Type} (o : Option γ) : Yields (fun a => o = some a) (deref o) :=
  fun _ _ h => deref_ret h

/-- A lookup: a call, whose error is returned, and on success a read of the
store. -/
theorem attributed_lookup {γ : Type} (c : Call) (g : Store → γ) :
    Attributed exceptErr (fun s _ _ => s = c.shape) (do
      match ← issue c with
      | some err => pure (.error err)
      | none => return .ok (g (← getStore))) :=
  (attributed_issue rfl).bind (yields_true _)
    (fun v _ (hv : v = none) => by
      subst hv
      exact (attributed_none _).bind (yields_true _) (fun _ _ _ => attributed_pure rfl)
        fun _ _ h => nomatch h)
    fun v e (hv : v = some e) => by
      subst hv
      exact ⟨_, rfl, rfl, fun _ h => h⟩

/-- The Secret stage reports its failures under its own stage. -/
theorem recOprAccountSecret_attributed (env : ReconcileEnv) (cr : DorisCluster) :
    Attributed (·.err) (fun s e r => r = failureReport cr.objKey s e) (recOprAccountSecret env cr) := by
  unfold recOprAccountSecret
  refine (attributed_lookup _ _).bind (yields_true _) (fun v _ hv => ?_) fun v e hv => ?_
  · rcases v with _ | found
    · cases hv
    cases found
    · exact attributed_orFail (attributed_issue rfl) (fun _ => rfl) (attributed_pure rfl)
    · exact attributed_pure rfl
  · rcases v with e' | _
    · cases hv
      exact ⟨_, rfl, rfl, fun _ h => h ▸ rfl⟩
    · cases hv

section Role

theorem service_mem_refs {keys : RoleKeys} {key : NamespacedName → NamespacedName} (k : NamespacedName)
    (h : key ∈ keys.services) : ⟨.service, key k⟩ ∈ keys.refs k :=
  .tail _ (List.mem_append_left _ (List.mem_map_of_mem _ h))

/-- What a role's `adjust` does for its stage to report as the table does: it
reports a failure as the table does for the role's StatefulSet stage, and keeps
the StatefulSet's identity. -/
def AdjustReports (k : NamespacedName) (st : RoleStages)
    (adjust : StatefulSet → Rec (Except Error StatefulSet)) : Prop :=
  ∀ s, Attributed exceptErr
      (fun sh e _ => clusterStageFail st.statefulSet .stageActionApply e = failureReport k sh e)
      (adjust s) ∧
    Yields (fun v => ∀ s', v = .ok s' → s'.metadata.key = s.metadata.key) (adjust s)

variable {keys : RoleKeys} {st : RoleStages} {cr : DorisCluster}

/-- The delete path of a role reports every failure under the role's Configmap
stage, as the table does for the role's identities. -/
theorem deleteRes_attributed (hrole : ∀ r ∈ keys.refs cr.objKey, roleStagesOf cr.objKey r = st) :
    Attributed (·.err) (fun s e r => r = failureReport cr.objKey s e) (deleteRes keys st cr) := by
  have hfail : ∀ r ∈ keys.refs cr.objKey, ∀ e,
      clusterStageFail st.configmap .stageActionDelete e = failureReport cr.objKey (.deleteWhenExist r) e :=
    fun r hr e => (failureReport_delete (hrole r hr) e).symm
  refine attributed_orFail (attributed_issue rfl) (hfail _ (by simp [RoleKeys.refs])) <|
    attributed_orFailEach (List.forall₂_map_left_iff.mpr (List.forall₂_map_right_iff.mpr
      (List.forall₂_same.mpr fun _ _ => attributed_issue rfl))) (fun s hs e => ?_) <|
    attributed_orFail (attributed_issue rfl) (hfail _ (by simp [RoleKeys.refs])) (attributed_pure rfl)
  obtain ⟨key, hkey, rfl⟩ := List.mem_map.mp hs
  exact hfail _ (service_mem_refs _ hkey) e

/-- The apply path of a role reports a failed write under the role's stage for
the object's kind, and a failure of `adjust` as the table does. -/
theorem applyRes_attributed (t : RoleTransformer keys) (annotationKey : String) (mapMd5 : StrMap → String)
    {adjust : StatefulSet → Rec (Except Error StatefulSet)}
    (hrole : ∀ r ∈ keys.refs cr.objKey, roleStagesOf cr.objKey r = st)
    (hadj : AdjustReports cr.objKey st adjust) :
    Attributed (·.err) (fun s e r => r = failureReport cr.objKey s e)
      (applyRes t st annotationKey mapMd5 adjust cr) := by
  have hfail : ∀ r ∈ keys.refs cr.objKey, ∀ e,
      clusterStageFail (st.ofKind r.kind) .stageActionApply e =
        failureReport cr.objKey (.createOrUpdate r) e :=
    fun r hr e => (failureReport_write (hrole r hr) e).symm
  unfold applyRes
  refine (attributed_none _).bind (yields_deref _) (fun cm hcm _ => ?_) fun _ _ h => nomatch h
  refine attributed_orFail (attributed_issue (by simp [Call.shape, Obj.ref, t.configMap_named cr cm hcm]))
    (hfail ⟨.configMap, keys.configMap cr.objKey⟩ (by simp [RoleKeys.refs]))
    (@attributed_orFailEach _ _ _ _ _
      (keys.services.map fun key => .createOrUpdate ⟨.service, key cr.objKey⟩) ?_ (fun s hs e => ?_) ?_)
  · -- each Service is written under the identity the builder names it by
    refine List.forall₂_map_left_iff.mpr (List.forall₂_map_right_iff.mpr
      (t.services_named.imp fun mk key hnamed => ?_))
    exact (attributed_none _).bind (yields_deref _)
      (fun s hs _ => attributed_issue (by simp [Call.shape, Obj.ref, hnamed cr s hs])) fun _ _ h => nomatch h
  · obtain ⟨key, hkey, rfl⟩ := List.mem_map.mp hs
    exact hfail _ (service_mem_refs _ hkey) e
  · -- the StatefulSet keeps the builder's identity through the stamp and `adjust`
    refine (attributed_none _).bind (yields_deref _) (fun sts hsts _ => ?_) fun _ _ h => nomatch h
    refine (attributed_none _).bind
      (fun _ _ h => setAnnotationEntry_ret h : Yields _ (setAnnotationEntry sts _ _))
      (fun sts' hann _ => ?_) fun _ _ h => nomatch h
    obtain ⟨m, -, rfl⟩ := hann
    refine (hadj _).1.bind (hadj _).2 (fun v hv hve => ?_) fun v e hve => ?_
    · rcases v with e | s'
      · cases hve
      have hkey : s'.metadata.key = keys.statefulSet cr.objKey :=
        (hv s' rfl).trans (t.statefulSet_named cr sts hsts)
      exact attributed_orFail (attributed_issue (by simp only [Call.shape, Obj.ref, hkey]))
        (hfail ⟨.statefulSet, keys.statefulSet cr.objKey⟩ (by simp [RoleKeys.refs])) (attributed_pure rfl)
    · rcases v with e' | s'
      · cases hve
        exact ⟨_, rfl, rfl, fun _ h => h⟩
      · cases hve

theorem recRoleResources_attributed (t : RoleTransformer keys) (annotationKey : String)
    (mapMd5 : StrMap → String) {adjust : StatefulSet → Rec (Except Error StatefulSet)} (present : Bool)
    (hrole : ∀ r ∈ keys.refs cr.objKey, roleStagesOf cr.objKey r = st)
    (hadj : AdjustReports cr.objKey st adjust) :
    Attributed (·.err) (fun s e r => r = failureReport cr.objKey s e)
      (recRoleResources t st annotationKey mapMd5 adjust present cr) := by
  cases present
  · exact deleteRes_attributed hrole
  · exact applyRes_attributed t annotationKey mapMd5 hrole hadj

/-- The FE, BE and Broker write their StatefulSet as built. -/
theorem keepStatefulSet_reports : AdjustReports cr.objKey st keepStatefulSet := fun _ =>
  ⟨attributed_pure rfl, fun _ _ h s' hs' => by
    cases h
    cases hs'
    rfl⟩

end Role

/-- The CN reports a failed lookup of its autoscaler under its StatefulSet stage,
and keeps the identity of its StatefulSet. -/
theorem cnAutoScalerAdjust_reports (cr : DorisCluster) :
    AdjustReports cr.objKey cnStages (cnAutoScalerAdjust cr) := by
  refine fun s => ⟨?_, fun _ _ h s' hs' => ?_⟩
  · unfold cnAutoScalerAdjust
    refine (attributed_lookup _ _).bind (yields_true _) (fun v _ hv => ?_) fun v e hv => ?_
    · rcases v with _ | _
      · cases hv
      exact attributed_pure rfl
    · rcases v with e' | _
      · cases hv
        exact ⟨_, rfl, rfl, fun _ h => h ▸ rfl⟩
      · cases hv
  · subst hs'
    rw [cnAutoScalerAdjust_ret h]
    split <;> rfl

/-! ### A pass -/

/-- **A failed pass names the call that failed.** For every cluster, store and
oracle, a pass that returns the error `e` logged, last, a call that failed with
`e`, every call before it succeeded, and the pass reports what the table
`DorisOperator.failureReport` gives for that call. -/
theorem reconcile_reports_failed_call (env : ReconcileEnv) (cr : DorisCluster) (S : Store) (fail : Oracle)
    {r : ClusterStageRecResult} {e : Error} (h : (reconcile env cr ⟨S, [], fail⟩).1 = .ret r)
    (he : r.err = some e) :
    ∃ l c, (reconcile env cr ⟨S, [], fail⟩).2.log = l ++ [(c, some e)] ∧ (∀ x ∈ l, x.2 = none) ∧
      r = failureReport cr.objKey c.shape e := by
  obtain ⟨hfe, hbe, hcn, hbr⟩ := roleStagesOf_of_mem cr.objKey
  have hpass : Attributed (·.err) (fun s e r => r = failureReport cr.objKey s e) (reconcile env cr) := by
    refine attributed_runStages ?_
    simp only [List.mem_cons, List.mem_singleton, List.not_mem_nil, or_false, forall_eq_or_imp, forall_eq]
    exact ⟨recOprAccountSecret_attributed env cr,
      recRoleResources_attributed _ _ _ _ hfe keepStatefulSet_reports,
      recRoleResources_attributed _ _ _ _ hbe keepStatefulSet_reports,
      recRoleResources_attributed _ _ _ _ hcn (cnAutoScalerAdjust_reports cr),
      recRoleResources_attributed _ _ _ _ hbr keepStatefulSet_reports⟩
  obtain ⟨l, c, hl, hr⟩ := hpass _ r e h he
  -- the calls before the failed one succeeded, since a pass stops at its first failure
  obtain ⟨p, hw, -, hc, -⟩ := reconcile_follows_canonical env cr ⟨S, [], fail⟩
  rw [hw, World.extend_log, List.nil_append] at hl
  refine ⟨l, c, by rw [hw, World.extend_log, List.nil_append, hl], fun x hx => hc x ?_, hr⟩
  rw [hl, List.dropLast_concat]
  exact hx

theorem reconcile_reports_failed_call_deletionsFail :
    (reconcile feOnlyEnv emptyCluster ⟨Store.empty, [], deletionsFail ⟨"forbidden"⟩⟩).1 =
      .ret (clusterStageFail .stageFeConfigmap .stageActionDelete ⟨"forbidden"⟩) ∧
    ∃ l c, (reconcile feOnlyEnv emptyCluster ⟨Store.empty, [], deletionsFail ⟨"forbidden"⟩⟩).2.log =
      l ++ [(c, some ⟨"forbidden"⟩)] ∧ (∀ x ∈ l, x.2 = none) ∧
      clusterStageFail .stageFeConfigmap .stageActionDelete ⟨"forbidden"⟩ =
        failureReport emptyCluster.objKey c.shape ⟨"forbidden"⟩ :=
  have h : (reconcile feOnlyEnv emptyCluster ⟨Store.empty, [], deletionsFail ⟨"forbidden"⟩⟩).1 =
      .ret (clusterStageFail .stageFeConfigmap .stageActionDelete ⟨"forbidden"⟩) := rfl
  ⟨h, reconcile_reports_failed_call feOnlyEnv emptyCluster Store.empty _ h rfl⟩

end DorisOperator
