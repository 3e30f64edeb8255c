import DorisOperator.Reconciler.Isolation

/-!
# A pass sees only its own cluster

What a pass returns and which calls it issues depend on the store through two
reads only: whether its cluster's Secret exists, and whether a DorisAutoScaler is
bound to its cluster. Every other call is judged by the failure oracle alone, and
the builders read the cluster resource, not the store. `DorisOperator.Tracks`
says this of a computation for what it may read of the store
(`DorisOperator.StoreView`), and every function of the reconciler has it
(`DorisOperator.reconcile_tracks`): from two worlds whose stores agree on the
cluster's Secret and its binding, whatever their oracles, a pass issues the same
calls up to the first call the two oracles judge differently; if there is none,
it returns the same outcome. With the same verdicts there is none, so a pass is
`DorisOperator.Local` to its view of the world (`DorisOperator.reconcile_local`).
The role stages do not even read the Secret (`DorisOperator.roleStages_tracks`).

The writes of a pass touch the cluster's own identities only
(`DorisOperator.canonicalCalls_target`), and a replay changes the object at a
reference from the object there alone (`DorisOperator.replay_objects_congr`), so
logs of two clusters commute (`DorisOperator.replay_comm`). Together: **passes of
two clusters commute** – in either order, each returns what it returns alone,
issues the same calls, and the store ends the same
(`DorisOperator.passes_commute`). No update of one is lost or repeated by the
other.
-/

namespace DorisOperator

/-! ### The store, one reference at a time -/

/-- What a call leaves at a reference depends only on what was there. -/
theorem Call.apply_objects_congr (c : Call) {S S' : Store} {r : ObjRef} (h : S.objects r = S'.objects r) :
    (c.apply S).objects r = (c.apply S').objects r := by
  cases c with
  | exist _ | findRefDorisAutoScaler _ => exact h
  | create _ | deleteWhenExist _ => simp only [Call.apply, Store.put, Function.update_apply, h]
  | createOrUpdate o =>
    simp only [Call.apply, Store.put, Function.update_apply]
    split_ifs with hr
    · rw [← hr, h]
    · exact h

/-- What a replay leaves at a reference depends only on what was there. -/
theorem replay_objects_congr (p : Log) {S S' : Store} {r : ObjRef} (h : S.objects r = S'.objects r) :
    (replay p S).objects r = (replay p S').objects r := by
  induction p generalizing S S' with
  | nil => exact h
  | cons e p ih =>
    rcases e with ⟨c, _ | _⟩
    · exact ih (c.apply_objects_congr h)
    · exact ih h

/-- **Logs whose targets are apart commute.** -/
theorem replay_comm {p q : Log}
    (h : ∀ r, (∀ e ∈ p, e.1.shape.target ≠ some r) ∨ ∀ e ∈ q, e.1.shape.target ≠ some r) (S : Store) :
    replay p (replay q S) = replay q (replay p S) := by
  refine Store.ext (funext fun r => ?_) (by simp)
  rcases h r with hp | hq
  · rw [replay_objects_of_untargeted _ hp]
    exact replay_objects_congr q (replay_objects_of_untargeted S hp).symm
  · rw [replay_objects_of_untargeted _ hq]
    exact replay_objects_congr p (replay_objects_of_untargeted S hq)

/-! ### Views of a world -/

/-- Two worlds get the same verdicts on every call, whatever calls come first. -/
def SameVerdicts (w w' : World) : Prop := ∀ l c, w.fail (w.log ++ l) c = w'.fail (w'.log ++ l) c

theorem SameVerdicts.extend {w w' : World} (h : SameVerdicts w w') (p : Log) :
    SameVerdicts (w.extend p) (w'.extend p) := fun l c => by
  simpa [List.append_assoc] using h (p ++ l) c

/-- What a computation may see of a world: a relation between worlds that every
extension by the same calls keeps, and under which every call gets the same
verdict. -/
structure View where
  rel : World → World → Prop
  extend : ∀ {w w'}, rel w w' → ∀ p, rel (w.extend p) (w'.extend p)
  verdict : ∀ {w w'}, rel w w' → ∀ c, w.fail w.log c = w'.fail w'.log c

/-- What the role stages of the cluster `k` see: the verdicts, and whether an
autoscaler is bound to the cluster. -/
def rolesView (k : NamespacedName) : View where
  rel w w' := SameVerdicts w w' ∧ w.store.autoScalers k = w'.store.autoScalers k
  extend h p := ⟨h.1.extend p, by simp [h.2]⟩
  verdict h c := by simpa using h.1 [] c

/-- What a pass of the cluster `k` sees: what its role stages see, and the
cluster's Secret. -/
def passView (k : NamespacedName) : View where
  rel w w' := (rolesView k).rel w w' ∧
    w.store.objects (oprSecretRef k) = w'.store.objects (oprSecretRef k)
  extend h p := ⟨(rolesView k).extend h.1 p, replay_objects_congr p h.2⟩
  verdict h := (rolesView k).verdict h.1

/-- What a computation may read of the store: a relation between stores that
replaying the same calls keeps. -/
structure StoreView where
  rel : Store → Store → Prop
  refl : ∀ S, rel S S
  replay : ∀ {S S'}, rel S S' → ∀ p, rel (replay p S) (replay p S')

/-- Whether an autoscaler is bound to the cluster `k`. -/
def bindingView (k : NamespacedName) : StoreView where
  rel S S' := S.autoScalers k = S'.autoScalers k
  refl _ := rfl
  replay h p := by simp [h]

/-- Whether an autoscaler is bound to the cluster `k`, and its Secret. -/
def secretView (k : NamespacedName) : StoreView where
  rel S S' := (bindingView k).rel S S' ∧ S.objects (oprSecretRef k) = S'.objects (oprSecretRef k)
  refl _ := ⟨rfl, rfl⟩
  replay h p := ⟨(bindingView k).replay h.1 p, replay_objects_congr p h.2⟩

/-! ### Local computations, and computations that track a view -/

/-- A computation is local to a view when, from two worlds related by the view,
it returns the same outcome and issues the same calls. -/
def Local (V : View) {α : Type} (x : Rec α) : Prop :=
  ∀ w w', V.rel w w' → ∃ p, (x w).1 = (x w').1 ∧ (x w).2 = w.extend p ∧ (x w').2 = w'.extend p

/-- A computation tracks a store view when, from two worlds whose stores the
view relates, whatever their oracles, it returns the same outcome and issues the
same calls – or it issues the same calls up to a first call that the two oracles
judge differently, and that call too. -/
def Tracks (B : StoreView) {α : Type} (x : Rec α) : Prop :=
  ∀ w w', B.rel w.store w'.store →
    (∃ p, (x w).1 = (x w').1 ∧ (x w).2 = w.extend p ∧ (x w').2 = w'.extend p) ∨
    ∃ a c p p', w.fail (w.log ++ a) c ≠ w'.fail (w'.log ++ a) c ∧
      (x w).2 = w.extend (a ++ (c, w.fail (w.log ++ a) c) :: p) ∧
      (x w').2 = w'.extend (a ++ (c, w'.fail (w'.log ++ a) c) :: p')

section Tracks

variable {B : StoreView} {α β : Type}

theorem Tracks.mono {B' : StoreView} (h : ∀ S S', B'.rel S S' → B.rel S S') {x : Rec α} (hx : Tracks B x) :
    Tracks B' x :=
  fun w w' hw => hx w w' (h _ _ hw)

/-- A computation that tracks a view only ever extends its world. -/
theorem Tracks.extends {x : Rec α} (hx : Tracks B x) (w : World) : ∃ p, (x w).2 = w.extend p := by
  rcases hx w w (B.refl _) with ⟨p, -, hp, -⟩ | ⟨_, _, _, _, hne, -⟩
  · exact ⟨p, hp⟩
  · exact absurd rfl hne

/-- **Under the same verdicts, a computation that tracks a view is local.** -/
theorem Tracks.toLocal {x : Rec α} (hx : Tracks B x) {V : View}
    (hV : ∀ w w', V.rel w w' → B.rel w.store w'.store ∧ SameVerdicts w w') : Local V x := fun w w' h => by
  rcases hx w w' (hV w w' h).1 with hs | ⟨a, c, _, _, hne, -⟩
  · exact hs
  · exact absurd ((hV w w' h).2 a c) hne

theorem tracks_pure (a : α) : Tracks B (pure a : Rec α) :=
  fun _ _ _ => .inl ⟨[], rfl, by simp, by simp⟩

theorem tracks_panic (msg : String) : Tracks B (panic msg : Rec α) :=
  fun _ _ _ => .inl ⟨[], rfl, by simp, by simp⟩

theorem tracks_deref (o : Option α) : Tracks B (deref o) := by
  cases o with
  | none => exact tracks_panic _
  | some a => exact tracks_pure a

/-- A call sees nothing of the store: the two runs part exactly when the
oracles judge it differently. -/
theorem tracks_issue (c : Call) : Tracks B (issue c) := fun w w' _ => by
  by_cases hv : w.fail w.log c = w'.fail w'.log c
  · exact .inl ⟨[(c, w.fail w.log c)], by simp [issue, hv], rfl, by simp [issue, hv]⟩
  · exact .inr ⟨[], c, [], [], by simpa using hv, by simp [issue], by simp [issue]⟩

/-- What follows a computation only extends the world it reached. -/
theorem bind_extends {x : Rec α} {f : α → Rec β} (hf : ∀ a, Tracks B (f a)) {w : World} {P : Log}
    (hx : (x w).2 = w.extend P) : ∃ r, ((x >>= f) w).2 = w.extend (P ++ r) := by
  have e : x w = ((x w).1, w.extend P) := Prod.ext rfl hx
  rw [Rec.bind_apply, e]
  cases (x w).1 with
  | ret b =>
    obtain ⟨r, hr⟩ := (hf b).extends (w.extend P)
    exact ⟨r, by rw [hr, World.extend_extend]⟩
  | panic m => exact ⟨[], by simp⟩

theorem Tracks.bind {x : Rec α} {f : α → Rec β} (hx : Tracks B x) (hf : ∀ a, Tracks B (f a)) :
    Tracks B (x >>= f) := by
  intro w w' h
  rcases hx w w' h with ⟨p, h1, h2, h3⟩ | ⟨a, c, p, p', hne, h2, h3⟩
  · -- the same calls: the continuations start from related worlds
    have e1 : x w = ((x w).1, w.extend p) := Prod.ext rfl h2
    have e2 : x w' = ((x w).1, w'.extend p) := Prod.ext h1.symm h3
    rw [Rec.bind_apply, Rec.bind_apply, e1, e2]
    generalize (x w).1 = o
    cases o with
    | ret b =>
      rcases hf b (w.extend p) (w'.extend p) (B.replay h p) with ⟨q, hq1, hq2, hq3⟩ | ⟨a', c', q, q', hne', hq2, hq3⟩
      · exact .inl ⟨p ++ q, hq1, by rw [hq2, World.extend_extend], by rw [hq3, World.extend_extend]⟩
      · refine .inr ⟨p ++ a', c', q, q', by simpa using hne', ?_, ?_⟩
        · rw [hq2, World.extend_extend]
          simp
        · rw [hq3, World.extend_extend]
          simp
    | panic m => exact .inl ⟨p, rfl, rfl, rfl⟩
  · -- parted already: what follows only extends the two logs
    obtain ⟨r, hr⟩ := bind_extends hf h2
    obtain ⟨r', hr'⟩ := bind_extends hf h3
    exact .inr ⟨a, c, p ++ r, p' ++ r', hne, by rw [hr]; simp, by rw [hr']; simp⟩

theorem Tracks.orFail {call : Rec (Option Error)} {rest : Rec ClusterStageRecResult} (hc : Tracks B call)
    (hr : Tracks B rest) (stage : DorisClusterOprStage) (action : OprStageAction) :
    Tracks B (orFail call stage action rest) :=
  hc.bind fun v => by
    cases v with
    | some err => exact tracks_pure _
    | none => exact hr

theorem Tracks.orFailEach {calls : List (Rec (Option Error))} {rest : Rec ClusterStageRecResult}
    (hc : ∀ c ∈ calls, Tracks B c) (hr : Tracks B rest) (stage : DorisClusterOprStage)
    (action : OprStageAction) : Tracks B (orFailEach calls stage action rest) := by
  induction calls with
  | nil => exact hr
  | cons c cs ih => exact (hc c (.head _)).orFail (ih fun c' h => hc c' (.tail _ h)) stage action

theorem runStages_tracks {fns : List (Rec ClusterStageRecResult)} (h : ∀ fn ∈ fns, Tracks B fn) :
    Tracks B (runStages fns) := by
  induction fns with
  | nil => exact tracks_pure _
  | cons fn fns ih =>
    refine (h fn (.head _)).bind fun result => ?_
    split
    · exact tracks_pure _
    · exact ih fun fn' h' => h fn' (.tail _ h')

end Tracks

/-! ### Every function of the reconciler tracks what it reads -/

section Functions

variable {k : NamespacedName}

/-- A lookup – `exist`, `findRefDorisAutoScaler` – reads of the store only what
`g` reads. -/
theorem tracks_lookup {γ : Type} {B : StoreView} (c : Call) (g : Store → γ)
    (hg : ∀ S S', B.rel S S' → g S = g S') :
    Tracks B ((do
      match ← issue c with
      | some err => pure (.error err)
      | none => return .ok (g (← getStore))) : Rec (Except Error γ)) := by
  refine (tracks_issue _).bind fun v => ?_
  cases v with
  | some err => exact tracks_pure _
  | none => exact fun w w' h => .inl ⟨[], by simp [Rec.bind_apply, hg _ _ h], by simp [Rec.bind_apply],
      by simp [Rec.bind_apply]⟩

theorem tracks_setAnnotationEntry (sts : StatefulSet) (key value : String) :
    Tracks (bindingView k) (setAnnotationEntry sts key value) := by
  unfold setAnnotationEntry
  split
  · exact tracks_panic _
  · exact tracks_pure _

theorem recOprAccountSecret_tracks (env : ReconcileEnv) (cr : DorisCluster) :
    Tracks (secretView cr.objKey) (recOprAccountSecret env cr) := by
  unfold recOprAccountSecret
  refine (tracks_lookup _ _ fun S S' (h : (secretView cr.objKey).rel S S') => congrArg Option.isSome h.2).bind fun v => ?_
  cases v with
  | error err => exact tracks_pure _
  | ok found =>
    cases found
    · exact (tracks_issue _).orFail (tracks_pure _) _ _
    · exact tracks_pure _

theorem applyRes_tracks {keys : RoleKeys} (t : RoleTransformer keys) (st : RoleStages)
    (annotationKey : String) (mapMd5 : StrMap → String)
    (adjust : StatefulSet → Rec (Except Error StatefulSet)) (hadj : ∀ s, Tracks (bindingView k) (adjust s))
    (cr : DorisCluster) : Tracks (bindingView k) (applyRes t st annotationKey mapMd5 adjust cr) := by
  unfold applyRes
  refine (tracks_deref _).bind fun cm => (tracks_issue _).orFail (Tracks.orFailEach ?_ ?_ _ _) _ _
  · simp only [List.mem_map]
    rintro _ ⟨mk, -, rfl⟩
    exact (tracks_deref _).bind fun s => tracks_issue _
  · refine (tracks_deref _).bind fun sts => (tracks_setAnnotationEntry _ _ _).bind fun sts' =>
      (hadj sts').bind fun v => ?_
    cases v with
    | error err => exact tracks_pure _
    | ok s => exact (tracks_issue _).orFail (tracks_pure _) _ _

theorem deleteRes_tracks (keys : RoleKeys) (st : RoleStages) (cr : DorisCluster) :
    Tracks (bindingView k) (deleteRes keys st cr) := by
  refine (tracks_issue _).orFail (Tracks.orFailEach ?_ ((tracks_issue _).orFail (tracks_pure _) _ _) _ _) _ _
  simp only [List.mem_map]
  rintro _ ⟨key, -, rfl⟩
  exact tracks_issue _

theorem recRoleResources_tracks {keys : RoleKeys} (t : RoleTransformer keys) (st : RoleStages)
    (annotationKey : String) (mapMd5 : StrMap → String)
    (adjust : StatefulSet → Rec (Except Error StatefulSet)) (hadj : ∀ s, Tracks (bindingView k) (adjust s))
    (present : Bool) (cr : DorisCluster) :
    Tracks (bindingView k) (recRoleResources t st annotationKey mapMd5 adjust present cr) := by
  cases present
  · exact deleteRes_tracks keys st cr
  · exact applyRes_tracks t st annotationKey mapMd5 adjust hadj cr

theorem cnAutoScalerAdjust_tracks (cr : DorisCluster) (s : StatefulSet) :
    Tracks (bindingView cr.objKey) (cnAutoScalerAdjust cr s) := by
  unfold cnAutoScalerAdjust
  refine (tracks_lookup _ _ fun S S' (h : (bindingView cr.objKey).rel S S') => h).bind fun v => ?_
  cases v <;> exact tracks_pure _

/-- The stages after the Secret stage, in the order `Reconcile` runs them. -/
def roleStages (env : ReconcileEnv) (cr : DorisCluster) : List (Rec ClusterStageRecResult) :=
  [recFeResources env cr, recBeResources env cr, recCnResources env cr, recBrokerResources env cr]

theorem reconcile_eq (env : ReconcileEnv) (cr : DorisCluster) :
    reconcile env cr = runStages (recOprAccountSecret env cr :: roleStages env cr) := rfl

/-- The role stages read of the store only whether an autoscaler is bound to
the cluster. -/
theorem roleStages_tracks (env : ReconcileEnv) (cr : DorisCluster) :
    ∀ fn ∈ roleStages env cr, Tracks (bindingView cr.objKey) fn := by
  intro fn hfn
  simp only [roleStages, List.mem_cons, List.not_mem_nil, or_false] at hfn
  have keep : ∀ s, Tracks (bindingView cr.objKey) (keepStatefulSet s) := fun s => tracks_pure _
  rcases hfn with rfl | rfl | rfl | rfl
  · exact recRoleResources_tracks _ _ _ _ _ keep _ cr
  · exact recRoleResources_tracks _ _ _ _ _ keep _ cr
  · exact recRoleResources_tracks _ _ _ _ _ (cnAutoScalerAdjust_tracks cr) _ cr
  · exact recRoleResources_tracks _ _ _ _ _ keep _ cr

/-- A pass reads of the store only its cluster's Secret and autoscaler binding. -/
theorem reconcile_tracks (env : ReconcileEnv) (cr : DorisCluster) :
    Tracks (secretView cr.objKey) (reconcile env cr) := by
  rw [reconcile_eq]
  refine runStages_tracks fun fn hfn => ?_
  rcases List.mem_cons.mp hfn with rfl | hfn
  · exact recOprAccountSecret_tracks env cr
  · exact (roleStages_tracks env cr fn hfn).mono fun S S' (h : (secretView cr.objKey).rel S S') => h.1

/-- **A pass is local to its cluster**: from two worlds with the same verdicts,
the same Secret and the same autoscaler binding, it returns the same outcome and
issues the same calls. -/
theorem reconcile_local (env : ReconcileEnv) (cr : DorisCluster) :
    Local (passView cr.objKey) (reconcile env cr) :=
  (reconcile_tracks env cr).toLocal fun w w' (h : (passView cr.objKey).rel w w') => ⟨⟨h.1.2, h.2⟩, h.1.1⟩

end Functions

/-! ### Passes of two clusters commute -/

/-- A pass extends its world by calls that target its own cluster's identities. -/
theorem reconcile_extend (env : ReconcileEnv) (cr : DorisCluster) (S : Store) (fail : Oracle) :
    ∃ p, (reconcile env cr ⟨S, [], fail⟩).2 = World.extend ⟨S, [], fail⟩ p ∧
      ∀ e ∈ p, ∀ r, e.1.shape.target = some r → r ∈ clusterRefs cr.objKey := by
  obtain ⟨p, hw, -, -, -, hpre, -⟩ := reconcile_follows_canonical env cr ⟨S, [], fail⟩
  exact ⟨p, hw, fun e he r ht => canonicalCalls_target cr _ (hpre.subset (List.mem_map_of_mem _ he)) ht⟩

/-- A pass of another cluster changes nothing a pass of `cr` sees. -/
theorem sees_after_other (env : ReconcileEnv) {cr cr' : DorisCluster} (h : cr'.objKey ≠ cr.objKey)
    (S : Store) (fail fail' : Oracle) :
    (passView cr.objKey).rel ⟨S, [], fail⟩ ⟨(reconcile env cr' ⟨S, [], fail'⟩).2.store, [], fail⟩ := by
  obtain ⟨p, hp, -⟩ := reconcile_extend env cr' S fail'
  refine ⟨⟨fun _ _ => rfl, ?_⟩,
    (reconcile_objects_of_other env cr' S fail' h (mem_clusterRefs.mpr (.inl rfl))).symm⟩
  rw [hp]
  simp

/-- **Passes of two clusters commute.** Run one after the other, in either
order, each returns what it returns alone and issues the same calls, and the
store ends the same – whatever the two clusters declare and whatever fails. -/
theorem passes_commute (env : ReconcileEnv) (cr₁ cr₂ : DorisCluster) (h : cr₁.objKey ≠ cr₂.objKey)
    (fail₁ fail₂ : Oracle) (S : Store) :
    (reconcile env cr₂ ⟨(reconcile env cr₁ ⟨S, [], fail₁⟩).2.store, [], fail₂⟩).1 =
      (reconcile env cr₂ ⟨S, [], fail₂⟩).1 ∧
    (reconcile env cr₂ ⟨(reconcile env cr₁ ⟨S, [], fail₁⟩).2.store, [], fail₂⟩).2.log =
      (reconcile env cr₂ ⟨S, [], fail₂⟩).2.log ∧
    (reconcile env cr₁ ⟨(reconcile env cr₂ ⟨S, [], fail₂⟩).2.store, [], fail₁⟩).1 =
      (reconcile env cr₁ ⟨S, [], fail₁⟩).1 ∧
    (reconcile env cr₁ ⟨(reconcile env cr₂ ⟨S, [], fail₂⟩).2.store, [], fail₁⟩).2.log =
      (reconcile env cr₁ ⟨S, [], fail₁⟩).2.log ∧
    (reconcile env cr₂ ⟨(reconcile env cr₁ ⟨S, [], fail₁⟩).2.store, [], fail₂⟩).2.store =
      (reconcile env cr₁ ⟨(reconcile env cr₂ ⟨S, [], fail₂⟩).2.store, [], fail₁⟩).2.store := by
  obtain ⟨p₁, hp₁, ht₁⟩ := reconcile_extend env cr₁ S fail₁
  obtain ⟨p₂, hp₂, ht₂⟩ := reconcile_extend env cr₂ S fail₂
  obtain ⟨q₂, e₂, hq₂, hq₂'⟩ := reconcile_local env cr₂ _ _ (sees_after_other env h S fail₂ fail₁)
  obtain ⟨q₁, e₁, hq₁, hq₁'⟩ := reconcile_local env cr₁ _ _ (sees_after_other env (Ne.symm h) S fail₁ fail₂)
  obtain rfl := World.extend_log_inj (hq₂.symm.trans hp₂)
  obtain rfl := World.extend_log_inj (hq₁.symm.trans hp₁)
  refine ⟨e₂.symm, by rw [hq₂', hq₂]; simp, e₁.symm, by rw [hq₁', hq₁]; simp, ?_⟩
  -- the two logs target the identities of their own clusters, which are apart
  have hapart : ∀ r, (∀ e ∈ q₂, e.1.shape.target ≠ some r) ∨ ∀ e ∈ q₁, e.1.shape.target ≠ some r := by
    intro r
    by_cases hr : r ∈ clusterRefs cr₁.objKey
    · exact .inl fun e he ht => clusterRefs_apart h r hr (ht₂ e he r ht)
    · exact .inr fun e he ht => hr (ht₁ e he r ht)
  rw [hq₂', hq₁', hp₁, hp₂]
  exact replay_comm hapart S

/-- A cluster named after the FE objects of `doris`. -/
def dorisFeCluster : DorisCluster := { name := "doris-fe", ns := "default" }

theorem passes_commute_dorisFe :
    emptyCluster.objKey ≠ dorisFeCluster.objKey ∧
    (reconcile feOnlyEnv dorisFeCluster
        ⟨(reconcile feOnlyEnv emptyCluster ⟨Store.empty, [], healthy⟩).2.store, [], healthy⟩).1 =
      (reconcile feOnlyEnv dorisFeCluster ⟨Store.empty, [], healthy⟩).1 ∧
    (reconcile feOnlyEnv dorisFeCluster
        ⟨(reconcile feOnlyEnv emptyCluster ⟨Store.empty, [], healthy⟩).2.store, [], healthy⟩).2.log =
      (reconcile feOnlyEnv dorisFeCluster ⟨Store.empty, [], healthy⟩).2.log ∧
    (reconcile feOnlyEnv emptyCluster
        ⟨(reconcile feOnlyEnv dorisFeCluster ⟨Store.empty, [], healthy⟩).2.store, [], healthy⟩).1 =
      (reconcile feOnlyEnv emptyCluster ⟨Store.empty, [], healthy⟩).1 ∧
    (reconcile feOnlyEnv emptyCluster
        ⟨(reconcile feOnlyEnv dorisFeCluster ⟨Store.empty, [], healthy⟩).2.store, [], healthy⟩).2.log =
      (reconcile feOnlyEnv emptyCluster ⟨Store.empty, [], healthy⟩).2.log ∧
    (reconcile feOnlyEnv dorisFeCluster
        ⟨(reconcile feOnlyEnv emptyCluster ⟨Store.empty, [], healthy⟩).2.store, [], healthy⟩).2.store =
      (reconcile feOnlyEnv emptyCluster
        ⟨(reconcile feOnlyEnv dorisFeCluster ⟨Store.empty, [], healthy⟩).2.store, [], healthy⟩).2.store :=
  ⟨by decide, passes_commute feOnlyEnv emptyCluster dorisFeCluster (by decide) healthy healthy Store.empty⟩

end DorisOperator
