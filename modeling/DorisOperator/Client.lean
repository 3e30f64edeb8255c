import Mathlib.Logic.Function.Basic
import DorisOperator.Api

/-!
# The object store and the client the reconciler calls

The reconciler reads and writes a remote store of Kubernetes objects through a
client that the sources do not contain; the design gives its contract (§6):
`exists`, `create`, `createOrUpdate`, `deleteWhenExist`, and the lookup of a bound
autoscaler. Every call is synchronous and any call may fail – the design does not
tell transient errors from permanent ones.

A pass of the reconciler is modelled as a computation in `DorisOperator.Rec`,
against a `DorisOperator.World`: the store, the log of the calls issued so far in
the pass, and a **failure oracle** that decides, for each call, whether it fails,
knowing every call before it and its verdict. Quantifying over the oracle
quantifies over every pattern of failures.

A call that fails leaves the store as it was; a call that succeeds takes its
effect, `DorisOperator.Call.apply`. So the store at any point of a pass is the
store it started from with the effects of the logged calls that succeeded
(`DorisOperator.replay`), and `DorisOperator.World.extend` is the one way a
world changes.

A Go panic ends the pass where it happens. `DorisOperator.Outcome` records it,
and the world the pass had reached stays: what was written stays written.
-/

namespace DorisOperator

/-! ### Objects -/

inductive Kind where
  | secret
  | configMap
  | service
  | statefulSet
  deriving DecidableEq, Repr

/-- The identity of a stored object: its kind, namespace and name. -/
structure ObjRef where
  kind : Kind
  key : NamespacedName
  deriving DecidableEq, Repr

inductive Obj where
  | secret (s : Secret)
  | configMap (c : ConfigMap)
  | service (s : Service)
  | statefulSet (s : StatefulSet)
  deriving DecidableEq, Repr

def Obj.ref : Obj → ObjRef
  | .secret s => ⟨.secret, s.metadata.key⟩
  | .configMap c => ⟨.configMap, c.metadata.key⟩
  | .service s => ⟨.service, s.metadata.key⟩
  | .statefulSet s => ⟨.statefulSet, s.metadata.key⟩

/-- Modelled from the spec: `createOrUpdate` applies "a strategic field-level merge,
not a full overwrite", so a StatefulSet written with nil replicas keeps the live
count; every other field is the one written. -/
def Obj.mergeOnto : Obj → Option Obj → Obj
  | .statefulSet s, some (.statefulSet live) =>
    .statefulSet { s with spec.replicas := s.spec.replicas.or live.spec.replicas }
  | o, _ => o

/-- Modelled from the spec: a `DorisAutoScaler` bound to a cluster. Only whether
one is found matters to the reconciler. -/
structure DorisAutoScaler where
  key : NamespacedName
  deriving DecidableEq, Repr

/-- The object store: the objects, and the DorisAutoScaler bound to each cluster,
which only other parties write. -/
structure Store where
  objects : ObjRef → Option Obj
  autoScalers : NamespacedName → Option DorisAutoScaler

def Store.put (s : Store) (r : ObjRef) (o : Option Obj) : Store :=
  { s with objects := Function.update s.objects r o }

/-- The store that holds nothing. -/
def Store.empty : Store := ⟨fun _ => none, fun _ => none⟩

theorem Store.ext {S S' : Store} (ho : S.objects = S'.objects) (ha : S.autoScalers = S'.autoScalers) :
    S = S' := by
  cases S
  cases S'
  congr

@[simp] theorem Store.put_objects_self (s : Store) (r : ObjRef) (o : Option Obj) :
    (s.put r o).objects r = o := Function.update_same _ _ _

theorem Store.put_objects_ne (s : Store) {r r' : ObjRef} (o : Option Obj) (h : r' ≠ r) :
    (s.put r o).objects r' = s.objects r' := Function.update_noteq h _ _

@[simp] theorem Store.put_autoScalers (s : Store) (r : ObjRef) (o : Option Obj) :
    (s.put r o).autoScalers = s.autoScalers := rfl

/-! ### Calls -/

/-- A Go `error` value. -/
structure Error where
  msg : String
  deriving DecidableEq, Repr

/-- A call of the reconciler to the object store, with the object it carries. -/
inductive Call where
  | exist (ref : ObjRef)
  | create (obj : Obj)
  | createOrUpdate (obj : Obj)
  | findRefDorisAutoScaler (key : NamespacedName)
  | deleteWhenExist (ref : ObjRef)
  deriving DecidableEq, Repr

/-- What a call is addressed to, without the object it carries. -/
inductive CallShape where
  | exist (ref : ObjRef)
  | create (ref : ObjRef)
  | createOrUpdate (ref : ObjRef)
  | findRefDorisAutoScaler (key : NamespacedName)
  | deleteWhenExist (ref : ObjRef)
  deriving DecidableEq, Repr

def Call.shape : Call → CallShape
  | .exist r => .exist r
  | .create o => .create o.ref
  | .createOrUpdate o => .createOrUpdate o.ref
  | .findRefDorisAutoScaler k => .findRefDorisAutoScaler k
  | .deleteWhenExist r => .deleteWhenExist r

/-- Modelled from the spec: what a call that succeeds does to the store. A
`deleteWhenExist` of an absent object deletes nothing. -/
def Call.apply : Call → Store → Store
  | .exist _, s => s
  | .create o, s => s.put o.ref (some o)
  | .createOrUpdate o, s => s.put o.ref (some (o.mergeOnto (s.objects o.ref)))
  | .findRefDorisAutoScaler _, s => s
  | .deleteWhenExist r, s => s.put r none

@[simp] theorem Call.apply_autoScalers (c : Call) (s : Store) :
    (c.apply s).autoScalers = s.autoScalers := by
  cases c <;> rfl

/-- The calls of a pass, each with its verdict: `none` for Go's nil, or the error
the call returned. -/
abbrev Log := List (Call × Option Error)

/-- A failure oracle: the verdict on a call, knowing the calls of the pass before
it and their verdicts. -/
abbrev Oracle := Log → Call → Option Error

/-- The oracle of a healthy store, under which no call fails. -/
def healthy : Oracle := fun _ _ => none

/-- The store after the calls of `l` that succeeded. -/
def replay (l : Log) (s : Store) : Store :=
  l.foldl (fun s e => match e.2 with
    | none => e.1.apply s
    | some _ => s) s

@[simp] theorem replay_nil (s : Store) : replay [] s = s := rfl

theorem replay_append (l l' : Log) (s : Store) : replay (l ++ l') s = replay l' (replay l s) :=
  List.foldl_append _ _ _ _

@[simp] theorem replay_autoScalers (l : Log) (s : Store) : (replay l s).autoScalers = s.autoScalers := by
  induction l generalizing s with
  | nil => rfl
  | cons e l ih =>
    rcases e with ⟨c, _ | _⟩
    · exact (ih _).trans (c.apply_autoScalers s)
    · exact ih s

/-- What a pass runs against: the store, the calls issued so far, the oracle. -/
structure World where
  store : Store
  log : Log
  fail : Oracle

/-- The world after the calls `l`: the log grows, the store takes their effects. -/
def World.extend (w : World) (l : Log) : World :=
  { w with store := replay l w.store, log := w.log ++ l }

@[simp] theorem World.extend_nil (w : World) : w.extend [] = w := by
  simp [World.extend]

theorem World.extend_extend (w : World) (l l' : Log) : (w.extend l).extend l' = w.extend (l ++ l') := by
  simp [World.extend, replay_append]

@[simp] theorem World.extend_fail (w : World) (l : Log) : (w.extend l).fail = w.fail := rfl

@[simp] theorem World.extend_log (w : World) (l : Log) : (w.extend l).log = w.log ++ l := rfl

@[simp] theorem World.extend_store (w : World) (l : Log) : (w.extend l).store = replay l w.store := rfl

theorem World.extend_log_inj {w : World} {p q : Log} (h : w.extend p = w.extend q) : p = q := by
  simpa using congrArg World.log h

/-! ### The reconciler's monad -/

/-- How Go code ends: it returns, or it panics. -/
inductive Outcome (α : Type) where
  | ret (a : α)
  | panic (msg : String)
  deriving DecidableEq, Repr

/-- A computation of the reconciler. Whether it returns or panics, the world it
reached is kept. -/
def Rec (α : Type) : Type := World → Outcome α × World

namespace Rec

protected def pure {α : Type} (a : α) : Rec α := fun w => (.ret a, w)

protected def bind {α β : Type} (x : Rec α) (f : α → Rec β) : Rec β := fun w =>
  match x w with
  | (.ret a, w') => f a w'
  | (.panic m, w') => (.panic m, w')

instance : Monad Rec where
  pure := Rec.pure
  bind := Rec.bind

@[simp] theorem pure_apply {α : Type} (a : α) (w : World) : (pure a : Rec α) w = (.ret a, w) := rfl

theorem bind_apply {α β : Type} (x : Rec α) (f : α → Rec β) (w : World) :
    (x >>= f) w = match x w with
      | (.ret a, w') => f a w'
      | (.panic m, w') => (.panic m, w') := rfl

end Rec

/-- A Go panic: the pass stops where it is. -/
def panic {α : Type} (msg : String) : Rec α := fun w => (.panic msg, w)

/-- Dereference a pointer, panicking on nil. -/
def deref {α : Type} : Option α → Rec α
  | some a => pure a
  | none => panic "invalid memory address or nil pointer dereference"

@[simp] theorem deref_some {α : Type} (a : α) : deref (some a) = pure a := rfl

def getStore : Rec Store := fun w => (.ret w.store, w)

/-- Issue a call: the oracle gives its verdict, the call is logged with it, and
the call takes effect unless it failed. -/
def issue (c : Call) : Rec (Option Error) := fun w =>
  (.ret (w.fail w.log c), w.extend [(c, w.fail w.log c)])

@[simp] theorem panic_apply {α : Type} (msg : String) (w : World) :
    (panic msg : Rec α) w = (.panic msg, w) := rfl

@[simp] theorem getStore_apply (w : World) : getStore w = (.ret w.store, w) := rfl

/-! ### The client, modelled from the spec -/

/-- Modelled from the spec: `exists(ref) -> bool, error`. -/
def exist (ref : ObjRef) : Rec (Except Error Bool) := do
  match ← issue (.exist ref) with
  | some err => pure (.error err)
  | none => return .ok ((← getStore).objects ref).isSome

/-- Modelled from the spec: `create(obj) -> error`. -/
def create (obj : Obj) : Rec (Option Error) := issue (.create obj)

/-- Modelled from the spec: `createOrUpdate(obj) -> error`. -/
def createOrUpdate (obj : Obj) : Rec (Option Error) := issue (.createOrUpdate obj)

/-- Modelled from the spec: `deleteIfExists(ref, kind) -> error`, `DeleteWhenExist`
in the code. -/
def deleteWhenExist (ref : ObjRef) : Rec (Option Error) := issue (.deleteWhenExist ref)

/-- Modelled from the spec: `findBoundAutoscaler(clusterIdentity) ->
(AutoscalerBinding|null, error)`, `FindRefDorisAutoScaler` in the code. -/
def findRefDorisAutoScaler (key : NamespacedName) : Rec (Except Error (Option DorisAutoScaler)) := do
  match ← issue (.findRefDorisAutoScaler key) with
  | some err => pure (.error err)
  | none => return .ok ((← getStore).autoScalers key)

end DorisOperator
