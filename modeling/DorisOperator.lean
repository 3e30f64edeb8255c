import DorisOperator.Util
import DorisOperator.Api
import DorisOperator.Transformer.Keys
import DorisOperator.Transformer.FeResources
import DorisOperator.Transformer.FeAgreement
import DorisOperator.Client
import DorisOperator.Util.MultiError
import DorisOperator.Reconciler
import DorisOperator.Reconciler.Follows
import DorisOperator.Reconciler.Calls
import DorisOperator.Reconciler.Results
import DorisOperator.Reconciler.Effects
import DorisOperator.Reconciler.Healthy
import DorisOperator.Reconciler.ConfigHash
import DorisOperator.Reconciler.Invariant
import DorisOperator.Reconciler.AutoScaler
import DorisOperator.Reconciler.Isolation
import DorisOperator.Reconciler.Locality
import DorisOperator.Reconciler.Idempotence
import DorisOperator.Reconciler.Recovery
import DorisOperator.Reconciler.Convergence
import DorisOperator.Reconciler.Attribution
