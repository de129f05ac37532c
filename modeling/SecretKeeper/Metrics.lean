/-
# Metrics

What the controller counts.  Every counter only grows; the duration of cycles is observed
in buckets, each of which counts the observations up to its bound.  A tally holds the
counters that have moved, under the names by which they are published.
-/
import SecretKeeper.Dict

namespace SecretKeeper

/-- A counter. -/
inductive Counter where
  | reconciliations
  | reconciliationErrors
  | secretsCreated
  | secretsUpdated
  | ownershipSkips
  | validationFailures
  | valuesGenerated
  | statusWriteFailures
  /-- Claims that are tried again, by reason. -/
  | requeues (reason : String)
deriving DecidableEq

namespace Metrics

/-- The text of a label between its quotes. -/
def escapeLabel (s : String) : String :=
  String.ofList (s.toList.flatMap fun c =>
    if c == '\\' then ['\\', '\\']
    else if c == '"' then ['\\', '"']
    else if c == '\n' then ['\\', 'n']
    else [c])

/-- A name with one label. -/
def labelled (name label value : String) : String :=
  name ++ "\x7b" ++ label ++ "=\"" ++ escapeLabel value ++ "\"\x7d"

end Metrics

namespace Counter

/-- The name under which the counter is published, without the prefix of all names. -/
def text : Counter → String
  | reconciliations => "reconciliations_total"
  | reconciliationErrors => "reconciliation_errors_total"
  | secretsCreated => "secrets_created_total"
  | secretsUpdated => "secrets_updated_total"
  | ownershipSkips => "ownership_skips_total"
  | validationFailures => "validation_failures_total"
  | valuesGenerated => "values_generated_total"
  | statusWriteFailures => "status_write_failures_total"
  | requeues reason => Metrics.labelled "requeues_total" "reason" reason

/-- The reason of the requeues that the error policy asks for. -/
def errorBackoff : String := "error-backoff"

end Counter

/-- The counters that have moved, by name. -/
abbrev Tally := Dict Nat

namespace Tally

/-- Nothing has moved. -/
def empty : Tally := ∅

/-- The counter of that name moves by `n`; moving by zero is not seen. -/
def bump (name : String) (n : Nat) (t : Tally) : Tally :=
  if n = 0 then t else t.insert name (t[name]?.getD 0 + n)

/-- A counter moves by `n`. -/
def count (c : Counter) (n : Nat) (t : Tally) : Tally := t.bump c.text n

/-- The name of the histogram of durations. -/
def duration : String := "reconciliation_duration_seconds"

/-- A duration was observed; only the number of observations is shown. -/
def observe (t : Tally) : Tally := t.bump (duration ++ "_count") 1

/-- The bounds of the buckets, as texts and as seconds. -/
def buckets : List (String × Float) :=
  [("0.01", 0.01), ("0.05", 0.05), ("0.1", 0.1), ("0.5", 0.5), ("1", 1.0), ("5", 5.0),
    ("30", 30.0)]

/-- A duration of so many seconds was observed; every bucket is shown whose bound it does
not exceed, and the one without a bound. -/
def observeSeconds (seconds : Float) (t : Tally) : Tally :=
  let held := (buckets.filter fun b => seconds ≤ b.2).map Prod.fst ++ ["+Inf"]
  held.foldl (fun t bound => t.bump (Metrics.labelled (duration ++ "_bucket") "le" bound) 1)
    t.observe

end Tally

namespace Metrics

/-- The prefix of all published names. -/
def namePrefix : String := "secret_claim_"

/-- Every published metric: its name, its kind and what it counts. -/
def published : List (String × String × String) :=
  [("ownership_skips_total", "counter",
      "Total number of cycles skipped because the Secret is owned by something else"),
    ("reconciliation_duration_seconds", "histogram", "Duration of reconciliation in seconds"),
    ("reconciliation_errors_total", "counter", "Total number of reconciliation errors"),
    ("reconciliations_total", "counter", "Total number of reconciliations"),
    ("requeues_total", "counter", "Total number of requeues by reason"),
    ("secrets_created_total", "counter", "Total number of Secrets created for claims"),
    ("secrets_updated_total", "counter",
      "Total number of Secrets rewritten after drift or a new reconcile trigger"),
    ("status_write_failures_total", "counter", "Total number of failed status writes"),
    ("validation_failures_total", "counter", "Total number of claims rejected by validation"),
    ("values_generated_total", "counter", "Total number of secret values generated")]

/-- The comment lines of the published text, in order. -/
def comments : List String :=
  published.map (fun (name, _, help) => "# HELP " ++ namePrefix ++ name ++ " " ++ help) ++
    published.map (fun (name, kind, _) => "# TYPE " ++ namePrefix ++ name ++ " " ++ kind)

/-- What is said about registering the metrics again: the first of them is already there. -/
def duplicateRegistration : String := "Duplicate metrics collector registration attempted"

end Metrics

end SecretKeeper
