import EdgeAlert.Delivery

/-!
# Handlers

The two receivers of alerts: one reports them as notices, the other writes them as lines of JSON.
-/

namespace EdgeAlert.Handler

variable {σ : Type}

def report (alert : StampedAlert) : List Notice :=
  [if alert.backToNormal then .backToNormal alert.identity alert.pattern
    else .outOfPattern alert.level alert.identity alert.pattern,
    .alertDetails alert.level alert.details]

def log : Handler σ where
  name := "log"
  handle alert state := { state, notices := report alert }

/-- The handler that writes alerts as lines; `write` gives `none` when it cannot. -/
def jsonLines (write : String → σ → Option σ) : Handler σ where
  name := "json"
  handle alert state :=
    match write alert.toLine state with
    | some state => { state }
    | none => { state, failed := true }

end EdgeAlert.Handler
