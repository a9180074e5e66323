import SafeAgents.Signature

namespace SafeAgents

open Interleaving

def actionCapSuffix : String := "counter"

def queryBytesSuffix : String := "query_bytes"

def errorBudgetSuffix : String := "error_budget"

def observationsSuffix : String := "observations"

def humanOverrideSuffix : String := "human_override"

def approvalSuffix : String := "approval"

def unboundedCounterCap : ℚ := 10 ^ 18

def scopedCounterKey (principal : Principal) (tool op bucket suffix : String) : String :=
  principal.key ++ ":" ++ (tool ++ "." ++ op) ++ ":" ++ bucket ++ ":" ++ suffix

def currentPeriodBucket (period : CounterPeriod) : Act String := do
  let now ← env .now
  return periodBucketOf now period

def counterKey (period : CounterPeriod) (principal : Principal) (tool op suffix : String) : Act String := do
  let bucket ← currentPeriodBucket period
  return scopedCounterKey principal tool op bucket suffix

namespace Delegation

def rootGrantId (principal : Principal) (actionClass : String) : Except Exn String :=
  if actionClass = "" then .error (.exception "action_class must be non-empty")
  else if actionClass.contains '#' then
    .error (.exception
      ("action_class must not contain '#' (it would make the derived root grant id ambiguous); got " ++
        pyRepr actionClass))
  else .ok ("GRANT#" ++ principal.key ++ "#" ++ actionClass)

def treeCounterKey (period : CounterPeriod) (rootGrantId tool op suffix : String) : Act String := do
  if rootGrantId.contains ':' then
    throw (.exception
      ("root_grant_id must not contain ':' (it would shift the key's segments); got " ++ pyRepr rootGrantId))
  else if rootGrantId = "" then throw (.exception "root_grant_id must be non-empty")
  else
    let bucket ← currentPeriodBucket period
    return "tree:" ++ rootGrantId ++ ":" ++ (tool ++ "." ++ op) ++ ":" ++ bucket ++ ":" ++ suffix

def anchorOf (principal : Principal) (tool op : String) (ownCap : ℚ) :
    Option SubGrant → Except Exn (String × ℚ)
  | none => (rootGrantId principal (tool ++ "." ++ op)).map fun anchor => (anchor,ownCap)
  | some subGrant =>
    match subGrant.delegationChain with
    | [] =>
      .error (.exception
        ("sub-grant " ++ pyRepr subGrant.id ++
          " has an empty delegationChain; it names no root, so the tree pool it should charge is undefined"))
    | root :: _ => .ok (root,subGrant.treePoolCap)

def resolveTreePool (delegates : Bool) (period : CounterPeriod) (ownCap : ℚ) (principal : Principal)
    (tool op : String) : Act (Option CounterDraw) := do
  if delegates then
    let subGrant ← env (.subGrant principal)
    let (anchor,cap) ← Prog.finish (anchorOf principal tool op ownCap subGrant)
    let key ← treeCounterKey period anchor tool op actionCapSuffix
    return some { key, delta := 1, cap }
  else return none

end Delegation

end SafeAgents
