import SafeAgents.Dict
import SafeAgents.Schemas.Calendar
import Mathlib.Data.List.MinMax
import Mathlib.Algebra.BigOperators.Group.List.Basic
import Mathlib.Algebra.Order.Ring.Nat

namespace SafeAgents

namespace Watcher

inductive AttributionBasis where
  | signedChain | transportToken | unattributable | principal
  deriving DecidableEq

inductive CampaignKind where
  | vector | principalFlood
  deriving DecidableEq

def vectorAuthReasons : List String := ["screen_refused","expired","unmapped","principal_mismatch","audience_mismatch"]

def dedupeCappedReasons : List String := ["screen_refused"]

def forgeryReasons : List String := ["chain_signature_missing","chain_signature_invalid","chain_signer_unknown"]

def floodReason : String := "approval_queue_flood"

structure ObservedEvent where
  channelType : String
  identityDigest : String
  reason : String
  detail : Option String
  ts : Instant
  chainVerified : Bool
  signerKeyId : Option String
  sourceRef : Option String
  attributed : (signerKeyId.isNone || chainVerified) = true

structure FloodEvent where
  agentId : String
  op : String
  cap : Int
  ts : Instant
  sourceRef : Option String := none

structure CampaignThresholds where
  minAttempts : Nat
  windowSeconds : Nat
  positive : 0 < minAttempts ∧ 0 < windowSeconds

def transportKey (event : ObservedEvent) : String := event.channelType ++ "#" ++ event.identityDigest

def classifyObservedEvent (event : ObservedEvent) : AttributionBasis × String :=
  if forgeryReasons.contains event.reason then (.transportToken,transportKey event)
  else if vectorAuthReasons.contains event.reason then
    match event.signerKeyId with
    | some signer =>
      if dedupeCappedReasons.contains event.reason && event.chainVerified then (.signedChain,signer)
      else (.transportToken,transportKey event)
    | none => (.transportToken,transportKey event)
  else (.unattributable,transportKey event)

structure CampaignGroup where
  timestamps : List Instant := []
  countsByReason : Dict String Nat := .empty
  corpusRefs : List String := []

def CampaignGroup.add (group : CampaignGroup) (ts : Instant) (reason : String) (sourceRef : Option String) : CampaignGroup where
  timestamps := group.timestamps ++ [ts]
  countsByReason := group.countsByReason.set reason ((group.countsByReason.get? reason).getD 0 + 1)
  corpusRefs := group.corpusRefs ++ sourceRef.toList

abbrev GroupKey := CampaignKind × AttributionBasis × String

abbrev Groups := Dict GroupKey CampaignGroup

def grouped (groups : Groups) (key : GroupKey) (ts : Instant) (reason : String) (sourceRef : Option String) : Groups :=
  groups.set key (((groups.get? key).getD {}).add ts reason sourceRef)

def inWindow (windowStart now ts : Instant) : Bool := decide (windowStart < ts) && decide (ts ≤ now)

def addEvent (windowStart now : Instant) (groups : Groups) (event : ObservedEvent) : Groups :=
  if inWindow windowStart now event.ts then
    grouped groups (.vector,classifyObservedEvent event) event.ts event.reason event.sourceRef
  else groups

def addFlood (windowStart now : Instant) (groups : Groups) (flood : FloodEvent) : Groups :=
  if inWindow windowStart now flood.ts then
    grouped groups (.principalFlood,.principal,flood.agentId ++ "#" ++ flood.op) flood.ts floodReason flood.sourceRef
  else groups

def analyzeGroups (events : List ObservedEvent) (floods : List FloodEvent) (windowStart now : Instant) : Groups :=
  floods.foldl (addFlood windowStart now) (events.foldl (addEvent windowStart now) .empty)

def campaigns (thresholds : CampaignThresholds) (groups : Groups) : List (GroupKey × CampaignGroup) :=
  groups.entries.filter fun g => decide (thresholds.minAttempts ≤ g.2.timestamps.length)

def timesCounted (groups : Groups) (ref : String) : Nat := (groups.values.map fun group => group.corpusRefs.count ref).sum

section Counting

theorem sum_replaced {κ ν : Type} [DecidableEq κ] {entries : List (κ × ν)} (hunique : (entries.map Prod.fst).Nodup) {k : κ} {old : ν}
    (hget : entries.lookup k = some old) (v : ν) (f : ν → Nat) :
    ((Dict.replaced k v entries).map fun e => f e.2).sum + f old = (entries.map fun e => f e.2).sum + f v := by
  induction entries with
  | nil => cases hget
  | cons e entries ih =>
    obtain ⟨name,value⟩ := e
    obtain ⟨hfresh,hrest⟩ := List.nodup_cons.mp hunique
    by_cases hk : k = name
    · subst hk
      rw [List.lookup_cons,beq_self_eq_true] at hget
      obtain rfl := Option.some.inj hget
      have hsame : Dict.replaced k v entries = entries := by
        rw [Dict.replaced]
        refine (List.map_congr_left fun e he => ?_).trans (List.map_id entries)
        have hne : e.1 ≠ k := fun h => hfresh (List.mem_map.mpr ⟨e,he,h⟩)
        simp [hne]
      have hcons : Dict.replaced k v ((k,value) :: entries) = (k,v) :: Dict.replaced k v entries := by simp [Dict.replaced]
      rw [hcons,hsame]
      simp only [List.map_cons,List.sum_cons]
      omega
    · rw [List.lookup_cons,beq_false_of_ne hk] at hget
      have hcons : Dict.replaced k v ((name,value) :: entries) = (name,value) :: Dict.replaced k v entries := by
        have hne : name ≠ k := fun h => hk h.symm
        simp [Dict.replaced,hne]
      have hsum := ih hrest hget
      rw [hcons]
      simp only [List.map_cons,List.sum_cons]
      omega

theorem sum_set {κ ν : Type} [DecidableEq κ] (d : Dict κ ν) (k : κ) (v : ν) (f : ν → Nat) :
    ((d.set k v).values.map f).sum + ((d.get? k).map f).getD 0 = (d.values.map f).sum + f v := by
  by_cases hk : k ∈ d.keys
  · obtain ⟨old,hold⟩ := Dict.mem_keys.mp hk
    have hset : (d.set k v).values = (Dict.replaced k v d.entries).map Prod.snd := by rw [Dict.set,dif_pos hk]; rfl
    have hsum := sum_replaced d.unique hold v f
    rw [hset,hold,Dict.values,List.map_map,List.map_map]
    exact hsum
  · have hset : (d.set k v).values = d.values ++ [v] := by rw [Dict.set,dif_neg hk,Dict.values,Dict.values]; simp
    rw [hset,Dict.get?_none.mpr hk]
    simp

theorem timesCounted_grouped (groups : Groups) (key : GroupKey) (ts : Instant) (reason : String) (sourceRef : Option String)
    (ref : String) : timesCounted (grouped groups key ts reason sourceRef) ref = timesCounted groups ref + sourceRef.toList.count ref := by
  have hsum := sum_set groups key (((groups.get? key).getD {}).add ts reason sourceRef) fun group => group.corpusRefs.count ref
  rw [timesCounted,timesCounted,grouped]
  cases hget : groups.get? key with
  | none =>
    rw [hget] at hsum
    simp only [CampaignGroup.add,Option.getD_none,List.nil_append,Option.map_none] at hsum ⊢
    omega
  | some group =>
    rw [hget] at hsum
    simp only [CampaignGroup.add,Option.getD_some,List.count_append,Option.map_some] at hsum ⊢
    omega

theorem timesCounted_events (windowStart now : Instant) (events : List ObservedEvent) (groups : Groups) (ref : String) :
    timesCounted (events.foldl (addEvent windowStart now) groups) ref =
      timesCounted groups ref + events.countP fun event => inWindow windowStart now event.ts && decide (event.sourceRef = some ref) := by
  induction events generalizing groups with
  | nil => rfl
  | cons event events ih =>
    rw [List.foldl_cons,ih,List.countP_cons,addEvent]
    by_cases hwindow : inWindow windowStart now event.ts = true
    · rw [if_pos hwindow,timesCounted_grouped,hwindow]
      cases hsource : event.sourceRef with
      | none => simp
      | some source =>
        by_cases hsame : source = ref
        · simp [hsame]
          omega
        · simp [hsame]
    · rw [if_neg hwindow]
      simp [hwindow]

theorem timesCounted_floods (windowStart now : Instant) {floods : List FloodEvent} (hfloods : ∀ flood ∈ floods, flood.sourceRef = none)
    (groups : Groups) (ref : String) : timesCounted (floods.foldl (addFlood windowStart now) groups) ref = timesCounted groups ref := by
  induction floods generalizing groups with
  | nil => rfl
  | cons flood floods ih =>
    rw [List.foldl_cons,ih fun f hf => hfloods f (List.mem_cons_of_mem _ hf),addFlood]
    split
    · rw [timesCounted_grouped,hfloods flood List.mem_cons_self]
      rfl
    · rfl

theorem timesCounted_analyzeGroups (windowStart now : Instant) (events : List ObservedEvent) {floods : List FloodEvent}
    (hfloods : ∀ flood ∈ floods, flood.sourceRef = none) (ref : String) :
    timesCounted (analyzeGroups events floods windowStart now) ref =
      events.countP fun event => inWindow windowStart now event.ts && decide (event.sourceRef = some ref) := by
  rw [analyzeGroups,timesCounted_floods windowStart now hfloods,timesCounted_events]
  exact Nat.zero_add _

end Counting

end Watcher

end SafeAgents
