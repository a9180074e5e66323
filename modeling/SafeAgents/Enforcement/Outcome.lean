import SafeAgents.Enforcement.Clearance
import SafeAgents.Enforcement.Rules

namespace SafeAgents

open Interleaving

namespace Enforcement

abbrev NoDoer (own : History) : Prop := ∀ saw ∈ own, HandsOff saw.op

theorem noDoer_append {own own' : History} (h : NoDoer own) (h' : NoDoer own') : NoDoer (own ++ own') :=
  fun saw hsaw => (List.mem_append.mp hsaw).elim (h saw) (h' saw)

inductive Carried (q : Request) (executor : BrokeredCall → Decision → Act ConnectorResult) (own : History)
    (out : EnforcementResult) : Prop
  | replayed (hreplay : out.idempotent = true) (hnone : NoDoer own) : Carried q executor own out
  | refused (hfresh : out.idempotent = false) (hrefuses : out.decision.executes = false) (hnone : NoDoer own) : Carried q executor own out
  | executed {before ran after : History} {entryId ts : String} (hfresh : out.idempotent = false)
      (hexecutes : out.decision.executes = true) (hentry : out.ledgerEntryId = some entryId)
      (hown : own = before ++ (ran ++ ([⟨.env .nowIso,.ok ts⟩,⟨.store (.commitLedger entryId ts),.ok ()⟩] ++ after)))
      (hran : Plays (executor q.call out.decision) ran (.ok out.result)) (hbefore : NoDoer before) (hafter : NoDoer after) :
      Carried q executor own out

theorem Carried.prepend {q : Request} {executor : BrokeredCall → Decision → Act ConnectorResult} {earlier own : History}
    {out : EnforcementResult} (h : Carried q executor own out) (hearlier : NoDoer earlier) : Carried q executor (earlier ++ own) out := by
  cases h with
  | replayed hreplay hnone => exact .replayed hreplay (noDoer_append hearlier hnone)
  | refused hfresh hrefuses hnone => exact .refused hfresh hrefuses (noDoer_append hearlier hnone)
  | executed hfresh hexecutes hentry hown hran hbefore hafter =>
    exact .executed hfresh hexecutes hentry (by rw [hown,List.append_assoc]) hran (noDoer_append hearlier hbefore) hafter

section Plays
variable {q : Request} {cb : Callbacks} {executor : BrokeredCall → Decision → Act ConnectorResult} {claimedKey : Option String}
  {entryId : String} {effective : Decision} {own : History} {result : ConnectorResult}

theorem noDoer_of_bookkeeps {α : Type} {p : Act α} {r : Except Exn α} (hp : Uses (Bookkeeps claimedKey) p) (h : Plays p own r) :
    NoDoer own := h.uses (hp.mono fun _ => handsOff_of_bookkeeps)

theorem plays_sagaFailure {e : Exn} (h : Plays (sagaFailure q claimedKey entryId e) own (.ok result)) : False := by
  obtain ⟨marked,rest,_,rfl,-,hrest⟩ := plays_bind_ok h
  obtain ⟨failed,last,_,rfl,-,hlast⟩ := plays_bind_ok hrest
  obtain ⟨-,hout⟩ := plays_raise.mp hlast
  cases hout

theorem plays_runExecutor (hcb : cb.executor = some executor)
    (h : Plays (runExecutor q cb claimedKey entryId effective) own (.ok result)) :
    Plays (executor q.call effective) own (.ok result) := by
  simp only [runExecutor,hcb] at h
  rcases plays_tryCatch h with ⟨a,ha,hran⟩ | ⟨first,rest,e,rfl,-,hrest⟩
  · cases ha
    exact hran
  · exfalso
    split at hrest
    · exact plays_sagaFailure hrest
    · obtain ⟨-,hout⟩ := plays_raise.mp hrest
      cases hout

theorem plays_commit (h : Plays (commit entryId) own (.ok ())) :
    ∃ ts, own = [⟨.env .nowIso,.ok ts⟩,⟨.store (.commitLedger entryId ts),.ok ()⟩] := by
  obtain ⟨clocked,rest,ts,rfl,hclock,hrest⟩ := plays_bind_ok h
  obtain rfl := plays_called hclock
  obtain rfl := plays_called hrest
  exact ⟨ts,rfl⟩

theorem plays_executeStep (hcb : cb.executor = some executor)
    (h : Plays (executeStep q cb claimedKey entryId effective) own (.ok result)) :
    (effective.executes = true ∧ ∃ ran ts, own = ran ++ [⟨.env .nowIso,.ok ts⟩,⟨.store (.commitLedger entryId ts),.ok ()⟩] ∧
      Plays (executor q.call effective) ran (.ok result)) ∨ (effective.executes = false ∧ NoDoer own) := by
  have ran (heff : effective.executes = true) (h : Plays (do
      let result ← runExecutor q cb claimedKey entryId effective
      commit entryId
      return result) own (.ok result)) : ∃ ran ts, own = ran ++ [⟨.env .nowIso,.ok ts⟩,⟨.store (.commitLedger entryId ts),.ok ()⟩] ∧
      Plays (executor q.call effective) ran (.ok result) := by
    obtain ⟨ran,rest,got,rfl,hran,hrest⟩ := plays_bind_ok h
    obtain ⟨committed,last,_,rfl,hcommit,hlast⟩ := plays_bind_ok hrest
    obtain ⟨rfl,hout⟩ := plays_ret.mp hlast
    cases hout
    obtain ⟨ts,rfl⟩ := plays_commit hcommit
    exact ⟨ran,ts,by simp,plays_runExecutor hcb hran⟩
  have commits : Uses (Bookkeeps none) (do
      commit entryId
      return ConnectorResult.none) := .bind (uses_commit entryId) fun _ => trivial
  cases effective with
  | allow => exact .inl ⟨rfl,ran rfl h⟩
  | transform op args => exact .inl ⟨rfl,ran rfl h⟩
  | requireApproval renderedIntent reason =>
    obtain ⟨rfl,-⟩ := plays_ret.mp h
    exact .inr ⟨rfl,fun _ h => by cases h⟩
  | deny reason => exact .inr ⟨rfl,noDoer_of_bookkeeps commits h⟩
  | abstain escalate reason => exact .inr ⟨rfl,noDoer_of_bookkeeps commits h⟩

variable (facts : ∀ call, Uses HandsOff (cb.freshFacts call)) (decides : ∀ call facts, Uses HandsOff (cb.decider call facts))
include facts decides

theorem uses_prepareOrRelease : Uses HandsOff (prepareOrRelease q cb claimedKey) := by
  have books : ∀ o, Bookkeeps claimedKey o → HandsOff o := fun _ => handsOff_of_bookkeeps
  exact .tryCatch (uses_prepare q books (fun _ _ _ => trivial) facts decides) fun _ => .bind (uses_releaseIfClaimed.mono books)
    fun _ => trivial

theorem plays_enforceClaimed (hcb : cb.executor = some executor) {out : EnforcementResult}
    (h : Plays (enforceClaimed q cb claimedKey) own (.ok out)) : Carried q executor own out := by
  obtain ⟨prepared,rest,⟨effective,entryId⟩,rfl,hprepare,hrest⟩ := plays_bind_ok h
  obtain ⟨stepped,settled,result,rfl,hstep,hsettled⟩ := plays_bind_ok hrest
  obtain ⟨settling,last,_,rfl,hsettle,hlast⟩ := plays_bind_ok hsettled
  obtain ⟨rfl,hout⟩ := plays_ret.mp hlast
  cases hout
  have hbefore : NoDoer prepared := hprepare.uses (uses_prepareOrRelease facts decides)
  have settles : Uses (Bookkeeps claimedKey) (settleClaim claimedKey effective result) := uses_settleClaim effective result
  have hafter : NoDoer settling := noDoer_of_bookkeeps settles hsettle
  rcases plays_executeStep hcb hstep with ⟨hexecutes,ran,ts,rfl,hran⟩ | ⟨hrefuses,hnone⟩
  · have hown : prepared ++ (ran ++ [⟨.env .nowIso,.ok ts⟩,⟨.store (.commitLedger entryId ts),.ok ()⟩] ++ (settling ++ [])) =
        prepared ++ (ran ++ ([⟨.env .nowIso,.ok ts⟩,⟨.store (.commitLedger entryId ts),.ok ()⟩] ++ settling)) := by simp
    exact .executed rfl hexecutes rfl hown hran hbefore hafter
  · exact .refused rfl hrefuses (noDoer_append hbefore (noDoer_append hnone (by simpa using hafter)))

theorem plays_enforce (hcb : cb.executor = some executor) {out : EnforcementResult} (h : Plays (enforce q cb) own (.ok out)) :
    Carried q executor own out := by
  unfold enforce at h
  split at h
  · exact plays_enforceClaimed facts decides hcb h
  · next key _ =>
    obtain ⟨claimed,rest,settled,rfl,hclaim,hrest⟩ := plays_bind_ok h
    have hnone : NoDoer claimed := noDoer_of_bookkeeps uses_claim hclaim
    cases settled with
    | some settled =>
      obtain ⟨rfl,hout⟩ := plays_ret.mp hrest
      cases hout
      have hclaimed : NoDoer (claimed ++ []) := by simpa using hnone
      have hsettles : Settles (.ok (some out)) :=
        (((tells_anyhow fun _ _ => trivial).and (yields_claim fun _ h => h)).plays hclaim).2
      cases hreplay : out.idempotent with
      | true => exact .replayed hreplay hclaimed
      | false =>
        rcases hsettles out rfl with hidempotent | ⟨hrefuses,-⟩
        · rw [hreplay] at hidempotent
          cases hidempotent
        · exact .refused hreplay hrefuses hclaimed
    | none => exact (plays_enforceClaimed facts decides hcb hrest).prepend hnone

omit facts decides in
theorem fresh_of_unkeyed (hkey : q.idempotencyKey = none) {out : EnforcementResult} (h : Plays (enforce q cb) own (.ok out)) :
    out.idempotent = false := by
  unfold enforce at h
  split at h
  · obtain ⟨_,rest,⟨effective,entryId⟩,-,-,hrest⟩ := plays_bind_ok h
    obtain ⟨_,settled,result,-,-,hsettled⟩ := plays_bind_ok hrest
    obtain ⟨_,last,_,-,-,hlast⟩ := plays_bind_ok hsettled
    obtain ⟨-,hout⟩ := plays_ret.mp hlast
    cases hout
    rfl
  · next hclaimed =>
    rw [hkey] at hclaimed
    cases hclaimed

end Plays

end Enforcement

end SafeAgents
