import SafeAgents.Approval.Engine
import SafeAgents.Grants.LedgerClock
import SafeAgents.Pdp.Engine
import SafeAgents.Schemas.IsoRange

namespace SafeAgents.Runtime

open Calendar Grants Lexical

def materialized : Option Int → List (Moment × BrokeredCall) → List (Int × BrokeredCall)
  | _, [] => []
  | last, (now,call) :: rest =>
    match stampCallTs last now.1 with
    | .ok t => (t,{ call with ts := isoformat t }) :: materialized (some t) rest
    | .error _ => materialized last rest

theorem stampCallTs_ok {last : Option Int} {now : Moment} {t : Int} (h : stampCallTs last now.1 = .ok t) :
    Representable t ∧ ∀ l, last = some l → l < t := by
  unfold stampCallTs at h
  split at h
  · obtain rfl := Except.ok.inj h
    exact ⟨now.2,fun l hl => (Option.some_ne_none l hl.symm).elim⟩
  next last' =>
    split at h
    · obtain ⟨hrep,hsum⟩ := datetimeSum_ok.mp h
      refine ⟨hrep,fun l hl => ?_⟩
      obtain rfl := Option.some.inj hl
      omega
    next hlate =>
      obtain rfl := Except.ok.inj h
      refine ⟨now.2,fun l hl => ?_⟩
      obtain rfl := Option.some.inj hl
      exact Int.not_le.mp hlate

example (call : BrokeredCall) : (materialized none [(⟨5,by decide⟩,call),(⟨5,by decide⟩,call),(⟨3,by decide⟩,call)]).map Prod.fst =
    [5,6,7] := rfl

theorem materialized_stamped (last : Option Int) (requests : List (Moment × BrokeredCall)) :
    ∀ c ∈ materialized last requests, Representable c.1 ∧ c.2.ts = isoformat c.1 ∧ ∀ l, last = some l → l < c.1 := by
  induction requests generalizing last with
  | nil =>
    intro c hc
    cases hc
  | cons r rest ih =>
    obtain ⟨now,call⟩ := r
    intro c hc
    rw [materialized] at hc
    split at hc
    next t hstamp =>
      obtain ⟨hrep,hafter⟩ := stampCallTs_ok hstamp
      rcases List.mem_cons.mp hc with rfl | hc
      · exact ⟨hrep,rfl,hafter⟩
      · obtain ⟨hrep',hts,hlater⟩ := ih (some t) c hc
        exact ⟨hrep',hts,fun l hl => Int.lt_trans (hafter l hl) (hlater t rfl)⟩
    next => exact ih last c hc

theorem materialized_increasing (last : Option Int) (requests : List (Moment × BrokeredCall)) :
    (materialized last requests).Pairwise fun c c' => c.1 < c'.1 ∧ c.2.ts < c'.2.ts := by
  induction requests generalizing last with
  | nil => exact .nil
  | cons r rest ih =>
    obtain ⟨now,call⟩ := r
    rw [materialized]
    split
    next t hstamp =>
      refine .cons (fun c hc => ?_) (ih (some t))
      obtain ⟨hrep,hts,hlater⟩ := materialized_stamped (some t) rest c hc
      refine ⟨hlater t rfl,?_⟩
      rw [hts]
      exact (isoformat_lt_iff (stampCallTs_ok hstamp).1 hrep).mpr (hlater t rfl)
    next => exact ih last

def intentText (call : BrokeredCall) : String :=
  call.principal.key ++ ":" ++ call.session.turnId ++ ":" ++ call.tool ++ ":" ++ call.op ++ ":" ++ call.ts

def idDigits (sha256 : String → String) (text : String) : List Char := (sha256 text).toList.take 16

theorem intentId_eq {sha256 : String → String} {call call' : BrokeredCall} (h : Pdp.intentId sha256 call = Pdp.intentId sha256 call') :
    idDigits sha256 (intentText call) = idDigits sha256 (intentText call') :=
  String.ofList_injective ((String.append_right_inj _).mp h)

theorem isoformat_length {t : Int} (h : Representable t) : (isoformat t).toList.length = 25 ∨ (isoformat t).toList.length = 32 := by
  have hmicros := micros_bounds t
  rw [isoformat_toList,List.length_append,List.length_append,length_secondChars h,fractionChars]
  split
  · exact .inl rfl
  · right
    rw [List.length_cons,length_fixedWidth (by decide) (by omega)]
    rfl

theorem isoformat_head {t : Int} (h : Representable t) : (isoformat t).toList.head? ≠ some '-' := by
  have hy := year_bounds h
  rw [dateOf] at hy
  rw [isoformat_toList,secondChars,dateChars]
  simp only [List.append_assoc]
  exact fixedWidth_head_isDigit (by decide) (by omega) (by decide)

theorem isoformat_drop {t : Int} (h : Representable t) : ((isoformat t).toList.drop 7).head? = some '-' := by
  have hy := year_bounds h
  rw [dateOf] at hy
  have hm := month_bounds (secondOf t / 86400)
  have hyear := four_digits (show (civilOfDays (secondOf t / 86400)).year < 10000 by omega)
  have hmonth := two_digits (show (civilOfDays (secondOf t / 86400)).month < 100 by omega)
  rw [isoformat_toList,secondChars,dateChars]
  simp only [List.append_assoc,List.cons_append]
  rw [List.drop_append,List.drop_eq_nil_of_le (by omega),hyear,List.nil_append]
  show (List.drop 2 (_ ++ _)).head? = _
  rw [List.drop_append,List.drop_eq_nil_of_le (by omega),hmonth]
  rfl

theorem stamp_of_suffix {t t' : Int} (ht : Representable t) (ht' : Representable t') {x x' : List Char}
    (h : x ++ (isoformat t).toList = x' ++ (isoformat t').toList) : isoformat t = isoformat t' := by
  have hshort : ∀ {a b : Int} {y y' : List Char}, Representable a → Representable b → (isoformat a).toList.length = 25 →
      (isoformat b).toList.length = 32 → y ++ (isoformat a).toList ≠ y' ++ (isoformat b).toList := by
    intro a b y y' ha hb hlen hlen' heq
    rw [← List.take_append_drop 7 (isoformat b).toList,← List.append_assoc] at heq
    have hdrop : (isoformat a).toList = (isoformat b).toList.drop 7 :=
      (List.append_inj' heq (by rw [hlen,List.length_drop,hlen'])).2
    have hhead := isoformat_head ha
    rw [hdrop,isoformat_drop hb] at hhead
    exact hhead rfl
  apply String.toList_injective
  rcases isoformat_length ht with hlen | hlen <;> rcases isoformat_length ht' with hlen' | hlen'
  · exact (List.append_inj' h (by rw [hlen,hlen'])).2
  · exact absurd h (hshort ht ht' hlen hlen')
  · exact absurd h.symm (hshort ht' ht hlen' hlen)
  · exact (List.append_inj' h (by rw [hlen,hlen'])).2

def intentScope (call : BrokeredCall) : String :=
  call.principal.key ++ ":" ++ call.session.turnId ++ ":" ++ call.tool ++ ":" ++ call.op ++ ":"

theorem intentText_toList (call : BrokeredCall) : (intentText call).toList = (intentScope call).toList ++ call.ts.toList :=
  String.toList_append

theorem intentText_ts {call call' : BrokeredCall} {t t' : Int} (ht : Representable t) (ht' : Representable t')
    (hts : call.ts = isoformat t) (hts' : call'.ts = isoformat t') (h : intentText call = intentText call') : t = t' := by
  have hlist := congrArg String.toList h
  rw [intentText_toList,intentText_toList,hts,hts'] at hlist
  exact (isoformat_inj ht ht').mp (stamp_of_suffix ht ht' hlist)

theorem approval_named {sha256 : String → String} {call : BrokeredCall} {facts : Facts} {rendered : RenderedIntent} {reason : Option String}
    (h : Pdp.decide sha256 call facts = .requireApproval rendered reason) : rendered.id = Pdp.intentId sha256 call := by
  have hnamed : ∀ text, Pdp.approvalOrDeny sha256 call facts text = .requireApproval rendered reason →
      rendered.id = Pdp.intentId sha256 call := by
    intro text htext
    rw [Pdp.approvalOrDeny] at htext
    split at htext
    · cases htext
      rfl
    · cases htext
  rw [Pdp.decide] at h
  split at h
  next rule hfind =>
    have hmem := List.mem_of_find?_eq_some hfind
    simp only [Pdp.rules,List.mem_cons,List.not_mem_nil,or_false] at hmem
    rcases hmem with rfl | rfl | rfl | rfl | rfl | rfl | rfl | rfl | rfl | rfl | rfl | rfl | rfl | rfl | rfl | rfl <;>
      first
        | exact hnamed _ h
        | cases h
  · cases h

structure Held (sha256 : String → String) (stamped : BrokeredCall) (hold : Approval.Hold) : Prop where
  undeduped : hold.dedupId = none
  ts : hold.call.ts = stamped.ts
  decided : ∃ facts reason, Pdp.decide sha256 hold.call facts = .requireApproval hold.renderedIntent reason

theorem Held.intentId {sha256 : String → String} {stamped : BrokeredCall} {hold : Approval.Hold} (h : Held sha256 stamped hold) :
    hold.intentId = Pdp.intentId sha256 hold.call := by
  obtain ⟨facts,reason,hdecided⟩ := h.decided
  rw [Approval.Hold.intentId,h.undeduped]
  exact approval_named hdecided

theorem call_stamps_never_repeat (sha256 : String → String) (requests : List (Moment × BrokeredCall)) :
    (materialized none requests).Pairwise fun c c' => c.1 < c'.1 ∧ c.2.ts < c'.2.ts ∧ ∀ hold hold', Held sha256 c.2 hold →
      Held sha256 c'.2 hold' → (idDigits sha256 (intentText hold.call) = idDigits sha256 (intentText hold'.call) →
        intentText hold.call = intentText hold'.call) → hold.intentId ≠ hold'.intentId := by
  refine (materialized_increasing none requests).imp_of_mem fun hc hc' hlt => ⟨hlt.1,hlt.2,?_⟩
  intro hold hold' hheld hheld' hinjective hsame
  obtain ⟨hrep,hts,-⟩ := materialized_stamped none requests _ hc
  obtain ⟨hrep',hts',-⟩ := materialized_stamped none requests _ hc'
  rw [hheld.intentId,hheld'.intentId] at hsame
  have htext := hinjective (intentId_eq hsame)
  have heq := intentText_ts hrep hrep' (hheld.ts.trans hts) (hheld'.ts.trans hts') htext
  exact absurd heq (Int.ne_of_lt hlt.1)

end SafeAgents.Runtime
