import SafeAgents.Grants.GrantStanding
import SafeAgents.Grants.StandingOrder
import SafeAgents.Grants.Writers

namespace SafeAgents.Grants

open Calendar Checked

structure SanctionedWrite where
  request : WriteRequest
  signature : Option Json
  accepted : request.record.accepted = true
  principal : request.record.principal = request.grant.principal
  actionClass : request.record.actionClass = request.grant.actionClass
  ts : request.record.ts = request.grant.ts
  stamped : ∃ t, StampedAt request.record t

inductive StandingEvent where
  | write (w : SanctionedWrite)
  | refresh (now : Instant) (fetch : Fetch)
  | assess (principal : Principal) (actionClass : String) (now : Instant) (fetch : Fetch)

structure Enforcer where
  ceremony : CeremonyState := {}
  check : CheckState := {}

namespace Enforcer
variable {F Bytes Key : Type} [DecidableEq Key] (d : Deployment F) (c : GrantStandingCheck Bytes Key)

def grantAt (e : Enforcer) (principal : Principal) (actionClass : String) : Option GrantDocument :=
  match getGrant d.hmac d.validate d.backend e.ceremony.store principal actionClass with
  | .error _ => none
  | .ok read => if read.quarantined then none else read.grant

def assess (e : Enforcer) (g : GrantDocument) (now : Instant) (fetch : Fetch) : StandingAssessment × CheckState :=
  c.assess e.check (listStoredRecords d.backend e.ceremony g.principal g.actionClass) g now fetch

def step (e : Enforcer) : StandingEvent → Enforcer
  | .write w =>
    match writeRecordAndGrant d.hmac d.validate d.backend e.ceremony.store w.request with
    | .error _ => e
    | .ok store => { e with ceremony := committedState d e.ceremony w.request w.signature store }
  | .refresh now fetch => { e with check := (c.refresh e.check now fetch).2 }
  | .assess principal actionClass now fetch =>
    match e.grantAt d principal actionClass with
    | none => e
    | some g => { e with check := (e.assess d c g now fetch).2 }

def run (events : List StandingEvent) : Enforcer := events.foldl (step d c) {}

def forget (e : Enforcer) : Enforcer := { e with check := { e.check with cache := .empty } }

def held (e : Enforcer) (principal : Principal) (actionClass : String) (now : Instant) (fetch : Fetch) : Option Bool :=
  (e.grantAt d principal actionClass).map fun g => (e.assess d c g now fetch).1.held

-- No document taken into force gives a key id another public key than an earlier one gave it.
def KeysKept (events : List StandingEvent) : Prop :=
  ∀ earlier later, earlier <+: later → later <+: events → ∀ keyId publicKey publicKey',
    (run d c earlier).check.source.keyResolver c.wire.toStandingWire keyId = some publicKey →
    (run d c later).check.source.keyResolver c.wire.toStandingWire keyId = some publicKey' → publicKey = publicKey'

-- The stamp is still the ledger clock's: later than every record its coordinate holds when the write lands.
def Current (s : CeremonyState) (w : SanctionedWrite) : Prop :=
  ∃ records, listRecords d.backend PromotionRecord.modelValidateJson s.store.records w.request.record.principal
      w.request.record.actionClass = .ok records ∧
    ∀ r ∈ records, ∃ t u, recordedInstant r = .ok t ∧ StampedAt w.request.record u ∧ t < u

def StampsCurrent (events : List StandingEvent) : Prop :=
  ∀ before w after, events = before ++ .write w :: after → Current d (run d c before).ceremony w

end Enforcer

-- A write that stamps and lands with nothing in between is current.
theorem stamped_current {F : Type} {d : Deployment F} {s : CeremonyState} {w : SanctionedWrite} {now : Reading}
    (h : nextLedgerTs d.backend PromotionRecord.modelValidateJson s.store.records w.request.record.principal
      w.request.record.actionClass now = .ok w.request.record.ts) : Enforcer.Current d s w := by
  obtain ⟨t,hts,hstamps⟩ := nextLedgerTs_stamps h
  obtain ⟨records,hrecords,hlater⟩ := hstamps.later
  refine ⟨records,hrecords,?_⟩
  intro r hr
  obtain ⟨u,hu,hlt⟩ := hlater r hr
  exact ⟨u,t,hu,⟨hstamps.representable,hts⟩,hlt⟩

namespace StandingSource
variable {Bytes Key : Type} [DecidableEq Key] {wire : StandingWire Bytes Key} {s t u : StandingSource}

def Advances (s t : StandingSource) : Prop := t.accepted = s.accepted ∨ s.documentVersion < t.documentVersion

theorem Advances.refl (s : StandingSource) : Advances s s := .inl rfl

theorem documentVersion_same (h : t.accepted = s.accepted) : t.documentVersion = s.documentVersion := by
  rw [documentVersion,documentVersion,version,version,h]

theorem Advances.trans (h : Advances s t) (h' : Advances t u) : Advances s u := by
  rcases h with h | h
  · rcases h' with h' | h'
    · exact .inl (h'.trans h)
    · rw [documentVersion_same h] at h'
      exact .inr h'
  · rcases h' with h' | h'
    · rw [← documentVersion_same h'] at h
      exact .inr h
    · exact .inr (Int.lt_trans h h')

theorem Advances.same (h : Advances s t) (hversion : s.documentVersion = t.documentVersion) : t.accepted = s.accepted := by
  rcases h with h | h
  · exact h
  · omega

theorem refresh_advances (cfg : StandingConfig Key) (s : StandingSource) (fetch : Fetch) :
    Advances s (s.refresh wire cfg fetch).2 := by
  rcases refresh_cases wire cfg s fetch with hsame | ⟨document,digest,asOf,hadopts,hstate⟩
  · rw [hsame]
    exact Advances.refl s
  · rw [hstate]
    right
    cases hheld : s.accepted with
    | some held =>
      have hlater := hadopts.follows.later held.document (by simp [hheld])
      simpa [documentVersion,version,hheld,adopt] using hlater
    | none =>
      obtain ⟨text,_,hverify⟩ := hadopts.verified
      obtain ⟨_,_,_,_,_,_,hcarried,_⟩ := verifyStandingEnvelope_ok hverify
      have hpositive := parsePayload_version hcarried.parsed
      simp only [documentVersion,version,hheld,adopt,Option.map_none,Option.map_some,Option.getD_none,Option.getD_some]
      omega

theorem standingOf_unlisted (cfg : StandingConfig Key) (hs : Sound wire s) {keyId : String} (hnone : s.keyResolver wire keyId = none)
    {now : Instant} {skew : Int} {standing : KeyStanding} (h : s.standingOf cfg keyId now skew = .ok standing) :
    standing.verdict ≠ .inStanding := by
  have hunlisted : ∀ held, s.accepted = some held → held.document.keys.get? keyId = none := by
    intro held hheld
    cases hentry : held.document.keys.get? keyId with
    | none => rfl
    | some entry =>
      obtain ⟨raw,hraw⟩ := checkDistinctKeyBytes_loads (hs.distinct held hheld) hentry
      simp [keyResolver,hheld,hentry,hraw,Except.toOption] at hnone
  rw [standingOf] at h
  split at h
  · rw [← Except.ok.inj h]
    exact fun h => by cases h
  · split at h
    · rw [← Except.ok.inj h]
      exact fun h => by cases h
    next held hheld =>
      obtain ⟨judged,_,hrest⟩ := bind_ok.mp h
      split at hrest
      · rw [← pure_ok.mp hrest]
        exact fun h => by cases h
      · rw [hunlisted held hheld] at hrest
        rw [← pure_ok.mp hrest]
        exact fun h => by cases h

end StandingSource

def heldOf : Except CheckError StandingAssessment → Bool
  | .error _ => false
  | .ok assessment => assessment.held

namespace GrantStandingCheck
variable {Bytes Key : Type} [DecidableEq Key] {c : GrantStandingCheck Bytes Key} {s t : StandingSource} {stored : List StoredRecord}
  {grantTs : String} {key : LicensingKey}

omit [DecidableEq Key] in
theorem heldOf_unverified (h : key.kind = .unverified) (now : Instant) : heldOf (c.judge s key now) = false := by
  rw [judge]
  simp only [h]
  rfl

theorem heldOf_unlisted (hs : StandingSource.Sound c.wire.toStandingWire s) {keyId : String} (hkind : key.kind = .key)
    (hkey : key.keyId = some keyId) (hnone : s.keyResolver c.wire.toStandingWire keyId = none) (now : Instant) :
    heldOf (c.judge s key now) = false := by
  rw [judge]
  simp only [hkind,hkey]
  cases hstanding : s.standingOf c.cfg keyId now c.skew with
  | error e => simp [standingOf,hstanding,heldOf,bind,Except.bind]
  | ok standing =>
    have hnot := StandingSource.standingOf_unlisted c.cfg hs hnone hstanding
    simp [standingOf,hstanding,hnot,heldOf,bind,Except.bind,pure,Except.pure]

theorem judge_alike (hs : StandingSource.Sound c.wire.toStandingWire t) (hadvances : StandingSource.Advances s t)
    (hkept : ∀ keyId publicKey publicKey', s.keyResolver c.wire.toStandingWire keyId = some publicKey →
      t.keyResolver c.wire.toStandingWire keyId = some publicKey' → publicKey = publicKey')
    (h : c.resolve s stored grantTs = .ok key) (hversion : key.kind.stable = false → s.documentVersion = t.documentVersion)
    (now : Instant) :
    heldOf (c.judge t key now) = heldOf (c.resolve t stored grantTs >>= fun key => c.judge t key now) := by
  cases hkind : key.kind with
  | beforeEpoch => rw [bind_of_ok (resolve_history h hkind t)]
  | unverified =>
    have hsame := hadvances.same (hversion (by rw [hkind]; rfl))
    rw [resolve_sameDocument hsame,bind_of_ok h]
  | key =>
    obtain ⟨keyId,publicKey,hkey,hknown,hagain,hdropped⟩ := resolve_key h hkind
    cases hresolved : t.keyResolver c.wire.toStandingWire keyId with
    | some publicKey' =>
      obtain rfl := hkept keyId publicKey publicKey' hknown hresolved
      rw [bind_of_ok (hagain t hresolved)]
    | none =>
      obtain ⟨other,hother,hunverified⟩ := hdropped t hresolved
      rw [bind_of_ok hother,heldOf_unlisted hs hkind hkey hresolved,heldOf_unverified hunverified]

structure Refreshed (c : GrantStandingCheck Bytes Key) (fetch : Fetch) (s s' : CheckState) : Prop where
  source : s'.source = s.source ∨ s'.source = (s.source.refresh c.wire.toStandingWire c.cfg fetch).2
  cache : s'.cache = s.cache

theorem refresh_refreshed (c : GrantStandingCheck Bytes Key) (s : CheckState) (now : Instant) (fetch : Fetch) :
    Refreshed c fetch s (c.refresh s now fetch).2 := by
  simp only [refresh]
  split
  · exact ⟨.inr rfl,rfl⟩
  · split
    · exact ⟨.inr rfl,rfl⟩
    · exact ⟨.inr rfl,rfl⟩

theorem maybeRefresh_refreshed (c : GrantStandingCheck Bytes Key) (s : CheckState) (now : Instant) (fetch : Fetch) :
    Refreshed c fetch s (c.maybeRefresh s now fetch).2 := by
  rw [maybeRefresh]
  split
  · exact ⟨.inl rfl,rfl⟩
  · exact c.refresh_refreshed s now fetch

omit [DecidableEq Key] in
theorem licensingKey_source (c : GrantStandingCheck Bytes Key) (s : CheckState) (ledger : Except GrantError (List StoredRecord))
    (g : GrantDocument) : (c.licensingKey s ledger g).2.source = s.source := by
  simp only [licensingKey]
  cases cached s (g.principal,g.actionClass) g.ts with
  | some key => rfl
  | none =>
    cases ledger with
    | error e => rfl
    | ok stored =>
      dsimp only
      cases c.resolve s.source stored g.ts with
      | error e => rfl
      | ok key => rfl

theorem assess_eq (c : GrantStandingCheck Bytes Key) (s : CheckState) (ledger : Except GrantError (List StoredRecord))
    (g : GrantDocument) (now : Instant) (fetch : Fetch) :
    (c.assess s ledger g now fetch).1.held =
        heldOf ((c.maybeRefresh s now fetch).1 >>= fun _ =>
          (c.licensingKey (c.maybeRefresh s now fetch).2 ledger g).1 >>= fun key =>
            c.judge (c.maybeRefresh s now fetch).2.source key now) ∧
      (c.assess s ledger g now fetch).2 =
        if (c.maybeRefresh s now fetch).1.isOk then (c.licensingKey (c.maybeRefresh s now fetch).2 ledger g).2
        else (c.maybeRefresh s now fetch).2 := by
  simp only [assess]
  cases hrefreshed : c.maybeRefresh s now fetch with
  | mk refreshed s' =>
    cases refreshed with
    | error e => exact ⟨rfl,rfl⟩
    | ok _ =>
      have hsource := c.licensingKey_source s' ledger g
      cases hresolved : c.licensingKey s' ledger g with
      | mk resolved s'' =>
        rw [hresolved] at hsource
        have hsame : s''.source = s'.source := hsource
        cases resolved with
        | error e => simp [bind,Except.bind,hresolved,heldOf,fallen,Except.isOk,Except.toBool]
        | ok key =>
          simp only [bind,Except.bind,hresolved,hsame,Except.isOk,Except.toBool,if_true]
          cases c.judge s'.source key now with
          | error e => exact ⟨rfl,rfl⟩
          | ok assessment => exact ⟨rfl,rfl⟩

theorem assess_source (c : GrantStandingCheck Bytes Key) (s : CheckState) (ledger : Except GrantError (List StoredRecord))
    (g : GrantDocument) (now : Instant) (fetch : Fetch) :
    (c.assess s ledger g now fetch).2.source = (c.maybeRefresh s now fetch).2.source := by
  rw [(assess_eq c s ledger g now fetch).2]
  split
  · exact c.licensingKey_source _ ledger g
  · rfl

def forgetting (s : CheckState) : CheckState := { s with cache := .empty }

theorem maybeRefresh_forgetting (c : GrantStandingCheck Bytes Key) (s : CheckState) (now : Instant) (fetch : Fetch) :
    c.maybeRefresh (forgetting s) now fetch = ((c.maybeRefresh s now fetch).1,forgetting (c.maybeRefresh s now fetch).2) := by
  have hrefresh : c.refresh (forgetting s) now fetch = ((c.refresh s now fetch).1,forgetting (c.refresh s now fetch).2) := by
    simp only [refresh,forgetting]
    split
    · rfl
    · split <;> rfl
  by_cases hdue : s.nextRefresh.any fun due => now < due
  · rw [maybeRefresh,maybeRefresh,if_pos hdue]
    exact if_pos hdue
  · rw [maybeRefresh,maybeRefresh,if_neg hdue,hrefresh]
    exact if_neg hdue

omit [DecidableEq Key] in
theorem licensingKey_fresh {s : CheckState} {g : GrantDocument} (hcached : cached s (g.principal,g.actionClass) g.ts = none)
    (hresolved : c.resolve s.source stored g.ts = .ok key) :
    c.licensingKey s (.ok stored) g =
      (.ok key,
        { s with cache := s.cache.set (g.principal,g.actionClass)
                   { grantTs := g.ts, version := if key.kind.stable then none else some s.source.documentVersion, key } }) := by
  simp only [licensingKey,hcached,hresolved]

omit [DecidableEq Key] in
theorem licensingKey_forgetting (s : CheckState) (stored : List StoredRecord) (g : GrantDocument) :
    (c.licensingKey (forgetting s) (.ok stored) g).1 = c.resolve s.source stored g.ts := by
  have hempty : cached (forgetting s) (g.principal,g.actionClass) g.ts = none := rfl
  have hsource : (forgetting s).source = s.source := rfl
  simp only [licensingKey,hempty,hsource]
  cases c.resolve s.source stored g.ts with
  | error e => rfl
  | ok key => rfl

end GrantStandingCheck

section Ledger
variable {F : Type} {d : Deployment F} {s : CeremonyState} {written : List PromotionRecord} {r : PromotionRecord}

def asStored (backend : RecordBackend) (signatures : String × String → Option Json) (r : PromotionRecord) : StoredRecord where
  record := r
  data := canonicalRecordPayload r
  signature := signatures (pkOf backend r,recordSk r)

def recordsUnder (d : Deployment F) (written : List PromotionRecord) (coordinate : Principal × String) : List PromotionRecord :=
  written.filter fun r => pkOf d.backend r == recordPk d.backend coordinate.1 coordinate.2

def storedAt (d : Deployment F) (s : CeremonyState) (written : List PromotionRecord) (coordinate : Principal × String) :
    List StoredRecord := (recordsUnder d written coordinate).map (asStored d.backend s.signatures)

theorem listStoredRecords_eq (h : InOrder d.backend { table := s.store.records, written }) (coordinate : Principal × String) :
    listStoredRecords d.backend s coordinate.1 coordinate.2 = .ok (storedAt d s written coordinate) := by
  have hread : ∀ records : List PromotionRecord, (∀ r ∈ records, r.accepted = true) →
      (records.map (recordRow d.backend)).mapM (storedRow s.signatures) = .ok (records.map (asStored d.backend s.signatures)) := by
    intro records
    induction records with
    | nil => exact fun _ => rfl
    | cons r records ih =>
      intro haccepted
      have hrow : storedRow s.signatures (recordRow d.backend r) = .ok (asStored d.backend s.signatures r) := by
        rw [storedRow,bind_of_ok (parseRow_own (haccepted r (by simp)))]
        rfl
      rw [List.map_cons,List.mapM_cons,hrow,bind_of_ok rfl,ih fun q hq => haccepted q (by simp [hq])]
      rfl
  rw [listStoredRecords,partition_eq h]
  apply hread
  intro r hr
  exact h.accepted r (List.mem_of_mem_filter hr)

theorem recordsUnder_append (written : List PromotionRecord) (r : PromotionRecord) (coordinate : Principal × String) :
    recordsUnder d (written ++ [r]) coordinate = recordsUnder d written coordinate ∨
      (pkOf d.backend r = recordPk d.backend coordinate.1 coordinate.2 ∧
        recordsUnder d (written ++ [r]) coordinate = recordsUnder d written coordinate ++ [r]) := by
  rw [recordsUnder,recordsUnder,List.filter_append]
  by_cases hpk : pkOf d.backend r = recordPk d.backend coordinate.1 coordinate.2
  · right
    simp [hpk]
  · left
    simp [hpk]

theorem asStored_signed {q : WriteRequest} {signature : Option Json} (hlater : ∀ r ∈ written, pkOf d.backend r = pkOf d.backend q.record → Earlier r q.record)
    (store : GrantState) (hr : r ∈ written) :
    asStored d.backend (committedState d s q signature store).signatures r = asStored d.backend s.signatures r := by
  have hother : (pkOf d.backend r,recordSk r) ≠ (pkOf d.backend q.record,recordSk q.record) := by
    intro hsame
    obtain ⟨hpk,hsk⟩ := Prod.mk.inj hsame
    have hlt := (hlater r hr hpk).sk_lt
    rw [hsk] at hlt
    exact String.lt_irrefl _ hlt
  simp only [asStored,committedState,Deployment.signed]
  congr 1
  exact Function.update_of_ne hother _ _

end Ledger

namespace Enforcer
variable {F Bytes Key : Type} [DecidableEq Key] {d : Deployment F} {c : GrantStandingCheck Bytes Key} {e : Enforcer}
  {seen seen' : StandingSource → Prop} {written : List PromotionRecord}

def Anchored (d : Deployment F) (written : List PromotionRecord) (coordinate : Principal × String) (ts : String) : Prop :=
  ∃ r ∈ recordsUnder d written coordinate, r.ts = ts

structure Sourced (d : Deployment F) (c : GrantStandingCheck Bytes Key) (seen : StandingSource → Prop) (s : CeremonyState)
    (written : List PromotionRecord) (coordinate : Principal × String) (entry : CacheEntry) : Prop where
  anchored : Anchored d written coordinate entry.grantTs
  resolved : ∃ source, seen source ∧ c.resolve source (storedAt d s written coordinate) entry.grantTs = .ok entry.key ∧
    (entry.key.kind.stable = false → entry.version = some source.documentVersion)

structure Faithful (d : Deployment F) (c : GrantStandingCheck Bytes Key) (seen : StandingSource → Prop) (e : Enforcer)
    (written : List PromotionRecord) : Prop where
  ordered : InOrder d.backend { table := e.ceremony.store.records, written }
  grants : ∀ row item g, e.ceremony.store.grants row = some item → d.validate item.data = some g →
    Anchored d written (g.principal,g.actionClass) g.ts
  cached : ∀ coordinate entry, e.check.cache.get? coordinate = some entry → Sourced d c seen e.ceremony written coordinate entry

omit [DecidableEq Key] in
theorem Sourced.mono {s : CeremonyState} {coordinate : Principal × String} {entry : CacheEntry}
    (h : Sourced d c seen s written coordinate entry) (hseen : ∀ source, seen source → seen' source) :
    Sourced d c seen' s written coordinate entry := by
  obtain ⟨source,hsource,hresolved,hversion⟩ := h.resolved
  exact ⟨h.anchored,source,hseen source hsource,hresolved,hversion⟩

omit [DecidableEq Key] in
theorem Anchored.append {coordinate : Principal × String} {ts : String} (h : Anchored d written coordinate ts) (r : PromotionRecord) :
    Anchored d (written ++ [r]) coordinate ts := by
  obtain ⟨q,hq,hts⟩ := h
  refine ⟨q,?_,hts⟩
  rcases recordsUnder_append (d := d) written r coordinate with hsame | ⟨_,happended⟩
  · rwa [hsame]
  · rw [happended]
    exact List.mem_append_left _ hq

theorem Current.later {w : SanctionedWrite} (hordered : InOrder d.backend { table := e.ceremony.store.records, written })
    (h : Current d e.ceremony w) :
    ∀ r ∈ written, pkOf d.backend r = pkOf d.backend w.request.record → Earlier r w.request.record := by
  intro r hr hpk
  obtain ⟨records,hrecords,hlater⟩ := h
  rw [listRecords_eq (fun q hq => PromotionRecord.modelValidateJson_canonical hq) hordered] at hrecords
  obtain rfl := Except.ok.inj hrecords
  obtain ⟨t,u,hrecorded,hstamped,hlt⟩ := hlater r (List.mem_filter.mpr ⟨hr,by simpa [pkOf] using hpk⟩)
  obtain ⟨t',hstamped'⟩ := hordered.stamped r hr
  rw [recordedInstant_stamped hstamped'] at hrecorded
  obtain rfl := Except.ok.inj hrecorded
  exact ⟨t',u,hstamped',hstamped,hlt⟩

theorem Sourced.write {s : CeremonyState} {coordinate : Principal × String} {entry : CacheEntry} {w : SanctionedWrite}
    (hlater : ∀ r ∈ written, pkOf d.backend r = pkOf d.backend w.request.record → Earlier r w.request.record)
    (h : Sourced d c seen s written coordinate entry) (store : GrantState) :
    Sourced d c seen (committedState d s w.request w.signature store) (written ++ [w.request.record]) coordinate entry := by
  obtain ⟨source,hsource,hresolved,hversion⟩ := h.resolved
  have hkept : (recordsUnder d written coordinate).map (asStored d.backend (committedState d s w.request w.signature store).signatures) =
      storedAt d s written coordinate :=
    List.map_congr_left fun r hr => asStored_signed hlater store (List.mem_of_mem_filter hr)
  refine ⟨h.anchored.append w.request.record,source,hsource,?_,hversion⟩
  rcases recordsUnder_append (d := d) written w.request.record coordinate with hsame | ⟨hpk,happended⟩
  · rw [storedAt,hsame,hkept]
    exact hresolved
  · obtain ⟨q,hq,hts⟩ := h.anchored
    obtain ⟨hmem,hqpk⟩ := List.mem_filter.mp hq
    obtain ⟨t,u,hstamped,hstamped',hlt⟩ := hlater q hmem ((beq_iff_eq.mp hqpk).trans hpk.symm)
    have hgrant : instantOf entry.grantTs = some t := by
      rw [← hts]
      exact instantOf_recorded (recordedInstant_stamped hstamped)
    rw [storedAt,happended,List.map_append,hkept,List.map_singleton,
      GrantStandingCheck.resolve_later hgrant ⟨u,instantOf_recorded (recordedInstant_stamped hstamped'),hlt⟩]
    exact hresolved

theorem faithful_write {w : SanctionedWrite} (h : Faithful d c seen e written) (hcurrent : Current d e.ceremony w) :
    ∃ written', Faithful d c seen (e.step d c (.write w)) written' := by
  rw [step]
  cases hwrite : writeRecordAndGrant d.hmac d.validate d.backend e.ceremony.store w.request with
  | error _ => exact ⟨written,h⟩
  | ok store =>
    have hstore := (write_ok hwrite).state
    have hlater := hcurrent.later h.ordered
    obtain ⟨t,hstamp⟩ := w.stamped
    have hordered := inOrder_extend h.ordered w.accepted hstamp fun q hq =>
      hlater q (List.mem_of_mem_filter hq) (by simpa using (List.mem_filter.mp hq).2)
    have hrecords : store.records = e.ceremony.store.records ++ [recordRow d.backend w.request.record] := by rw [hstore]; rfl
    refine ⟨written ++ [w.request.record],?_,?_,?_⟩
    · show InOrder d.backend { table := store.records, written := written ++ [w.request.record] }
      rw [hrecords]
      exact hordered
    · intro row item g hrow hread
      have hgrants : store.grants = Function.update e.ceremony.store.grants (grantKey d.backend w.request.grant)
          (some (buildItem d.hmac w.request.grant)) := by rw [hstore]; rfl
      change store.grants row = some item at hrow
      rw [hgrants] at hrow
      by_cases hsame : row = grantKey d.backend w.request.grant
      · rw [hsame,Function.update_self] at hrow
        obtain rfl := Option.some.inj hrow
        have hparsed : GrantDocument.parse (canonicalGrantPayload w.request.grant) = some g :=
          (Option.filter_eq_some_iff.mp hread).1
        rw [GrantDocument.parse_canonical] at hparsed
        obtain rfl := Option.some.inj hparsed
        refine ⟨w.request.record,?_,w.ts⟩
        rw [recordsUnder,List.mem_filter]
        refine ⟨List.mem_append_right _ (List.mem_singleton_self _),?_⟩
        simp [pkOf,w.principal,w.actionClass]
      · rw [Function.update_of_ne hsame] at hrow
        exact (h.grants row item g hrow hread).append w.request.record
    · intro coordinate entry hentry
      exact (h.cached coordinate entry hentry).write hlater store

omit [DecidableEq Key] in
theorem Faithful.refreshed {s : CheckState} (h : Faithful d c seen e written) (hcache : s.cache = e.check.cache)
    (hseen : ∀ source, seen source → seen' source) : Faithful d c seen' { e with check := s } written where
  ordered := h.ordered
  grants := h.grants
  cached := by
    intro coordinate entry hentry
    change s.cache.get? coordinate = some entry at hentry
    rw [hcache] at hentry
    exact (h.cached coordinate entry hentry).mono hseen

omit [DecidableEq Key] in
theorem grantAt_anchored {principal : Principal} {actionClass : String} {g : GrantDocument} (h : Faithful d c seen e written)
    (hg : e.grantAt d principal actionClass = some g) : Anchored d written (g.principal,g.actionClass) g.ts := by
  rw [grantAt] at hg
  split at hg
  · cases hg
  next read hread =>
    split at hg
    · cases hg
    · obtain ⟨item,hitem,_,hvalid,_⟩ := getGrant_grant hread hg
      exact h.grants _ item g hitem hvalid

omit [DecidableEq Key] in
theorem Faithful.licensing {g : GrantDocument} (h : Faithful d c seen e written)
    (hanchored : Anchored d written (g.principal,g.actionClass) g.ts) (hseen : seen e.check.source) :
    Faithful d c seen
      { e with check := (c.licensingKey e.check (.ok (storedAt d e.ceremony written (g.principal,g.actionClass))) g).2 } written := by
  simp only [GrantStandingCheck.licensingKey]
  cases GrantStandingCheck.cached e.check (g.principal,g.actionClass) g.ts with
  | some key => exact h
  | none =>
    dsimp only
    cases hresolved : c.resolve e.check.source (storedAt d e.ceremony written (g.principal,g.actionClass)) g.ts with
    | error _ => exact h
    | ok key =>
      refine ⟨h.ordered,h.grants,?_⟩
      intro coordinate entry hentry
      rw [Dict.get?_set] at hentry
      split at hentry
      next hsame =>
        obtain rfl := Option.some.inj hentry
        rw [hsame]
        refine ⟨hanchored,e.check.source,hseen,hresolved,?_⟩
        intro hstable
        simp [hstable]
      · exact h.cached coordinate entry hentry

theorem faithful_assess {g : GrantDocument} {now : Instant} {fetch : Fetch} (h : Faithful d c seen e written)
    (hanchored : Anchored d written (g.principal,g.actionClass) g.ts) (hmono : ∀ source, seen source → seen' source)
    (hseen : seen' (c.maybeRefresh e.check now fetch).2.source) :
    Faithful d c seen' { e with check := (e.assess d c g now fetch).2 } written := by
  have hledger : listStoredRecords d.backend e.ceremony g.principal g.actionClass =
      .ok (storedAt d e.ceremony written (g.principal,g.actionClass)) := listStoredRecords_eq h.ordered (g.principal,g.actionClass)
  have hrefreshed := h.refreshed (c.maybeRefresh_refreshed e.check now fetch).cache hmono
  rw [assess,hledger,(GrantStandingCheck.assess_eq c _ _ g now fetch).2]
  split
  · exact hrefreshed.licensing hanchored hseen
  · exact hrefreshed

def seenIn (d : Deployment F) (c : GrantStandingCheck Bytes Key) (events : List StandingEvent) (source : StandingSource) : Prop :=
  ∃ earlier, earlier <+: events ∧ source = (run d c earlier).check.source

theorem run_append_one (events : List StandingEvent) (event : StandingEvent) :
    run d c (events ++ [event]) = (run d c events).step d c event := List.foldl_append

theorem seenIn_mono {events : List StandingEvent} (event : StandingEvent) {source : StandingSource}
    (h : seenIn d c events source) : seenIn d c (events ++ [event]) source := by
  obtain ⟨earlier,hearlier,rfl⟩ := h
  exact ⟨earlier,hearlier.trans (List.prefix_append _ _),rfl⟩

theorem seenIn_now (events : List StandingEvent) : seenIn d c events (run d c events).check.source := ⟨events,List.prefix_rfl,rfl⟩

theorem StampsCurrent.init {events : List StandingEvent} {event : StandingEvent} (h : StampsCurrent d c (events ++ [event])) :
    StampsCurrent d c events := by
  intro before w after hsplit
  exact h before w (after ++ [event]) (by rw [hsplit]; simp)

theorem faithful_run {events : List StandingEvent} (hstamps : StampsCurrent d c events) :
    ∃ written, Faithful d c (seenIn d c events) (run d c events) written := by
  induction events using List.reverseRecOn with
  | nil =>
    refine ⟨[],inOrder_empty,?_,?_⟩
    · intro row item g hrow
      cases hrow
    · intro coordinate entry hentry
      cases hentry
  | append_singleton events event ih =>
    obtain ⟨written,hfaithful⟩ := ih hstamps.init
    have hmono : ∀ source, seenIn d c events source → seenIn d c (events ++ [event]) source := fun _ => seenIn_mono event
    have hnow := seenIn_now (d := d) (c := c) (events ++ [event])
    rw [run_append_one] at hnow ⊢
    cases event with
    | write w =>
      have hkept := hfaithful.refreshed rfl hmono
      exact faithful_write hkept (hstamps events w [] rfl)
    | refresh now fetch => exact ⟨written,hfaithful.refreshed (c.refresh_refreshed _ now fetch).cache hmono⟩
    | assess principal actionClass now fetch =>
      rw [step] at hnow ⊢
      cases hg : (run d c events).grantAt d principal actionClass with
      | none => exact ⟨written,hfaithful.refreshed rfl hmono⟩
      | some g =>
        rw [hg] at hnow
        refine ⟨written,faithful_assess hfaithful (grantAt_anchored hfaithful hg) hmono ?_⟩
        rw [← GrantStandingCheck.assess_source c _ _ g now fetch]
        exact hnow

theorem step_source (e : Enforcer) (event : StandingEvent) :
    (e.step d c event).check.source = e.check.source ∨
      ∃ fetch, (e.step d c event).check.source = (e.check.source.refresh c.wire.toStandingWire c.cfg fetch).2 := by
  cases event with
  | write w =>
    left
    rw [step]
    split <;> rfl
  | refresh now fetch => exact (c.refresh_refreshed e.check now fetch).source.imp_right fun h => ⟨fetch,h⟩
  | assess principal actionClass now fetch =>
    rw [step]
    split
    · exact .inl rfl
    · have hsource := (c.maybeRefresh_refreshed e.check now fetch).source
      rw [← GrantStandingCheck.assess_source c e.check _ _ now fetch] at hsource
      exact hsource.imp_right fun h => ⟨fetch,h⟩

theorem sound_run (events : List StandingEvent) : StandingSource.Sound c.wire.toStandingWire (run d c events).check.source := by
  induction events using List.reverseRecOn with
  | nil => exact StandingSource.sound_empty _
  | append_singleton events event ih =>
    rw [run_append_one]
    rcases step_source (d := d) (c := c) (run d c events) event with hsame | ⟨fetch,hrefreshed⟩
    · rw [hsame]
      exact ih
    · rw [hrefreshed]
      exact (StandingSource.refresh_keeps c.cfg ih fetch).1

theorem advances_run {earlier later : List StandingEvent} (h : earlier <+: later) :
    StandingSource.Advances (run d c earlier).check.source (run d c later).check.source := by
  obtain ⟨rest,rfl⟩ := h
  induction rest using List.reverseRecOn with
  | nil =>
    rw [List.append_nil]
    exact StandingSource.Advances.refl _
  | append_singleton rest event ih =>
    rw [← List.append_assoc,run_append_one]
    refine ih.trans ?_
    rcases step_source (d := d) (c := c) (run d c (earlier ++ rest)) event with hsame | ⟨fetch,hrefreshed⟩
    · rw [hsame]
      exact StandingSource.Advances.refl _
    · rw [hrefreshed]
      exact StandingSource.refresh_advances c.cfg _ fetch

theorem assess_alike {g : GrantDocument} {now : Instant} {fetch : Fetch} (h : Faithful d c seen e written)
    (hsound : StandingSource.Sound c.wire.toStandingWire (c.maybeRefresh e.check now fetch).2.source)
    (hkept : ∀ source, seen source → StandingSource.Advances source (c.maybeRefresh e.check now fetch).2.source ∧
      ∀ keyId publicKey publicKey', source.keyResolver c.wire.toStandingWire keyId = some publicKey →
        (c.maybeRefresh e.check now fetch).2.source.keyResolver c.wire.toStandingWire keyId = some publicKey' →
          publicKey = publicKey') :
    (e.assess d c g now fetch).1.held = (e.forget.assess d c g now fetch).1.held := by
  have hledger : listStoredRecords d.backend e.ceremony g.principal g.actionClass =
      .ok (storedAt d e.ceremony written (g.principal,g.actionClass)) := listStoredRecords_eq h.ordered (g.principal,g.actionClass)
  have hforget : e.forget.check = GrantStandingCheck.forgetting e.check := rfl
  have hceremony : e.forget.ceremony = e.ceremony := rfl
  rw [assess,assess,hceremony,hforget,hledger,(GrantStandingCheck.assess_eq c _ _ g now fetch).1,
    (GrantStandingCheck.assess_eq c _ _ g now fetch).1,GrantStandingCheck.maybeRefresh_forgetting]
  cases (c.maybeRefresh e.check now fetch).1 with
  | error _ => rfl
  | ok _ =>
    simp only [bind_of_ok rfl]
    rw [GrantStandingCheck.licensingKey_forgetting]
    have hcache := (c.maybeRefresh_refreshed e.check now fetch).cache
    generalize (c.maybeRefresh e.check now fetch).2 = after at hsound hkept hcache ⊢
    show heldOf ((c.licensingKey after (.ok (storedAt d e.ceremony written (g.principal,g.actionClass))) g).1 >>=
      fun key => c.judge after.source key now) = _
    simp only [GrantStandingCheck.licensingKey,GrantStandingCheck.cached,hcache]
    cases hentry : e.check.cache.get? (g.principal,g.actionClass) with
    | none =>
      dsimp only
      cases c.resolve after.source (storedAt d e.ceremony written (g.principal,g.actionClass)) g.ts with
      | error _ => rfl
      | ok key => rfl
    | some entry =>
      dsimp only
      by_cases hhit : entry.grantTs = g.ts ∧ entry.version.all (· = after.source.documentVersion)
      · obtain ⟨hts,hversion⟩ := hhit
        obtain ⟨source,hsource,hresolved,hunstable⟩ := (h.cached _ entry hentry).resolved
        obtain ⟨hadvances,hkeys⟩ := hkept source hsource
        rw [hts] at hresolved
        simp only [hts,hversion,and_self,if_true]
        refine GrantStandingCheck.judge_alike hsound hadvances hkeys hresolved ?_ now
        intro hstable
        rw [hunstable hstable] at hversion
        simpa using hversion
      · simp only [if_neg hhit]
        cases c.resolve after.source (storedAt d e.ceremony written (g.principal,g.actionClass)) g.ts with
        | error _ => rfl
        | ok key => rfl

end Enforcer

theorem standing_cache_is_transparent {F Bytes Key : Type} [DecidableEq Key] (d : Deployment F) (c : GrantStandingCheck Bytes Key)
    (events : List StandingEvent) (hkeys : Enforcer.KeysKept d c events) (hstamps : Enforcer.StampsCurrent d c events)
    (before after : List StandingEvent) (principal : Principal) (actionClass : String) (now : Instant) (fetch : Fetch)
    (hsplit : events = before ++ .assess principal actionClass now fetch :: after) :
    (Enforcer.run d c before).held d c principal actionClass now fetch =
      (Enforcer.run d c before).forget.held d c principal actionClass now fetch := by
  have hbefore : before ++ [.assess principal actionClass now fetch] <+: events := ⟨after,by rw [hsplit]; simp⟩
  have hstamps' : Enforcer.StampsCurrent d c before := by
    intro first w rest hrest
    exact hstamps first w (rest ++ .assess principal actionClass now fetch :: after) (by rw [hsplit,hrest]; simp)
  obtain ⟨written,hfaithful⟩ := Enforcer.faithful_run hstamps'
  have hgrant : (Enforcer.run d c before).forget.grantAt d principal actionClass =
      (Enforcer.run d c before).grantAt d principal actionClass := rfl
  rw [Enforcer.held,Enforcer.held,hgrant]
  cases hg : (Enforcer.run d c before).grantAt d principal actionClass with
  | none => rfl
  | some g =>
    have hsource : (c.maybeRefresh (Enforcer.run d c before).check now fetch).2.source =
        (Enforcer.run d c (before ++ [.assess principal actionClass now fetch])).check.source := by
      rw [Enforcer.run_append_one,Enforcer.step,hg]
      exact (GrantStandingCheck.assess_source c _ _ g now fetch).symm
    rw [Option.map_some,Option.map_some,Enforcer.assess_alike hfaithful]
    · rw [hsource]
      exact Enforcer.sound_run _
    · rintro source ⟨earlier,hearlier,rfl⟩
      have hgrown : earlier <+: before ++ [.assess principal actionClass now fetch] := hearlier.trans (List.prefix_append _ _)
      rw [hsource]
      exact ⟨Enforcer.advances_run hgrown,hkeys earlier _ hgrown hbefore⟩

namespace Rebound

open Relisted Staged

def record : PromotionRecord where
  actionClass := "email.send"
  principal := { agentId := "mailer", skill := "triage", user := "sam", tier := .B }
  fromLevel := none
  toLevel := .inLoop
  evidence := "window 20"
  predicate := some "predicate passed"
  proposedBy := "local:maker"
  ratifiedBy := "local:checker"
  envelopeHash := "e0"
  ts := "2026-02-10T00:00:00+00:00"

def grant : GrantDocument where
  principal := record.principal
  actionClass := "email.send"
  level := .inLoop
  envelopeHash := "e0"
  promotedBy := "local:checker"
  evidence := "window 20"
  ts := "2026-02-10T00:00:00+00:00"
  lastSafeLevel := .inLoop
  demotionTriggers := [.budgetBreach]
  demotionReason := none
  labelLatency := "PT1H"
  ownerId := "sam"

def recordText : String := canonicalRecordPayload record

def recordBytes : String :=
  "eyJhY3Rpb25DbGFzcyI6ImVtYWlsLnNlbmQiLCJhdHRlc3RhdGlvbiI6bnVsbCwiZGVtb3Rpb25SZWFzb24iOm51bGwsImVudmVsb3BlSGFzaCI6" ++
  "ImUwIiwiZXZpZGVuY2UiOiJ3aW5kb3cgMjAiLCJmcm9tTGV2ZWwiOm51bGwsInByZWRpY2F0ZSI6InByZWRpY2F0ZSBwYXNzZWQiLCJwcmluY2lw" ++
  "YWwiOnsiYWdlbnRJZCI6Im1haWxlciIsInNraWxsIjoidHJpYWdlIiwidGllciI6IkIiLCJ1c2VyIjoic2FtIn0sInByb3Bvc2VkQnkiOiJsb2Nh" ++
  "bDptYWtlciIsInJhdGlmaWVkQnkiOiJsb2NhbDpjaGVja2VyIiwicmVjb3JkVHlwZSI6InByb21vdGlvbiIsInRvTGV2ZWwiOiJpbi1sb29wIiwi" ++
  "dHJpZ2dlcmVkQnkiOltdLCJ0cyI6IjIwMjYtMDItMTBUMDA6MDA6MDArMDA6MDAifQ=="

def recordSha : String := "4ebb715151bbed47a06ff231e786fb328934e2443003086ee3e73b7203d0258e"

def statementText : String :=
  "eyJfdHlwZSI6Imh0dHBzOi8vaW4tdG90by5pby9TdGF0ZW1lbnQvdjEiLCJwcmVkaWNhdGUiOnsicmVjb3JkIjp7ImFjdGlvbkNsYXNzIjoiZW1h" ++
  "aWwuc2VuZCIsImVudmVsb3BlSGFzaCI6ImUwIiwicHJvcG9zZWRCeSI6ImxvY2FsOm1ha2VyIiwicmF0aWZpZWRCeSI6ImxvY2FsOmNoZWNrZXIi" ++
  "LCJyZWNvcmRUeXBlIjoicHJvbW90aW9uIiwidHMiOiIyMDI2LTAyLTEwVDAwOjAwOjAwKzAwOjAwIn0sInNpZ25lciI6eyJrZXlfaWQiOiJpc3N1" ++
  "ZXItYSIsInpvbmUiOiJsb2NhbCJ9fSwicHJlZGljYXRlVHlwZSI6Imh0dHBzOi8vc2FmZS1hZ2VudHMuZGV2L3Byb21vdGlvbi1yZWNvcmQvdjEi" ++
  "LCJzdWJqZWN0IjpbeyJkaWdlc3QiOnsic2hhMjU2IjoiNGViYjcxNTE1MWJiZWQ0N2EwNmZmMjMxZTc4NmZiMzI4OTM0ZTI0NDMwMDMwODZlZTNl" ++
  "NzNiNzIwM2QwMjU4ZSJ9LCJuYW1lIjoicHJvbW90aW9uLXJlY29yZCJ9XX0="

def statement : Json :=
  .obj [("_type",.str "https://in-toto.io/Statement/v1"),
    ("predicate",.obj [
      ("record",.obj [("actionClass",.str "email.send"),("envelopeHash",.str "e0"),("proposedBy",.str "local:maker"),
        ("ratifiedBy",.str "local:checker"),("recordType",.str "promotion"),("ts",.str "2026-02-10T00:00:00+00:00")]),
      ("signer",.obj [("key_id",.str "issuer-a"),("zone",.str "local")])]),
    ("predicateType",.str "https://safe-agents.dev/promotion-record/v1"),
    ("subject",.arr [.obj [("digest",.obj [("sha256",.str recordSha)]),("name",.str "promotion-record")]])]

def recordSig : String := "nnLaCSznED/Nb8hLuSqFFN2QsJ40NmbTg0SqKY6KdD29O83b+Sw7i8kChr48yTQC2fNn1cEEDUzXpkCBol12Ag=="

def envelope : Json :=
  .obj [("payload",.str statementText),("payloadType",.str "application/vnd.in-toto+json"),
    ("signatures",.arr [.obj [("keyid",.str "issuer-a"),("sig",.str recordSig)]])]

def keyP : String := "3bbnxVBjoSPzhXtBDyOPoawAePZqsHfnTjcxqYS9+FA="

def wire : RecordWire String String :=
  { Relisted.wire with
    verify := fun key signed payloadType bytes => Relisted.wire.verify key signed payloadType bytes ||
      (key = keyP && payloadType = "application/vnd.in-toto+json" && bytes = statementText && signed = recordSig)
    sha256 := fun bytes => if bytes = recordBytes then recordSha else Relisted.wire.sha256 bytes
    encode := fun text => if text = recordText then recordBytes else text
    loadBytes := fun bytes => if bytes = statementText then some statement else none }

def check : GrantStandingCheck String String where
  wire
  cfg := Staged.cfg
  issuer := rfl

def desk : Deployment Int where
  backend := .memory
  hmac := id
  isLabelLatency := fun _ => true
  fmt := Wire.wholeFloats
  lax := Wire.noCoercion

def promotedAt : Int := 1770681600000000

theorem record_stamped : StampedAt record promotedAt := ⟨by decide,by decide⟩

def ratify : SanctionedWrite where
  request := { record, grant }
  signature := some envelope
  accepted := by decide
  principal := rfl
  actionClass := rfl
  ts := rfl
  stamped := ⟨promotedAt,record_stamped⟩

def fetchAt (t : Int) (i : Issue) : Fetch where
  fetchedAt := t
  fetched := .ok i.envelope.dumps

theorem verify_or (key signed payloadType bytes : String) :
    wire.verify key signed payloadType bytes = (Relisted.wire.verify key signed payloadType bytes ||
      (key = keyP && payloadType = "application/vnd.in-toto+json" && bytes = statementText && signed = recordSig)) := rfl

theorem sha256_if (bytes : String) : wire.sha256 bytes = if bytes = recordBytes then recordSha else Relisted.wire.sha256 bytes := rfl

theorem encode_if (text : String) : wire.encode text = if text = recordText then recordBytes else text := by
  simp only [wire]

theorem loadBytes_if (bytes : String) : wire.loadBytes bytes = if bytes = statementText then some statement else none := rfl

theorem decodes : wire.loads = Relisted.wire.loads ∧ wire.b64decode = Relisted.wire.b64decode ∧
    wire.loadPublicKey = Relisted.wire.loadPublicKey ∧ wire.parse = Relisted.wire.parse ∧ wire.report = Relisted.wire.report := by
  simp only [wire,and_self]

theorem payloads_apart : ∀ i ∈ issues, i.payload ≠ recordBytes := by decide

theorem verifies {i : Issue} (hi : i ∈ issues) :
    verifyStandingEnvelope wire.toStandingWire cfg.authority cfg.role i.envelope.dumps = .ok (i.document,i.sha) := by
  have hcarried : Carried Relisted.wire cfg.authority cfg.role i.envelope.dumps i.envelope i.signature "authority-1" i.payload i.sig
      Staged.authorityKey i.document := Staged.carried hi payloads_nodup (sound i hi).1
  have hverified : wire.verify Staged.authorityKey i.sig standingPayloadType i.payload = true := by
    rw [verify_or,hcarried.verified,Bool.true_or]
  have hsha : wire.sha256 i.payload = i.sha := by
    rw [sha256_if,if_neg (payloads_apart i hi)]
    simp [Relisted.wire,Staged.wire,found payloads_nodup hi]
  have hover : Carried wire.toStandingWire cfg.authority cfg.role i.envelope.dumps i.envelope i.signature "authority-1" i.payload i.sig
      Staged.authorityKey i.document := hcarried.over decodes.1 decodes.2.1 decodes.2.2.1 decodes.2.2.2.1 decodes.2.2.2.2 hverified
  rw [← hsha]
  exact hover.verifies

theorem adopts {s : StandingSource} {i : Issue} (hi : i ∈ issues) (hdigest : s.accepted.any (fun held => held.digest = i.sha) = false)
    (hfollows : checkSuccessor wire.toStandingWire (s.accepted.map Accepted.document) i.document s.seenWithdrawn = .ok ())
    {t : Int} (hissued : i.document.issued = .ok t) :
    s.refresh wire.toStandingWire cfg (fetchAt t i) =
      (.ok { verdict := .accepted, version := some i.document.version },
        s.adopt i.document i.sha { fetchedAt := t, statedAt := some t }) := by
  have hexamine : s.examine wire.toStandingWire cfg i.envelope.dumps = .ok (some (i.document,i.sha)) := by
    rw [StandingSource.examine,bind_of_ok (verifies hi)]
    simp only [hdigest,Bool.false_eq_true,if_false]
    have hunlisted : checkAuthorityNotListed wire.toStandingWire cfg.authorityKeyIds cfg.authorityPublicKeys i.document = .ok () :=
      (sound i hi).1.unlisted
    rw [bind_of_ok hunlisted,bind_of_ok hfollows]
    rfl
  simp only [StandingSource.refresh,fetchAt,hexamine,hissued]

def listed : StandingSource := StandingSource.adopt {} first.document first.sha
  { fetchedAt := 1772323200000000, statedAt := some 1772323200000000 }

def dropped : StandingSource := listed.adopt second.document second.sha
  { fetchedAt := 1772409600000000, statedAt := some 1772409600000000 }

def rebound : StandingSource := dropped.adopt third.document third.sha
  { fetchedAt := 1772496000000000, statedAt := some 1772496000000000 }

theorem lists : StandingSource.refresh wire.toStandingWire cfg {} (fetchAt 1772323200000000 first) =
    (.ok { verdict := .accepted, version := some 1 },listed) :=
  adopts (s := {}) (by simp [issues]) rfl (by decide) (by decide)

theorem drops : listed.refresh wire.toStandingWire cfg (fetchAt 1772409600000000 second) =
    (.ok { verdict := .accepted, version := some 2 },dropped) :=
  adopts (s := listed) (by simp [issues]) (by decide) (by decide) (by decide)

theorem rebinds : dropped.refresh wire.toStandingWire cfg (fetchAt 1772496000000000 third) =
    (.ok { verdict := .accepted, version := some 3 },rebound) :=
  adopts (s := dropped) (by simp [issues]) (by decide) (by decide) (by decide)

def ledger : CeremonyState := committedState desk {} ratify.request ratify.signature (applied id .memory {} ratify.request)

theorem ratify_commits : writeRecordAndGrant desk.hmac desk.validate desk.backend {} ratify.request =
    .ok (applied id .memory {} ratify.request) := by
  have hts : validateRecordTs ratify.request.record.ts = .ok () := by decide
  exact writeMemory_commits rfl rfl rfl hts rfl

theorem ledger_ordered : InOrder .memory { table := ledger.store.records, written := [record] } :=
  inOrder_extend (l := {}) inOrder_empty ratify.accepted record_stamped (by simp [writtenUnder])

def entry : StoredRecord where
  record
  data := canonicalRecordPayload record
  signature := some envelope

theorem ledger_stored : listStoredRecords .memory ledger record.principal "email.send" = .ok [entry] := by
  have hlist := listStoredRecords_eq (d := desk) ledger_ordered (record.principal,"email.send")
  have hentries : storedAt desk ledger [record] (record.principal,"email.send") = [entry] := by
    have hrecords : recordsUnder desk [record] (record.principal,"email.send") = [record] := by
      simp [recordsUnder,pkOf,desk,show record.actionClass = "email.send" from rfl]
    rw [storedAt,hrecords,List.map_singleton,asStored]
    have hsignature : ledger.signatures (pkOf desk.backend record,recordSk record) = some envelope := by
      simp only [ledger,committedState,Deployment.signed]
      exact Function.update_self _ _ _
    rw [hsignature]
    rfl
  rw [hentries] at hlist
  exact hlist

theorem grant_stored : getGrant desk.hmac desk.validate desk.backend ledger.store record.principal "email.send" =
    .ok { grant := some grant, rawData := some (canonicalGrantPayload grant), storedHash := some (canonicalGrantPayload grant) } :=
  getGrant_written (g := grant) (by decide) (applied_stores id .memory {} ratify.request)

def signedAs : Json := .obj [("keyid",.str "issuer-a"),("sig",.str recordSig)]

def opening : DsseStatement String where
  signatures := [signedAs]
  signer := .str "issuer-a"
  bytes := statementText

theorem record_digest : storedRecordDigestHex wire (canonicalRecordPayload record) = recordSha := by
  rw [storedRecordDigestHex,encode_if,if_pos (show canonicalRecordPayload record = recordText from rfl),sha256_if,if_pos rfl]

theorem opens : openEnvelope wire envelope recordPredicateType (storedRecordDigestHex wire (canonicalRecordPayload record)) =
    .ok opening := by
  have hdecode : wire.b64decode statementText = some statementText := by
    rw [decodes.2.1]
    rfl
  have hload : wire.loadBytes statementText = some statement := by rw [loadBytes_if,if_pos rfl]
  rw [record_digest]
  simp [openEnvelope,signaturesOf,statementBytes,subjectHex,signerKeyId,isFalsy,envelope,Json.get?,Json.str?,hdecode,hload,statement,
    Channels.dssePayloadType,Channels.statementType,recordPredicateType,opening,signedAs,refuseIf,bind,Except.bind,pure,Except.pure]

def licensed : LicensingKey where
  kind := .key
  keyId := some "issuer-a"
  recordType := some .promotion
  recordTs := some record.ts

theorem resolves (s : StandingSource) : check.resolve s [entry] grant.ts =
    licensedBySignature wire entry envelope (s.issuerResolvers wire.toStandingWire) := by
  have hgrant : instantOf grant.ts = some promotedAt := by decide
  have hplaced : licensingRecord [entry] promotedAt = some ⟨[],entry⟩ := by
    have hrecord : instantOf entry.record.ts = some promotedAt := hgrant
    have htype : entry.record.recordType = .promotion := rfl
    simp [licensingRecord,licensingFrom,hrecord,htype,isEarning]
  exact GrantStandingCheck.resolve_signed (c := check) ⟨promotedAt,hgrant,hplaced,rfl⟩ s

theorem listed_resolves : check.resolve listed [entry] grant.ts = .ok licensed := by
  have hvouched : Vouched wire (listed.resolver wire.toStandingWire) opening signedAs := by
    refine ⟨rfl,keyP,recordSig,recordSig,?_,rfl,?_,?_⟩
    · have hresolved : listed.keyResolver wire.toStandingWire "issuer-a" = some keyP := by decide
      exact congrArg Except.ok hresolved
    · rw [decodes.2.1]
      rfl
    · rw [verify_or]
      simp [opening,Channels.dssePayloadType]
  have hverified : VerifiedBy wire entry.data envelope (listed.resolver wire.toStandingWire) "issuer-a" opening :=
    ⟨opens,rfl,by simpa [opening] using hvouched⟩
  have hrole : signingRoleForRecordType entry.record.recordType = .issuer := rfl
  obtain ⟨result,hresult,hkey⟩ := hverified.again hrole rfl
  rw [resolves,licensedBySignature,checkStored,if_pos (show isDict envelope = true from rfl),bind_of_ok hresult]
  simp only [hkey]
  rfl

theorem rebound_resolves : ∃ key, check.resolve rebound [entry] grant.ts = .ok key ∧ key.kind = .unverified := by
  have hresolved : rebound.resolver wire.toStandingWire (.str "issuer-a") = .ok (some "F6h6gA8++W5E3aHghHpjGs8epwrO/ldZLl62gnLpTe0=") := by
    have hkey : rebound.keyResolver wire.toStandingWire "issuer-a" = some "F6h6gA8++W5E3aHghHpjGs8epwrO/ldZLl62gnLpTe0=" := by
      decide
    exact congrArg Except.ok hkey
  have hrefused : wire.verify "F6h6gA8++W5E3aHghHpjGs8epwrO/ldZLl62gnLpTe0=" recordSig Channels.dssePayloadType statementText = false := by
    decide
  have hdecode : wire.b64decode recordSig = some recordSig := by
    rw [decodes.2.1]
    rfl
  have hchecked : checkSignatures wire (rebound.resolver wire.toStandingWire) opening opening.signatures =
      .ok (some .signatureInvalid) := by
    have hfirst : checkSignature wire (rebound.resolver wire.toStandingWire) opening signedAs = .ok (some .signatureInvalid) := by
      have hkeyid : signedAs.get? "keyid" = some (.str "issuer-a") := rfl
      have hsig : signedAs.get? "sig" = some (.str recordSig) := rfl
      have hsigner : opening.signer = .str "issuer-a" := rfl
      have hbytes : opening.bytes = statementText := rfl
      simp only [checkSignature,hkeyid,hsig,hsigner,Json.same_self,if_true,hbytes]
      rw [bind_of_ok hresolved]
      simp only [Json.str?,Option.bind_some,hdecode,hrefused]
      rfl
    rw [show opening.signatures = [signedAs] from rfl,checkSignatures,bind_of_ok hfirst]
    rfl
  have hrole : signingRoleForRecordType entry.record.recordType = .issuer := rfl
  have hresult : verifyRecordByType wire entry.data envelope entry.record.recordType (rebound.issuerResolvers wire.toStandingWire) =
      .ok { ok := false, reason := some .signatureInvalid } := by
    have hverified : verifyRecord wire entry.data envelope (rebound.resolver wire.toStandingWire) =
        .ok { ok := false, reason := some .signatureInvalid } := verifyRecord_of_open opens hchecked
    rw [StandingSource.verifyRecordByType_issuer rebound entry.data envelope hrole,bind_of_ok hverified]
    rfl
  rw [resolves,licensedBySignature,checkStored,if_pos (show isDict envelope = true from rfl),bind_of_ok hresult]
  exact ⟨_,rfl,rfl⟩

def askedAt : Instant := 1772496000000001

theorem rebound_in_standing : heldOf (check.judge rebound licensed askedAt) = true := by
  have hverdict : (rebound.standingOf cfg "issuer-a" askedAt 0).toOption.map KeyStanding.verdict = some .inStanding := by decide
  cases hstanding : rebound.standingOf cfg "issuer-a" askedAt 0 with
  | error e =>
    rw [hstanding] at hverdict
    cases hverdict
  | ok standing =>
    rw [hstanding] at hverdict
    have hasked : check.standingOf rebound "issuer-a" askedAt = .ok standing := by
      unfold GrantStandingCheck.standingOf
      simp only [show check.cfg = cfg from rfl,show check.skew = 0 from rfl,hstanding]
    have hin : standing.verdict = .inStanding := Option.some.inj hverdict
    show heldOf (check.standingOf rebound "issuer-a" askedAt >>= fun standing =>
      if standing.verdict = .inStanding then pure _ else pure _) = true
    rw [bind_of_ok hasked,if_pos hin]
    rfl

def history : List StandingEvent :=
  [.write ratify,
   .assess record.principal "email.send" 1772323200000000 (fetchAt 1772323200000000 first),
   .refresh 1772409600000000 (fetchAt 1772409600000000 second),
   .refresh 1772496000000000 (fetchAt 1772496000000000 third)]

def reached : Enforcer where
  ceremony := ledger
  check :=
    { source := rebound
      nextRefresh := some 1772496900000000
      cache := Dict.empty.set (record.principal,"email.send") { grantTs := grant.ts, version := none, key := licensed } }

theorem granted {e : Enforcer} (h : e.ceremony = ledger) : e.grantAt desk record.principal "email.send" = some grant := by
  rw [Enforcer.grantAt,h,grant_stored]
  rfl

theorem asked {e : Enforcer} (h : e.ceremony = ledger) (now : Instant) (fetch : Fetch) :
    e.assess desk check grant now fetch = check.assess e.check (.ok [entry]) grant now fetch := by
  rw [Enforcer.assess,h]
  exact congrArg (fun stored => check.assess e.check stored grant now fetch) ledger_stored

theorem every_quarter : check.refreshEvery = 900000000 := by decide

theorem refreshes {s : CheckState} {t : Int} {i : Issue} {load : StandingLoad} {source : StandingSource}
    (h : s.source.refresh wire.toStandingWire cfg (fetchAt t i) = (.ok load,source)) (ht : Representable (t + 900000000)) :
    check.refresh s t (fetchAt t i) = (.ok load,{ s with source, nextRefresh := some (t + 900000000) }) := by
  have hloaded : s.source.refresh check.wire.toStandingWire check.cfg (fetchAt t i) = (.ok load,source) := h
  simp only [GrantStandingCheck.refresh,hloaded,every_quarter,if_pos ht]

def askedOnce : Enforcer where
  ceremony := ledger
  check :=
    { source := listed
      nextRefresh := some 1772324100000000
      cache := Dict.empty.set (record.principal,"email.send") { grantTs := grant.ts, version := none, key := licensed } }

theorem run_written : Enforcer.run desk check [.write ratify] = { ceremony := ledger } := by
  show Enforcer.step desk check {} (.write ratify) = _
  simp only [Enforcer.step,ratify_commits]
  rfl

theorem run_asked : Enforcer.run desk check
    [.write ratify,.assess record.principal "email.send" 1772323200000000 (fetchAt 1772323200000000 first)] = askedOnce := by
  have hrefresh := refreshes (s := {}) lists (by decide)
  have hmaybe : check.maybeRefresh {} 1772323200000000 (fetchAt 1772323200000000 first) =
      (.ok (),{ source := listed, nextRefresh := some 1772324100000000 }) := by
    rw [GrantStandingCheck.maybeRefresh,if_neg (by simp),hrefresh]
    rfl
  rw [show [StandingEvent.write ratify,.assess record.principal "email.send" 1772323200000000 (fetchAt 1772323200000000 first)] =
    [.write ratify] ++ [.assess record.principal "email.send" 1772323200000000 (fetchAt 1772323200000000 first)] from rfl,
    Enforcer.run_append_one,run_written,Enforcer.step,granted rfl]
  dsimp only
  have hlicensing := GrantStandingCheck.licensingKey_fresh (c := check) (g := grant)
    (s := { source := listed, nextRefresh := some 1772324100000000 }) rfl listed_resolves
  rw [asked rfl,(GrantStandingCheck.assess_eq check _ _ grant _ _).2,hmaybe,hlicensing]
  rfl

theorem step_refreshes {e : Enforcer} {t : Int} {i : Issue} {load : StandingLoad} {source : StandingSource}
    (h : e.check.source.refresh wire.toStandingWire cfg (fetchAt t i) = (.ok load,source)) (ht : Representable (t + 900000000)) :
    e.step desk check (.refresh t (fetchAt t i)) =
      { e with check := { e.check with source, nextRefresh := some (t + 900000000) } } := by
  rw [Enforcer.step,refreshes h ht]

theorem run_reaches : Enforcer.run desk check history = reached := by
  have hdrops := step_refreshes (e := askedOnce) drops (by decide)
  have hrebinds := step_refreshes
    (e := { askedOnce with check := { askedOnce.check with source := dropped, nextRefresh := some 1772410500000000 } }) rebinds (by decide)
  have hsplit : history = [.write ratify,.assess record.principal "email.send" 1772323200000000 (fetchAt 1772323200000000 first)] ++
      [.refresh 1772409600000000 (fetchAt 1772409600000000 second)] ++ [.refresh 1772496000000000 (fetchAt 1772496000000000 third)] := rfl
  rw [hsplit,Enforcer.run_append_one,Enforcer.run_append_one,run_asked,hdrops]
  exact hrebinds

theorem stamps_current (events : List StandingEvent) (h : ∀ before w after, events = before ++ .write w :: after → before = [] ∧ w = ratify) :
    Enforcer.StampsCurrent desk check events := by
  intro before w after hsplit
  obtain ⟨rfl,rfl⟩ := h before w after hsplit
  exact ⟨[],by simp [listRecords,partition,Enforcer.run,pure,Except.pure],by simp⟩

theorem writes_once {rest : List StandingEvent} (hquiet : ∀ w, StandingEvent.write w ∉ rest) :
    ∀ before w after, .write ratify :: rest = before ++ .write w :: after → before = [] ∧ w = ratify := by
  intro before w after hsplit
  cases before with
  | nil => exact ⟨rfl,(StandingEvent.write.inj (List.cons.inj hsplit).1).symm⟩
  | cons event before =>
    refine absurd ?_ (hquiet w)
    rw [(List.cons.inj hsplit).2]
    simp

theorem stale_key_still_held :
    Enforcer.StampsCurrent desk check (history ++ [.assess record.principal "email.send" askedAt (fetchAt askedAt third)]) ∧
      (Enforcer.run desk check history).held desk check record.principal "email.send" askedAt (fetchAt askedAt third) = some true ∧
      (Enforcer.run desk check history).forget.held desk check record.principal "email.send" askedAt (fetchAt askedAt third) =
        some false := by
  have hquiet : ∀ w, StandingEvent.write w ∉ history.tail ++ [.assess record.principal "email.send" askedAt (fetchAt askedAt third)] := by
    intro w
    simp [history]
  have hmaybe : check.maybeRefresh reached.check askedAt (fetchAt askedAt third) = (.ok (),reached.check) := by
    rw [GrantStandingCheck.maybeRefresh,if_pos (by decide)]
  refine ⟨stamps_current _ (writes_once hquiet),?_,?_⟩
  · rw [run_reaches,Enforcer.held,granted rfl,Option.map_some,asked rfl,(GrantStandingCheck.assess_eq check _ _ grant _ _).1,hmaybe]
    have hcached : GrantStandingCheck.cached reached.check (grant.principal,grant.actionClass) grant.ts = some licensed := by
      simp [GrantStandingCheck.cached,reached,show (grant.principal,grant.actionClass) = (record.principal,"email.send") from rfl]
    simp only [GrantStandingCheck.licensingKey,hcached]
    exact congrArg some rebound_in_standing
  · obtain ⟨key,hkey,hunverified⟩ := rebound_resolves
    have hforget : (Enforcer.forget reached).check = GrantStandingCheck.forgetting reached.check := rfl
    rw [run_reaches,Enforcer.held,granted rfl,Option.map_some,asked rfl,(GrantStandingCheck.assess_eq check _ _ grant _ _).1,hforget,
      GrantStandingCheck.maybeRefresh_forgetting,hmaybe,bind_of_ok rfl,GrantStandingCheck.licensingKey_forgetting]
    rw [show check.resolve reached.check.source [entry] grant.ts = .ok key from hkey,bind_of_ok rfl]
    exact congrArg some (GrantStandingCheck.heldOf_unverified hunverified askedAt)

def twice : List StandingEvent :=
  [.write ratify,.assess record.principal "email.send" 1772323200000000 (fetchAt 1772323200000000 first),
   .assess record.principal "email.send" 1772323200000001 (fetchAt 1772323200000001 first)]

theorem twice_source {events : List StandingEvent} (h : events <+: twice) :
    (Enforcer.run desk check events).check.source = {} ∨ (Enforcer.run desk check events).check.source = listed := by
  have hagain : (Enforcer.run desk check [.write ratify,
      .assess record.principal "email.send" 1772323200000000 (fetchAt 1772323200000000 first),
      .assess record.principal "email.send" 1772323200000001 (fetchAt 1772323200000001 first)]).check.source = listed := by
    rw [show [StandingEvent.write ratify,.assess record.principal "email.send" 1772323200000000 (fetchAt 1772323200000000 first),
      .assess record.principal "email.send" 1772323200000001 (fetchAt 1772323200000001 first)] = [.write ratify,.assess record.principal "email.send" 1772323200000000 (fetchAt 1772323200000000 first)] ++
      [.assess record.principal "email.send" 1772323200000001 (fetchAt 1772323200000001 first)] from rfl,
      Enforcer.run_append_one,run_asked,Enforcer.step,granted rfl]
    dsimp only
    rw [asked rfl,GrantStandingCheck.assess_source,GrantStandingCheck.maybeRefresh,if_pos (by decide)]
    rfl
  simp only [twice,List.prefix_cons_iff,List.prefix_nil] at h
  rcases h with rfl | ⟨_,rfl,rfl | ⟨_,rfl,rfl | ⟨_,rfl,rfl⟩⟩⟩
  · exact .inl rfl
  · rw [run_written]
    exact .inl rfl
  · rw [run_asked]
    exact .inr rfl
  · exact .inr hagain

theorem standing_cache_is_transparent_listed :
    Enforcer.KeysKept desk check twice ∧ Enforcer.StampsCurrent desk check twice ∧
      (Enforcer.run desk check (twice.take 2)).held desk check record.principal "email.send" 1772323200000001
          (fetchAt 1772323200000001 first) =
        (Enforcer.run desk check (twice.take 2)).forget.held desk check record.principal "email.send" 1772323200000001
          (fetchAt 1772323200000001 first) := by
  have hkeys : Enforcer.KeysKept desk check twice := by
    intro earlier later hgrown hlater keyId publicKey publicKey' hearlier hresolved
    rcases twice_source (hgrown.trans hlater) with hsource | hsource
    · rw [hsource] at hearlier
      cases hearlier
    · rcases twice_source hlater with hsource' | hsource'
      · rw [hsource'] at hresolved
        cases hresolved
      · rw [hsource] at hearlier
        rw [hsource',hearlier] at hresolved
        exact Option.some.inj hresolved
  have hstamps : Enforcer.StampsCurrent desk check twice := stamps_current _ (writes_once (by simp))
  exact ⟨hkeys,hstamps,standing_cache_is_transparent desk check twice hkeys hstamps (twice.take 2) [] record.principal "email.send"
    1772323200000001 (fetchAt 1772323200000001 first) rfl⟩

end Rebound

end SafeAgents.Grants
