import SafeAgents.Channels.Publish

namespace SafeAgents.Channels

open Checked

inductive Ingestion where
  | source (source : String) (trustMap : InputTrustMap)
  | memory (taintFlag : Bool) (source : String)

def Ingestion.into (turn : TurnContext) : Ingestion → TurnContext
  | .source name trustMap => turn.ingestSource name (trustMap name)
  | .memory taintFlag name => turn.ingestMemoryTaint taintFlag name

structure Visit where
  sender : SenderIdentity
  resolution : TrustResolution
  stamp : Stamp
  turnId : String
  receiverMap : InputTrustMap
  more : List Ingestion
  publication : Publication
  relays : Bool
  ingestedSources : TurnContext → List String
  signer : Option Signer

structure Stop where
  accepted : Option EventTrigger
  turn : TurnContext
  published : EventTrigger

namespace Visit
variable (v : Visit)

def stampIn (sent : EventTrigger) : Except ChannelError EventTrigger :=
  stampInbound ((sent.withSender v.sender).withClass none) v.resolution v.stamp

def receive : Option EventTrigger → Except ChannelError (Option EventTrigger)
  | none => .ok none
  | some sent => do
    let accepted ← v.stampIn sent
    return some accepted

def opened : Option EventTrigger → TurnContext
  | none => { turnId := v.turnId }
  | some accepted => ingestChain accepted { turnId := v.turnId } v.receiverMap

def turn (accepted : Option EventTrigger) : TurnContext := v.more.foldl Ingestion.into (v.opened accepted)

def stop (parser : WireParser) (received : Option EventTrigger) : Except ChannelError Stop := do
  let accepted ← v.receive received
  let turn := v.turn accepted
  let published ← stampOutbound parser v.publication turn.tainted (if v.relays then accepted else none) (v.ingestedSources turn) v.signer
  return ⟨accepted,turn,published⟩

def CarriesLineage : Prop := v.ingestedSources = fun turn => turn.toTaint.sources

end Visit

def travel (parser : WireParser) : Option EventTrigger → List Visit → Except ChannelError (List Stop)
  | _, [] => .ok []
  | received, v :: rest => do
    let stop ← v.stop parser received
    let stops ← travel parser (some stop.published) rest
    return stop :: stops

section Steps
variable {parser : WireParser} {v : Visit} {received : Option EventTrigger} {sent : EventTrigger} {s : Stop}

theorem into_sources_mono (turn : TurnContext) (i : Ingestion) {source : String} (h : source ∈ turn.sources) :
    source ∈ (i.into turn).sources := by
  cases i with
  | source _ trustMap => exact turn.sources_ingestSource_mono _ _ h
  | memory taintFlag _ =>
    cases taintFlag with
    | true => exact turn.sources_markTainted_mono _ h
    | false => exact h

theorem into_tainted_mono (turn : TurnContext) (i : Ingestion) (h : turn.tainted = true) : (i.into turn).tainted = true := by
  cases i with
  | source _ trustMap => exact turn.tainted_ingestSource_mono _ _ h
  | memory taintFlag _ =>
    cases taintFlag with
    | true => rfl
    | false => exact h

theorem ingested_sources (more : List Ingestion) {turn : TurnContext} {source : String} (h : source ∈ turn.sources) :
    source ∈ (more.foldl Ingestion.into turn).sources := by
  induction more generalizing turn with
  | nil => exact h
  | cons i more ih => exact ih (into_sources_mono turn i h)

theorem ingested_tainted (more : List Ingestion) {turn : TurnContext} (h : turn.tainted = true) :
    (more.foldl Ingestion.into turn).tainted = true := by
  induction more generalizing turn with
  | nil => exact h
  | cons i more ih => exact ih (into_tainted_mono turn i h)

theorem stop_ok (h : v.stop parser received = .ok s) :
    v.receive received = .ok s.accepted ∧ s.turn = v.turn s.accepted ∧
      ∃ originHops hop, Outbound v.publication s.turn.tainted (if v.relays then s.accepted else none)
        (v.ingestedSources s.turn) s.published originHops hop := by
  obtain ⟨accepted,haccepted,h⟩ := bind_ok.mp h
  obtain ⟨published,hpublished,h⟩ := bind_ok.mp h
  obtain rfl := pure_ok.mp h
  exact ⟨haccepted,rfl,stampOutbound_ok hpublished⟩

theorem receive_some {received : Option EventTrigger} (h : v.receive (some sent) = .ok received) :
    ∃ accepted entry, received = some accepted ∧ accepted.provenance = sent.provenance ++ [entry] := by
  obtain ⟨accepted,haccepted,h⟩ := bind_ok.mp h
  obtain ⟨entry,_,_,_,_,_,rfl⟩ := stampInbound_ok haccepted
  exact ⟨_,entry,(pure_ok.mp h).symm,rfl⟩

theorem stop_accepted (h : v.stop parser (some sent) = .ok s) :
    ∃ accepted entry, s.accepted = some accepted ∧ accepted.provenance = sent.provenance ++ [entry] :=
  receive_some (stop_ok h).1

theorem stop_relayed (h : v.stop parser (some sent) = .ok s) (hrelays : v.relays = true) :
    ∃ accepted, s.accepted = some accepted ∧ sent.provenance <+: accepted.provenance ∧
      accepted.provenance <+: s.published.provenance := by
  obtain ⟨accepted,entry,haccepted,hchain⟩ := stop_accepted h
  obtain ⟨_,_,originHops,hop,hout⟩ := stop_ok h
  refine ⟨accepted,haccepted,⟨[entry],hchain.symm⟩,originHops ++ [hop],?_⟩
  rw [hout.provenance,hrelays,if_pos rfl,haccepted,Publication.upstream,List.append_assoc]

theorem stop_publishes_taint (h : v.stop parser received = .ok s) (ht : s.turn.tainted = true) : s.published.tainted = true := by
  obtain ⟨_,_,originHops,hop,hout⟩ := stop_ok h
  have hlabel : hop.label = .untrusted := by rw [hout.label,ht,if_pos rfl]
  rw [EventTrigger.tainted,hout.provenance]
  simp [hlabel]

theorem stop_receives_taint (h : v.stop parser (some sent) = .ok s) (ht : sent.tainted = true) : s.turn.tainted = true := by
  obtain ⟨accepted,last,haccepted,hchain⟩ := stop_accepted h
  obtain ⟨entry,hentry,hlabel⟩ := List.any_eq_true.mp ht
  rw [(stop_ok h).2.1,haccepted]
  refine ingested_tainted v.more ((ingestChain_tainted accepted _ v.receiverMap).mpr (.inr ⟨entry,?_,?_⟩))
  · rw [hchain]
    exact List.mem_append_left _ hentry
  · exact trustedByFloor_untrusted (by simpa using hlabel)

def Condemned (e : EventTrigger) (source : String) : Prop :=
  ∃ entry ∈ e.provenance, entry.source = source ∧ entry.label = .untrusted

theorem stop_receives_condemned (h : v.stop parser (some sent) = .ok s) {source : String} (hsent : Condemned sent source) :
    source ∈ s.turn.sources := by
  obtain ⟨accepted,last,haccepted,hchain⟩ := stop_accepted h
  obtain ⟨entry,hentry,hsource,hlabel⟩ := hsent
  rw [(stop_ok h).2.1,haccepted]
  refine ingested_sources v.more ((ingestChain_sources accepted _ v.receiverMap source).mpr (.inr ⟨entry,?_,hsource,?_⟩))
  · rw [hchain]
    exact List.mem_append_left _ hentry
  · exact trustedByFloor_untrusted hlabel

theorem stop_names_source (h : v.stop parser received = .ok s) (hv : v.CarriesLineage) {source : String}
    (hsource : source ∈ s.turn.sources) :
    Condemned s.published source ∨
      ∃ inbound, v.relays = true ∧ s.accepted = some inbound ∧ (∃ entry ∈ inbound.provenance, entry.source = source) ∧
        ∀ entry ∈ inbound.provenance, entry.source = source → entry.label = .trusted := by
  obtain ⟨_,_,originHops,hop,hout⟩ := stop_ok h
  have hsources : v.ingestedSources s.turn = s.turn.sources := by rw [hv]; rfl
  by_cases hup : source ∈ (Publication.upstream (if v.relays then s.accepted else none)).map ProvenanceEntry.source
  · by_cases hbad : ∃ entry ∈ Publication.upstream (if v.relays then s.accepted else none),
        entry.source = source ∧ entry.label = .untrusted
    · obtain ⟨entry,hentry,hname,hlabel⟩ := hbad
      refine .inl ⟨entry,?_,hname,hlabel⟩
      rw [hout.provenance,List.append_assoc]
      exact List.mem_append_left _ hentry
    · obtain ⟨entry,hentry,hname⟩ := List.mem_map.mp hup
      cases hrelays : v.relays with
      | false => simp [hrelays,Publication.upstream] at hentry
      | true =>
        cases hinbound : s.accepted with
        | none => simp [hrelays,hinbound,Publication.upstream] at hentry
        | some inbound =>
          simp only [hrelays,hinbound,Publication.upstream,if_true] at hentry hbad
          refine .inr ⟨inbound,rfl,rfl,⟨entry,hentry,hname⟩,fun other hother hsame => ?_⟩
          cases hlabel : other.label with
          | trusted => rfl
          | untrusted => exact absurd ⟨other,hother,hsame,hlabel⟩ hbad
  · have hnew : source ∈ originHops.map ProvenanceEntry.source := by
      rw [hout.origins,hsources]
      exact List.mem_filter.mpr ⟨hsource,by simpa using hup⟩
    obtain ⟨entry,hentry,hname⟩ := List.mem_map.mp hnew
    refine .inl ⟨entry,?_,hname,hout.untrusted entry hentry⟩
    rw [hout.provenance]
    simp [hentry]

theorem stop_passes_condemned (h : v.stop parser (some sent) = .ok s) (hv : v.CarriesLineage) {source : String}
    (hsent : Condemned sent source) : Condemned s.published source := by
  rcases stop_names_source h hv (stop_receives_condemned h hsent) with hpublished | ⟨inbound,_,hinbound,_,htrusted⟩
  · exact hpublished
  · obtain ⟨accepted,last,haccepted,hchain⟩ := stop_accepted h
    obtain ⟨entry,hentry,hname,hlabel⟩ := hsent
    obtain rfl : inbound = accepted := Option.some.inj (hinbound.symm.trans haccepted)
    have hclean := htrusted entry (by rw [hchain]; exact List.mem_append_left _ hentry) hname
    rw [hlabel] at hclean
    cases hclean

end Steps

section Paths
variable {parser : WireParser} {received : Option EventTrigger} {sent : EventTrigger} {visits : List Visit} {stops : List Stop}

theorem travel_cons {v : Visit} (h : travel parser received (v :: visits) = .ok stops) :
    ∃ s rest, stops = s :: rest ∧ v.stop parser received = .ok s ∧ travel parser (some s.published) visits = .ok rest := by
  obtain ⟨s,hs,h⟩ := bind_ok.mp h
  obtain ⟨rest,hrest,h⟩ := bind_ok.mp h
  exact ⟨s,rest,(pure_ok.mp h).symm,hs,hrest⟩

theorem travel_from {i : Nat} {s : Stop} (h : travel parser received visits = .ok stops) (hi : stops[i]? = some s) :
    (∃ v, visits[i]? = some v ∧ ∃ before, v.stop parser before = .ok s) ∧
      travel parser (some s.published) (visits.drop (i + 1)) = .ok (stops.drop (i + 1)) := by
  induction visits generalizing received stops i with
  | nil =>
    cases h
    simp at hi
  | cons v visits ih =>
    obtain ⟨first,rest,rfl,hfirst,hrest⟩ := travel_cons h
    cases i with
    | zero =>
      obtain rfl : first = s := by simpa using hi
      exact ⟨⟨v,rfl,received,hfirst⟩,by simpa using hrest⟩
    | succ i =>
      obtain ⟨⟨w,hw,before,hstop⟩,hafter⟩ := ih hrest (by simpa using hi)
      exact ⟨⟨w,by simpa using hw,before,hstop⟩,by simpa using hafter⟩

theorem travel_next {i : Nat} {earlier later : Stop} {v : Visit} (h : travel parser received visits = .ok stops)
    (hi : stops[i]? = some earlier) (hnext : stops[i + 1]? = some later) (hv : visits[i + 1]? = some v) :
    v.stop parser (some earlier.published) = .ok later := by
  have hafter := (travel_from h hi).2
  cases hvisits : visits.drop (i + 1) with
  | nil =>
    have hlong := List.drop_eq_nil_iff.mp hvisits
    rw [List.getElem?_eq_none hlong] at hv
    cases hv
  | cons w rest =>
    rw [hvisits] at hafter
    obtain ⟨first,others,hstops,hfirst,-⟩ := travel_cons hafter
    have hw : w = v := by
      have hhead : (visits.drop (i + 1))[0]? = some w := by simp [hvisits]
      rw [List.getElem?_drop,Nat.add_zero,hv] at hhead
      exact (Option.some.inj hhead).symm
    have hlater : first = later := by
      have hhead : (stops.drop (i + 1))[0]? = some first := by simp [hstops]
      rw [List.getElem?_drop,Nat.add_zero,hnext] at hhead
      exact (Option.some.inj hhead).symm
    rw [← hw,← hlater]
    exact hfirst

theorem travel_keeps {P : EventTrigger → Prop} {Q : Stop → Prop}
    (hstep : ∀ v ∈ visits, ∀ {sent s}, v.stop parser (some sent) = .ok s → P sent → Q s ∧ P s.published)
    (h : travel parser (some sent) visits = .ok stops) (hsent : P sent) : ∀ s ∈ stops, Q s := by
  induction visits generalizing sent stops with
  | nil =>
    cases h
    simp
  | cons v visits ih =>
    obtain ⟨first,rest,rfl,hfirst,hrest⟩ := travel_cons h
    obtain ⟨hq,hp⟩ := hstep v List.mem_cons_self hfirst hsent
    intro s hs
    rcases List.mem_cons.mp hs with rfl | hs
    · exact hq
    · exact ih (fun w hw _ _ => hstep w (List.mem_cons_of_mem v hw)) hrest hp s hs

theorem travel_later {i j : Nat} {earlier later : Stop} (h : travel parser received visits = .ok stops) (hij : i < j)
    (hi : stops[i]? = some earlier) (hj : stops[j]? = some later) {P : EventTrigger → Prop} {Q : Stop → Prop}
    (hstep : ∀ v ∈ visits, ∀ {sent s}, v.stop parser (some sent) = .ok s → P sent → Q s ∧ P s.published)
    (hsent : P earlier.published) : Q later := by
  have hafter := (travel_from h hi).2
  have hlater : later ∈ stops.drop (i + 1) := by
    refine List.mem_iff_getElem?.mpr ⟨j - (i + 1),?_⟩
    rw [List.getElem?_drop,← hj]
    congr 1
    omega
  exact travel_keeps (fun w hw _ _ => hstep w (List.mem_of_mem_drop hw)) hafter hsent later hlater

theorem travel_relayed {n : Nat} {later : Stop} (h : travel parser (some sent) visits = .ok stops) (hn : stops[n]? = some later)
    (hrelays : ∀ k v, k ≤ n → visits[k]? = some v → v.relays = true) :
    ∃ accepted, later.accepted = some accepted ∧ sent.provenance <+: accepted.provenance ∧
      accepted.provenance <+: later.published.provenance := by
  induction visits generalizing sent stops n with
  | nil =>
    cases h
    simp at hn
  | cons v visits ih =>
    obtain ⟨first,rest,rfl,hfirst,hrest⟩ := travel_cons h
    obtain ⟨accepted,haccepted,hreceived,hpublished⟩ := stop_relayed hfirst (hrelays 0 v (Nat.zero_le n) rfl)
    cases n with
    | zero =>
      obtain rfl : first = later := by simpa using hn
      exact ⟨accepted,haccepted,hreceived,hpublished⟩
    | succ n =>
      have hup : sent.provenance <+: first.published.provenance := hreceived.trans hpublished
      obtain ⟨other,hother,hfrom,hto⟩ := ih hrest (by simpa using hn) fun k w hk hw => hrelays (k + 1) w (by omega) (by simpa using hw)
      exact ⟨other,hother,hup.trans hfrom,hto⟩

theorem taint_bit_survives {i j : Nat} {earlier later : Stop} (h : travel parser received visits = .ok stops) (hij : i < j)
    (hi : stops[i]? = some earlier) (hj : stops[j]? = some later) :
    (earlier.turn.tainted = true → later.turn.tainted = true) ∧
      ((∀ k v, i < k → k ≤ j → visits[k]? = some v → v.relays = true) →
        ∃ accepted, later.accepted = some accepted ∧ earlier.published.provenance <+: accepted.provenance ∧
          accepted.provenance <+: later.published.provenance) := by
  obtain ⟨⟨v,_,before,hstop⟩,hafter⟩ := travel_from h hi
  refine ⟨fun htainted => ?_,fun hrelays => ?_⟩
  · refine travel_later (P := fun e => e.tainted = true) (Q := fun s => s.turn.tainted = true) h hij hi hj (fun w _ sent s hw hsent => ?_) (stop_publishes_taint hstop htainted)
    have hturn := stop_receives_taint hw hsent
    exact ⟨hturn,stop_publishes_taint hw hturn⟩
  · have hindex : (stops.drop (i + 1))[j - (i + 1)]? = some later := by
      rw [List.getElem?_drop,← hj]
      congr 1
      omega
    refine travel_relayed hafter hindex fun k w hk hw => ?_
    rw [List.getElem?_drop] at hw
    exact hrelays (i + 1 + k) w (by omega) (by omega) hw

theorem condemned_source_survives {i j : Nat} {earlier later : Stop} (hlineage : ∀ v ∈ visits, v.CarriesLineage)
    (h : travel parser received visits = .ok stops) (hij : i < j) (hi : stops[i]? = some earlier) (hj : stops[j]? = some later)
    {source : String} (hsource : Condemned earlier.published source) : source ∈ later.turn.sources :=
  travel_later (P := fun e => Condemned e source) h hij hi hj
    (fun v hv _ _ hstop hsent => ⟨stop_receives_condemned hstop hsent,stop_passes_condemned hstop (hlineage v hv) hsent⟩) hsource

theorem stop_receives_named {v : Visit} {s : Stop} (h : v.stop parser (some sent) = .ok s) {source : String}
    (hsent : ∃ entry ∈ sent.provenance, entry.source = source) : source ∈ s.turn.sources ∨ v.receiverMap source = true := by
  obtain ⟨accepted,last,haccepted,hchain⟩ := stop_accepted h
  obtain ⟨entry,hentry,rfl⟩ := hsent
  cases hfloor : trustedByFloor v.receiverMap entry with
  | true => exact .inr (Bool.and_eq_true_iff.mp hfloor).2
  | false =>
    refine .inl ?_
    rw [(stop_ok h).2.1,haccepted]
    refine ingested_sources v.more ((ingestChain_sources accepted _ v.receiverMap _).mpr (.inr ⟨entry,?_,rfl,hfloor⟩))
    rw [hchain]
    exact List.mem_append_left _ hentry

theorem lineage_survives_relay {i : Nat} {earlier : Stop} {source : String} (hlineage : ∀ v ∈ visits, v.CarriesLineage)
    (h : travel parser received visits = .ok stops) (hi : stops[i]? = some earlier) (hsource : source ∈ earlier.turn.sources) :
    (∃ entry ∈ earlier.published.provenance, entry.source = source) ∧
      (Condemned earlier.published source ∨
        ∃ v inbound, visits[i]? = some v ∧ v.relays = true ∧ earlier.accepted = some inbound ∧
          (∃ entry ∈ inbound.provenance, entry.source = source) ∧
            ∀ entry ∈ inbound.provenance, entry.source = source → entry.label = .trusted) ∧
      (Condemned earlier.published source → ∀ j later, i < j → stops[j]? = some later → source ∈ later.turn.sources) ∧
      ∀ v later, visits[i + 1]? = some v → stops[i + 1]? = some later →
        source ∈ later.turn.sources ∨ v.receiverMap source = true := by
  obtain ⟨⟨v,hv,before,hstop⟩,hafter⟩ := travel_from h hi
  have hnames := stop_names_source hstop (hlineage v (List.mem_of_getElem? hv)) hsource
  have hnamed : ∃ entry ∈ earlier.published.provenance, entry.source = source := by
    rcases hnames with ⟨entry,hentry,hname,_⟩ | ⟨inbound,hrelays,hinbound,⟨entry,hentry,hname⟩,_⟩
    · exact ⟨entry,hentry,hname⟩
    · obtain ⟨_,_,originHops,hop,hout⟩ := stop_ok hstop
      refine ⟨entry,?_,hname⟩
      rw [hout.provenance,hrelays,if_pos rfl,hinbound,Publication.upstream,List.append_assoc]
      exact List.mem_append_left _ hentry
  refine ⟨hnamed,?_,fun hcondemned j later hij hj => condemned_source_survives hlineage h hij hi hj hcondemned,fun w later hw hlater => ?_⟩
  · rcases hnames with hcondemned | ⟨inbound,hrelays,hinbound,hthere,htrusted⟩
    · exact .inl hcondemned
    · exact .inr ⟨v,inbound,hv,hrelays,hinbound,hthere,htrusted⟩
  · exact stop_receives_named (travel_next h hi hlater hw) hnamed

end Paths

namespace ThreeZones

def parser : WireParser := ⟨fun _ => true,fun _ => true⟩

def zoneOf (zone agent next : String) (receiverMap : InputTrustMap) (more : List Ingestion) : Visit where
  sender := { channelType := "webhook", channelIdentity := agent }
  resolution := ⟨"desk",.peerAgent⟩
  stamp := ⟨zone,"channel:webhook",["token:pass"],"2026-03-01T00:00:00+00:00"⟩
  turnId := "turn-" ++ zone
  receiverMap
  more
  publication := {
    zone
    agentIdentity := agent
    channelType := "webhook"
    eventId := "ev-1"
    principal := "desk"
    audience := next
    payload := [("text",.str "rates moved")]
    ts := "2026-03-01T00:00:00+00:00"
    expiry := "2026-03-02T00:00:00+00:00" }
  relays := true
  ingestedSources turn := turn.toTaint.sources
  signer := none

def disagreeing : List Visit :=
  [zoneOf "a" "news" "b" (fun _ => true) [],zoneOf "b" "relay" "c" (fun source => source != "peer:news") [],
    zoneOf "c" "desk" "d" (fun _ => true) []]

def reading : List Visit :=
  [zoneOf "a" "news" "b" (fun _ => true) [.source "connector:mcp-news" fun _ => false],
    zoneOf "b" "desk" "c" (fun _ => true) []]

def turnOf (s : Stop) : List String × Bool := (s.turn.sources,s.turn.tainted)

def turnsOf (visits : List Visit) : Option (List (List String × Bool)) :=
  (travel parser none visits).toOption.map fun stops => stops.map turnOf

theorem disagreeing_turns : turnsOf disagreeing = some [([],false),(["peer:news"],true),(["peer:relay"],true)] := by decide +kernel

theorem reading_turns : turnsOf reading = some [(["connector:mcp-news"],true),(["connector:mcp-news","peer:news"],true)] := by
  decide +kernel

theorem stops_of {visits : List Visit} {turns : List (List String × Bool)} (h : turnsOf visits = some turns) :
    ∃ stops, travel parser none visits = .ok stops ∧ stops.map turnOf = turns := by
  unfold turnsOf at h
  cases htravel : travel parser none visits with
  | error e => simp [htravel,Except.toOption] at h
  | ok stops => exact ⟨stops,rfl,by simpa [htravel,Except.toOption] using h⟩

theorem stop_at {stops : List Stop} {turns : List (List String × Bool)} (h : stops.map turnOf = turns) {i : Nat}
    {sources : List String} {tainted : Bool} (hx : turns[i]? = some (sources,tainted)) :
    ∃ s, stops[i]? = some s ∧ s.turn.sources = sources ∧ s.turn.tainted = tainted := by
  rw [← h,List.getElem?_map] at hx
  obtain ⟨s,hs,hturn⟩ := Option.map_eq_some_iff.mp hx
  exact ⟨s,hs,Prod.mk.inj hturn⟩

theorem disagreeing_lineage : ∀ v ∈ disagreeing, v.CarriesLineage := by
  simp [disagreeing,zoneOf,Visit.CarriesLineage]

theorem reading_lineage : ∀ v ∈ reading, v.CarriesLineage := by
  simp [reading,zoneOf,Visit.CarriesLineage]

theorem trusted_source_lost :
    (∀ v ∈ disagreeing, v.CarriesLineage) ∧ ∃ stops sending receiving, travel parser none disagreeing = .ok stops ∧
      stops[1]? = some sending ∧ stops[2]? = some receiving ∧ "peer:news" ∈ sending.turn.sources ∧
        "peer:news" ∉ receiving.turn.sources := by
  obtain ⟨stops,htravel,hturns⟩ := stops_of disagreeing_turns
  obtain ⟨sending,hsending,hfrom,-⟩ := stop_at (i := 1) hturns rfl
  obtain ⟨receiving,hreceiving,hto,-⟩ := stop_at (i := 2) hturns rfl
  refine ⟨disagreeing_lineage,stops,sending,receiving,htravel,hsending,hreceiving,?_,?_⟩
  · rw [hfrom]
    decide
  · rw [hto]
    decide

theorem lineage_survives_relay_reading :
    ∃ stops sending receiving, travel parser none reading = .ok stops ∧ stops[0]? = some sending ∧ stops[1]? = some receiving ∧
      "connector:mcp-news" ∈ sending.turn.sources ∧ "connector:mcp-news" ∈ receiving.turn.sources := by
  obtain ⟨stops,htravel,hturns⟩ := stops_of reading_turns
  obtain ⟨sending,hsending,hfrom,-⟩ := stop_at (i := 0) hturns rfl
  obtain ⟨receiving,hreceiving,-⟩ := stop_at (i := 1) hturns rfl
  have hsource : "connector:mcp-news" ∈ sending.turn.sources := by
    rw [hfrom]
    decide
  obtain ⟨_,hcondemned,hlater,_⟩ := lineage_survives_relay reading_lineage htravel hsending hsource
  refine ⟨stops,sending,receiving,htravel,hsending,hreceiving,hsource,hlater ?_ 1 receiving (by decide) hreceiving⟩
  rcases hcondemned with hcondemned | ⟨v,inbound,_,_,hinbound,_⟩
  · exact hcondemned
  · obtain ⟨first,rest,rfl,hfirst,_⟩ := travel_cons htravel
    obtain rfl : first = sending := by simpa using hsending
    have haccepted : none = first.accepted := Except.ok.inj (stop_ok hfirst).1
    cases haccepted.trans hinbound

theorem taint_bit_survives_reading :
    ∃ stops sending receiving, travel parser none reading = .ok stops ∧ stops[0]? = some sending ∧ stops[1]? = some receiving ∧
      sending.turn.tainted = true ∧ receiving.turn.tainted = true ∧
        sending.published.provenance <+: receiving.published.provenance := by
  obtain ⟨stops,htravel,hturns⟩ := stops_of reading_turns
  obtain ⟨sending,hsending,-,htainted⟩ := stop_at (i := 0) hturns rfl
  obtain ⟨receiving,hreceiving,-⟩ := stop_at (i := 1) hturns rfl
  obtain ⟨htaint,hgrows⟩ := taint_bit_survives htravel Nat.zero_lt_one hsending hreceiving
  obtain ⟨_,_,hfrom,hto⟩ := hgrows fun k v _ _ hv => by
    have hmem : v ∈ reading := List.mem_of_getElem? hv
    simp only [reading,List.mem_cons,List.not_mem_nil,or_false] at hmem
    rcases hmem with rfl | rfl <;> rfl
  exact ⟨stops,sending,receiving,htravel,hsending,hreceiving,htainted,htaint htainted,hfrom.trans hto⟩

end ThreeZones

end SafeAgents.Channels
