import SafeAgents.Channels.TrustMap

namespace SafeAgents.Channels

open Checked

structure Publication where
  zone : String
  agentIdentity : String
  channelType : String
  eventId : String
  principal : String
  audience : String
  payload : List (String × Json)
  ts : String
  expiry : String
  channelIdentity : Option String := none
  evidence : List String := []
  payloadDigest : Option String := none
  payloadRef : Option String := none

abbrev Signer := EventTrigger → Except ChannelError ChainSignature

namespace Publication

def upstream : Option EventTrigger → List ProvenanceEntry
  | none => []
  | some inbound => inbound.provenance

def newSources (inbound : Option EventTrigger) (ingestedSources : List String) : List String :=
  ingestedSources.filter fun source => !((upstream inbound).map ProvenanceEntry.source).contains source

def originHop (p : Publication) (source : String) : Except ChannelError ProvenanceEntry :=
  ProvenanceEntry.make p.zone source [] .untrusted p.ts

def sendingHop (p : Publication) (turnTainted : Bool) : Except ChannelError ProvenanceEntry :=
  ProvenanceEntry.make p.zone ("peer:" ++ p.agentIdentity) p.evidence (if turnTainted then .untrusted else .trusted) p.ts

def sender (p : Publication) : SenderIdentity where
  channelType := p.channelType
  channelIdentity := match p.channelIdentity with
    | some identity => if identity = "" then p.agentIdentity else identity
    | none => p.agentIdentity
  evidence := p.evidence

def draft (p : Publication) (provenance : List ProvenanceEntry) : Draft where
  eventId := p.eventId
  principal := p.principal
  audience := p.audience
  sender := p.sender
  payload := p.payload
  payloadDigest := p.payloadDigest
  payloadRef := p.payloadRef
  provenance := provenance
  ts := p.ts
  expiry := p.expiry

end Publication

def signed (signer : Option Signer) (envelope : EventTrigger) : Except ChannelError EventTrigger :=
  match signer with
  | none => .ok envelope
  | some sign => do
    let signature ← sign envelope
    return envelope.withSignature signature

def stampOutbound (parser : WireParser) (p : Publication) (turnTainted : Bool) (inbound : Option EventTrigger)
    (ingestedSources : List String) (signer : Option Signer) : Except ChannelError EventTrigger := do
  let originHops ← (Publication.newSources inbound ingestedSources).mapM p.originHop
  let hop ← p.sendingHop turnTainted
  let envelope ← (p.draft (Publication.upstream inbound ++ originHops ++ [hop])).validated
  let envelope ← signed signer envelope
  let _ ← envelope.toWire parser (some maxEnvelopeBytes)
  return envelope

theorem Draft.validated_ok {d : Draft} {e : EventTrigger} (h : d.validated = .ok e) : e.toDraft = d := by
  unfold Draft.validated at h
  split at h
  · cases h
    rfl
  · cases h

theorem signed_ok {signer : Option Signer} {envelope sent : EventTrigger} (h : signed signer envelope = .ok sent) :
    sent = envelope ∨ ∃ sign signature, signer = some sign ∧ sign envelope = .ok signature ∧ sent = envelope.withSignature signature := by
  cases signer with
  | none =>
    cases h
    exact .inl rfl
  | some sign =>
    obtain ⟨signature,hsign,h⟩ := bind_ok.mp h
    exact .inr ⟨sign,signature,rfl,hsign,(pure_ok.mp h).symm⟩

theorem signed_provenance {signer : Option Signer} {envelope sent : EventTrigger} (h : signed signer envelope = .ok sent) :
    sent.provenance = envelope.provenance := by
  rcases signed_ok h with rfl | ⟨_,signature,_,_,rfl⟩
  · rfl
  · rfl

structure Outbound (p : Publication) (turnTainted : Bool) (inbound : Option EventTrigger) (ingestedSources : List String)
    (sent : EventTrigger) (originHops : List ProvenanceEntry) (hop : ProvenanceEntry) : Prop where
  provenance : sent.provenance = Publication.upstream inbound ++ originHops ++ [hop]
  origins : originHops.map ProvenanceEntry.source = Publication.newSources inbound ingestedSources
  untrusted : ∀ entry ∈ originHops, entry.label = .untrusted
  source : hop.source = "peer:" ++ p.agentIdentity
  label : hop.label = if turnTainted then .untrusted else .trusted

theorem stampOutbound_ok {parser : WireParser} {p : Publication} {turnTainted : Bool} {inbound : Option EventTrigger}
    {ingestedSources : List String} {signer : Option Signer} {sent : EventTrigger}
    (h : stampOutbound parser p turnTainted inbound ingestedSources signer = .ok sent) :
    ∃ originHops hop, Outbound p turnTainted inbound ingestedSources sent originHops hop := by
  obtain ⟨originHops,horigins,h⟩ := bind_ok.mp h
  obtain ⟨hop,hhop,h⟩ := bind_ok.mp h
  obtain ⟨envelope,henvelope,h⟩ := bind_ok.mp h
  obtain ⟨final,hfinal,h⟩ := bind_ok.mp h
  obtain ⟨_,_,h⟩ := bind_ok.mp h
  obtain rfl := pure_ok.mp h
  have hmade := map_of_mapM_ok horigins
  have hchain : envelope.provenance = Publication.upstream inbound ++ originHops ++ [hop] := by
    rw [Draft.validated_ok henvelope]
    rfl
  obtain ⟨_,hsource,_,hlabel,_⟩ := ProvenanceEntry.make_ok hhop
  refine ⟨originHops,hop,?_,?_,?_,hsource,hlabel⟩
  · rw [signed_provenance hfinal,hchain]
  · refine (map_of_mapM hmade ?_).trans (List.map_id _)
    intro source _ entry hentry
    exact (ProvenanceEntry.make_ok hentry).2.1
  · intro entry hentry
    obtain ⟨source,_,hmake⟩ := (mem_of_mapM hmade).mp hentry
    exact (ProvenanceEntry.make_ok hmake).2.2.2.1

end SafeAgents.Channels
